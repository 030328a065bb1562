import Rehearsal.Proofs.Action.Parts
import Rehearsal.Proofs.Action.Shapes

/-!
# Which of the first shapes decides a line

Three shapes are looked for from the start of a line or at its first `=`, and each is told by how
the line is made up. A definition opens with `def`, blanks, a word and a bracket (`Opening`), and
somewhere after that there is `):`. A return is the keyword with nothing or a blank after it
(`Returned`). An assignment has a `=`. The first of them that there is decides
(`first_shapes_decide`), so a `=` among parameters makes no assignment, and `returned = 1` is no
return.

Each line is made up like that in one way only. The blanks and the word of an opening are runs of
two classes of characters that are apart, and a mark has one first occurrence.
-/

namespace Rehearsal.Action

open Rehearsal.Text

variable {line blanks name rest blanks' name' rest' : List Char} {k : Kind}

/-! ## Openings of definitions -/

/-- **The opening of a definition**: `def`, blanks, a word and a bracket, and the rest of a line. -/
structure Opening (line blanks name rest : List Char) : Prop where
  split : line = "def".toList ++ blanks ++ name ++ '(' :: rest
  blanks_ne_nil : blanks ≠ []
  blank : ∀ c ∈ blanks, isBlank c = true
  name_ne_nil : name ≠ []
  word : ∀ c ∈ name, isWord c = true

/-- An opening is a header, of which the blanks are known. -/
theorem header_iff_exists_opening :
    Header line name rest ↔ ∃ blanks, Opening line blanks name rest := by
  constructor
  · rintro ⟨⟨blanks, hne, hblank, hline⟩, hname, hword⟩
    exact ⟨blanks, hline, hne, hblank, hname, hword⟩
  · rintro ⟨blanks, hline, hne, hblank, hname, hword⟩
    exact ⟨⟨blanks, hne, hblank, hline⟩, hname, hword⟩

/-- **A line opens in one way.** -/
theorem Opening.unique (h : Opening line blanks name rest) (h' : Opening line blanks' name' rest') :
    blanks' = blanks ∧ name' = name ∧ rest' = rest := by
  obtain ⟨n, more, rfl⟩ := List.exists_cons_of_ne_nil h.name_ne_nil
  obtain ⟨n', more', rfl⟩ := List.exists_cons_of_ne_nil h'.name_ne_nil
  have hline := h.split.symm.trans h'.split
  simp only [List.append_assoc, List.append_cancel_left_eq, List.cons_append] at hline
  -- the blanks end where the word begins, and the word ends at the bracket
  obtain ⟨hblanks, hname⟩ := run_unique
    h.blank (not_isBlank_of_isWord (h.word n List.mem_cons_self))
    h'.blank (not_isBlank_of_isWord (h'.word n' List.mem_cons_self)) hline
  obtain ⟨hname, hrest⟩ := run_unique h.word (by decide : isWord '(' = false) h'.word
    (by decide : isWord '(' = false) hname.symm
  exact ⟨hblanks, hname, (List.cons.inj hrest).2⟩

/-! ## Returns -/

/-- **A return**: the keyword, and the rest of the line, which is nothing or begins with a blank. -/
structure Returned (line rest : List Char) : Prop where
  split : line = "return".toList ++ rest
  blank : ∀ c ∈ rest.head?, isBlank c = true

theorem Returned.unique (h : Returned line rest) (h' : Returned line rest') : rest' = rest :=
  List.append_cancel_left (h'.split.symm.trans h.split)

/-- What begins with the keyword of returns opens no definition. -/
theorem Returned.definition?_eq_none (h : Returned line rest) : definition? line = none := by
  rw [h.split]
  rfl

/-- **A return fits its shape**, with the trimmed rest as the value. -/
theorem Returned.returning? (h : Returned line rest) (hbreak : '\n' ∉ line) :
    returning? line = some (.returning (String.ofList (trim rest))) := by
  obtain ⟨rfl, hblank⟩ := h
  refine returning?_eq_some_iff.mpr ?_
  cases rest with
  | nil => exact Or.inl ⟨by simp, rfl⟩
  | cons c rest =>
    have hc : isBlank c = true := hblank c rfl
    have htrim : trim (c :: rest) = trim rest :=
      trim_blanks_append (List.forall_mem_singleton.mpr hc) rest
    refine Or.inr ⟨c, rest, hc, rfl, fun hmem => hbreak ?_, by rw [htrim]⟩
    simp [(List.dropWhile_suffix _).mem hmem]

/-- Nothing else fits the shape of returns. -/
theorem exists_returned (h : returning? line = some k) : ∃ rest, Returned line rest := by
  rcases returning?_eq_some_iff.mp h with ⟨rfl, -⟩ | ⟨c, rest, hc, rfl, -, -⟩
  · exact ⟨[], by simp, by simp⟩
  · exact ⟨c :: rest, rfl, fun d hd => Option.some.inj hd ▸ hc⟩

/-! ## Definitions -/

/-- **A line that defines**: it opens a definition, and its parameters end. -/
def Defines (line : List Char) : Prop :=
  ∃ blanks name rest, Opening line blanks name rest ∧ [')', ':'] <:+: rest

theorem definition?_eq_none_iff_not_defines (hbreak : '\n' ∉ line) :
    definition? line = none ↔ ¬Defines line := by
  rw [definition?_eq_none_iff_of_unbroken hbreak]
  constructor
  · rintro hnone ⟨blanks, name, rest, hopening, hends⟩
    exact hnone name rest (header_iff_exists_opening.mpr ⟨blanks, hopening⟩) hends
  · intro hdefines name rest hheader hends
    obtain ⟨blanks, hopening⟩ := header_iff_exists_opening.mp hheader
    exact hdefines ⟨blanks, name, rest, hopening, hends⟩

/-- **A line that defines fits its shape**, with the parameters before the first mark that ends
them. -/
theorem Opening.definition? {params after : List Char} (h : Opening line blanks name rest)
    (hbreak : '\n' ∉ line) (hparams : FirstAt [')', ':'] rest params after) :
    definition? line
      = some (.definition (String.ofList name) ((commaPieces params).filter (· ≠ ""))) := by
  have hbreak' : '\n' ∉ params := fun hmem => hbreak (by simp [h.split, hparams.split, hmem])
  have hbefore : beforeInLine [')', ':'] rest = some params := by
    rw [beforeInLine, hparams.cut_eq]
    exact if_neg hbreak'
  have hheader := header_iff_exists_opening.mpr ⟨blanks, h⟩
  rw [hheader.definition?, hbefore, Option.map_some]

/-! ## The order of the shapes -/

section

variable {line : String} {blanks name rest : List Char} (hbreak : '\n' ∉ line.toList)
include hbreak

/-- A line that asks to define has an opening and an end of the parameters. -/
theorem defines_of_kind {name : String} {params : List String}
    (h : (classify line).kind = .definition name params) : Defines line.toList := by
  by_contra hdefines
  have hnone := (definition?_eq_none_iff_not_defines hbreak).mpr hdefines
  rw [definition?_of_kindOf h] at hnone
  cases hnone

/-- **What a line that defines asks for.** -/
theorem classify_of_opening (h : Opening line.toList blanks name rest)
    (hends : [')', ':'] <:+: rest) :
    ∃ params after, FirstAt [')', ':'] rest params after
      ∧ classify line = ⟨.definition (String.ofList name)
          (((params.splitOn ',').map fun piece => trimmed (String.ofList piece)).filter (· ≠ "")),
          .python⟩ := by
  obtain ⟨params, after, hparams⟩ := exists_firstAt hends
  refine ⟨params, after, hparams, ?_⟩
  rw [← commaPieces_eq]
  exact classify_eq_of_kind (Fits.definition (h.definition? hbreak hparams)).kindOf_eq

/-- **What a return asks for.** -/
theorem classify_of_returned (h : Returned line.toList rest) :
    classify line = ⟨.returning (trimmed (String.ofList rest)), .python⟩ := by
  rw [trimmed_ofList]
  exact classify_eq_of_kind (Fits.returning h.definition?_eq_none (h.returning? hbreak)).kindOf_eq

/-- **What a line with a `=` asks for**, if it is nothing before that. -/
theorem classify_of_mem (hdefines : ¬Defines line.toList)
    (hreturned : ¬∃ rest, Returned line.toList rest) (h : '=' ∈ line.toList) :
    ∃ before after, FirstAt ['='] line.toList before after
      ∧ classify line = ⟨.assignment (trimmed (String.ofList before))
          (trimmed (String.ofList after)), .python⟩ := by
  have hdefinition := (definition?_eq_none_iff_not_defines hbreak).mpr hdefines
  have hreturning : returning? line.toList = none :=
    Option.eq_none_iff_forall_ne_some.mpr fun k hk => hreturned (exists_returned hk)
  obtain ⟨before, after, hfirst⟩ := exists_firstAt ((List.singleton_infix_iff _ _).mpr h)
  have hassignment : assignment? line.toList
      = some (.assignment (String.ofList (trim before)) (String.ofList (trim after))) := by
    rw [assignment?, hfirst.cut_eq, Option.map_some]
  refine ⟨before, after, hfirst, ?_⟩
  rw [trimmed_ofList, trimmed_ofList]
  exact classify_eq_of_kind (Fits.assignment hdefinition hreturning hassignment).kindOf_eq

end

/-- **The first of three shapes decides a line.** Take any line without a break. It is a definition
if and only if it opens one, with `def`, blanks, a word and a bracket, and `):` follows. The word is
then the name, and the parameters are the pieces between the commas before the first `):`, each
trimmed, in their order, the empty ones dropped. If it does not define, it is a return if and only
if it is the keyword with nothing or a blank after it, and the value is the trimmed rest. If it is
neither, it is an assignment if and only if it has a `=`, and target and value are what stands
before the first one and after it, trimmed. All three are in the same language. And a line is made
up in one way: its opening, the rest after a keyword and the first of its marks are told by the
line. -/
theorem first_shapes_decide (line : String) (hbreak : '\n' ∉ line.toList) :
    ((∃ name params, (classify line).kind = .definition name params) ↔ Defines line.toList)
      ∧ (∀ blanks name rest, Opening line.toList blanks name rest → [')', ':'] <:+: rest →
          ∃ params after, FirstAt [')', ':'] rest params after
            ∧ classify line = ⟨.definition (String.ofList name)
                (((params.splitOn ',').map fun piece => trimmed (String.ofList piece)).filter
                  (· ≠ "")), .python⟩)
      ∧ (¬Defines line.toList →
          ((∃ value, (classify line).kind = .returning value) ↔ ∃ rest, Returned line.toList rest))
      ∧ (∀ rest, Returned line.toList rest →
          classify line = ⟨.returning (trimmed (String.ofList rest)), .python⟩)
      ∧ (¬Defines line.toList → (¬∃ rest, Returned line.toList rest) →
          ((∃ target value, (classify line).kind = .assignment target value) ↔ '=' ∈ line.toList)
            ∧ ('=' ∈ line.toList → ∃ before after, FirstAt ['='] line.toList before after
              ∧ classify line = ⟨.assignment (trimmed (String.ofList before))
                  (trimmed (String.ofList after)), .python⟩))
      ∧ (∀ blanks name rest blanks' name' rest', Opening line.toList blanks name rest →
          Opening line.toList blanks' name' rest' → blanks' = blanks ∧ name' = name ∧ rest' = rest)
      ∧ (∀ rest rest', Returned line.toList rest → Returned line.toList rest' → rest' = rest)
      ∧ ∀ mark cs before after before' after', FirstAt mark cs before after →
          FirstAt mark cs before' after' → before' = before ∧ after' = after := by
  refine ⟨⟨fun ⟨_, _, hkind⟩ => defines_of_kind hbreak hkind, ?_⟩,
    fun _ _ _ hopening hends => classify_of_opening hbreak hopening hends,
    fun hdefines => ⟨fun ⟨value, hkind⟩ => ?_, fun ⟨rest, hrest⟩ => ?_⟩,
    fun _ hrest => classify_of_returned hbreak hrest,
    fun hdefines hreturned => ⟨⟨fun ⟨target, value, hkind⟩ => ?_, fun hassign => ?_⟩,
      classify_of_mem hbreak hdefines hreturned⟩,
    fun _ _ _ _ _ _ h h' => h.unique h', fun _ _ h h' => h.unique h',
    fun _ _ _ _ _ _ h h' => h.unique h'⟩
  · rintro ⟨blanks, name, rest, hopening, hends⟩
    obtain ⟨params, after, -, hline⟩ := classify_of_opening hbreak hopening hends
    exact ⟨_, _, congrArg Action.kind hline⟩
  · exact exists_returned (returning?_of_kindOf hkind)
  · exact ⟨_, congrArg Action.kind (classify_of_returned hbreak hrest)⟩
  · by_contra hassign
    have hnone := assignment?_eq_none_iff.mpr hassign
    rw [assignment?_of_kindOf hkind] at hnone
    cases hnone
  · obtain ⟨before, after, -, hline⟩ := classify_of_mem hbreak hdefines hreturned hassign
    exact ⟨_, _, congrArg Action.kind hline⟩

/-- A definition with a `=` and brackets among its parameters, a return of what looks like a
definition, and an assignment to a name that begins with the keyword of returns. -/
theorem first_shapes_decide_each :
    classify "def  é1(a = 1, , (b)):x):" = ⟨.definition "é1" ["a = 1", "(b)"], .python⟩
      ∧ classify "return\u3000def f(x): = 1" = ⟨.returning "def f(x): = 1", .python⟩
      ∧ classify "returned = def f(x):" = ⟨.assignment "returned" "def f(x):", .python⟩ := by
  refine ⟨?_, ?_, ?_⟩
  · obtain ⟨-, hdefines, -, -, -, -, -, hunique⟩ :=
      first_shapes_decide "def  é1(a = 1, , (b)):x):" (by decide)
    have hopening : Opening "def  é1(a = 1, , (b)):x):".toList "  ".toList "é1".toList
        "a = 1, , (b)):x):".toList :=
      ⟨by decide, by decide, List.all_eq_true.mp (by decide), by decide,
        List.all_eq_true.mp (by decide +kernel)⟩
    obtain ⟨params, after, hparams, hline⟩ :=
      hdefines _ _ _ hopening ⟨"a = 1, , (b)".toList, _, rfl⟩
    have hfirst : FirstAt [')', ':'] "a = 1, , (b)):x):".toList "a = 1, , (b)".toList
        "x):".toList := firstAt_of_cut (by decide)
    obtain ⟨rfl, -⟩ := hunique _ _ _ _ _ _ hfirst hparams
    exact hline.trans (by decide +kernel)
  · obtain ⟨-, -, -, hreturns, -⟩ := first_shapes_decide "return\u3000def f(x): = 1" (by decide)
    have hreturned : Returned "return\u3000def f(x): = 1".toList "\u3000def f(x): = 1".toList := by
      refine ⟨by decide, fun c hc => ?_⟩
      obtain rfl : '\u3000' = c := Option.some.inj hc
      decide
    exact (hreturns _ hreturned).trans (by decide +kernel)
  · obtain ⟨-, -, -, -, hassigns, -, -, hunique⟩ :=
      first_shapes_decide "returned = def f(x):" (by decide)
    have hdefinition : definition? "returned = def f(x):".toList = none := by decide +kernel
    have hreturning : returning? "returned = def f(x):".toList = none := by decide +kernel
    have hbreak : '\n' ∉ "returned = def f(x):".toList := by decide
    have hreturned : ¬∃ rest, Returned "returned = def f(x):".toList rest := by
      rintro ⟨rest, h⟩
      rw [h.returning? hbreak] at hreturning
      cases hreturning
    have hdefines := (definition?_eq_none_iff_not_defines hbreak).mp hdefinition
    obtain ⟨before, after, hassign, hline⟩ := (hassigns hdefines hreturned).2 (by decide)
    have hfirst : FirstAt ['='] "returned = def f(x):".toList "returned ".toList
        " def f(x):".toList := firstAt_of_cut (by decide)
    obtain ⟨rfl, rfl⟩ := hunique _ _ _ _ _ _ hfirst hassign
    exact hline.trans (by decide +kernel)

end Rehearsal.Action
