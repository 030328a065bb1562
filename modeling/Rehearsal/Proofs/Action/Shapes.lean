import Rehearsal.Action.Classify
import Rehearsal.Proofs.Text.Classes
import Rehearsal.Proofs.Text.Pieces
import Rehearsal.Proofs.Text.Trimming

/-!
# The shapes of lines

A recogniser takes characters one after the other. What it recognises is said here by **how the
line is made up**: a line is a definition, a return or an assignment exactly when it is certain
pieces put together (`definition?_eq_some_iff`, `returning?_eq_some_iff`,
`assignment?_eq_some_iff`), and then the pieces are the parts of what it asks for. Nothing else of
the recognisers is used after this.

A call is found by a search, and the search is followed by the name that it holds. Up to the first
bracket after a name only the name changes (`callAfter_append_of_unnamed`), and over the characters
of a name it is what is left of them from the first that a name can begin with (`foldl_nameAfter`).

The shapes are tried in order, and `Fits` says which of them decided; what is not said of the
earlier shapes, that they do not fit, is most of what there is to prove of a line.
-/

namespace Rehearsal.Action

open Rehearsal.Text

variable {line rest name body cs target args : List Char} {c : Char} {k : Kind}

/-- **A line as snippets are made of**: without blanks at its ends, and without a line break. -/
structure IsLine (line : List Char) : Prop where
  trimmed : trim line = line
  unbroken : '\n' ∉ line

/-! ## Keywords -/

theorem afterKeyword_eq_some_iff {keyword : List Char} :
    afterKeyword keyword cs = some rest
      ↔ ∃ c rest', isBlank c = true ∧ rest = c :: rest' ∧ cs = keyword ++ c :: rest' := by
  unfold afterKeyword
  constructor
  · intro h
    split at h
    · next hprefix =>
      obtain ⟨after, rfl⟩ := List.isPrefixOf_iff_prefix.mp hprefix
      rw [List.drop_left] at h
      split at h
      · split at h
        · next c after hc => exact ⟨c, after, hc, (Option.some.inj h).symm, rfl⟩
        · cases h
      · cases h
    · cases h
  · rintro ⟨c, rest', hc, rfl, rfl⟩
    rw [if_pos (List.isPrefixOf_iff_prefix.mpr (List.prefix_append keyword _)), List.drop_left]
    exact if_pos hc

/-! ## Definitions -/

/-- **The header of a definition**: `def`, blanks and a word, up to a bracket. -/
structure Header (line name body : List Char) : Prop where
  split : ∃ blanks, blanks ≠ [] ∧ (∀ c ∈ blanks, isBlank c = true)
    ∧ line = "def".toList ++ blanks ++ name ++ '(' :: body
  name_ne_nil : name ≠ []
  word : ∀ c ∈ name, isWord c = true

/-- **After its header a definition is decided by its parameters.** -/
theorem Header.definition? (h : Header line name body) :
    definition? line = (beforeInLine [')', ':'] body).map fun params =>
      .definition (String.ofList name) ((commaPieces params).filter (· ≠ "")) := by
  obtain ⟨⟨blanks, hne, hblanks, rfl⟩, hname, hword⟩ := h
  obtain ⟨b, blanks, rfl⟩ := List.exists_cons_of_ne_nil hne
  obtain ⟨n, name, rfl⟩ := List.exists_cons_of_ne_nil hname
  have hafter : afterKeyword "def".toList ("def".toList ++ (b :: blanks) ++ (n :: name) ++ '(' :: body)
      = some ((b :: blanks) ++ (n :: name ++ '(' :: body)) := by
    refine afterKeyword_eq_some_iff.mpr ⟨b, blanks ++ (n :: name ++ '(' :: body), ?_, rfl, ?_⟩
    · exact hblanks b List.mem_cons_self
    · simp
  have hstart : trimStart ((b :: blanks) ++ (n :: name ++ '(' :: body)) = n :: name ++ '(' :: body := by
    rw [trimStart_blanks_append hblanks]
    exact trimStart_cons_of_not_blank (not_isBlank_of_isWord (hword n List.mem_cons_self)) _
  have hbracket : isWord '(' = false := by decide
  have htake : (n :: name ++ '(' :: body).takeWhile isWord = n :: name := by
    rw [List.takeWhile_append_of_pos hword, List.takeWhile_cons_of_neg (by simp [hbracket]),
      List.append_nil]
  have hdrop : (n :: name ++ '(' :: body).dropWhile isWord = '(' :: body := by
    rw [List.dropWhile_append_of_pos hword, List.dropWhile_cons_of_neg (by simp [hbracket])]
  rw [Action.definition?, hafter, Option.bind_some]
  dsimp only
  rw [hstart, htake, hdrop]
  rfl

/-- **Which lines are definitions**: those with a header and a list of parameters that ends. -/
theorem definition?_eq_some_iff :
    definition? line = some k
      ↔ ∃ name body params, Header line name body ∧ beforeInLine [')', ':'] body = some params
        ∧ k = .definition (String.ofList name) ((commaPieces params).filter (· ≠ "")) := by
  constructor
  · intro h
    obtain ⟨rest, hafter, hrest⟩ := Option.bind_eq_some_iff.mp h
    obtain ⟨b, after, hb, rfl, rfl⟩ := afterKeyword_eq_some_iff.mp hafter
    dsimp only at hrest
    split at hrest
    · next n name body htake hdrop =>
      obtain ⟨params, hparams, rfl⟩ := Option.map_eq_some_iff.mp hrest
      refine ⟨n :: name, body, params, ⟨⟨(b :: after).takeWhile isBlank, ?_, ?_, ?_⟩, ?_, ?_⟩,
        hparams, by rw [htake]⟩
      · rw [List.takeWhile_cons_of_pos hb]
        simp
      · exact fun _ hc => List.mem_takeWhile_imp hc
      · rw [List.append_assoc, List.append_assoc, ← hdrop, ← htake,
          List.takeWhile_append_dropWhile]
        exact congrArg _ List.takeWhile_append_dropWhile.symm
      · simp
      · exact fun _ hc => List.mem_takeWhile_imp (htake ▸ hc)
    · cases hrest
  · rintro ⟨name, body, params, hheader, hparams, rfl⟩
    rw [hheader.definition?, hparams, Option.map_some]

/-- In a line without a break, parameters end at any bracket before a colon. -/
theorem definition?_eq_none_iff_of_unbroken (h : '\n' ∉ line) :
    definition? line = none ↔ ∀ name body, Header line name body → ¬[')', ':'] <:+: body := by
  have hbody : ∀ {name body}, Header line name body →
      (definition? line = none ↔ ¬[')', ':'] <:+: body) := by
    intro name body hheader
    rw [hheader.definition?, Option.map_eq_none_iff]
    obtain ⟨blanks, -, -, hline⟩ := hheader.split
    have hbreak : '\n' ∉ body := fun hmem => h (by simp [hline, hmem])
    rw [← cut_eq_none_iff, beforeInLine]
    split
    · next before after hcut =>
      have hbefore : '\n' ∉ before := fun hmem => hbreak (by
        rw [← append_of_cut hcut]
        simp [hmem])
      simp [hcut, hbefore]
    · next hcut => simp [hcut]
  constructor
  · exact fun hnone name body hheader => (hbody hheader).mp hnone
  · intro hnone
    cases hd : definition? line with
    | none => rfl
    | some k =>
      obtain ⟨name, body, params, hheader, -, -⟩ := definition?_eq_some_iff.mp hd
      rw [← hd]
      exact (hbody hheader).mpr (hnone name body hheader)

/-! ## Returns -/

/-- **Which lines are returns**: the keyword alone, or with a value after blanks. -/
theorem returning?_eq_some_iff :
    returning? line = some k
      ↔ line = "return".toList ∧ k = .returning ""
        ∨ ∃ c rest, isBlank c = true ∧ line = "return".toList ++ c :: rest
          ∧ '\n' ∉ trimStart rest ∧ k = .returning (String.ofList (trim rest)) := by
  have halone : ∀ (c : Char) (rest : List Char), "return".toList ++ c :: rest ≠ "return".toList := by
    intro c rest h
    simpa using congrArg List.length h
  unfold returning?
  constructor
  · intro h
    split at h
    · next hline => exact Or.inl ⟨hline, (Option.some.inj h).symm⟩
    · obtain ⟨rest, hafter, hrest⟩ := Option.bind_eq_some_iff.mp h
      obtain ⟨c, after, hc, rfl, rfl⟩ := afterKeyword_eq_some_iff.mp hafter
      dsimp only at hrest
      rw [trimStart_cons_of_blank hc, trim_trimStart] at hrest
      split at hrest
      · cases hrest
      · next hbreak => exact Or.inr ⟨c, after, hc, rfl, hbreak, (Option.some.inj hrest).symm⟩
  · rintro (⟨rfl, rfl⟩ | ⟨c, after, hc, rfl, hbreak, rfl⟩)
    · exact if_pos rfl
    · rw [if_neg (halone c after), afterKeyword_eq_some_iff.mpr ⟨c, after, hc, rfl, rfl⟩]
      simp only [Option.bind_some]
      rw [trimStart_cons_of_blank hc, trim_trimStart, if_neg hbreak]

/-- In a line without a break, the keyword makes a return unless something else follows it. -/
theorem returning?_eq_none_iff_of_unbroken (h : '\n' ∉ line) :
    returning? line = none
      ↔ line ≠ "return".toList
        ∧ ∀ c rest, isBlank c = true → line ≠ "return".toList ++ c :: rest := by
  constructor
  · intro hnone
    refine ⟨fun hline => ?_, fun c rest hc hline => ?_⟩
    · rw [returning?_eq_some_iff.mpr (Or.inl ⟨hline, rfl⟩)] at hnone
      cases hnone
    · have hbreak : '\n' ∉ trimStart rest := fun hmem =>
        h (by simp [hline, (List.dropWhile_suffix _).mem hmem])
      rw [returning?_eq_some_iff.mpr (Or.inr ⟨c, rest, hc, hline, hbreak, rfl⟩)] at hnone
      cases hnone
  · rintro ⟨hword, hblank⟩
    cases hr : returning? line with
    | none => rfl
    | some k =>
      rcases returning?_eq_some_iff.mp hr with ⟨hline, -⟩ | ⟨c, rest, hc, hline, -, -⟩
      · exact absurd hline hword
      · exact absurd hline (hblank c rest hc)

/-! ## Assignments -/

/-- **Which lines are assignments**: those with a `=`, and the first one divides them. -/
theorem assignment?_eq_some_iff :
    assignment? line = some k
      ↔ ∃ before after, line = before ++ '=' :: after ∧ '=' ∉ before
        ∧ k = .assignment (String.ofList (trim before)) (String.ofList (trim after)) := by
  unfold assignment?
  rw [Option.map_eq_some_iff]
  constructor
  · rintro ⟨⟨before, after⟩, hcut, rfl⟩
    obtain ⟨hline, hbefore⟩ := cut_singleton_eq_some_iff.mp hcut
    exact ⟨before, after, hline, hbefore, rfl⟩
  · rintro ⟨before, after, hline, hbefore, rfl⟩
    exact ⟨(before, after), cut_singleton_eq_some_iff.mpr ⟨hline, hbefore⟩, rfl⟩

theorem assignment?_eq_none_iff : assignment? line = none ↔ '=' ∉ line := by
  rw [assignment?, Option.map_eq_none_iff, cut_eq_none_iff, List.singleton_infix_iff]

/-! ## Calls -/

/-- **A name that a call can have**: name characters, the first of which can begin a name. -/
structure IsTarget (target : List Char) : Prop where
  start : ∃ c ∈ target.head?, isNameStart c = true
  chars : ∀ c ∈ target, isNameChar c = true

/-- **Without a bracket after a name** the search only goes on with the name it holds. -/
theorem callAfter_append_of_unnamed
    (h : ∀ before after, cs = before ++ '(' :: after → before.foldl nameAfter name = [])
    (rest : List Char) : callAfter name (cs ++ rest) = callAfter (cs.foldl nameAfter name) rest := by
  induction cs generalizing name with
  | nil => rfl
  | cons c cs ih =>
    have hgoes : ¬(c = '(' ∧ name ≠ []) := fun ⟨hc, hname⟩ => hname (h [] cs (by rw [hc]; rfl))
    have hcs : ∀ before after, cs = before ++ '(' :: after →
        before.foldl nameAfter (nameAfter name c) = [] := by
      rintro before after rfl
      exact h (c :: before) after rfl
    rw [List.cons_append, callAfter, if_neg hgoes, ih hcs, List.foldl_cons]

theorem callAfter_append (h : '(' ∉ cs) (name rest : List Char) :
    callAfter name (cs ++ rest) = callAfter (cs.foldl nameAfter name) rest := by
  refine callAfter_append_of_unnamed (fun before after hcs => ?_) rest
  exact absurd (hcs ▸ by simp) h

/-- A name once begun goes on with name characters. -/
theorem foldl_nameAfter_of_ne_nil (h : ∀ c ∈ cs, isNameChar c = true) (hname : name ≠ []) :
    cs.foldl nameAfter name = cs.reverse ++ name := by
  induction cs generalizing name with
  | nil => rfl
  | cons c cs ih =>
    have hc := h c List.mem_cons_self
    rw [List.foldl_cons, nameAfter, if_pos ⟨hc, Or.inl hname⟩,
      ih (fun c hc => h c (List.mem_cons_of_mem _ hc)) (List.cons_ne_nil c name)]
    simp

/-- **The name in name characters** is what they are from the first that can begin a name. -/
theorem foldl_nameAfter (h : ∀ c ∈ cs, isNameChar c = true) :
    cs.foldl nameAfter [] = (cs.dropWhile fun c => !isNameStart c).reverse := by
  induction cs with
  | nil => rfl
  | cons c cs ih =>
    have hc := h c List.mem_cons_self
    have hcs := fun c hc => h c (List.mem_cons_of_mem _ hc)
    rw [List.foldl_cons, nameAfter]
    by_cases hstart : isNameStart c = true
    · rw [if_pos ⟨hc, Or.inr hstart⟩, foldl_nameAfter_of_ne_nil hcs (List.cons_ne_nil c []),
        List.dropWhile_cons_of_neg (by simp [hstart]), List.reverse_cons]
    · rw [if_neg (by simp [hstart]), ih hcs, List.dropWhile_cons_of_pos (by simp [hstart])]

/-- **What is found is a call** of a name and with arguments that stand in the text. -/
theorem of_callAfter (h : callAfter name cs = some k)
    (hname : name = [] ∨ IsTarget name.reverse) :
    ∃ target args, IsTarget target ∧ args <:+: cs ∧ ')' ∉ args
      ∧ k = .call (String.ofList target) (commaPieces args) := by
  induction cs generalizing name with
  | nil => cases h
  | cons c cs ih =>
    rw [callAfter] at h
    split at h
    · next hbracket =>
      obtain ⟨⟨args, after⟩, hcut, rfl⟩ := Option.map_eq_some_iff.mp h
      obtain ⟨rfl, hargs⟩ := cut_singleton_eq_some_iff.mp hcut
      refine ⟨name.reverse, args, hname.resolve_left hbracket.2, ?_, hargs, rfl⟩
      exact (List.prefix_append args _).isInfix.trans (List.suffix_cons c _).isInfix
    · have hnext : nameAfter name c = [] ∨ IsTarget (nameAfter name c).reverse := by
        unfold nameAfter
        split
        · next hc =>
          right
          rw [List.reverse_cons]
          rcases hname with rfl | htarget
          · have hstart := hc.2.resolve_left (fun h => h rfl)
            exact ⟨⟨c, rfl, hstart⟩, fun d hd => List.mem_singleton.mp hd ▸ hc.1⟩
          · obtain ⟨⟨d, hd, hstart⟩, hchars⟩ := htarget
            refine ⟨⟨d, ?_, hstart⟩, fun e he => ?_⟩
            · rw [List.head?_append, hd]
              rfl
            · rcases List.mem_append.mp he with he | he
              · exact hchars e he
              · exact List.mem_singleton.mp he ▸ hc.1
        · exact Or.inl rfl
      obtain ⟨target, args, htarget, hstands, hargs, hk⟩ := ih h hnext
      exact ⟨target, args, htarget, hstands.trans (List.suffix_cons c cs).isInfix, hargs, hk⟩

/-- A name that a call can have is held whole. -/
theorem IsTarget.foldl_nameAfter (h : IsTarget target) :
    target.foldl nameAfter [] = target.reverse := by
  obtain ⟨c, hc, hstart⟩ := h.start
  rw [Action.foldl_nameAfter h.chars]
  cases target with
  | nil => cases hc
  | cons d target =>
    obtain rfl := Option.some.inj hc
    rw [List.dropWhile_cons_of_neg (by simp [hstart])]

theorem IsTarget.ne_nil (h : IsTarget target) : target ≠ [] := by
  obtain ⟨c, hc, -⟩ := h.start
  rintro rfl
  cases hc

/-- In a line without a break the search is a single one. -/
theorem call?_of_unbroken (h : '\n' ∉ line) : call? line = callAfter [] line := by
  rw [call?, List.splitOn_eq_singleton h, List.findSome?_cons]
  cases callAfter [] line <;> rfl

/-- **What is found in a line is a call**, whatever breaks the line has. -/
theorem of_call? (h : call? line = some k) :
    ∃ target args, IsTarget target ∧ args <:+: line ∧ ')' ∉ args
      ∧ k = .call (String.ofList target) (commaPieces args) := by
  obtain ⟨stretch, hmem, hcall⟩ := List.exists_of_findSome?_eq_some h
  obtain ⟨target, args, htarget, hstands, hclose, hk⟩ := of_callAfter hcall (Or.inl rfl)
  exact ⟨target, args, htarget, hstands.trans (of_mem_splitOn hmem).1, hclose, hk⟩

/-! ## The first shape that fits -/

/-- A definition asks to define. -/
theorem exists_eq_definition (h : definition? line = some k) :
    ∃ name params, k = .definition name params := by
  obtain ⟨name, body, params, -, -, rfl⟩ := definition?_eq_some_iff.mp h
  exact ⟨_, _, rfl⟩

/-- A return asks to return. -/
theorem exists_eq_returning (h : returning? line = some k) : ∃ value, k = .returning value := by
  rcases returning?_eq_some_iff.mp h with ⟨-, rfl⟩ | ⟨c, rest, -, -, -, rfl⟩ <;> exact ⟨_, rfl⟩

/-- An assignment asks to assign. -/
theorem exists_eq_assignment (h : assignment? line = some k) :
    ∃ target value, k = .assignment target value := by
  obtain ⟨before, after, -, -, rfl⟩ := assignment?_eq_some_iff.mp h
  exact ⟨_, _, rfl⟩

/-- A call asks to call. -/
theorem exists_eq_call (h : call? line = some k) : ∃ target args, k = .call target args := by
  obtain ⟨target, args, -, -, -, rfl⟩ := of_call? h
  exact ⟨_, _, rfl⟩

/-- **The shape that decides a line**, after those before it do not fit. -/
inductive Fits (line : List Char) : Kind → Prop where
  | definition {k : Kind} (h : definition? line = some k) : Fits line k
  | returning {k : Kind} (hdefinition : definition? line = none) (h : returning? line = some k) :
      Fits line k
  | assignment {k : Kind} (hdefinition : definition? line = none)
      (hreturning : returning? line = none) (h : assignment? line = some k) : Fits line k
  | call {k : Kind} (hdefinition : definition? line = none) (hreturning : returning? line = none)
      (hassignment : assignment? line = none) (h : call? line = some k) : Fits line k
  | unknown (hdefinition : definition? line = none) (hreturning : returning? line = none)
      (hassignment : assignment? line = none) (hcall : call? line = none) :
      Fits line (.unknown (String.ofList line))

/-- What a line asks for is what the shape that decides it says. -/
theorem Fits.kindOf_eq (h : Fits line k) : kindOf line = k := by
  cases h with
  | definition h => simp [kindOf, h]
  | returning hd h => simp [kindOf, hd, h]
  | assignment hd hr h => simp [kindOf, hd, hr, h]
  | call hd hr ha h => simp [kindOf, hd, hr, ha, h]
  | unknown hd hr ha hc => simp [kindOf, hd, hr, ha, hc]

/-- **Some shape decides every line.** -/
theorem fits_kindOf (line : List Char) : Fits line (kindOf line) := by
  suffices h : ∃ k, Fits line k by
    obtain ⟨k, hk⟩ := h
    rwa [hk.kindOf_eq]
  cases hd : definition? line with
  | some k => exact ⟨k, .definition hd⟩
  | none =>
    cases hr : returning? line with
    | some k => exact ⟨k, .returning hd hr⟩
    | none =>
      cases ha : assignment? line with
      | some k => exact ⟨k, .assignment hd hr ha⟩
      | none =>
        cases hc : call? line with
        | some k => exact ⟨k, .call hd hr ha hc⟩
        | none => exact ⟨_, .unknown hd hr ha hc⟩

/-- What a line asks for is asked for in the language of its shape. -/
theorem classify_eq_of_kind {line : String} {k : Kind} (h : (classify line).kind = k) :
    classify line = ⟨k, k.hint⟩ := by
  subst h
  rfl

/-- **The shape for what is asked for**, looked for in a line. -/
def shape? (line : List Char) : Kind → Option Kind
  | .definition _ _ => definition? line
  | .returning _ => returning? line
  | .assignment _ _ => assignment? line
  | .call _ _ => call? line
  | .unknown _ => some (.unknown (String.ofList line))

/-- **What a line asks for fits the shape for it.** -/
theorem shape?_kindOf (line : List Char) : shape? line (kindOf line) = some (kindOf line) := by
  have hfits := fits_kindOf line
  generalize kindOf line = k at *
  cases hfits with
  | definition hd =>
    obtain ⟨name, params, rfl⟩ := exists_eq_definition hd
    exact hd
  | returning _ hr =>
    obtain ⟨value, rfl⟩ := exists_eq_returning hr
    exact hr
  | assignment _ _ ha =>
    obtain ⟨target, value, rfl⟩ := exists_eq_assignment ha
    exact ha
  | call _ _ _ hc =>
    obtain ⟨target, args, rfl⟩ := exists_eq_call hc
    exact hc
  | unknown => rfl

theorem definition?_of_kindOf {name : String} {params : List String}
    (h : kindOf line = .definition name params) :
    definition? line = some (.definition name params) := by
  simpa only [h, shape?] using shape?_kindOf line

theorem returning?_of_kindOf {value : String} (h : kindOf line = .returning value) :
    returning? line = some (.returning value) := by
  simpa only [h, shape?] using shape?_kindOf line

theorem assignment?_of_kindOf {target value : String} (h : kindOf line = .assignment target value) :
    assignment? line = some (.assignment target value) := by
  simpa only [h, shape?] using shape?_kindOf line

theorem call?_of_kindOf {target : String} {args : List String}
    (h : kindOf line = .call target args) : call? line = some (.call target args) := by
  simpa only [h, shape?] using shape?_kindOf line

/-- A name before a bracket is no keyword: what follows it is no blank. -/
theorem afterKeyword_name_eq_none {keyword : List Char} (hname : ∀ c ∈ name, isNameChar c = true)
    (hkeyword : '(' ∉ keyword) : afterKeyword keyword (name ++ '(' :: rest) = none := by
  cases h : afterKeyword keyword (name ++ '(' :: rest) with
  | none => rfl
  | some after =>
    obtain ⟨c, after, hc, rfl, hline⟩ := afterKeyword_eq_some_iff.mp h
    have hbracket : '(' ∉ keyword ++ [c] := by
      rw [List.mem_append, List.mem_singleton, not_or]
      exact ⟨hkeyword, fun heq => by rw [← heq] at hc; exact absurd hc (by decide)⟩
    have hprefix : keyword ++ [c] <+: name ++ '(' :: rest := ⟨after, by simp [hline]⟩
    have hmem : c ∈ name :=
      ((prefix_append_cons_iff hbracket name rest).mp hprefix).mem (by simp)
    rw [not_isBlank_of_isNameChar (hname c hmem)] at hc
    cases hc

/-- **What is called as such**: a name and, in brackets, what holds neither `=` nor a bracket
that closes. -/
theorem fits_call (htarget : IsTarget target) (hassign : '=' ∉ args) (hclose : ')' ∉ args)
    (hbreak : '\n' ∉ args) :
    Fits (target ++ '(' :: (args ++ [')'])) (.call (String.ofList target) (commaPieces args)) := by
  have hout : ∀ c, isNameChar c = false → c ∉ target := fun c =>
    not_mem_of_isNameChar htarget.chars
  have hassign' : '=' ∉ target ++ '(' :: (args ++ [')']) := by
    simp [hout '=' (by decide), hassign]
  have hbreak' : '\n' ∉ target ++ '(' :: (args ++ [')']) := by
    simp [hout '\n' (by decide), hbreak]
  refine .call ?_ ?_ (assignment?_eq_none_iff.mpr hassign') ?_
  · rw [Action.definition?, afterKeyword_name_eq_none htarget.chars (by decide), Option.bind_none]
  · have hbracket : target ++ '(' :: (args ++ [')']) ≠ "return".toList := by
      intro h
      have hmem : '(' ∈ "return".toList := h ▸ (by simp)
      exact absurd hmem (by decide)
    rw [returning?, if_neg hbracket, afterKeyword_name_eq_none htarget.chars (by decide),
      Option.bind_none]
  · have hcut : cut [')'] (args ++ [')']) = some (args, []) :=
      cut_singleton_eq_some_iff.mpr ⟨rfl, hclose⟩
    have hne : target.reverse ≠ [] := mt List.reverse_eq_nil_iff.mp htarget.ne_nil
    rw [call?_of_unbroken hbreak', callAfter_append (hout '(' (by decide)),
      htarget.foldl_nameAfter, callAfter, if_pos ⟨rfl, hne⟩, hcut, List.reverse_reverse,
      Option.map_some]

end Rehearsal.Action
