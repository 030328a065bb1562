import Rehearsal.Proofs.Action.Division
import Rehearsal.Proofs.Action.Lines
import Rehearsal.Proofs.Action.Parts

/-!
# The source form of a parsed action is parsed as that action

An action that came from a line is shown in its source form, and that is a line as well. It need
not be the same line: blanks are put in their places and empty parameters are gone. But it
**asks for the same thing**. There is one exception, an assignment to `return`, which as a
line with a blank before its `=` is a return (`parse_source`).

For each shape it is shown that the shape fits the source form with the same parts, and that no
shape before it does.
-/

namespace Rehearsal.Action

open Rehearsal.Text
open Kind (listed)

variable {line cs : List Char} {k : Kind} {a : Action}

/-! ## Lines of a text -/

/-- A text without a break is one line, unless it is blank. -/
theorem parse_of_unbroken {source : String} (h : '\n' ∉ source.toList)
    (hne : trim source.toList ≠ []) : parse source = [ofLine (trim source.toList)] := by
  rw [parse, lines_of_unbroken h, List.filter_cons_of_pos (by simpa using hne), List.filter_nil,
    List.map_singleton]

/-- **An action of a text is that of a line**, one that is trimmed, unbroken and not empty. -/
theorem exists_line_of_mem_parse {source : String} (h : a ∈ parse source) :
    ∃ line, IsLine line ∧ line ≠ [] ∧ a = ofLine line := by
  obtain ⟨line, hline, rfl⟩ := List.mem_map.mp h
  obtain ⟨hmap, hne⟩ := List.mem_filter.mp hline
  obtain ⟨piece, hpiece, rfl⟩ := List.mem_map.mp hmap
  refine ⟨trim piece, ⟨trim_trim piece, fun hmem => ?_⟩, by simpa using hne, rfl⟩
  exact (of_mem_splitOn hpiece).2 (mem_of_mem_trim hmem)

/-- **What is parsed of a line** is what the shape that fits it says. -/
theorem parse_of_fits {source : String} (hbreak : '\n' ∉ source.toList)
    (hne : trim source.toList ≠ []) (h : Fits (trim source.toList) k) :
    parse source = [⟨k, k.hint⟩] := by
  rw [parse_of_unbroken hbreak hne, ofLine, h.kindOf_eq]

/-- **A kind that is read again** from its source form: as itself, or as a return if it is an
assignment to the keyword of returns. -/
structure Faithful (k : Kind) : Prop where
  same : (∀ value, k ≠ .assignment "return" value) → parse k.source = [⟨k, k.hint⟩]
  exception : ∀ value, k = .assignment "return" value →
    parse k.source = [⟨.returning (trimmed ("= " ++ value)), .python⟩]

/-- What is no assignment need only be read as itself. -/
theorem Faithful.of_parse (h : parse k.source = [⟨k, k.hint⟩])
    (hother : ∀ value, k ≠ .assignment "return" value) : Faithful k :=
  ⟨fun _ => h, fun value heq => absurd heq (hother value)⟩

/-! ## Definitions -/

theorem beforeInLine_eq_some {mark before : List Char} (hmark : mark ≠ [])
    (h : beforeInLine mark cs = some before) :
    ¬mark <:+: before ++ mark.dropLast ∧ '\n' ∉ before := by
  unfold beforeInLine at h
  split at h
  · next hcut =>
    split at h
    · cases h
    · next hbreak =>
      obtain rfl := Option.some.inj h
      exact ⟨((cut_eq_some_iff hmark).mp hcut).2, hbreak⟩
  · cases h

/-- Parameters that are listed are read again, if they are not empty. -/
theorem params_listed {params : List String} (h : ∀ part ∈ params, IsPart part ∧ part ≠ "") :
    (commaPieces (listed params).toList).filter (· ≠ "") = params := by
  by_cases hne : params = []
  · subst hne
    rfl
  · rw [commaPieces_listed (fun part hpart => (h part hpart).1) hne, List.filter_eq_self]
    exact fun part hpart => by simpa using (h part hpart).2

/-- A list of parameters without a mark or a break is read up to the mark after it. -/
theorem beforeInLine_listed {params : List String} (hmark : ¬[')', ':'] <:+: (listed params).toList)
    (hbreak : '\n' ∉ (listed params).toList) :
    beforeInLine [')', ':'] ((listed params).toList ++ [')', ':'])
      = some (listed params).toList := by
  have hcut : cut [')', ':'] ((listed params).toList ++ [')', ':'])
      = some ((listed params).toList, []) := by
    refine (cut_eq_some_iff (by simp)).mpr ⟨by simp, ?_⟩
    exact fun hstands => hmark ((pair_infix_concat_iff (by decide) _).mp hstands)
  rw [beforeInLine, hcut]
  exact if_neg hbreak

/-- **A word and listed parameters**, in the form of a definition, are that definition. -/
theorem parse_definition {name : List Char} {params : List String} (hname : name ≠ [])
    (hword : ∀ c ∈ name, isWord c = true) (hparams : ∀ part ∈ params, IsPart part ∧ part ≠ "")
    (hmark : ¬[')', ':'] <:+: (listed params).toList) (hbreak : '\n' ∉ (listed params).toList) :
    parse (Kind.definition (String.ofList name) params).source
      = [⟨.definition (String.ofList name) params, .python⟩] := by
  have hsource : (Kind.definition (String.ofList name) params).source.toList
      = "def".toList ++ [' '] ++ name ++ '(' :: ((listed params).toList ++ [')', ':']) := by
    simp [Kind.source]
  have htrim : trim (Kind.definition (String.ofList name) params).source.toList
      = (Kind.definition (String.ofList name) params).source.toList := by
    have hends := trim_cons_append_singleton (c := 'd') (d := ':') (by decide) (by decide)
      ("ef ".toList ++ name ++ '(' :: (listed params).toList ++ [')'])
    simpa [hsource] using hends
  have hname' : '\n' ∉ name := fun hmem => absurd (hword _ hmem) (by decide)
  have hheader : Header (trim (Kind.definition (String.ofList name) params).source.toList) name
      ((listed params).toList ++ [')', ':']) :=
    ⟨⟨[' '], by simp, List.forall_mem_singleton.mpr (by decide), by rw [htrim, hsource]⟩, hname,
      hword⟩
  refine parse_of_fits ?_ ?_ (.definition ?_)
  · simp [hsource, hname', hbreak]
  · rw [htrim, hsource]
    simp
  · rw [hheader.definition?, beforeInLine_listed hmark hbreak, Option.map_some,
      params_listed hparams]

/-- **The source form of a definition** is that definition. -/
theorem parse_source_of_definition (h : definition? line = some k) :
    parse k.source = [⟨k, k.hint⟩] := by
  obtain ⟨name, body, text, hheader, htext, rfl⟩ := definition?_eq_some_iff.mp h
  obtain ⟨hmark, hbreak⟩ := beforeInLine_eq_some (by simp) htext
  have hpart : ∀ part ∈ (commaPieces text).filter (· ≠ ""),
      (IsPart part ∧ part ≠ "") ∧ part.toList <:+: text := by
    intro part hmem
    obtain ⟨hmem, hne⟩ := List.mem_filter.mp hmem
    obtain ⟨hpart, hstands⟩ := of_mem_commaPieces hmem
    exact ⟨⟨hpart, by simpa using hne⟩, hstands⟩
  -- the parameters hold no mark because the text that they are from does not
  refine parse_definition hheader.name_ne_nil hheader.word (fun part hmem => (hpart part hmem).1)
    ?_ ?_
  · rw [infix_listed_iff (by simp) (by decide) (by decide)]
    rintro ⟨part, hmem, hstands⟩
    exact hmark ((hstands.trans (hpart part hmem).2).trans (List.prefix_append _ _).isInfix)
  · rw [mem_listed_iff (by decide) (by decide)]
    rintro ⟨part, hmem, hc⟩
    exact hbreak ((hpart part hmem).2.mem hc)

/-! ## Returns -/

/-- **What follows the keyword and a blank** is the value of a return. -/
theorem fits_return {value : List Char} (hbreak : '\n' ∉ value) :
    Fits (trim ("return".toList ++ ' ' :: value)) (.returning (String.ofList (trim value))) := by
  have htrim : trim ("return".toList ++ ' ' :: value)
      = "return".toList ++ trimEnd (' ' :: value) :=
    trim_append_cons (by decide) "retur".toList (' ' :: value)
  have hdefinition : ∀ rest, definition? ("return".toList ++ rest) = none := fun _ => rfl
  rw [htrim]
  refine .returning (hdefinition _) (returning?_eq_some_iff.mpr ?_)
  obtain ⟨blanks, hblanks, hvalue⟩ := exists_eq_trimEnd_append (' ' :: value)
  cases hend : trimEnd (' ' :: value) with
  | nil =>
    rw [hend, List.nil_append] at hvalue
    have hnone : trim value = [] := trim_eq_nil_iff.mpr fun c hc =>
      hblanks c (hvalue ▸ List.mem_cons_of_mem _ hc)
    exact Or.inl ⟨rfl, by rw [hnone]⟩
  | cons c rest =>
    rw [hend, List.cons_append] at hvalue
    obtain ⟨rfl, rfl⟩ := List.cons.inj hvalue
    refine Or.inr ⟨' ', rest, by decide, rfl, fun hmem => hbreak ?_, ?_⟩
    · exact List.mem_append_left _ ((List.dropWhile_suffix _).mem hmem)
    · rw [trim_append_blanks hblanks]

/-- A text after the keyword and a blank is parsed as a return. -/
theorem parse_return {value : String} (hbreak : '\n' ∉ value.toList) :
    parse ("return " ++ value) = [⟨.returning (trimmed value), .python⟩] := by
  have htext : ("return " ++ value).toList = "return".toList ++ ' ' :: value.toList := by simp
  refine parse_of_fits (by simp [htext, hbreak]) ?_ ?_
  · intro hnil
    have hblank := trim_eq_nil_iff.mp hnil 'r' (by simp [htext])
    exact absurd hblank (by decide)
  · rw [htext]
    exact fits_return hbreak

/-- **The source form of a return** is that return. -/
theorem parse_source_of_returning (hbreak : '\n' ∉ line) (h : returning? line = some k) :
    parse k.source = [⟨k, k.hint⟩] := by
  rcases returning?_eq_some_iff.mp h with ⟨-, rfl⟩ | ⟨c, rest, -, rfl, -, rfl⟩
  · exact parse_return (by decide)
  · have hvalue : '\n' ∉ trim rest := fun hmem => hbreak (by simp [mem_of_mem_trim hmem])
    have hsame : trimmed (String.ofList (trim rest)) = String.ofList (trim rest) := by
      rw [trimmed, String.toList_ofList, trim_trim]
    have hparse : parse ("return " ++ String.ofList (trim rest))
        = [⟨.returning (trimmed (String.ofList (trim rest))), .python⟩] :=
      parse_return (by simpa using hvalue)
    rwa [hsame] at hparse

/-! ## Assignments -/

/-- **The source form of an assignment** is that assignment, and a return if the target is the
keyword of returns. -/
theorem faithful_of_assignment (hline : IsLine line) (hdefinition : definition? line = none)
    (hreturning : returning? line = none) (h : assignment? line = some k) : Faithful k := by
  obtain ⟨before, after, rfl, hbefore, rfl⟩ := assignment?_eq_some_iff.mp h
  have hbreak := hline.unbroken
  have hout : ∀ text, '\n' ∉ text → '\n' ∉ trim text := fun text h hmem => h (mem_of_mem_trim hmem)
  have hbreaks : '\n' ∉ trim before ∧ '\n' ∉ trim after := by
    simp only [List.mem_append, List.mem_cons, not_or] at hbreak
    exact ⟨hout before hbreak.1, hout after hbreak.2.2⟩
  have hdivided := Divided.of_line hline.trimmed hbefore
  have hsource : (Kind.assignment (String.ofList (trim before)) (String.ofList (trim after))).source.toList
      = trim before ++ ([' '] ++ '=' :: ' ' :: trim after) := by
    simp [Kind.source]
  have hdivided' := Divided.of_source hdivided.trimmed (trim_trim after) hdivided.whole
  rw [← hsource] at hdivided'
  have hbreak' : '\n' ∉ (Kind.assignment (String.ofList (trim before))
      (String.ofList (trim after))).source.toList := by
    simp [hsource, hbreaks]
  constructor
  · intro hne
    have htarget : trim before ≠ "return".toList := by
      intro heq
      rw [heq, String.ofList_toList] at hne
      exact hne _ rfl
    refine parse_of_fits hbreak' (fun hnil => ?_) ?_
    · exact absurd (hnil ▸ hdivided'.assign_mem) (by simp)
    · exact hdivided.fits_assignment hdivided' hbreak (hout _ hbreak') htarget hdefinition hreturning
  · intro value heq
    obtain ⟨htarget, rfl⟩ := Kind.assignment.inj heq
    have htext : "return" ++ " = " ++ String.ofList (trim after)
        = "return " ++ ("= " ++ String.ofList (trim after)) := by
      rw [← String.toList_inj]
      simp
    rw [Kind.source, htarget, htext]
    exact parse_return (by simp [hbreaks])

/-! ## Calls -/

/-- **A name and listed arguments**, in the form of a call, are that call. -/
theorem parse_call {target : List Char} {args : List String} (htarget : IsTarget target)
    (hargs : ∀ part ∈ args, IsPart part) (hne : args ≠ []) (hassign : '=' ∉ (listed args).toList)
    (hclose : ')' ∉ (listed args).toList) (hbreak : '\n' ∉ (listed args).toList) :
    parse (Kind.call (String.ofList target) args).source
      = [⟨.call (String.ofList target) args, .javascript⟩] := by
  have hsource : (Kind.call (String.ofList target) args).source.toList
      = target ++ '(' :: ((listed args).toList ++ [')']) := by
    simp [Kind.source]
  have htrim : trim (target ++ '(' :: ((listed args).toList ++ [')']))
      = target ++ '(' :: ((listed args).toList ++ [')']) := by
    obtain ⟨c, name, rfl⟩ := List.exists_cons_of_ne_nil htarget.ne_nil
    have hends := trim_cons_append_singleton (d := ')')
      (not_isBlank_of_isNameChar (htarget.chars c List.mem_cons_self)) (by decide)
      (name ++ '(' :: (listed args).toList)
    simpa using hends
  have hname : '\n' ∉ target := not_mem_of_isNameChar htarget.chars (by decide)
  have hfits := fits_call htarget hassign hclose hbreak
  rw [commaPieces_listed hargs hne] at hfits
  refine parse_of_fits ?_ ?_ ?_
  · simp [hsource, hname, hbreak]
  · simp [hsource, htrim]
  · rwa [hsource, htrim]

/-- **The source form of a call** is that call. -/
theorem parse_source_of_call (hbreak : '\n' ∉ line) (hassignment : assignment? line = none)
    (h : call? line = some k) : parse k.source = [⟨k, k.hint⟩] := by
  obtain ⟨target, args, htarget, hstands, hclose, rfl⟩ := of_call? h
  have hpart : ∀ part ∈ commaPieces args, IsPart part ∧ part.toList <:+: args :=
    fun _ => of_mem_commaPieces
  -- what the arguments do not hold is not in their list
  have hout : ∀ c, c ≠ ',' → c ≠ ' ' → c ∉ args → c ∉ (listed (commaPieces args)).toList := by
    intro c hcomma hblank hc
    rw [mem_listed_iff hcomma hblank]
    rintro ⟨part, hmem, hc'⟩
    exact hc ((hpart part hmem).2.mem hc')
  have hassign : '=' ∉ args := fun hmem =>
    assignment?_eq_none_iff.mp hassignment (hstands.mem hmem)
  exact parse_call htarget (fun part hmem => (hpart part hmem).1) (commaPieces_ne_nil args)
    (hout '=' (by decide) (by decide) hassign) (hout ')' (by decide) (by decide) hclose)
    (hout '\n' (by decide) (by decide) fun hmem => hbreak (hstands.mem hmem))

/-! ## All shapes -/

/-- What a line asks for is read again from its source form. -/
theorem faithful_kindOf (hline : IsLine line) (hne : line ≠ []) : Faithful (kindOf line) := by
  have hfits := fits_kindOf line
  generalize kindOf line = k at hfits
  cases hfits with
  | definition hd =>
    refine .of_parse (parse_source_of_definition hd) fun value heq => ?_
    obtain ⟨_, _, rfl⟩ := exists_eq_definition hd
    cases heq
  | returning _ hr =>
    refine .of_parse (parse_source_of_returning hline.unbroken hr) fun value heq => ?_
    obtain ⟨_, rfl⟩ := exists_eq_returning hr
    cases heq
  | assignment hd hr ha => exact faithful_of_assignment hline hd hr ha
  | call _ _ ha hc =>
    refine .of_parse (parse_source_of_call hline.unbroken ha hc) fun value heq => ?_
    obtain ⟨_, _, rfl⟩ := exists_eq_call hc
    cases heq
  | unknown hd hr ha hc =>
    refine .of_parse ?_ fun value heq => by cases heq
    have htext : trim (Kind.unknown (String.ofList line)).source.toList = line := by
      rw [Kind.source_unknown, String.toList_ofList, hline.trimmed]
    refine parse_of_fits ?_ ?_ ?_
    · simpa using hline.unbroken
    · rwa [htext]
    · rw [htext]
      exact .unknown hd hr ha hc

/-- **The source form of a parsed action is parsed as that action**, language included. Only an
assignment to `return` is read as something else, the return of what follows. -/
theorem parse_source {source : String} (h : a ∈ parse source) :
    ((∀ value, a.kind ≠ .assignment "return" value) → parse a.kind.source = [a])
      ∧ ∀ value, a.kind = .assignment "return" value →
          parse a.kind.source = [⟨.returning (trimmed ("= " ++ value)), .python⟩] := by
  obtain ⟨line, hline, hne, rfl⟩ := exists_line_of_mem_parse h
  have hfaithful := faithful_kindOf hline hne
  exact ⟨hfaithful.same, hfaithful.exception⟩

/-- The exception: the value `5` assigned to `return` is returned with its `=`. -/
theorem parse_source_return_assigned :
    (⟨.assignment "return" "5", .python⟩ : Action) ∈ parse "return=5"
      ∧ parse "return = 5" = [⟨.returning "= 5", .python⟩] := by
  have h : (⟨.assignment "return" "5", .python⟩ : Action) ∈ parse "return=5" := by decide
  exact ⟨h, (parse_source h).2 "5" rfl⟩

end Rehearsal.Action
