import Rehearsal.Proofs.Action.Shapes

/-!
# Lines divided by `=`

An assignment is a line with a target on one side of its first `=` and a value on the other, and
any blanks between. Another shape may decide such a line before the assignment does, and then
the blanks do not matter: whether it is a definition depends on the target and the value only
(`Divided.definition?_eq_none_iff`), and whether it is a return on the target
(`Divided.returning?_eq_none_iff`).

There is **one exception**, the target that is the keyword `return`. It is a keyword when a blank
follows it and a target when `=` does.
-/

namespace Rehearsal.Action

open Rehearsal.Text

variable {line target value name body rest gap after head cs : List Char} {c : Char} {k : Kind}

/-- **A line divided into a target and a value** by its first `=`. -/
structure Divided (line target value : List Char) : Prop where
  split : ∃ gap after, (∀ c ∈ gap, isBlank c = true) ∧ trim after = value
    ∧ line = target ++ (gap ++ '=' :: after)
  trimmed : trim target = target
  whole : '=' ∉ target

namespace Divided

/-- A divided line is the assignment of the value to the target. -/
theorem assignment? (h : Divided line target value) :
    assignment? line = some (.assignment (String.ofList target) (String.ofList value)) := by
  obtain ⟨⟨gap, after, hgap, rfl, rfl⟩, htrim, hwhole⟩ := h
  refine assignment?_eq_some_iff.mpr ⟨target ++ gap, after, by simp, ?_, ?_⟩
  · rw [List.mem_append, not_or]
    exact ⟨hwhole, fun hmem => absurd (hgap _ hmem) (by decide)⟩
  · rw [trim_append_blanks hgap, htrim]

theorem assign_mem (h : Divided line target value) : '=' ∈ line := by
  obtain ⟨gap, after, -, -, rfl⟩ := h.split
  simp

/-- **What begins a divided line is in its target**, if it holds no `=` and does not end in the
gap. -/
theorem exists_target_eq (h : head ++ c :: rest = target ++ (gap ++ '=' :: after))
    (hhead : '=' ∉ head ++ [c]) (hgap : c ∉ gap) :
    ∃ more, target = head ++ c :: more ∧ rest = more ++ (gap ++ '=' :: after) := by
  have h' : (head ++ [c]) ++ rest = target ++ (gap ++ '=' :: after) := by simpa using h
  rcases List.append_eq_append_iff.mp h' with ⟨more, htarget, hrest⟩ | ⟨beyond, htarget, hrest⟩
  · exact ⟨more, by simpa using htarget, hrest⟩
  · rcases List.eq_nil_or_concat beyond with rfl | ⟨beyond, d, rfl⟩
    · exact ⟨[], by simpa using htarget.symm, by simpa using hrest.symm⟩
    · -- the beginning would go on into the gap, and its last character would be there
      rw [List.concat_eq_append, ← List.append_assoc] at htarget
      rw [List.concat_eq_append] at hrest
      obtain ⟨rfl, hlast⟩ := List.append_inj' htarget rfl
      obtain rfl := List.singleton_inj.mp hlast
      have hover : '=' ∉ beyond ++ [c] := fun hmem => hhead (by
        rw [List.append_assoc]
        exact List.mem_append_right target hmem)
      have hprefix : beyond ++ [c] <+: gap ++ '=' :: after := ⟨rest, hrest.symm⟩
      have hfront := (prefix_append_cons_iff hover gap after).mp hprefix
      exact absurd (hfront.mem (by simp)) hgap

/-! ## Definitions -/

/-- The header of a divided line is one of its target. -/
theorem header_iff (hgap : ∀ c ∈ gap, isBlank c = true) :
    Header (target ++ (gap ++ '=' :: after)) name body
      ↔ ∃ rest, Header target name rest ∧ body = rest ++ (gap ++ '=' :: after) := by
  constructor
  · rintro ⟨⟨blanks, hne, hblanks, hline⟩, hname, hword⟩
    have hhead : '=' ∉ "def".toList ++ blanks ++ name ++ ['('] := by
      simp only [List.mem_append, not_or]
      refine ⟨⟨⟨by decide, ?_⟩, ?_⟩, by decide⟩
      · exact fun hmem => absurd (hblanks _ hmem) (by decide)
      · exact fun hmem => absurd (hword _ hmem) (by decide)
    have hbracket : '(' ∉ gap := fun hmem => absurd (hgap _ hmem) (by decide)
    obtain ⟨rest, htarget, hbody⟩ := exists_target_eq hline.symm hhead hbracket
    exact ⟨rest, ⟨⟨blanks, hne, hblanks, htarget⟩, hname, hword⟩, hbody⟩
  · rintro ⟨rest, ⟨⟨blanks, hne, hblanks, rfl⟩, hname, hword⟩, rfl⟩
    exact ⟨⟨blanks, hne, hblanks, by simp⟩, hname, hword⟩

/-- **Whether a divided line is a definition** is decided by its target and its value. -/
theorem definition?_eq_none_iff (h : Divided line target value) (hbreak : '\n' ∉ line) :
    definition? line = none
      ↔ ∀ name rest, Header target name rest →
          ¬[')', ':'] <:+: rest ∧ ¬[')', ':'] <:+: value := by
  obtain ⟨⟨gap, after, hgap, rfl, rfl⟩, -, -⟩ := h
  have hmark : ∀ c ∈ [')', ':'], isBlank c = false :=
    List.forall_mem_cons.mpr ⟨by decide, List.forall_mem_singleton.mpr (by decide)⟩
  have hblanks : ∀ c ∈ gap, c ∉ [')', ':'] := fun c hc hmem =>
    absurd (hgap c hc) (by simp [hmark c hmem])
  have hends : ∀ rest, [')', ':'] <:+: rest ++ (gap ++ '=' :: after)
      ↔ [')', ':'] <:+: rest ∨ [')', ':'] <:+: trim after := by
    intro rest
    rw [← List.append_assoc, infix_append_cons_iff (by decide),
      infix_append_iff_of_forall (by simp) hblanks, infix_trim_iff (by simp) hmark]
  rw [definition?_eq_none_iff_of_unbroken hbreak]
  constructor
  · intro hnone name rest hheader
    have hbody := hnone name _ ((header_iff hgap).mpr ⟨rest, hheader, rfl⟩)
    rwa [hends, not_or] at hbody
  · intro hnone name body hheader
    obtain ⟨rest, hrest, rfl⟩ := (header_iff hgap).mp hheader
    rw [hends, not_or]
    exact hnone name rest hrest

/-! ## Returns -/

/-- A divided line that begins with the keyword has it in its target. -/
theorem exists_target_eq_return (hgap : ∀ c ∈ gap, isBlank c = true)
    (h : "return".toList ++ rest = target ++ (gap ++ '=' :: after)) :
    ∃ more, target = "return".toList ++ more ∧ rest = more ++ (gap ++ '=' :: after) := by
  have h' : "retur".toList ++ 'n' :: rest = target ++ (gap ++ '=' :: after) := h
  exact exists_target_eq h' (by decide) fun hmem => absurd (hgap _ hmem) (by decide)

/-- **Whether a divided line is a return** is decided by its target, unless that is the keyword
alone. -/
theorem returning?_eq_none_iff (h : Divided line target value) (hbreak : '\n' ∉ line)
    (htarget : target ≠ "return".toList) :
    returning? line = none
      ↔ ∀ c rest, isBlank c = true → target ≠ "return".toList ++ c :: rest := by
  have hassign := h.assign_mem
  obtain ⟨⟨gap, after, hgap, rfl, rfl⟩, -, -⟩ := h
  rw [returning?_eq_none_iff_of_unbroken hbreak]
  constructor
  · rintro ⟨-, hnone⟩ c rest hc rfl
    exact hnone c (rest ++ (gap ++ '=' :: after)) hc (by simp)
  · intro hnone
    refine ⟨fun heq => ?_, fun c rest hc heq => ?_⟩
    · rw [heq] at hassign
      exact absurd hassign (by decide)
    · obtain ⟨more, hmore, hrest⟩ := exists_target_eq_return hgap heq.symm
      cases more with
      | nil => exact htarget (by simpa using hmore)
      | cons d more =>
        obtain ⟨rfl, -⟩ := List.cons.inj hrest
        exact hnone c more hc hmore

/-! ## Assignments -/

/-- **A divided line is decided as an assignment** whatever the blanks in it are. -/
theorem fits_assignment {line' : List Char} (h : Divided line target value)
    (h' : Divided line' target value) (hbreak : '\n' ∉ line) (hbreak' : '\n' ∉ line')
    (htarget : target ≠ "return".toList) (hdefinition : Action.definition? line = none)
    (hreturning : returning? line = none) :
    Fits line' (.assignment (String.ofList target) (String.ofList value)) := by
  refine .assignment ?_ ?_ h'.assignment?
  · rwa [h'.definition?_eq_none_iff hbreak', ← h.definition?_eq_none_iff hbreak]
  · rwa [h'.returning?_eq_none_iff hbreak' htarget, ← h.returning?_eq_none_iff hbreak htarget]

/-- A trimmed target with blanks after it has nothing to trim but blanks. -/
theorem exists_trimStart_append_eq (htarget : trim target = target)
    (hgap : ∀ c ∈ gap, isBlank c = true) :
    ∃ gap', (∀ c ∈ gap', isBlank c = true) ∧ trimStart (target ++ gap) = target ++ gap' := by
  cases target with
  | nil => exact ⟨[], by simp, trimStart_eq_nil_iff.mpr (by simpa using hgap)⟩
  | cons c target =>
    exact ⟨gap, hgap, trimStart_cons_of_not_blank (not_blank_of_trim_cons htarget) _⟩

/-- **A line that is trimmed is divided** by its first `=`. -/
theorem of_line {before : List Char} (hline : trim (before ++ '=' :: after) = before ++ '=' :: after)
    (hbefore : '=' ∉ before) : Divided (before ++ '=' :: after) (trim before) (trim after) := by
  have hwhole : '=' ∉ trim before := fun hmem => hbefore (mem_of_mem_trim hmem)
  have hstart : trimStart before = before := by
    -- both are what stands before the first `=`
    rw [trim_append_cons (by decide)] at hline
    have hcut := cut_singleton_eq_some_iff.mpr ⟨hline.symm, fun hmem => hbefore
      ((List.dropWhile_suffix _).mem hmem)⟩
    rw [cut_singleton_eq_some_iff.mpr ⟨rfl, hbefore⟩] at hcut
    exact (Prod.mk.inj (Option.some.inj hcut)).1.symm
  obtain ⟨gap, hgap, hend⟩ := exists_eq_trimEnd_append before
  have hbefore' : before = trim before ++ gap := by rwa [trim, hstart]
  refine ⟨⟨gap, after, hgap, rfl, ?_⟩, trim_trim before, hwhole⟩
  rw [← List.append_assoc, ← hbefore']

/-- **The source form of an assignment is divided** into the same target and value. -/
theorem of_source (htarget : trim target = target) (hvalue : trim value = value)
    (hwhole : '=' ∉ target) :
    Divided (trim (target ++ ([' '] ++ '=' :: ' ' :: value))) target value := by
  have hblank : ∀ c ∈ [' '], isBlank c = true := List.forall_mem_singleton.mpr (by decide)
  obtain ⟨gap, hgap, hstart⟩ := exists_trimStart_append_eq htarget hblank
  refine ⟨⟨gap, trimEnd (' ' :: value), hgap, ?_, ?_⟩, htarget, hwhole⟩
  · rw [trim_trimEnd, ← List.singleton_append, trim_blanks_append hblank, hvalue]
  · rw [← List.append_assoc, trim_append_cons (by decide), hstart, List.append_assoc]

end Divided

end Rehearsal.Action
