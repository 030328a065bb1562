import Mathlib.Data.List.TakeWhile
import Rehearsal.Text.Blank

/-!
# What trimming leaves

Trimming takes blanks away from the two ends of a text and nothing else: the text is what is left
with blanks on either side (`exists_eq_append_trim`), and what is left has no blank at an end
(`trim_trim`). So it makes no difference how many blanks are around a text
(`trim_blanks_append`, `trim_append_blanks`), and a character that is not blank keeps the two
sides of it apart: each is trimmed at its own end (`trim_append_cons`).
-/

namespace Rehearsal.Text

variable {bs cs : List Char} {c : Char}

/-! ## One end -/

/-- Only blanks are dropped at the start. -/
theorem exists_eq_append_trimStart (cs : List Char) :
    ∃ bs : List Char, (∀ c ∈ bs, isBlank c = true) ∧ cs = bs ++ trimStart cs :=
  ⟨cs.takeWhile isBlank, fun _ hc => List.mem_takeWhile_imp hc,
    List.takeWhile_append_dropWhile.symm⟩

/-- Only blanks are dropped at the end. -/
theorem exists_eq_trimEnd_append (cs : List Char) :
    ∃ bs : List Char, (∀ c ∈ bs, isBlank c = true) ∧ cs = trimEnd cs ++ bs := by
  obtain ⟨bs, hbs, hcs⟩ := exists_eq_append_trimStart cs.reverse
  refine ⟨bs.reverse, fun c hc => hbs c (List.mem_reverse.mp hc), ?_⟩
  rw [trimEnd, ← List.reverse_append, ← hcs, List.reverse_reverse]

theorem trimStart_blanks_append (h : ∀ c ∈ bs, isBlank c = true) (cs : List Char) :
    trimStart (bs ++ cs) = trimStart cs :=
  List.dropWhile_append_of_pos h

theorem trimEnd_append_blanks (h : ∀ c ∈ bs, isBlank c = true) (cs : List Char) :
    trimEnd (cs ++ bs) = trimEnd cs := by
  unfold trimEnd
  rw [List.reverse_append, trimStart_blanks_append fun c hc => h c (List.mem_reverse.mp hc)]

/-- **A character that is not blank ends the trimming from the start.** -/
theorem trimStart_append_cons (h : isBlank c = false) (as bs : List Char) :
    trimStart (as ++ c :: bs) = trimStart as ++ c :: bs := by
  unfold trimStart
  rw [List.dropWhile_append]
  split
  · next hempty =>
    rw [List.isEmpty_iff.mp hempty, List.nil_append]
    exact trimStart_cons_of_not_blank h bs
  · rfl

/-- **A character that is not blank ends the trimming from the end.** -/
theorem trimEnd_append_cons (h : isBlank c = false) (as bs : List Char) :
    trimEnd (as ++ c :: bs) = as ++ c :: trimEnd bs := by
  unfold trimEnd
  rw [List.reverse_append, List.reverse_cons, List.append_assoc, List.singleton_append,
    trimStart_append_cons h]
  simp

/-- What is left after trimming the start begins with no blank. -/
theorem not_blank_of_trimStart_eq_cons {rest : List Char} (h : trimStart cs = c :: rest) :
    isBlank c = false := by
  have hhead := List.head?_dropWhile_not isBlank cs
  rw [show cs.dropWhile isBlank = c :: rest from h] at hhead
  simpa using hhead

/-- A text without blanks begins with none. -/
theorem trimStart_eq_self (h : ∀ c ∈ cs, isBlank c = false) : trimStart cs = cs := by
  cases cs with
  | nil => rfl
  | cons c cs => exact trimStart_cons_of_not_blank (h c List.mem_cons_self) cs

theorem trimStart_eq_nil_iff : trimStart cs = [] ↔ ∀ c ∈ cs, isBlank c = true :=
  List.dropWhile_eq_nil_iff

/-! ## Both ends -/

/-- **A character that is not blank keeps the two sides of it apart.** -/
theorem trim_append_cons (h : isBlank c = false) (as bs : List Char) :
    trim (as ++ c :: bs) = trimStart as ++ c :: trimEnd bs := by
  rw [trim, trimStart_append_cons h, trimEnd_append_cons h]

/-- Blanks before a text are trimmed. -/
theorem trim_blanks_append (h : ∀ c ∈ bs, isBlank c = true) (cs : List Char) :
    trim (bs ++ cs) = trim cs := by
  rw [trim, trimStart_blanks_append h, trim]

/-- **A text of blanks is trimmed to nothing**, and no other is. -/
theorem trim_eq_nil_iff : trim cs = [] ↔ ∀ c ∈ cs, isBlank c = true := by
  rw [← trimStart_eq_nil_iff]
  constructor
  · intro h
    cases hstart : trimStart cs with
    | nil => rfl
    | cons c rest =>
      rw [trim, hstart, ← List.nil_append (c :: rest),
        trimEnd_append_cons (not_blank_of_trimStart_eq_cons hstart)] at h
      cases h
  · intro h
    rw [trim, h]
    rfl

/-- Blanks after a text are trimmed. -/
theorem trim_append_blanks (h : ∀ c ∈ bs, isBlank c = true) (cs : List Char) :
    trim (cs ++ bs) = trim cs := by
  obtain ⟨as, has, hcs⟩ := exists_eq_append_trimStart cs
  cases hstart : trimStart cs with
  | nil =>
    have hblank := trimStart_eq_nil_iff.mp hstart
    rw [trim_blanks_append hblank, trim_eq_nil_iff.mpr h, trim_eq_nil_iff.mpr hblank]
  | cons c rest =>
    have hc := not_blank_of_trimStart_eq_cons hstart
    rw [hcs, hstart, List.append_assoc, List.cons_append, trim_append_cons hc, trim_append_cons hc,
      trimEnd_append_blanks h]

@[simp] theorem trim_trimStart (cs : List Char) : trim (trimStart cs) = trim cs := by
  obtain ⟨bs, hbs, hcs⟩ := exists_eq_append_trimStart cs
  have h := trim_blanks_append hbs (trimStart cs)
  rw [← hcs] at h
  exact h.symm

@[simp] theorem trim_trimEnd (cs : List Char) : trim (trimEnd cs) = trim cs := by
  obtain ⟨bs, hbs, hcs⟩ := exists_eq_trimEnd_append cs
  have h := trim_append_blanks hbs (trimEnd cs)
  rw [← hcs] at h
  exact h.symm

/-- **What is trimmed has nothing more to trim.** -/
@[simp] theorem trim_trim (cs : List Char) : trim (trim cs) = trim cs := by
  show trim (trimEnd (trimStart cs)) = trim cs
  rw [trim_trimEnd, trim_trimStart]

/-- **It makes no difference which end is trimmed first.** -/
theorem trimStart_trimEnd (cs : List Char) : trimStart (trimEnd cs) = trim cs := by
  obtain ⟨as, has, hcs⟩ := exists_eq_append_trimStart cs
  cases hstart : trimStart cs with
  | nil =>
    rw [hstart, List.append_nil] at hcs
    rw [trim, hstart, hcs, ← List.nil_append as, trimEnd_append_blanks has]
    rfl
  | cons c rest =>
    have hc := not_blank_of_trimStart_eq_cons hstart
    rw [trim, hcs, hstart, trimEnd_append_cons hc, trimStart_append_cons hc,
      trimStart_append_cons hc, trimStart_eq_nil_iff.mpr has, List.nil_append, List.nil_append,
      ← List.nil_append (c :: rest), trimEnd_append_cons hc, List.nil_append]

/-- **A text is what trimming leaves, with blanks on either side.** -/
theorem exists_eq_append_trim (cs : List Char) :
    ∃ as bs : List Char, (∀ c ∈ as, isBlank c = true) ∧ (∀ c ∈ bs, isBlank c = true)
      ∧ cs = as ++ trim cs ++ bs := by
  obtain ⟨as, has, hcs⟩ := exists_eq_append_trimStart cs
  obtain ⟨bs, hbs, hend⟩ := exists_eq_trimEnd_append (trimStart cs)
  refine ⟨as, bs, has, hbs, ?_⟩
  rw [List.append_assoc, trim, ← hend]
  exact hcs

/-- A text without blanks has nothing to trim. -/
theorem trim_eq_self (h : ∀ c ∈ cs, isBlank c = false) : trim cs = cs := by
  have hreverse : trimStart cs.reverse = cs.reverse :=
    trimStart_eq_self fun c hc => h c (List.mem_reverse.mp hc)
  rw [trim, trimStart_eq_self h, trimEnd, hreverse, List.reverse_reverse]

/-- Trimming only takes away. -/
theorem trim_infix_self (cs : List Char) : trim cs <:+: cs := by
  obtain ⟨as, bs, -, -, hcs⟩ := exists_eq_append_trim cs
  exact ⟨as, bs, hcs.symm⟩

/-- A text trimmed is its characters trimmed. -/
theorem trimmed_ofList (cs : List Char) : trimmed (String.ofList cs) = String.ofList (trim cs) := by
  rw [trimmed, String.toList_ofList]

theorem mem_of_mem_trim (h : c ∈ trim cs) : c ∈ cs := (trim_infix_self cs).mem h

/-- A trimmed text begins with no blank. -/
theorem not_blank_of_trim_cons (h : trim (c :: cs) = c :: cs) : isBlank c = false := by
  by_contra hc
  have hc' : isBlank c = true := by simpa using hc
  have hlength := (trim_infix_self cs).length_le
  rw [← trim_trimStart, ← trimStart_cons_of_blank hc', trim_trimStart, h] at hlength
  exact Nat.not_succ_le_self _ hlength

/-- **A text between two characters that are not blank** is trimmed. -/
theorem trim_cons_append_singleton {d : Char} (hc : isBlank c = false) (hd : isBlank d = false)
    (cs : List Char) : trim (c :: (cs ++ [d])) = c :: (cs ++ [d]) := by
  have h := trim_append_cons hc [] (cs ++ [d])
  rwa [List.nil_append, trimStart_nil, List.nil_append, trimEnd_append_cons hd] at h

end Rehearsal.Text
