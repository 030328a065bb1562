import Rehearsal.Text.Blank
import Rehearsal.Text.Word

/-!
# Classes of characters that have nothing in common

The recognisers of snippets take runs of characters of one class, and a run ends where a character
of another class stands. That is sound because the classes are apart: no word character is a blank
(`not_isBlank_of_isWord`), and so nothing in a name is. The tables decide it
(`CharRanges.Apart`), so it is checked again whenever a table is changed.
-/

namespace Rehearsal.Text

/-- **Two tables are apart**: no range of the one meets a range of the other. -/
def CharRanges.Apart (s t : CharRanges) : Prop :=
  ∀ r ∈ s.ranges, ∀ r' ∈ t.ranges, r.2 < r'.1 ∨ r'.2 < r.1

instance (s t : CharRanges) : Decidable (s.Apart t) :=
  inferInstanceAs (Decidable (∀ r ∈ s.ranges, ∀ r' ∈ t.ranges, r.2 < r'.1 ∨ r'.2 < r.1))

variable {c : Char}

/-- A character is not in both of two tables that are apart. -/
theorem CharRanges.Apart.not_contains {s t : CharRanges} (h : s.Apart t)
    (hs : s.contains c = true) : t.contains c = false := by
  refine Bool.eq_false_iff.mpr fun ht => ?_
  obtain ⟨r, hr, hlo, hhi⟩ := contains_iff.mp hs
  obtain ⟨r', hr', hlo', hhi'⟩ := contains_iff.mp ht
  rcases h r hr r' hr' with hlt | hlt <;> omega

theorem wordRanges_apart_blankRanges : wordRanges.Apart blankRanges := by decide +kernel

/-- **No word character is a blank.** -/
theorem not_isBlank_of_isWord (h : isWord c = true) : isBlank c = false :=
  wordRanges_apart_blankRanges.not_contains h

theorem isNameChar_of_isWord (h : isWord c = true) : isNameChar c = true := by
  rw [isNameChar, h, Bool.true_or]

/-- **What can begin a name can also go on with it.** -/
theorem isNameChar_of_isNameStart (h : isNameStart c = true) : isNameChar c = true := by
  refine isNameChar_of_isWord (CharRanges.contains_iff.mpr ?_)
  have hclasses : ((c.isUpper || c.isLower) || c == '_') = true := h
  rw [Bool.or_eq_true, Bool.or_eq_true] at hclasses
  rcases hclasses with (hupper | hlower) | hunderscore
  · obtain ⟨hlo, hhi⟩ := of_decide_eq_true hupper
    exact ⟨(0x41, 0x5A), by decide +kernel, hlo, hhi⟩
  · obtain ⟨hlo, hhi⟩ := Bool.and_eq_true_iff.mp hlower
    exact ⟨(0x61, 0x7A), by decide +kernel, of_decide_eq_true hlo, of_decide_eq_true hhi⟩
  · obtain rfl := eq_of_beq hunderscore
    exact ⟨(0x5F, 0x5F), by decide +kernel, by decide, by decide⟩

/-- Nothing in a name is a blank. -/
theorem not_isBlank_of_isNameChar (h : isNameChar c = true) : isBlank c = false := by
  rcases (Bool.or_eq_true _ _).mp h with hword | hdot
  · exact not_isBlank_of_isWord hword
  · obtain rfl := eq_of_beq hdot
    decide

/-- **A run of a class ends where a character of another stands**, so it is told from what follows it
in one way. -/
theorem run_unique {p : Char → Bool} {run run' rest rest' : List Char} {d : Char}
    (hrun : ∀ c ∈ run, p c = true) (hc : p c = false) (hrun' : ∀ c ∈ run', p c = true)
    (hd : p d = false) (h : run ++ c :: rest = run' ++ d :: rest') :
    run' = run ∧ d :: rest' = c :: rest := by
  have htake := congrArg (List.takeWhile p) h
  rw [List.takeWhile_append_of_pos hrun, List.takeWhile_append_of_pos hrun',
    List.takeWhile_cons_of_neg (by simp [hc]), List.takeWhile_cons_of_neg (by simp [hd]),
    List.append_nil, List.append_nil] at htake
  subst htake
  exact ⟨rfl, (List.append_cancel_left h).symm⟩

/-- A character that is in no name is not among name characters. -/
theorem not_mem_of_isNameChar {name : List Char} (h : ∀ c ∈ name, isNameChar c = true)
    (hc : isNameChar c = false) : c ∉ name := by
  intro hmem
  rw [h c hmem] at hc
  cases hc

end Rehearsal.Text
