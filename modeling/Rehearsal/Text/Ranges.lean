/-!
# Character classes as ranges

A class of characters that a standard lists is a table of code point ranges,
both ends included. A table says which characters are in, and `CharRanges.contains`
is the only way it is read, so a class is changed by changing its table and
nothing else.

The ranges of a table ascend, and their order is part of the type. A look-up ends at
the first range that starts beyond the character, and by `CharRanges.contains_iff` it
still answers for the whole table.
-/

namespace Rehearsal.Text

/-- Ranges start at or after a number, each at or after the start of the one before. -/
def ascendsFrom (n : Nat) : List (Nat × Nat) → Bool
  | [] => true
  | (lo, _) :: rest => n ≤ lo && ascendsFrom lo rest

/-- **A class of characters**: ranges of code points in ascending order, both ends
included. -/
structure CharRanges where
  ranges : List (Nat × Nat)
  ascending : ascendsFrom 0 ranges = true := by decide

namespace CharRanges

/-- A number lies in one of the ranges up to the first that starts beyond it. -/
def covers (n : Nat) : List (Nat × Nat) → Bool
  | [] => false
  | (lo, hi) :: rest => lo ≤ n && (n ≤ hi || covers n rest)

/-- The character lies in one of the ranges. -/
def contains (table : CharRanges) (c : Char) : Bool := covers c.toNat table.ranges

/-- In ascending ranges, none starts before the number they ascend from. -/
theorem le_of_ascendsFrom {n : Nat} {ranges : List (Nat × Nat)}
    (h : ascendsFrom n ranges = true) : ∀ r ∈ ranges, n ≤ r.1 := by
  induction ranges generalizing n with
  | nil => simp
  | cons head rest ih =>
    obtain ⟨hlo, hrest⟩ : n ≤ head.1 ∧ ascendsFrom head.1 rest = true := by
      simpa [ascendsFrom] using h
    intro r hr
    rcases List.mem_cons.mp hr with rfl | hr
    · exact hlo
    · exact Nat.le_trans hlo (ih hrest r hr)

/-- In ascending ranges, none that covers a number is overlooked. -/
theorem covers_iff {m n : Nat} {ranges : List (Nat × Nat)}
    (h : ascendsFrom m ranges = true) :
    covers n ranges = true ↔ ∃ r ∈ ranges, r.1 ≤ n ∧ n ≤ r.2 := by
  induction ranges generalizing m with
  | nil => simp [covers]
  | cons head rest ih =>
    obtain ⟨_, hrest⟩ : m ≤ head.1 ∧ ascendsFrom head.1 rest = true := by
      simpa [ascendsFrom] using h
    simp only [covers, Bool.and_eq_true, Bool.or_eq_true, decide_eq_true_eq, ih hrest,
      List.mem_cons, exists_eq_or_imp]
    constructor
    · rintro ⟨hlo, hhi | hin⟩
      · exact Or.inl ⟨hlo, hhi⟩
      · exact Or.inr hin
    · rintro (⟨hlo, hhi⟩ | ⟨r, hr, hlo, hhi⟩)
      · exact ⟨hlo, Or.inl hhi⟩
      · exact ⟨Nat.le_trans (le_of_ascendsFrom hrest r hr) hlo, Or.inr ⟨r, hr, hlo, hhi⟩⟩

/-- **Membership is what the table says it is.** -/
theorem contains_iff {table : CharRanges} {c : Char} :
    table.contains c = true ↔ ∃ r ∈ table.ranges, r.1 ≤ c.toNat ∧ c.toNat ≤ r.2 :=
  covers_iff table.ascending

end CharRanges

end Rehearsal.Text
