/-!
# Cutting a text into pieces

A line is taken apart at fixed marks: an assignment at its first `=`, a list of
arguments at each comma, a list of parameters at the first `):`. `cut` finds the
first occurrence of a mark and gives what stands before and after it.
`append_of_cut` says the three pieces make up the text again, so nothing is lost.
-/

namespace Rehearsal.Text

/-- **What stands before and after the first occurrence of `mark`**, if it occurs. -/
def cut (mark : List Char) : List Char → Option (List Char × List Char)
  | [] => if mark = [] then some ([], []) else none
  | c :: cs =>
    if mark.isPrefixOf (c :: cs) then some ([], (c :: cs).drop mark.length)
    else (cut mark cs).map fun (before, after) => (c :: before, after)

/-- **Nothing is lost in cutting**: the two sides and the mark between them are
the text. -/
theorem append_of_cut {mark cs before after : List Char}
    (h : cut mark cs = some (before, after)) : before ++ mark ++ after = cs := by
  induction cs generalizing before with
  | nil =>
    by_cases hm : mark = [] <;> simp [cut, hm] at h
    obtain ⟨rfl, rfl⟩ := h
    simp [hm]
  | cons c cs ih =>
    simp only [cut] at h
    split at h
    · next hp =>
      obtain ⟨rest, hrest⟩ := List.isPrefixOf_iff_prefix.mp hp
      simp only [Option.some.injEq, Prod.mk.injEq] at h
      obtain ⟨rfl, rfl⟩ := h
      simp [← hrest]
    · obtain ⟨⟨b, a⟩, hb, heq⟩ := Option.map_eq_some_iff.mp h
      simp only [Prod.mk.injEq] at heq
      obtain ⟨rfl, rfl⟩ := heq
      simpa using ih hb

end Rehearsal.Text
