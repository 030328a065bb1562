import Mathlib.Data.List.Infix
import Rehearsal.Proofs.Text.Trimming
import Rehearsal.Text.Pieces

/-!
# Cuts and pieces

`cut` finds the first occurrence of a mark, and that is all there is to know of it: a text is cut
into two sides exactly when it is the sides with the mark between them, and the mark does not
occur any earlier (`cut_eq_some_iff`). It is not cut exactly when the mark does not occur
(`cut_eq_none_iff`). Where nothing is said of how it is found, the first occurrence is the one with
the least before it, and there is only one (`FirstAt`).

What occurs where is followed over a character that is no part of the mark: the mark is then on
one side of it or on the other (`infix_append_cons_iff`).
-/

namespace Rehearsal.Text

variable {mark before after before' after' cs : List Char} {c d : Char}

/-! ## Where a mark occurs -/

/-- A mark does not go on beyond a character that is no part of it. -/
theorem prefix_append_cons_iff (hc : c ∉ mark) (before after : List Char) :
    mark <+: before ++ c :: after ↔ mark <+: before := by
  constructor
  · intro h
    induction before generalizing mark with
    | nil =>
      cases mark with
      | nil => exact List.prefix_refl []
      | cons d mark =>
        obtain ⟨rfl, -⟩ := List.cons_prefix_cons.mp h
        exact absurd List.mem_cons_self hc
    | cons d before ih =>
      cases mark with
      | nil => exact List.nil_prefix
      | cons d' mark =>
        obtain ⟨rfl, hmark⟩ := List.cons_prefix_cons.mp h
        exact List.cons_prefix_cons.mpr ⟨rfl, ih (fun h => hc (List.mem_cons_of_mem _ h)) hmark⟩
  · exact fun h => h.trans (List.prefix_append before _)

/-- **A mark occurs on one side or the other** of a character that is no part of it. -/
theorem infix_append_cons_iff (hc : c ∉ mark) (before after : List Char) :
    mark <:+: before ++ c :: after ↔ mark <:+: before ∨ mark <:+: after := by
  induction before with
  | nil =>
    have hprefix : mark <+: c :: after ↔ mark <+: [] := prefix_append_cons_iff hc [] after
    rw [List.nil_append, List.infix_cons_iff, hprefix]
    simp
  | cons d before ih =>
    have hprefix : mark <+: d :: (before ++ c :: after) ↔ mark <+: d :: before :=
      prefix_append_cons_iff hc (d :: before) after
    rw [List.cons_append, List.infix_cons_iff, hprefix, ih, List.infix_cons_iff, or_assoc]

/-- Blanks and the like around a text make no mark occur in it. -/
theorem infix_append_iff_of_forall {u : List Char} (hmark : mark ≠ []) (hu : ∀ c ∈ u, c ∉ mark)
    (before : List Char) : mark <:+: before ++ u ↔ mark <:+: before := by
  induction u generalizing before with
  | nil => rw [List.append_nil]
  | cons c u ih =>
    rw [infix_append_cons_iff (hu c List.mem_cons_self)]
    have hu' := ih (fun c hc => hu c (List.mem_cons_of_mem _ hc)) []
    rw [List.nil_append] at hu'
    rw [hu', List.infix_nil, or_iff_left hmark]

/-- **Trimming hides no mark** that is without blanks. -/
theorem infix_trim_iff (hmark : mark ≠ []) (h : ∀ c ∈ mark, isBlank c = false) :
    mark <:+: trim cs ↔ mark <:+: cs := by
  have hblanks : ∀ bs : List Char, (∀ c ∈ bs, isBlank c = true) → ∀ c ∈ bs, c ∉ mark := by
    intro bs hbs c hc hmem
    exact absurd (hbs c hc) (by simp [h c hmem])
  obtain ⟨as, bs, has, hbs, hcs⟩ := exists_eq_append_trim cs
  conv_rhs => rw [hcs, infix_append_iff_of_forall hmark (hblanks bs hbs), ← List.reverse_infix,
    List.reverse_append, infix_append_iff_of_forall (by simpa using hmark)
      (by simpa using hblanks as has), List.reverse_infix]

/-- A mark of two characters does not occur because its first one is put at the end. -/
theorem pair_infix_concat_iff (hcd : c ≠ d) (cs : List Char) :
    [c, d] <:+: cs ++ [c] ↔ [c, d] <:+: cs := by
  rw [List.infix_concat_iff]
  refine or_iff_right ?_
  rintro ⟨before, h⟩
  have hlast := congrArg List.getLast? h
  simp [hcd.symm] at hlast

/-! ## Cuts -/

/-- What is looked through before an occurrence is known, a part of the text. -/
theorem prefix_append_dropLast (before mark after : List Char) :
    before ++ mark.dropLast <+: before ++ mark ++ after := by
  rw [List.append_assoc, List.prefix_append_right_inj]
  exact (List.dropLast_prefix mark).trans (List.prefix_append mark after)

/-- **Where a text is cut**: at the first occurrence of the mark. -/
theorem cut_eq_some_iff (hmark : mark ≠ []) :
    cut mark cs = some (before, after)
      ↔ cs = before ++ mark ++ after ∧ ¬mark <:+: before ++ mark.dropLast := by
  have hpos := List.length_pos_iff.mpr hmark
  constructor
  · intro h
    refine ⟨(append_of_cut h).symm, ?_⟩
    induction cs generalizing before with
    | nil => simp [cut, hmark] at h
    | cons c cs ih =>
      rw [cut] at h
      split at h
      · obtain ⟨rfl, -⟩ := Prod.mk.inj (Option.some.inj h)
        intro hshort
        have hlength := hshort.length_le
        rw [List.nil_append, List.length_dropLast] at hlength
        omega
      · next hprefix =>
        obtain ⟨⟨before', after'⟩, hcut, heq⟩ := Option.map_eq_some_iff.mp h
        obtain ⟨rfl, rfl⟩ := Prod.mk.inj heq
        rw [List.cons_append, List.infix_cons_iff, not_or]
        refine ⟨fun hstart => hprefix ?_, ih hcut⟩
        -- an occurrence at the start would be one at the start of the whole text
        rw [List.isPrefixOf_iff_prefix, ← append_of_cut hcut]
        exact hstart.trans (prefix_append_dropLast (c :: before') mark after')
  · rintro ⟨rfl, h⟩
    induction before with
    | nil =>
      obtain ⟨c, mark, rfl⟩ := List.exists_cons_of_ne_nil hmark
      have hprefix : (c :: mark).isPrefixOf (c :: (mark ++ after)) = true :=
        List.isPrefixOf_iff_prefix.mpr (List.prefix_append (c :: mark) after)
      rw [List.nil_append, List.cons_append, cut, if_pos hprefix]
      simp
    | cons c before ih =>
      rw [List.cons_append, List.infix_cons_iff, not_or] at h
      have hprefix : ¬mark.isPrefixOf (c :: (before ++ mark ++ after)) = true := by
        intro hstart
        refine h.1 (List.prefix_of_prefix_length_le (List.isPrefixOf_iff_prefix.mp hstart)
          (prefix_append_dropLast (c :: before) mark after) ?_)
        simp
        omega
      rw [List.cons_append, List.cons_append, cut, if_neg hprefix, ih h.2]
      rfl

/-- **A text is not cut if the mark does not occur in it**, and otherwise it is. -/
theorem cut_eq_none_iff : cut mark cs = none ↔ ¬mark <:+: cs := by
  induction cs with
  | nil => by_cases hmark : mark = [] <;> simp [cut, hmark]
  | cons c cs ih =>
    rw [cut, List.infix_cons_iff, not_or, ← ih, ← List.isPrefixOf_iff_prefix]
    split <;> simp_all

/-- A cut at a single character. -/
theorem cut_singleton_eq_some_iff :
    cut [c] cs = some (before, after) ↔ cs = before ++ c :: after ∧ c ∉ before := by
  rw [cut_eq_some_iff (by simp)]
  simp [List.singleton_infix_iff]

/-! ## First occurrences -/

/-- Of two divisions of a text, the one with less before the mark has a prefix of what is before it
in the other. -/
theorem prefix_of_length_le (h : before' ++ mark ++ after' = before ++ mark ++ after)
    (hlength : before'.length ≤ before.length) : before' <+: before :=
  List.prefix_of_prefix_length_le ⟨mark ++ after', by rw [← List.append_assoc, h]⟩
    ⟨mark ++ after, by rw [List.append_assoc]⟩ hlength

/-- **A text divided by the first occurrence of a mark**: no other occurrence has less before it. -/
structure FirstAt (mark cs before after : List Char) : Prop where
  split : cs = before ++ mark ++ after
  first : ∀ before' after', cs = before' ++ mark ++ after' → before.length ≤ before'.length

/-- **A text is divided in one way** by the first occurrence of a mark. -/
theorem FirstAt.unique (h : FirstAt mark cs before after) (h' : FirstAt mark cs before' after') :
    before' = before ∧ after' = after := by
  have hlength : before'.length = before.length :=
    Nat.le_antisymm (h'.first before after h.split) (h.first before' after' h'.split)
  have hsplit := h'.split.symm.trans h.split
  rw [List.append_assoc, List.append_assoc] at hsplit
  obtain ⟨hbefore, hrest⟩ := List.append_inj hsplit hlength
  exact ⟨hbefore, List.append_cancel_left hrest⟩

/-- **A text is cut at the first occurrence of the mark.** -/
theorem firstAt_of_cut (h : cut mark cs = some (before, after)) : FirstAt mark cs before after := by
  refine ⟨(append_of_cut h).symm, fun before' after' hsplit => ?_⟩
  by_cases hmark : mark = []
  · have hbefore : before = [] := by
      subst hmark
      cases cs <;> simp [cut] at h <;> exact h.1
    rw [hbefore]
    exact Nat.zero_le _
  · by_contra hlength
    -- an occurrence further to the left ends before the last character of the one that was found
    have hleft : before' ++ mark <+: cs := ⟨after', hsplit.symm⟩
    have hfound : before ++ mark.dropLast <+: cs :=
      append_of_cut h ▸ prefix_append_dropLast before mark after
    have hends : before' ++ mark <+: before ++ mark.dropLast := by
      have hpos := List.length_pos_iff.mpr hmark
      refine List.prefix_of_prefix_length_le hleft hfound ?_
      simp only [List.length_append, List.length_dropLast]
      omega
    have hstands := (List.suffix_append before' mark).isInfix.trans hends.isInfix
    exact ((cut_eq_some_iff hmark).mp h).2 hstands

/-- A mark that occurs has a first occurrence. -/
theorem exists_firstAt (h : mark <:+: cs) : ∃ before after, FirstAt mark cs before after := by
  cases hcut : cut mark cs with
  | none => exact absurd h (cut_eq_none_iff.mp hcut)
  | some sides => exact ⟨sides.1, sides.2, firstAt_of_cut hcut⟩

theorem FirstAt.cut_eq (h : FirstAt mark cs before after) : cut mark cs = some (before, after) := by
  cases hcut : cut mark cs with
  | none => exact absurd ⟨before, after, h.split.symm⟩ (cut_eq_none_iff.mp hcut)
  | some sides =>
    obtain ⟨hbefore, hafter⟩ := h.unique (firstAt_of_cut hcut)
    rw [← hbefore, ← hafter]

/-! ## Pieces between marks -/

/-- A piece of a text is somewhere in it, and the mark is not in the piece. -/
theorem of_mem_splitOn {c : Char} {cs piece : List Char} (h : piece ∈ cs.splitOn c) :
    piece <:+: cs ∧ c ∉ piece := by
  by_cases hc : c ∈ cs
  · -- the text up to the first mark is the first piece, and the others are those of the rest
    obtain ⟨first, rest, hcs, hfirst⟩ := List.eq_append_cons_of_mem hc
    rw [hcs, List.splitOn_append_cons_self_of_not_mem hfirst] at h
    rcases List.mem_cons.mp h with rfl | h
    · exact ⟨hcs ▸ (List.prefix_append piece _).isInfix, hfirst⟩
    · obtain ⟨hpiece, hmark⟩ := of_mem_splitOn h
      have hrest : rest <:+: cs :=
        hcs ▸ ((List.suffix_cons c rest).trans (List.suffix_append first _)).isInfix
      exact ⟨hpiece.trans hrest, hmark⟩
  · rw [List.splitOn_eq_singleton hc, List.mem_singleton] at h
    subst h
    exact ⟨List.infix_refl piece, hc⟩
termination_by cs.length
decreasing_by rw [hcs]; simp; omega

end Rehearsal.Text
