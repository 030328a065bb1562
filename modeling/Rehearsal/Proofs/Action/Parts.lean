import Rehearsal.Action.Classify
import Rehearsal.Proofs.Text.Pieces
import Rehearsal.Proofs.Text.Trimming

/-!
# Lists of parts

Parameters and arguments stand in a line as texts between commas, with blanks around them or not.
The parts that are read are trimmed and hold no comma (`of_mem_commaPieces`); such parts,
listed in the one way that narration lists them, are read again as what they are
(`commaPieces_listed`). Listing adds only commas and blanks, so a mark that has neither occurs in a
list exactly when it occurs in a part (`infix_listed_iff`).
-/

namespace Rehearsal.Action

open Rehearsal.Text
open Kind (listed)

variable {part : String} {parts : List String} {cs mark : List Char}

/-- **A part as it is read**: without blanks at its ends, and without a comma. -/
structure IsPart (part : String) : Prop where
  trimmed : trim part.toList = part.toList
  whole : ',' ∉ part.toList

/-- What is read between commas is a part, and stands in the text. -/
theorem of_mem_commaPieces (h : part ∈ commaPieces cs) : IsPart part ∧ part.toList <:+: cs := by
  obtain ⟨piece, hpiece, rfl⟩ := List.mem_map.mp h
  obtain ⟨hstands, hcomma⟩ := of_mem_splitOn hpiece
  rw [String.toList_ofList]
  refine ⟨⟨?_, ?_⟩, (trim_infix_self piece).trans hstands⟩
  · rw [String.toList_ofList, trim_trim]
  · rw [String.toList_ofList]
    exact fun hc => hcomma (mem_of_mem_trim hc)

/-- The pieces between commas, as texts that are trimmed. -/
theorem commaPieces_eq (cs : List Char) :
    commaPieces cs = (cs.splitOn ',').map fun piece => trimmed (String.ofList piece) :=
  List.map_congr_left fun piece _ => (trimmed_ofList piece).symm

theorem commaPieces_ne_nil (cs : List Char) : commaPieces cs ≠ [] := by
  simp [commaPieces, List.splitOn_ne_nil]

/-! ## Listed parts -/

theorem toList_listed_cons_cons (part part' : String) (parts : List String) :
    (listed (part :: part' :: parts)).toList
      = part.toList ++ ',' :: ' ' :: (listed (part' :: parts)).toList := by
  rw [listed, listed, String.toList_intercalate, String.toList_intercalate, List.map_cons,
    List.map_cons, List.intercalate_cons_cons]
  simp

@[simp] theorem toList_listed_singleton (part : String) : (listed [part]).toList = part.toList := by
  rw [listed, String.toList_intercalate, List.map_singleton, List.intercalate_singleton]

@[simp] theorem toList_listed_nil : (listed []).toList = [] := rfl

/-- **Parts that are listed are read again.** -/
theorem commaPieces_listed (h : ∀ part ∈ parts, IsPart part) (hne : parts ≠ []) :
    commaPieces (listed parts).toList = parts := by
  -- blanks at the start of a list are of no account, so the one after a comma is not
  suffices hblanks : ∀ blanks : List Char, (∀ c ∈ blanks, isBlank c = true) → ',' ∉ blanks →
      commaPieces (blanks ++ (listed parts).toList) = parts from
    hblanks [] (by simp) (by simp)
  have hread : ∀ {blanks : List Char} {part : String}, (∀ c ∈ blanks, isBlank c = true) →
      IsPart part → String.ofList (trim (blanks ++ part.toList)) = part := by
    intro blanks part hblanks hpart
    rw [trim_blanks_append hblanks, hpart.trimmed, String.ofList_toList]
  induction parts with
  | nil => exact absurd rfl hne
  | cons part parts ih =>
    intro blanks hblanks hcomma
    have hpart := h part List.mem_cons_self
    have hnot : ',' ∉ blanks ++ part.toList := by simp [hcomma, hpart.whole]
    cases parts with
    | nil =>
      rw [toList_listed_singleton, commaPieces, List.splitOn_eq_singleton hnot, List.map_singleton,
        hread hblanks hpart]
    | cons part' parts =>
      have hrest := ih (fun p hp => h p (List.mem_cons_of_mem _ hp)) (List.cons_ne_nil _ _) [' ']
        (List.forall_mem_singleton.mpr (by decide)) (by decide)
      rw [commaPieces] at hrest
      rw [toList_listed_cons_cons, commaPieces, ← List.append_assoc,
        List.splitOn_append_cons_self_of_not_mem hnot, List.map_cons, hread hblanks hpart]
      exact congrArg _ hrest

/-- **Where a mark occurs in a list**: in one of the parts. -/
theorem infix_listed_iff (hmark : mark ≠ []) (hcomma : ',' ∉ mark) (hblank : ' ' ∉ mark) :
    mark <:+: (listed parts).toList ↔ ∃ part ∈ parts, mark <:+: part.toList := by
  induction parts with
  | nil => simp [hmark]
  | cons part parts ih =>
    cases parts with
    | nil => simp
    | cons part' parts =>
      have hrest : mark <:+: ' ' :: (listed (part' :: parts)).toList
          ↔ mark <:+: (listed (part' :: parts)).toList := by
        have h := infix_append_cons_iff hblank [] (listed (part' :: parts)).toList
        rwa [List.infix_nil, or_iff_right hmark] at h
      rw [toList_listed_cons_cons, infix_append_cons_iff hcomma, hrest, ih]
      simp

/-- A character other than a comma and a blank is in a list if it is in a part. -/
theorem mem_listed_iff {c : Char} (hcomma : c ≠ ',') (hblank : c ≠ ' ') :
    c ∈ (listed parts).toList ↔ ∃ part ∈ parts, c ∈ part.toList := by
  have h : [c] <:+: (listed parts).toList ↔ ∃ part ∈ parts, [c] <:+: part.toList :=
    infix_listed_iff (by simp) (by simpa using hcomma.symm) (by simpa using hblank.symm)
  simpa only [List.singleton_infix_iff] using h

end Rehearsal.Action
