import Rehearsal.Proofs.Disk.Document

/-!
# Disks that differ in some places

Two disks may differ in some places, whatever is there on the one and on the other
(`Disk.DifferIn`). Accesses that go elsewhere do not tell them apart: what is found is the same
(`Disk.DifferIn.find_eq`), and folders are made and files written on both or on neither, for the
same reason, and the disks differ no more than before (`Disk.DifferIn.makeFolders`,
`Disk.DifferIn.write`).

An access goes elsewhere if its path leads to another place. It may lead through one of the places,
and there it stops if there is a file. So in the places that are on the ways the disks may differ in
what is in the files, but not in more.
-/

namespace Rehearsal.Disk

/-- **Two disks that differ in some places** at most, and on the ways only in what is in files. -/
structure DifferIn (places ways : Location → Prop) (d d' : Disk) : Prop where
  home : d'.home = d.home
  node : ∀ l, d'.node? l = d.node? l ∨ places l ∧ (ways l → d.FileAt l ∧ d'.FileAt l)

/-- **Two attempts that come to the same** on disks that differ in some places. -/
def DifferIn.Outcomes (places ways : Location → Prop) (r r' : Except FileError Unit × Disk) :
    Prop :=
  r'.1 = r.1 ∧ DifferIn places ways r.2 r'.2

namespace DifferIn

variable {places ways : Location → Prop} {d d' : Disk} {here start l : Location}
  {names : List String} {p : Path} {now : Instant}

theorem startOf (h : DifferIn places ways d d') (p : Path) : d'.startOf p = d.startOf p := by
  rw [Disk.startOf, Disk.startOf, h.home]

/-- A walk along the ways ends alike. -/
theorem walk_eq (h : DifferIn places ways d d') (hways : ∀ l ∈ stations here names, ways l) :
    d'.walk here names = d.walk here names := by
  induction names generalizing here with
  | nil => rfl
  | cons name names ih =>
    rw [stations, List.forall_mem_cons] at hways
    rcases h.node here with hnode | ⟨-, hfiles⟩
    · by_cases hfolder : d.FolderAt here
      · have hfolder' : d'.FolderAt here := by rwa [FolderAt, hnode]
        rw [walk_cons_of_folderAt hfolder, walk_cons_of_folderAt hfolder', ih hways.2]
      · by_cases hfile : d.FileAt here
        · have hfile' : d'.FileAt here := by rwa [FileAt, hnode]
          rw [walk_cons_of_fileAt hfile, walk_cons_of_fileAt hfile']
        · have hnone := (folderAt_or_none hfile).resolve_left hfolder
          rw [walk_cons_of_none hnone, walk_cons_of_none (hnode.trans hnone)]
    · obtain ⟨hfile, hfile'⟩ := hfiles hways.1
      rw [walk_cons_of_fileAt hfile, walk_cons_of_fileAt hfile']

/-- Off the places there is the same. -/
theorem node_eq (h : DifferIn places ways d d') (hl : ¬places l) : d'.node? l = d.node? l :=
  (h.node l).resolve_right fun hplaces => hl hplaces.1

section

variable (hways : ∀ l ∈ stations (d.startOf p) (Path.names p), ways l) (hp : ¬places (d.place p))
include hways

theorem resolve_eq (h : DifferIn places ways d d') : d'.resolve p = d.resolve p := by
  rw [resolve, resolve, h.startOf, h.walk_eq hways]

include hp

/-- **What is found elsewhere** is the same. -/
theorem find_eq (h : DifferIn places ways d d') : d'.find p = d.find p := by
  rw [find, find, h.resolve_eq hways]
  cases hresolve : d.resolve p with
  | error e => rfl
  | ok l =>
    obtain rfl := eq_place_of_resolve hresolve
    dsimp only [Except.bind]
    rw [h.node_eq hp]

theorem read_eq (h : DifferIn places ways d d') : d'.read p = d.read p := by
  rw [read, read, h.find_eq hways hp]

end

/-! ## Changes elsewhere -/

/-- The same put on both disks. -/
theorem put (h : DifferIn places ways d d') (l : Location) (n : Node) :
    DifferIn places ways (d.put l n) (d'.put l n) := by
  refine ⟨h.home, fun l' => ?_⟩
  by_cases hsame : l' = l
  · subst hsame
    rw [node?_put_self, node?_put_self]
    exact Or.inl rfl
  · rw [FileAt, FileAt, node?_put_of_ne _ hsame, node?_put_of_ne _ hsame]
    exact h.node l'

/-- **A folder on one of the ways** is made on both disks or on neither. -/
theorem withFolder (h : DifferIn places ways d d') (hl : ways l) (now : Instant) :
    Outcomes places ways (outcomeOf d (d.withFolder now l))
      (outcomeOf d' (d'.withFolder now l)) := by
  rcases h.node l with hnode | ⟨-, hfiles⟩
  · unfold Disk.withFolder
    rw [hnode]
    split
    · exact ⟨rfl, h.put l _⟩
    · exact ⟨rfl, h⟩
    · exact ⟨rfl, h⟩
  · obtain ⟨hfile, hfile'⟩ := hfiles hl
    rw [withFolder_of_fileAt hfile, withFolder_of_fileAt hfile']
    exact ⟨rfl, h⟩

/-- A folder where a walk along the ways ends is made on both disks or on neither. -/
theorem ensureFolderAt (h : DifferIn places ways d d') (hways : ∀ l ∈ visited start names, ways l) :
    Outcomes places ways (outcomeOf d (d.ensureFolderAt now start names))
      (outcomeOf d' (d'.ensureFolderAt now start names)) := by
  rw [ensureFolderAt_eq, ensureFolderAt_eq,
    h.walk_eq fun l hl => hways l (mem_visited.mpr (Or.inl hl))]
  cases hwalk : d.walk start names with
  | error e => exact ⟨rfl, h⟩
  | ok l =>
    obtain rfl := eq_target_of_walk hwalk
    exact h.withFolder (hways _ (mem_visited.mpr (Or.inr rfl))) now

/-- A folder with those above it is made on both disks or on neither, as far as can be. -/
theorem makeWay (h : DifferIn places ways d d') {way : List (List String)}
    (hways : ∀ q ∈ way, ∀ l ∈ visited start q, ways l) :
    Outcomes places ways (Disk.makeWay now start way d) (Disk.makeWay now start way d') := by
  induction way generalizing d d' with
  | nil => exact ⟨rfl, h⟩
  | cons q way ih =>
    rw [List.forall_mem_cons] at hways
    have hwalk := h.walk_eq fun l hl => hways.1 l (mem_visited.mpr (Or.inl hl))
    by_cases hmissing : d.walk start q = .error .notFound
    · have habove := ih h hways.2
      rw [makeWay_of_missing hmissing, makeWay_of_missing (hwalk.trans hmissing)]
      generalize Disk.makeWay now start way d = made at habove ⊢
      generalize Disk.makeWay now start way d' = made' at habove ⊢
      obtain ⟨outcome, d₁⟩ := made
      obtain ⟨outcome', d₁'⟩ := made'
      obtain ⟨rfl, hdiffer⟩ : outcome' = outcome ∧ DifferIn places ways d₁ d₁' := habove
      cases outcome' with
      | error e => exact ⟨rfl, hdiffer⟩
      | ok u => exact hdiffer.ensureFolderAt hways.1
    · have hfound : d'.walk start q ≠ .error .notFound := by rwa [hwalk]
      rw [makeWay_of_found hmissing, makeWay_of_found hfound]
      exact h.ensureFolderAt hways.1

/-- **The folders of a path** along the ways are made on both disks or on neither. -/
theorem makeFolders (h : DifferIn places ways d d') (hways : ∀ l ∈ d.route p, ways l)
    (now : Instant) :
    Outcomes places ways (d.makeFolders now p) (d'.makeFolders now p) := by
  unfold Disk.makeFolders
  split
  · exact ⟨rfl, h⟩
  split
  · exact ⟨rfl, h⟩
  split
  · exact ⟨rfl, h⟩
  rw [h.startOf]
  exact h.makeWay (List.forall_mem_cons.mpr
    ⟨hways, fun q hq l hl => hways l (mem_visited_of_wayTo hq hl)⟩)

/-- **A file elsewhere** is written on both disks or on neither. -/
theorem write (h : DifferIn places ways d d')
    (hways : ∀ l ∈ stations (d.startOf p) (Path.names p), ways l) (hp : ¬places (d.place p))
    (octets : ByteArray) :
    Outcomes places ways (outcomeOf d (d.write p octets)) (outcomeOf d' (d'.write p octets)) := by
  unfold Disk.write
  rw [h.resolve_eq hways]
  cases hresolve : d.resolve p with
  | error e => exact ⟨rfl, h⟩
  | ok l =>
    obtain rfl := eq_place_of_resolve hresolve
    dsimp only [Except.bind]
    rw [h.node_eq hp]
    split
    · exact ⟨rfl, h⟩
    · split
      · exact ⟨rfl, h⟩
      · exact ⟨rfl, h.put _ _⟩
    · split
      · exact ⟨rfl, h⟩
      · exact ⟨rfl, h.put _ _⟩

end DifferIn

end Rehearsal.Disk
