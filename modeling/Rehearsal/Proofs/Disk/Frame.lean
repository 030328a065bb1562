import Rehearsal.Proofs.Disk.Place

/-!
# What a change leaves alone

Reading a path needs all folders on the way and the file at the end. So a file stays readable
under a change that **loses no folder** (`Disk.Grows`) and does nothing to the location of
the file, and this is how anything is shown to be kept: name the locations that a change
touches, and stay clear of them.

The changes are two. Writing a file changes one location and makes or replaces a file there.
Making the folders of a path changes any number of locations on the way, but it only makes
folders where there was nothing (`Disk.FoldersMade`), so it is of no harm to any file,
wherever the file is.
-/

namespace Rehearsal.Disk

/-! ## Disks that lose no folder -/

/-- **A disk grown from another**: the folders of the one are folders of the other. -/
structure Grows (d d' : Disk) : Prop where
  home : d'.home = d.home
  folder : ∀ {l : Location} {t : Instant},
    d.node? l = some (.folder t) → d'.node? l = some (.folder t)

namespace Grows

variable {d d' d'' : Disk}

@[refl] theorem refl (d : Disk) : Grows d d := ⟨rfl, id⟩

theorem trans (h : Grows d d') (h' : Grows d' d'') : Grows d d'' :=
  ⟨h'.home.trans h.home, fun hl => h'.folder (h.folder hl)⟩

theorem startOf (h : Grows d d') (p : Path) : d'.startOf p = d.startOf p := by
  rw [Disk.startOf, Disk.startOf, h.home]

theorem place (h : Grows d d') (p : Path) : d'.place p = d.place p := place_eq_of_home h.home p

/-- A walk that ends still does: all the folders on its way are there. -/
theorem walk (h : Grows d d') {here l : Location} {names : List String}
    (hwalk : d.walk here names = .ok l) : d'.walk here names = .ok l := by
  induction names generalizing here with
  | nil => simpa [Disk.walk] using hwalk
  | cons name names ih =>
    unfold Disk.walk at hwalk ⊢
    split at hwalk
    · cases hwalk
    · cases hwalk
    · next t hnode =>
      rw [h.folder hnode]
      dsimp only
      split at hwalk
      · next hdot => rw [if_pos hdot]; exact ih hwalk
      · next hdot =>
        rw [if_neg hdot]
        split at hwalk
        · next hup => rw [if_pos hup]; exact ih hwalk
        · next hup =>
          rw [if_neg hup]
          split at hwalk
          · cases hwalk
          · next hlong => rw [if_neg hlong]; exact ih hwalk

theorem resolve (h : Grows d d') {p : Path} {l : Location} (hp : d.resolve p = .ok l) :
    d'.resolve p = .ok l := by
  obtain ⟨hresolvable, hwalk⟩ := resolve_eq_ok_iff.mp hp
  refine resolve_eq_ok_iff.mpr ⟨hresolvable, ?_⟩
  rw [h.startOf]
  exact h.walk hwalk

end Grows

/-! ## Files read and written -/

/-- What is found is what the path leads to. -/
theorem of_find_eq_ok {d : Disk} {p : Path} {l : Location} {n : Node} 
    (h : d.find p = .ok (l, n)) : d.resolve p = .ok l ∧ d.node? l = some n := by
  unfold find at h
  cases hresolve : d.resolve p with
  | error e =>
    rw [hresolve] at h
    cases h
  | ok l' =>
    simp only [hresolve, Except.bind] at h
    split at h
    · cases h
    · next octets hnode =>
      split at h
      · cases h
      · cases h
        exact ⟨rfl, hnode⟩
    · next created hnode =>
      cases h
      exact ⟨rfl, hnode⟩

/-- **A path reads as octets** if it leads to a file that holds them and asks for no folder. -/
theorem read_eq_ok_iff {d : Disk} {p : Path} {octets : ByteArray} :
    d.read p = .ok octets ↔ Path.asksFolder p = false
      ∧ ∃ l, d.resolve p = .ok l ∧ d.node? l = some (.file octets) := by
  unfold read find
  cases hp : d.resolve p with
  | error e => simp [Except.bind]
  | ok l =>
    cases hl : d.node? l with
    | none => simp [Except.bind, hl]
    | some n =>
      cases n with
      | folder t => simp [Except.bind, hl]
      | file o =>
        cases hfolder : Path.asksFolder p <;> simp [Except.bind, hl]

/-- **What is read** is what is in the place of the path. -/
theorem of_read_eq_ok {d : Disk} {p : Path} {octets : ByteArray} (h : d.read p = .ok octets) :
    d.resolve p = .ok (d.place p) ∧ d.node? (d.place p) = some (.file octets) := by
  obtain ⟨-, l, hresolve, hnode⟩ := read_eq_ok_iff.mp h
  obtain rfl := eq_place_of_resolve hresolve
  exact ⟨hresolve, hnode⟩

/-- **Something is there** if the path leads to it, for a path that asks for no folder. -/
theorem exists?_iff {d : Disk} {p : Path} (hp : Path.asksFolder p = false) :
    d.exists? p = true ↔ d.resolve p = .ok (d.place p) ∧ (d.node? (d.place p)).isSome = true := by
  unfold exists? find
  cases hresolve : d.resolve p with
  | error e => simp [Except.bind, Except.toOption]
  | ok l =>
    obtain rfl := eq_place_of_resolve hresolve
    cases hnode : d.node? (d.place p) with
    | none => simp [Except.bind, Except.toOption, hnode]
    | some n => cases n <;> simp [Except.bind, Except.toOption, hnode, hp]

/-- What is read is there. -/
theorem exists?_of_read {d : Disk} {p : Path} {octets : ByteArray} (h : d.read p = .ok octets) :
    d.exists? p = true := by
  obtain ⟨hresolve, hnode⟩ := of_read_eq_ok h
  exact (exists?_iff (read_eq_ok_iff.mp h).1).mpr ⟨hresolve, by rw [hnode]; rfl⟩

/-- What is not found is not there. -/
theorem exists?_of_read_notFound {d : Disk} {p : Path} (h : d.read p = .error .notFound) :
    d.exists? p = false := by
  unfold read at h
  unfold exists?
  split at h
  · cases h
  · cases h
  · next e hfind =>
    rw [hfind]
    rfl

/-- **A file stays readable** while the disk grows and nothing is done to the file. -/
theorem Grows.read {d d' : Disk} (h : Grows d d') {p : Path} {octets : ByteArray}
    (hread : d.read p = .ok octets) (hnode : d'.node? (d.place p) = d.node? (d.place p)) :
    d'.read p = .ok octets := by
  obtain ⟨hp, hl⟩ := of_read_eq_ok hread
  exact read_eq_ok_iff.mpr ⟨(read_eq_ok_iff.mp hread).1, d.place p, h.resolve hp, hnode.trans hl⟩

/-- **Writing puts a file** where the path leads, in place of a file or of nothing. -/
theorem write_eq_ok_iff {d d' : Disk} {p : Path} {octets : ByteArray} :
    d.write p octets = .ok d' ↔ Path.asksFolder p = false
      ∧ d.resolve p = .ok (d.place p) ∧ (∀ t, d.node? (d.place p) ≠ some (.folder t))
      ∧ d' = d.put (d.place p) (.file octets) := by
  unfold write
  cases hp : d.resolve p with
  | error e => simp [Except.bind]
  | ok l =>
    obtain rfl := eq_place_of_resolve hp
    cases hl : d.node? (d.place p) with
    | none => cases hfolder : Path.asksFolder p <;> simp [Except.bind, hl, eq_comm]
    | some n =>
      cases n with
      | folder t => simp [Except.bind, hl]
      | file o => cases hfolder : Path.asksFolder p <;> simp [Except.bind, hl, eq_comm]

section

variable {d d' : Disk} {p : Path} {octets : ByteArray} (h : d.write p octets = .ok d')
include h

theorem grows_of_write : Grows d d' := by
  obtain ⟨-, -, hnode, rfl⟩ := write_eq_ok_iff.mp h
  refine ⟨rfl, fun {l t} hl => ?_⟩
  have hne : l ≠ d.place p := by
    rintro rfl
    exact hnode t hl
  rw [node?_put_of_ne d hne, hl]

/-- Writing changes one location. -/
theorem node?_of_write {l : Location} (hl : l ≠ d.place p) : d'.node? l = d.node? l := by
  obtain ⟨-, -, -, rfl⟩ := write_eq_ok_iff.mp h
  exact node?_put_of_ne d hl _

/-- **What is written is read.** -/
theorem read_of_write : d'.read p = .ok octets := by
  have hgrows := grows_of_write h
  obtain ⟨hfolder, hp, -, rfl⟩ := write_eq_ok_iff.mp h
  exact read_eq_ok_iff.mpr ⟨hfolder, _, hgrows.resolve hp, node?_put_self _ _ _⟩

end

/-! ## Folders made -/

/-- **Only folders were made**, at one instant, and where there was nothing. -/
structure FoldersMade (now : Instant) (d d' : Disk) : Prop where
  home : d'.home = d.home
  node : ∀ l, d'.node? l = d.node? l ∨ d.node? l = none ∧ d'.node? l = some (.folder now)

namespace FoldersMade

variable {now : Instant} {d d' d'' : Disk}

theorem refl (now : Instant) (d : Disk) : FoldersMade now d d := ⟨rfl, fun _ => Or.inl rfl⟩

theorem trans (h : FoldersMade now d d') (h' : FoldersMade now d' d'') :
    FoldersMade now d d'' := by
  refine ⟨h'.home.trans h.home, fun l => ?_⟩
  rcases h.node l with hl | ⟨hnone, hl⟩
  · exact hl ▸ h'.node l
  · rcases h'.node l with hl' | ⟨hnone', -⟩
    · exact Or.inr ⟨hnone, hl'.trans hl⟩
    · rw [hl] at hnone'
      cases hnone'

/-- What was there is there. -/
theorem node_of_some (h : FoldersMade now d d') {l : Location} {n : Node}
    (hl : d.node? l = some n) : d'.node? l = some n := by
  rcases h.node l with hl' | ⟨hnone, -⟩
  · rw [hl', hl]
  · rw [hl] at hnone
    cases hnone

theorem grows (h : FoldersMade now d d') : Grows d d' := ⟨h.home, h.node_of_some⟩

/-- Every file is a file of before. -/
theorem file_of_file (h : FoldersMade now d d') {l : Location} {octets : ByteArray}
    (hl : d'.node? l = some (.file octets)) : d.node? l = some (.file octets) := by
  rcases h.node l with hl' | ⟨-, hl'⟩
  · rw [← hl', hl]
  · rw [hl] at hl'
    cases hl'

/-- **A readable file stays readable** when folders are made. -/
theorem read (h : FoldersMade now d d') {p : Path} {octets : ByteArray}
    (hread : d.read p = .ok octets) : d'.read p = .ok octets := by
  obtain ⟨hfolder, l, hp, hl⟩ := read_eq_ok_iff.mp hread
  exact read_eq_ok_iff.mpr ⟨hfolder, l, h.grows.resolve hp, h.node_of_some hl⟩

end FoldersMade

theorem foldersMade_put {now : Instant} {d : Disk} {l : Location} (h : d.node? l = none) :
    FoldersMade now d (d.put l (.folder now)) := by
  refine ⟨rfl, fun l' => ?_⟩
  by_cases hl : l' = l
  · subst hl
    exact Or.inr ⟨h, node?_put_self _ _ _⟩
  · exact Or.inl (node?_put_of_ne d hl _)

theorem foldersMade_ensureFolderAt {d d' : Disk} {now : Instant} {start : Location}
    {names : List String} (h : d.ensureFolderAt now start names = .ok d') :
    FoldersMade now d d' := by
  unfold ensureFolderAt at h
  cases hmake : d.makeFolderAt now start names with
  | error e =>
    rw [hmake] at h
    cases e <;> simp only [reduceCtorEq] at h
    split at h
    · cases h
      exact .refl now d
    · cases h
  | ok made =>
    rw [hmake] at h
    cases h
    unfold makeFolderAt at hmake
    cases hwalk : d.walk start names with
    | error e => simp [hwalk, Except.bind] at hmake
    | ok l =>
      cases hl : d.node? l with
      | some n => simp [hwalk, hl, Except.bind] at hmake
      | none =>
        simp only [hwalk, hl, Except.bind, Except.ok.injEq] at hmake
        rw [← hmake]
        exact foldersMade_put hl

theorem foldersMade_makeWay (now : Instant) (start : Location) (way : List (List String))
    (d : Disk) : FoldersMade now d (makeWay now start way d).2 := by
  induction way generalizing d with
  | nil => exact .refl now d
  | cons names way ih =>
    unfold makeWay
    split
    · next hmade => exact foldersMade_ensureFolderAt hmade
    · have hway := ih d
      split
      · next hbelow =>
        rw [hbelow] at hway
        split
        · next hmade => exact hway.trans (foldersMade_ensureFolderAt hmade)
        · exact hway
      · next hbelow =>
        rw [hbelow] at hway
        exact hway
    · exact .refl now d

/-- **Making folders makes only folders**, also where it fails on the way. -/
theorem foldersMade_makeFolders (d : Disk) (now : Instant) (p : Path) :
    FoldersMade now d (d.makeFolders now p).2 := by
  unfold makeFolders
  split
  · exact .refl now d
  split
  · exact .refl now d
  split
  · exact .refl now d
  exact foldersMade_makeWay _ _ _ _

end Rehearsal.Disk
