import Rehearsal.Proofs.Disk.Frame

/-!
# Where walks come

A walk takes one name after the other, and before each it **stands** in a location that has to be a
folder (`Disk.stations`). It ends if all these are folders and no name is too long
(`Disk.walk_eq_ok_iff`), whatever there is where it ends. Where it comes is told by the names alone,
also for the part that the disk does not let it go.
-/

namespace Rehearsal.Disk

/-- There is a folder at a location. -/
def FolderAt (d : Disk) (l : Location) : Prop := ∃ t, d.node? l = some (.folder t)

/-- There is a file at a location. -/
def FileAt (d : Disk) (l : Location) : Prop := ∃ octets, d.node? l = some (.file octets)

/-- A name that is short enough. -/
def Fits (name : String) : Prop := name.utf8ByteSize ≤ nameLimit

instance (name : String) : Decidable (Fits name) := inferInstanceAs (Decidable (_ ≤ _))

variable {d d' : Disk} {here start l : Location} {name : String} {names ns : List String}
  {now : Instant}

theorem FolderAt.not_fileAt (h : d.FolderAt l) : ¬d.FileAt l := by
  rintro ⟨octets, hfile⟩
  obtain ⟨t, hfolder⟩ := h
  rw [hfolder] at hfile
  cases hfile

/-- Where there is no file, there is a folder or nothing. -/
theorem folderAt_or_none (h : ¬d.FileAt l) : d.FolderAt l ∨ d.node? l = none := by
  cases hnode : d.node? l with
  | none => exact Or.inr rfl
  | some n =>
    cases n with
    | file octets => exact absurd ⟨octets, hnode⟩ h
    | folder t => exact Or.inl ⟨t, hnode⟩

theorem FoldersMade.folderAt (h : FoldersMade now d d') (hl : d.FolderAt l) : d'.FolderAt l :=
  ⟨hl.choose, h.node_of_some hl.choose_spec⟩

theorem FoldersMade.not_fileAt (h : FoldersMade now d d') (hl : ¬d.FileAt l) : ¬d'.FileAt l :=
  fun ⟨octets, hfile⟩ => hl ⟨octets, h.file_of_file hfile⟩

/-! ## Walking -/

/-- Where a name leads from a location. -/
def next (here : Location) (name : String) : Location := target here [name]

theorem target_cons (here : Location) (name : String) (names : List String) :
    target here (name :: names) = target (next here name) names :=
  target_append here [name] names

/-- **Where a walk stands** before it takes each name. -/
def stations : Location → List String → List Location
  | _, [] => []
  | here, name :: names => here :: stations (next here name) names

/-- **Where a walk comes**: where it stands, and where it ends. -/
def visited (here : Location) (names : List String) : List Location :=
  stations here names ++ [target here names]

theorem visited_cons (here : Location) (name : String) (names : List String) :
    visited here (name :: names) = here :: visited (next here name) names := by
  rw [visited, target_cons]
  rfl

theorem mem_visited : l ∈ visited here names ↔ l ∈ stations here names ∨ l = target here names := by
  rw [visited, List.mem_append, List.mem_singleton]

theorem here_mem_visited (here : Location) (names : List String) : here ∈ visited here names := by
  cases names with
  | nil => exact List.mem_singleton_self here
  | cons name names =>
    rw [visited_cons]
    exact List.mem_cons_self

theorem stations_append (here : Location) (ns ns' : List String) :
    stations here (ns ++ ns') = stations here ns ++ stations (target here ns) ns' := by
  induction ns generalizing here with
  | nil => rfl
  | cons name ns ih =>
    rw [List.cons_append, stations, ih, target_cons]
    rfl

theorem visited_append (here : Location) (ns ns' : List String) :
    visited here (ns ++ ns') = stations here ns ++ visited (target here ns) ns' := by
  rw [visited, visited, stations_append, target_append, List.append_assoc]

/-- A walk comes wherever the beginning of it comes. -/
theorem mem_visited_append (h : l ∈ visited here ns) (ns' : List String) :
    l ∈ visited here (ns ++ ns') := by
  rw [visited_append, List.mem_append]
  rcases mem_visited.mp h with h | rfl
  · exact Or.inl h
  · exact Or.inr (here_mem_visited _ _)

/-- The name `.` leads nowhere else. -/
theorem mem_visited_of_filter (h : l ∈ visited here (names.filter (· ≠ "."))) :
    l ∈ visited here names := by
  induction names generalizing here with
  | nil => exact h
  | cons name names ih =>
    rw [visited_cons]
    by_cases hdot : name = "."
    · subst hdot
      rw [List.filter_cons_of_neg (by simp)] at h
      exact List.mem_cons_of_mem _ (ih h)
    · rw [List.filter_cons_of_pos (by simpa using hdot), visited_cons] at h
      rcases List.mem_cons.mp h with rfl | h
      · exact List.mem_cons_self
      · exact List.mem_cons_of_mem _ (ih h)

/-- A walk that goes up nowhere comes only to what is above its end. -/
theorem prefix_of_mem_visited (hup : ".." ∉ names) (h : l ∈ visited here names) :
    l <+: target here names := by
  induction names generalizing here with
  | nil =>
    obtain rfl := List.mem_singleton.mp h
    exact List.prefix_refl l
  | cons name names ih =>
    rw [visited_cons] at h
    rcases List.mem_cons.mp h with rfl | h
    · exact prefix_target hup l
    · rw [target_cons]
      exact ih (fun hmem => hup (List.mem_cons_of_mem _ hmem)) h

/-- A folder lets the walk go on, unless the next name is too long. -/
theorem walk_cons_of_folderAt (h : d.FolderAt here) (name : String) (names : List String) :
    d.walk here (name :: names)
      = if nameLimit < name.utf8ByteSize then .error .nameTooLong
        else d.walk (next here name) names := by
  obtain ⟨t, hnode⟩ := h
  rw [walk, hnode]
  dsimp only
  by_cases hdot : name = "."
  · subst hdot
    rfl
  · rw [if_neg hdot]
    by_cases hup : name = ".."
    · subst hup
      rfl
    · rw [if_neg hup, next, target, if_neg hdot, if_neg hup]
      rfl

theorem walk_cons_of_none (h : d.node? here = none) (name : String) (names : List String) :
    d.walk here (name :: names) = .error .notFound := by
  rw [walk, h]

theorem walk_cons_of_fileAt (h : d.FileAt here) (name : String) (names : List String) :
    d.walk here (name :: names) = .error .notFolder := by
  obtain ⟨octets, hnode⟩ := h
  rw [walk, hnode]

/-- **A walk ends** if it stands in folders and no name is too long. -/
theorem walk_eq_ok_iff : d.walk here names = .ok (target here names)
    ↔ (∀ l ∈ stations here names, d.FolderAt l) ∧ ∀ name ∈ names, Fits name := by
  induction names generalizing here with
  | nil => simp [walk, target, stations]
  | cons name names ih =>
    rw [stations, List.forall_mem_cons, List.forall_mem_cons, target_cons]
    by_cases hhere : d.FolderAt here
    · rw [walk_cons_of_folderAt hhere]
      split
      · next hlong =>
        refine iff_of_false (by simp) fun h => ?_
        exact absurd h.2.1 (Nat.not_le_of_gt hlong)
      · next hfits =>
        rw [ih]
        exact ⟨fun h => ⟨⟨hhere, h.1⟩, Nat.le_of_not_gt hfits, h.2⟩, fun h => ⟨h.1.2, h.2.2⟩⟩
    · refine iff_of_false (fun h => ?_) fun h => hhere h.1.1
      unfold walk at h
      split at h
      · cases h
      · cases h
      · next t hnode => exact hhere ⟨t, hnode⟩

theorem walk_append (d : Disk) (here : Location) (ns ns' : List String) :
    d.walk here (ns ++ ns') = (d.walk here ns).bind fun l => d.walk l ns' := by
  induction ns generalizing here with
  | nil => rfl
  | cons name ns ih =>
    rw [List.cons_append]
    by_cases hhere : d.FolderAt here
    · rw [walk_cons_of_folderAt hhere, walk_cons_of_folderAt hhere]
      split
      · rfl
      · exact ih _
    · by_cases hfile : d.FileAt here
      · rw [walk_cons_of_fileAt hfile, walk_cons_of_fileAt hfile]
        rfl
      · have hnone := (folderAt_or_none hfile).resolve_left hhere
        rw [walk_cons_of_none hnone, walk_cons_of_none hnone]
        rfl

/-- Where there are no files and no name is too long, a walk ends or finds something missing. -/
theorem walk_of_not_fileAt (hway : ∀ l ∈ stations here names, ¬d.FileAt l)
    (hfits : ∀ name ∈ names, Fits name) :
    d.walk here names = .ok (target here names) ∨ d.walk here names = .error .notFound := by
  induction names generalizing here with
  | nil => exact Or.inl rfl
  | cons name names ih =>
    rw [stations, List.forall_mem_cons] at hway
    rw [List.forall_mem_cons] at hfits
    rcases folderAt_or_none hway.1 with hhere | hnone
    · rw [walk_cons_of_folderAt hhere, if_neg (Nat.not_lt_of_ge hfits.1), target_cons]
      exact ih hway.2 hfits.2
    · exact Or.inr (walk_cons_of_none hnone name names)

/-! ## Looking up -/

/-- **What a walk leads to**, if there is anything. -/
def lookup (d : Disk) (here : Location) (names : List String) :
    Except FileError (Location × Node) :=
  (d.walk here names).bind fun l =>
    match d.node? l with
    | none => .error .notFound
    | some n => .ok (l, n)

theorem lookup_nil (d : Disk) (here : Location) :
    d.lookup here []
      = match d.node? here with
        | none => .error .notFound
        | some n => .ok (here, n) := rfl

theorem lookup_of_none (h : d.node? here = none) (names : List String) :
    d.lookup here names = .error .notFound := by
  cases names with
  | nil => rw [lookup_nil, h]
  | cons name names =>
    rw [lookup, walk_cons_of_none h]
    rfl

theorem lookup_cons_of_fileAt (h : d.FileAt here) (name : String) (names : List String) :
    d.lookup here (name :: names) = .error .notFolder := by
  rw [lookup, walk_cons_of_fileAt h]
  rfl

theorem lookup_cons_of_folderAt (h : d.FolderAt here) (name : String) (names : List String) :
    d.lookup here (name :: names)
      = if nameLimit < name.utf8ByteSize then .error .nameTooLong
        else d.lookup (next here name) names := by
  rw [lookup, walk_cons_of_folderAt h]
  split <;> rfl

/-- **A walk by one name more** goes on from what the walk leads to. -/
theorem walk_concat (d : Disk) (here : Location) (names : List String) (name : String) :
    d.walk here (names ++ [name])
      = (d.lookup here names).bind fun found =>
          match found.2 with
          | .file _ => .error .notFolder
          | .folder _ =>
            if nameLimit < name.utf8ByteSize then .error .nameTooLong
            else .ok (next found.1 name) := by
  rw [walk_append, lookup]
  cases d.walk here names with
  | error e => rfl
  | ok l =>
    show d.walk l [name] = _
    cases hnode : d.node? l with
    | none =>
      rw [walk_cons_of_none hnode]
      simp [Except.bind, hnode]
    | some n =>
      cases n with
      | file octets =>
        rw [walk_cons_of_fileAt ⟨octets, hnode⟩]
        simp [Except.bind, hnode]
      | folder t =>
        rw [walk_cons_of_folderAt ⟨t, hnode⟩]
        simp [Except.bind, hnode, walk]

/-- Two disks find the same where their walks lead to the same. -/
theorem find_congr {p : Path} (hstart : d'.startOf p = d.startOf p)
    (h : d'.lookup (d.startOf p) (Path.names p) = d.lookup (d.startOf p) (Path.names p)) :
    d'.find p = d.find p := by
  have hfind : ∀ d : Disk, d.find p
      = if '\x00' ∈ p.toList then .error .nulInPath
        else if p = "" then .error .notFound
        else if pathLimit < p.utf8ByteSize then .error .nameTooLong
        else (d.lookup (d.startOf p) (Path.names p)).bind fun found =>
          match found.2 with
          | .file octets =>
            if Path.asksFolder p then .error .notFolder else .ok (found.1, .file octets)
          | .folder created => .ok (found.1, .folder created) := by
    intro d
    unfold find resolve
    split
    · rfl
    split
    · rfl
    split
    · rfl
    rw [lookup]
    cases d.walk (d.startOf p) (Path.names p) with
    | error e => rfl
    | ok l =>
      cases hnode : d.node? l with
      | none => simp [Except.bind, hnode]
      | some n => cases n <;> simp [Except.bind, hnode]
  rw [hfind, hfind, hstart, h]

end Rehearsal.Disk
