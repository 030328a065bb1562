import Rehearsal.Proofs.Disk.Folders
import Rehearsal.Proofs.Text.Pieces

/-!
# Disks that are trees

A disk in use is a tree: whatever is there is in a folder, under a name of its own, and the working
folder is there (`Disk.IsTree`). What is done to a disk keeps it a tree, since a walk that ends has
stood in the folder above (`Disk.IsTree.exists_above`), and so there is never anything below what is
missing (`Disk.IsTree.node?_of_prefix`).
-/

namespace Rehearsal

/-- The names of a path are names. -/
theorem Path.isName_of_mem_names {p : Path} {name : String} (h : name ∈ Path.names p) :
    Path.IsName name := by
  obtain ⟨piece, hpiece, rfl⟩ := List.mem_map.mp h
  obtain ⟨hmem, hne⟩ := List.mem_filter.mp hpiece
  have hslash : '/' ∉ piece := (Text.of_mem_splitOn hmem).2
  refine ⟨fun hempty => ?_, by rwa [String.toList_ofList]⟩
  rw [String.ofList_eq_empty_iff.mp hempty] at hne
  simp at hne

namespace Disk

/-- **A disk that is a tree**: what is there is in a folder, under a name of its own, and the working
folder is there. -/
structure IsTree (d : Disk) : Prop where
  above : ∀ {l : Location} {name : String}, (d.node? (l ++ [name])).isSome = true → d.FolderAt l
  named : ∀ {l : Location} {name : String}, (d.node? (l ++ [name])).isSome = true →
    Path.IsName name ∧ name ≠ "." ∧ name ≠ ".."
  home : d.FolderAt d.home

variable {d d' : Disk} {here start l l' : Location} {names : List String} {now : Instant}

/-! ## Removing -/

/-- **What goes when a path is removed**: what it leads to, and all that is below. -/
def Goes (d : Disk) (p : Path) (l : Location) : Prop := ∃ l', d.resolve p = .ok l' ∧ l' <+: l

theorem Goes.place_prefix {p : Path} (h : d.Goes p l) : d.place p <+: l := by
  obtain ⟨l', hresolve, hl'⟩ := h
  exact eq_place_of_resolve hresolve ▸ hl'

theorem node?_remove_of_goes {p : Path} (h : d.Goes p l) : (d.remove p).node? l = none := by
  obtain ⟨l', hresolve, hl'⟩ := h
  rw [remove, hresolve]
  show (d.nodes.filterKeys fun k => decide ¬l'.isPrefixOf k).get? l = none
  rw [SortedMap.get?_filterKeys, if_neg (by simpa using hl')]

theorem node?_remove_of_not_goes {p : Path} (h : ¬d.Goes p l) :
    (d.remove p).node? l = d.node? l := by
  unfold remove
  split
  · next l' hresolve =>
    have hl' : ¬l' <+: l := fun hl' => h ⟨l', hresolve, hl'⟩
    show (d.nodes.filterKeys fun k => decide ¬l'.isPrefixOf k).get? l = _
    rw [SortedMap.get?_filterKeys, if_pos (by simpa using hl')]
    rfl
  · rfl

theorem home_remove (d : Disk) (p : Path) : (d.remove p).home = d.home := by
  unfold remove
  split <;> rfl

/-- Nothing is there after removing that was not there before. -/
theorem node?_of_remove {p : Path} {n : Node} (h : (d.remove p).node? l = some n) :
    ¬d.Goes p l ∧ d.node? l = some n := by
  by_cases hgoes : d.Goes p l
  · rw [node?_remove_of_goes hgoes] at h
    cases h
  · exact ⟨hgoes, node?_remove_of_not_goes hgoes ▸ h⟩

theorem FileAt.of_remove {p : Path} (h : (d.remove p).FileAt l) : d.FileAt l :=
  ⟨h.choose, (node?_of_remove h.choose_spec).2⟩

namespace IsTree

/-- Above what is there, there are folders. -/
theorem folderAt_of_prefix (h : d.IsTree) {below : List String} (hbelow : below ≠ [])
    (hl : (d.node? (l ++ below)).isSome = true) : d.FolderAt l := by
  induction below using List.reverseRecOn with
  | nil => exact absurd rfl hbelow
  | append_singleton below name ih =>
    rw [← List.append_assoc] at hl
    obtain ⟨t, habove⟩ := h.above hl
    by_cases hnil : below = []
    · subst hnil
      rw [List.append_nil] at habove
      exact ⟨t, habove⟩
    · exact ih hnil (by rw [habove]; rfl)

/-- **Below what is missing, there is nothing.** -/
theorem node?_of_prefix (h : d.IsTree) (habove : l <+: l') (hl : d.node? l = none) :
    d.node? l' = none := by
  obtain ⟨below, rfl⟩ := habove
  by_cases hbelow : below = []
  · rw [hbelow, List.append_nil, hl]
  · by_contra hsome
    obtain ⟨t, hfolder⟩ := h.folderAt_of_prefix hbelow (Option.isSome_iff_ne_none.mpr hsome)
    rw [hl] at hfolder
    cases hfolder

/-- The folder above a folder, if any, is one. -/
theorem folderAt_dropLast (h : d.IsTree) (hl : d.FolderAt l) : d.FolderAt l.dropLast := by
  rcases List.eq_nil_or_concat l with rfl | ⟨above, name, rfl⟩
  · exact hl
  · rw [List.concat_eq_append] at hl ⊢
    rw [List.dropLast_concat]
    exact h.above (by rw [hl.choose_spec]; rfl)

/-- Paths start in folders. -/
theorem folderAt_startOf (h : d.IsTree) (p : Path) : d.FolderAt (d.startOf p) := by
  unfold startOf
  split
  · rcases Classical.em (d.home = []) with hhome | hhome
    · exact hhome ▸ h.home
    · refine h.folderAt_of_prefix (l := []) hhome ?_
      rw [List.nil_append, h.home.choose_spec]
      rfl
  · exact h.home

/-- **Where a walk ends at no folder**, it has stood in the one above. -/
theorem exists_above (h : d.IsTree) (hstart : d.FolderAt start)
    (hwalk : d.walk start names = .ok l) (hl : ¬d.FolderAt l) :
    ∃ above name, l = above ++ [name] ∧ d.FolderAt above ∧ name ∈ names ∧ name ≠ "."
      ∧ name ≠ ".." := by
  obtain rfl := eq_target_of_walk hwalk
  rcases List.eq_nil_or_concat names with rfl | ⟨ns, name, rfl⟩
  · exact absurd hstart hl
  · rw [List.concat_eq_append] at hwalk hl ⊢
    have habove : d.FolderAt (target start ns) := by
      refine (walk_eq_ok_iff.mp hwalk).1 _ ?_
      rw [stations_append]
      exact List.mem_append_right _ List.mem_cons_self
    rw [target_append] at hl ⊢
    have hdot : name ≠ "." := by
      rintro rfl
      exact hl habove
    have hup : name ≠ ".." := by
      rintro rfl
      exact hl (h.folderAt_dropLast habove)
    refine ⟨target start ns, name, ?_, habove, by simp, hdot, hup⟩
    rw [target, if_neg hdot, if_neg hup]
    rfl

/-- A disk with nothing on it is a tree. -/
theorem fresh (now : Instant) : (Disk.fresh now []).IsTree := by
  have hmissing : ∀ {l : Location} {name : String},
      (Disk.fresh now []).node? (l ++ [name]) = none := by
    intro l name
    have hput : (Disk.fresh now []).node? (l ++ [name])
        = ((SortedMap.empty : SortedMap Location Node).insert [] (.folder now)).get? (l ++ [name]) :=
      rfl
    rw [hput, SortedMap.get?_insert_of_ne _ (by simp), SortedMap.get?_empty]
  refine ⟨fun hsome => ?_, fun hsome => ?_, ⟨now, rfl⟩⟩
  · rw [hmissing] at hsome
    cases hsome
  · rw [hmissing] at hsome
    cases hsome

/-- **Something put in a folder**, and not in place of a folder, leaves a tree. -/
theorem put (h : d.IsTree) {name : String} (habove : d.FolderAt l) (hname : Path.IsName name)
    (hdot : name ≠ ".") (hup : name ≠ "..") (hl : ¬d.FolderAt (l ++ [name])) (n : Node) :
    (d.put (l ++ [name]) n).IsTree := by
  have hfolder : ∀ {l' : Location}, d.FolderAt l' → (d.put (l ++ [name]) n).FolderAt l' := by
    rintro l' ⟨t, hnode⟩
    have hne : l' ≠ l ++ [name] := by
      rintro rfl
      exact hl ⟨t, hnode⟩
    exact ⟨t, (node?_put_of_ne d hne n).trans hnode⟩
  refine ⟨fun {l' name'} hsome => ?_, fun {l' name'} hsome => ?_, hfolder h.home⟩
  · by_cases heq : l' ++ [name'] = l ++ [name]
    · rw [(List.append_inj' heq rfl).1]
      exact hfolder habove
    · rw [node?_put_of_ne d heq] at hsome
      exact hfolder (h.above hsome)
  · by_cases heq : l' ++ [name'] = l ++ [name]
    · obtain rfl : name' = name := List.head_eq_of_cons_eq (List.append_inj' heq rfl).2
      exact ⟨hname, hdot, hup⟩
    · rw [node?_put_of_ne d heq] at hsome
      exact h.named hsome

/-- **A folder made where a walk ends** leaves a tree. -/
theorem ensureFolderAt (h : d.IsTree) (hstart : d.FolderAt start)
    (hnames : ∀ name ∈ names, Path.IsName name)
    (hensure : d.ensureFolderAt now start names = .ok d') : d'.IsTree := by
  rw [ensureFolderAt_eq] at hensure
  cases hwalk : d.walk start names with
  | error e =>
    rw [hwalk] at hensure
    cases hensure
  | ok l =>
    rw [hwalk] at hensure
    have hfolder : d.withFolder now l = .ok d' := hensure
    by_cases hl : d.FolderAt l
    · rw [withFolder_of_folderAt hl] at hfolder
      cases hfolder
      exact h
    · obtain ⟨above, name, rfl, habove, hname, hdot, hup⟩ := h.exists_above hstart hwalk hl
      unfold withFolder at hfolder
      split at hfolder
      · cases hfolder
        exact h.put habove (hnames name hname) hdot hup hl _
      · next t hnode => exact absurd ⟨t, hnode⟩ hl
      · cases hfolder

theorem makeWay (h : d.IsTree) (hstart : d.FolderAt start) {way : List (List String)}
    (hway : ∀ names ∈ way, ∀ name ∈ names, Path.IsName name) :
    (makeWay now start way d).2.IsTree := by
  induction way generalizing d with
  | nil => exact h
  | cons names way ih =>
    rw [List.forall_mem_cons] at hway
    have hbelow := ih h hstart hway.2
    have hmade := foldersMade_makeWay now start way d
    unfold Disk.makeWay
    split
    · next hensure => exact h.ensureFolderAt hstart hway.1 hensure
    · split
      · next hbelow' =>
        rw [hbelow'] at hbelow hmade
        split
        · next hensure => exact hbelow.ensureFolderAt (hmade.folderAt hstart) hway.1 hensure
        · exact hbelow
      · next hbelow' =>
        rw [hbelow'] at hbelow
        exact hbelow
    · exact h

/-- **Making the folders of a path** leaves a tree. -/
theorem makeFolders (h : d.IsTree) (now : Instant) (p : Path) :
    (d.makeFolders now p).2.IsTree := by
  unfold Disk.makeFolders
  split
  · exact h
  split
  · exact h
  split
  · exact h
  refine h.makeWay (h.folderAt_startOf p) (List.forall_mem_cons.mpr ⟨?_, ?_⟩)
  · exact fun name hname => Path.isName_of_mem_names hname
  · intro names hnames name hname
    refine Path.isName_of_mem_names (mem_of_mem_wayTo hnames hname)

/-- **Writing a file** leaves a tree. -/
theorem write (h : d.IsTree) {p : Path} {octets : ByteArray} (hwrite : d.write p octets = .ok d') :
    d'.IsTree := by
  obtain ⟨-, hresolve, hl, rfl⟩ := write_eq_ok_iff.mp hwrite
  have hfolder : ¬d.FolderAt (d.place p) := fun ⟨t, hnode⟩ => hl t hnode
  obtain ⟨above, name, heq, habove, hname, hdot, hup⟩ :=
    h.exists_above (h.folderAt_startOf p) (resolve_eq_ok_iff.mp hresolve).2 hfolder
  rw [heq] at hfolder ⊢
  exact h.put habove (Path.isName_of_mem_names hname) hdot hup hfolder _

/-- **Removing a path** leaves a tree, unless the working folder is removed. -/
theorem remove (h : d.IsTree) {p : Path} (hhome : ¬d.place p <+: d.home) :
    (d.remove p).IsTree := by
  refine ⟨fun {l name} hsome => ?_, fun {l name} hsome => ?_, ?_⟩
  · obtain ⟨n, hnode⟩ := Option.isSome_iff_exists.mp hsome
    obtain ⟨hstays, hnode⟩ := node?_of_remove hnode
    obtain ⟨t, habove⟩ := h.above (Option.isSome_iff_exists.mpr ⟨n, hnode⟩)
    refine ⟨t, (node?_remove_of_not_goes fun hgoes => hstays ?_).trans habove⟩
    -- what is below something that goes, goes with it
    obtain ⟨l', hresolve, hl'⟩ := hgoes
    exact ⟨l', hresolve, hl'.trans (List.prefix_append l [name])⟩
  · obtain ⟨n, hnode⟩ := Option.isSome_iff_exists.mp hsome
    exact h.named (Option.isSome_iff_exists.mpr ⟨n, (node?_of_remove hnode).2⟩)
  · obtain ⟨t, hfolder⟩ := h.home
    have hstays : ¬d.Goes p d.home := fun hgoes => hhome hgoes.place_prefix
    rw [home_remove]
    exact ⟨t, (node?_remove_of_not_goes hstays).trans hfolder⟩

end IsTree

end Disk

end Rehearsal
