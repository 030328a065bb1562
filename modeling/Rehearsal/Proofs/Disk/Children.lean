import Rehearsal.Proofs.Disk.Document

/-!
# What is in a folder

What is listed in a folder is what is at the locations one name further (`Disk.mem_children_iff`),
each name once and in the order of the names (`Disk.children_ascending`). So what is in a folder is
told by the look-ups (`Disk.children_congr`).

A folder is listed where its path leads to one (`Disk.list_of_isFolder`), and nothing is listed
otherwise. That is so whenever a path into it leads somewhere (`Disk.isFolder_of_resolve_join`), but
not for the empty path: it is a path into the working folder when joined with a name, and by itself
it leads nowhere.
-/

namespace Rehearsal.Disk

variable {d d' : Disk} {l : Location} {name : String} {n : Node} {p q : Path}

/-- **What is in a folder**: something at the location one name further. -/
theorem mem_children_iff : (name, n) ∈ d.children l ↔ d.node? (l ++ [name]) = some n := by
  rw [node?, ← SortedMap.mem_entries_iff]
  refine ⟨fun h => ?_, fun h => List.mem_filterMap.mpr ⟨(l ++ [name], n), h, by simp⟩⟩
  obtain ⟨⟨key, n'⟩, hentry, hkey⟩ := List.mem_filterMap.mp h
  obtain ⟨last, hlast, hsome⟩ := Option.bind_eq_some_iff.mp hkey
  split at hsome
  · next habove =>
    cases hsome
    have heq : key = l ++ [name] := by
      rw [← habove]
      exact (List.dropLast_append_getLast? name hlast).symm
    exact heq ▸ hentry
  · cases hsome

/-- **In the order of the names**, and so each name once. -/
theorem children_ascending (d : Disk) (l : Location) :
    (d.children l).Pairwise fun a b => compare (l ++ [a.1]) (l ++ [b.1]) = .lt := by
  have hkey : ∀ {e : Location × Node} {a : String × Node},
      (e.1.getLast?.bind fun name => if e.1.dropLast = l then some (name, e.2) else none) = some a →
      e.1 = l ++ [a.1] := by
    intro e a h
    obtain ⟨last, hlast, hsome⟩ := Option.bind_eq_some_iff.mp h
    split at hsome
    · next habove =>
      cases hsome
      rw [← habove]
      exact (List.dropLast_append_getLast? last hlast).symm
    · cases hsome
  refine d.nodes.ascending.filterMap _ fun e e' hlt a ha a' ha' => ?_
  rw [← hkey ha, ← hkey ha']
  exact hlt

/-- **What is in a folder** is told by what is at the locations in it. -/
theorem children_congr (h : ∀ name, d'.node? (l ++ [name]) = d.node? (l ++ [name])) :
    d'.children l = d.children l := by
  refine SortedMap.eq_of_mem_iff (d'.children_ascending l) (d.children_ascending l) ?_
  rintro ⟨name, n⟩
  rw [mem_children_iff, mem_children_iff, h]

/-- What is listed is directly in the folder. -/
theorem node?_of_mem_list {found : List (String × Node)} (h : d.list p = .ok (l, found))
    (hmem : (name, n) ∈ found) : d.node? (l ++ [name]) = some n := by
  unfold list at h
  split at h
  · cases h
    exact mem_children_iff.mp hmem
  · cases h
  · cases h

/-- **A path leads to a folder** if it resolves and a folder is there. -/
theorem isFolder_iff :
    d.isFolder p = true ↔ d.resolve p = .ok (d.place p) ∧ d.FolderAt (d.place p) := by
  refine ⟨fun h => ?_, fun ⟨hresolve, t, hnode⟩ => ?_⟩
  · obtain ⟨hresolve, hroute⟩ := of_isFolder h
    exact ⟨hresolve, hroute _ (mem_visited.mpr (Or.inr rfl))⟩
  · unfold isFolder find
    rw [hresolve]
    simp [Except.bind, hnode]

/-- The empty path leads nowhere. -/
theorem isFolder_empty (d : Disk) : d.isFolder "" = false := rfl

/-- **A folder is listed** with what is in it. -/
theorem list_of_isFolder (h : d.isFolder p = true) :
    d.list p = .ok (d.place p, d.children (d.place p)) := by
  obtain ⟨hresolve, t, hnode⟩ := isFolder_iff.mp h
  have hfind : d.find p = .ok (d.place p, .folder t) := by
    unfold find
    rw [hresolve]
    simp [Except.bind, hnode]
  rw [list, hfind]

/-- What is no folder is not listed. -/
theorem list_of_not_isFolder (h : d.isFolder p ≠ true) : ∃ e, d.list p = .error e := by
  unfold isFolder at h
  unfold list
  split
  · next l t hfind =>
    rw [hfind] at h
    exact absurd rfl h
  · exact ⟨_, rfl⟩
  · exact ⟨_, rfl⟩

/-- **What is read** is a file that the path leads to. -/
theorem read_eq_ok_iff_find {octets : ByteArray} :
    d.read p = .ok octets ↔ ∃ l, d.find p = .ok (l, .file octets) := by
  unfold read
  split
  · next l octets' hfind => simp [hfind]
  · next l t hfind => simp [hfind]
  · next e hfind => simp [hfind]

/-! ## Paths into a folder -/

theorem Resolvable.of_join (h : Resolvable (Path.join p q)) (hq : Path.IsName q) (hp : p ≠ "") :
    Resolvable p := by
  obtain ⟨between, hjoin⟩ : ∃ between, Path.join p q = p ++ between := by
    unfold Path.join
    rw [Path.not_isAbsolute_of_isName hq, if_neg (by simpa using hp)]
    split
    · exact ⟨q, rfl⟩
    · exact ⟨"/" ++ q, String.append_assoc⟩
  obtain ⟨hnul, -, hlong⟩ := h
  rw [hjoin] at hnul hlong
  refine ⟨fun hmem => hnul ?_, hp, ?_⟩
  · rw [String.toList_append]
    exact List.mem_append_left _ hmem
  · rw [String.utf8ByteSize_append] at hlong
    exact (Nat.le_add_right _ _).trans hlong

/-- **A path into a folder** that leads somewhere has the folder above. -/
theorem isFolder_of_resolve_join (h : d.resolve (Path.join p q) = .ok l) (hq : Path.IsName q)
    (hp : p ≠ "") : d.isFolder p = true := by
  obtain rfl := eq_place_of_resolve h
  obtain ⟨hresolvable, hwalk⟩ := resolve_eq_ok_iff.mp h
  obtain ⟨hstations, hfits⟩ := walk_eq_ok_iff.mp hwalk
  rw [startOf, Path.isAbsolute_join p hq, Path.names_join p hq] at hstations
  rw [Path.names_join p hq] at hfits
  rw [stations_append, List.forall_mem_append] at hstations
  refine isFolder_iff.mpr ⟨resolve_eq_ok_iff.mpr ⟨hresolvable.of_join hq hp, ?_⟩, ?_⟩
  · exact walk_eq_ok_iff.mpr
      ⟨hstations.1, fun name hname => hfits name (List.mem_append_left _ hname)⟩
  · exact hstations.2 _ List.mem_cons_self

end Rehearsal.Disk
