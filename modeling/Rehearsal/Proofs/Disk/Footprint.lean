import Rehearsal.Proofs.Disk.Tree

/-!
# Disks side by side

A store that keeps its document in a file changes little of the disk, its **footprint**: the folders
that are missing on the way to the document, and the document (`Footprint`). Two disks may differ in
that and agree in all else (`Disk.Beside`), such as one that a store has written to and one that it
has not.

Whoever stays clear of the footprint cannot tell one from the other. A path may lead through a
folder of the footprint, if it goes on downwards: where the folder is missing nothing is found, and
where it is there it holds nothing else (`Disk.Beside.lookup_eq`). So what is read is the same, and
what is written or made leaves two disks that are again beside each other.
-/

namespace Rehearsal

open Disk (next target visited stations Fits)

/-- **What a store changes on a disk**: folders that are missing on the way to its document, and the
document. -/
structure Footprint where
  missing : Location → Prop
  document : Location

namespace Footprint

variable (k : Footprint)

/-- A location in the footprint. -/
def Covers (l : Location) : Prop := k.missing l ∨ l = k.document

/-- **A walk clear of the footprint.** It does not come to the document, it does not end in a folder
that is missing, and from such a folder it does not go up, nor by a name that is too long. -/
def Clear : Location → List String → Prop
  | here, [] => ¬k.Covers here
  | here, name :: names =>
    here ≠ k.document ∧ (k.missing here → name ≠ ".." ∧ Fits name)
      ∧ Clear (next here name) names

/-- **A path with all below it clear of the footprint.** -/
structure Spares (d : Disk) (p : Path) : Prop where
  clear : k.Clear (d.startOf p) (Path.names p)
  below : ∀ {l : Location}, d.place p <+: l → ¬k.Covers l

variable {k} {here : Location} {names ns : List String} {d : Disk} {p : Path} {q : String}

theorem Clear.not_covers_target (h : k.Clear here names) : ¬k.Covers (target here names) := by
  induction names generalizing here with
  | nil => exact h
  | cons name names ih =>
    rw [Disk.target_cons]
    exact ih h.2.2

/-- A walk that is clear does not come to the document. -/
theorem Clear.document_not_mem (h : k.Clear here names) : k.document ∉ visited here names := by
  induction names generalizing here with
  | nil =>
    rw [visited, List.mem_append, List.mem_singleton]
    rintro (hmem | hdocument)
    · cases hmem
    · exact h (Or.inr hdocument.symm)
  | cons name names ih =>
    rw [Disk.visited_cons, List.mem_cons, not_or]
    exact ⟨fun heq => h.1 heq.symm, ih h.2.2⟩

theorem Clear.append (h : k.Clear here names) (h' : k.Clear (target here names) ns) :
    k.Clear here (names ++ ns) := by
  induction names generalizing here with
  | nil => exact h'
  | cons name names ih =>
    rw [Disk.target_cons] at h'
    exact ⟨h.1, h.2.1, ih h.2.2 h'⟩

/-- **What is below a path that is spared** is spared. -/
theorem Spares.join (h : k.Spares d p) (hq : Path.IsName q) (hdot : q ≠ ".") (hup : q ≠ "..") :
    k.Spares d (Path.join p q) := by
  have hplace := Disk.place_join d p hq hdot hup
  have hstart : d.startOf (Path.join p q) = d.startOf p := by
    rw [Disk.startOf, Disk.startOf, Path.isAbsolute_join p hq]
  refine ⟨?_, fun hl => h.below ((List.prefix_append _ _).trans (hplace ▸ hl))⟩
  rw [hstart, Path.names_join p hq]
  refine h.clear.append ?_
  have hhere := h.below (List.prefix_refl (d.place p))
  have hnext : ¬k.Covers (next (d.place p) q) := by
    refine h.below ?_
    rw [next, target, if_neg hdot, if_neg hup]
    exact List.prefix_append _ _
  exact ⟨fun heq => hhere (Or.inr heq), fun hmissing => absurd (Or.inl hmissing) hhere, hnext⟩

theorem Spares.of_home (h : k.Spares d p) {d' : Disk} (hhome : d'.home = d.home) :
    k.Spares d' p := by
  have hstart : d'.startOf p = d.startOf p := by rw [Disk.startOf, Disk.startOf, hhome]
  exact ⟨hstart ▸ h.clear, fun hl => h.below (Disk.place_eq_of_home hhome p ▸ hl)⟩

/-- **A path past the footprint**: a clear walk and one name more, which leads to a location that is
not covered. -/
def Passes (k : Footprint) (d : Disk) (p : Path) : Prop :=
  ∃ ns name, Path.names p = ns ++ [name] ∧ name ≠ "." ∧ name ≠ ".." ∧ k.Clear (d.startOf p) ns
    ∧ ¬k.Covers (d.place p)

/-- What is in a folder that is spared is past the footprint. -/
theorem Spares.passes_join (h : k.Spares d p) (hq : Path.IsName q) (hdot : q ≠ ".")
    (hup : q ≠ "..") : k.Passes d (Path.join p q) := by
  have hstart : d.startOf (Path.join p q) = d.startOf p := by
    rw [Disk.startOf, Disk.startOf, Path.isAbsolute_join p hq]
  refine ⟨_, q, Path.names_join p hq, hdot, hup, hstart ▸ h.clear, ?_⟩
  exact (h.join hq hdot hup).below (List.prefix_refl _)

theorem Passes.not_covers_place (h : k.Passes d p) : ¬k.Covers (d.place p) := by
  obtain ⟨-, -, -, -, -, -, hlast⟩ := h
  exact hlast

theorem Passes.clear (h : k.Passes d p) : k.Clear (d.startOf p) (Path.names p) := by
  have hlast := h.not_covers_place
  obtain ⟨ns, name, hnames, -, -, hclear, -⟩ := h
  have habove := hclear.not_covers_target
  rw [Disk.place, hnames, Disk.target_append] at hlast
  rw [hnames]
  refine hclear.append ⟨fun heq => habove (Or.inr heq), fun hmissing => ?_, hlast⟩
  exact absurd (Or.inl hmissing) habove

theorem Passes.of_home (h : k.Passes d p) {d' : Disk} (hhome : d'.home = d.home) :
    k.Passes d' p := by
  have hstart : d'.startOf p = d.startOf p := by rw [Disk.startOf, Disk.startOf, hhome]
  unfold Passes
  rw [hstart, Disk.place_eq_of_home hhome]
  exact h

end Footprint

namespace Disk

/-- **Two disks beside each other**: trees that differ at most in a footprint, and have no file in
place of its folders. -/
structure Beside (k : Footprint) (d d' : Disk) : Prop where
  tree : d.IsTree
  tree' : d'.IsTree
  home : d'.home = d.home
  node : ∀ {l : Location}, ¬k.Covers l → d'.node? l = d.node? l
  missing : ∀ {l : Location}, k.missing l → ¬d.FileAt l
  missing' : ∀ {l : Location}, k.missing l → ¬d'.FileAt l

namespace Beside

variable {k : Footprint} {d d' : Disk} {here start l : Location} {names ns : List String}
  {name : String} {p : Path} {now : Instant}

theorem symm (h : Beside k d d') : Beside k d' d :=
  ⟨h.tree', h.tree, h.home.symm, fun hl => (h.node hl).symm, h.missing', h.missing⟩

theorem startOf (h : Beside k d d') (p : Path) : d'.startOf p = d.startOf p := by
  rw [Disk.startOf, Disk.startOf, h.home]

/-! ## Looking up -/

/-- Where something is missing on one disk, nothing is found from there on the other. -/
theorem lookup_of_none (h : Beside k d d') (hclear : k.Clear here names)
    (hnone : d'.node? here = none) : d.lookup here names = .error .notFound := by
  induction names generalizing here with
  | nil => exact Disk.lookup_of_none ((h.node hclear).symm.trans hnone) []
  | cons name names ih =>
    obtain ⟨hdocument, hdown, hnext⟩ := hclear
    by_cases hmissing : k.missing here
    · rcases folderAt_or_none (h.missing hmissing) with hfolder | hnone'
      · obtain ⟨hup, hfits⟩ := hdown hmissing
        have hbelow : here <+: next here name :=
          prefix_target (fun hmem => hup (List.mem_singleton.mp hmem).symm) here
        rw [lookup_cons_of_folderAt hfolder, if_neg (Nat.not_lt_of_ge hfits)]
        exact ih hnext (h.tree'.node?_of_prefix hbelow hnone)
      · exact Disk.lookup_of_none hnone' _
    · have hcovers : ¬k.Covers here := fun hcovers => hcovers.elim hmissing hdocument
      exact Disk.lookup_of_none ((h.node hcovers).symm.trans hnone) _

/-- **A walk that is clear leads to the same** on both disks. -/
theorem lookup_eq (h : Beside k d d') (hclear : k.Clear here names) :
    d'.lookup here names = d.lookup here names := by
  induction names generalizing here with
  | nil => rw [lookup_nil, lookup_nil, h.node hclear]
  | cons name names ih =>
    cases hnode' : d'.node? here with
    | none => rw [Disk.lookup_of_none hnode', h.lookup_of_none hclear hnode']
    | some n' =>
      cases hnode : d.node? here with
      | none => rw [Disk.lookup_of_none hnode, h.symm.lookup_of_none hclear hnode]
      | some n =>
        -- both are there, and the walk goes on in both or in neither
        have hfolder : d'.FolderAt here ↔ d.FolderAt here := by
          by_cases hcovers : k.Covers here
          · have hmissing := hcovers.resolve_right hclear.1
            exact iff_of_true
              ((folderAt_or_none (h.missing' hmissing)).resolve_right (by simp [hnode']))
              ((folderAt_or_none (h.missing hmissing)).resolve_right (by simp [hnode]))
          · rw [FolderAt, FolderAt, h.node hcovers]
        by_cases hhere : d.FolderAt here
        · rw [lookup_cons_of_folderAt hhere, lookup_cons_of_folderAt (hfolder.mpr hhere),
            ih hclear.2.2]
        · have hfile : ∀ {d : Disk} {n : Node}, ¬d.FolderAt here → d.node? here = some n →
              d.FileAt here := by
            intro d n hnot hnode
            by_contra hno
            rcases folderAt_or_none hno with hyes | hnone
            · exact hnot hyes
            · rw [hnone] at hnode
              cases hnode
          rw [lookup_cons_of_fileAt (hfile hhere hnode),
            lookup_cons_of_fileAt (hfile (fun hyes => hhere (hfolder.mp hyes)) hnode')]

/-- **A path that is clear leads to the same.** -/
theorem find_eq (h : Beside k d d') (hclear : k.Clear (d.startOf p) (Path.names p)) :
    d'.find p = d.find p :=
  find_congr (h.startOf p) (h.lookup_eq hclear)

theorem read_eq (h : Beside k d d') (hclear : k.Clear (d.startOf p) (Path.names p)) :
    d'.read p = d.read p := by
  rw [read, read, h.find_eq hclear]

theorem readText_eq (h : Beside k d d') (hclear : k.Clear (d.startOf p) (Path.names p)) :
    d'.readText p = d.readText p := by
  rw [readText, readText, h.read_eq hclear]

/-- One name further, the walks are the same to the letter. -/
theorem walk_eq (h : Beside k d d') (hclear : k.Clear here names) (name : String) :
    d'.walk here (names ++ [name]) = d.walk here (names ++ [name]) := by
  rw [walk_concat, walk_concat, h.lookup_eq hclear]

end Beside

end Disk

end Rehearsal
