import Rehearsal.Proofs.Disk.Children
import Rehearsal.Proofs.Disk.Footprint

/-!
# Changing two disks alike

What is done at a place that is clear of the footprint is done alike to two disks beside each other:
it succeeds on both or fails on both for the same reason, and they are beside each other afterwards.
That holds of folders made (`Disk.Beside.makeFolders`), although one disk may have folders of the
footprint that on the other have to be made, and of files written (`Disk.Beside.write`). And what is
listed in a folder is the same (`Disk.Beside.list_eq`).
-/

namespace Rehearsal.Disk

variable {k : Footprint} {d d' : Disk} {here start l : Location} {names ns : List String}
  {name : String} {p root : Path} {now : Instant}

namespace Beside

/-! ## What is in a folder -/

/-- **What is listed** in a folder that is spared is the same. -/
theorem list_eq (h : Beside k d d') (hroot : k.Spares d root) : d'.list root = d.list root := by
  unfold Disk.list
  rw [h.find_eq hroot.clear]
  split
  · next l t hfolder =>
    have hplace := eq_place_of_resolve (of_find_eq_ok hfolder).1
    rw [children_congr fun name => h.node (hroot.below (hplace ▸ List.prefix_append l [name]))]
  · rfl
  · rfl

/-- The same put on both disks, clear of the footprint. -/
theorem of_put (h : Beside k d d') {d₁ d₁' : Disk} {n : Node} (hl : ¬k.Covers l)
    (htree : d₁.IsTree) (htree' : d₁'.IsTree) (hput : d₁ = d.put l n) (hput' : d₁' = d'.put l n) :
    Beside k d₁ d₁' := by
  subst hput hput'
  have hne : ∀ {l' : Location}, k.missing l' → l' ≠ l := by
    rintro l' hmissing rfl
    exact hl (Or.inl hmissing)
  refine ⟨htree, htree', h.home, fun {l'} hl' => ?_, fun {l'} hl' => ?_, fun {l'} hl' => ?_⟩
  · by_cases hsame : l' = l
    · subst hsame
      rw [node?_put_self, node?_put_self]
    · rw [node?_put_of_ne _ hsame, node?_put_of_ne _ hsame, h.node hl']
  · rw [FileAt, node?_put_of_ne _ (hne hl')]
    exact h.missing hl'
  · rw [FileAt, node?_put_of_ne _ (hne hl')]
    exact h.missing' hl'

/-! ## Making folders -/

/-- **Two attempts that come to the same** on disks beside each other. -/
def Outcomes (k : Footprint) (r r' : Except FileError Unit × Disk) : Prop :=
  r'.1 = r.1 ∧ Beside k r.2 r'.2

/-- Folders made on both disks, the same ones but for those of the footprint. -/
theorem of_foldersMade (h : Beside k d d') {d₁ d₁' : Disk} (htree : d₁.IsTree)
    (htree' : d₁'.IsTree) (hmade : FoldersMade now d d₁) (hmade' : FoldersMade now d' d₁')
    (hnode : ∀ {l : Location}, ¬k.Covers l → d₁'.node? l = d₁.node? l) : Beside k d₁ d₁' where
  tree := htree
  tree' := htree'
  home := by rw [hmade'.home, hmade.home, h.home]
  node := hnode
  missing hl := hmade.not_fileAt (h.missing hl)
  missing' hl := hmade'.not_fileAt (h.missing' hl)

/-- **A folder at a location** that is not the document is made on both disks or on neither. -/
theorem withFolder (h : Beside k d d') (hl : l ≠ k.document)
    (htree : ∀ d₁, d.withFolder now l = .ok d₁ → d₁.IsTree)
    (htree' : ∀ d₁, d'.withFolder now l = .ok d₁ → d₁.IsTree) :
    Outcomes k (outcomeOf d (d.withFolder now l)) (outcomeOf d' (d'.withFolder now l)) := by
  by_cases hmissing : k.missing l
  · obtain ⟨d₁, hfolder⟩ := exists_withFolder (h.missing hmissing) now
    obtain ⟨d₁', hfolder'⟩ := exists_withFolder (h.missing' hmissing) now
    obtain ⟨-, hmade, hsame⟩ := withFolder_eq_ok hfolder
    obtain ⟨-, hmade', hsame'⟩ := withFolder_eq_ok hfolder'
    have hnode : ∀ {l' : Location}, ¬k.Covers l' → d₁'.node? l' = d₁.node? l' := by
      intro l' hl'
      -- the folder itself is in the footprint
      have hne : l' ≠ l := by
        rintro rfl
        exact hl' (Or.inl hmissing)
      rw [hsame' l' hne, hsame l' hne, h.node hl']
    rw [hfolder, hfolder']
    exact ⟨rfl, h.of_foldersMade (htree _ hfolder) (htree' _ hfolder') hmade hmade' hnode⟩
  · have hnode := h.node fun hcovers => hcovers.elim hmissing hl
    by_cases hfile : d.FileAt l
    · have hfile' : d'.FileAt l := by
        rw [FileAt, hnode]
        exact hfile
      rw [withFolder_of_fileAt hfile, withFolder_of_fileAt hfile']
      exact ⟨rfl, h⟩
    · rcases folderAt_or_none hfile with hfolder | hnone
      · have hfolder' : d'.FolderAt l := by
          rw [FolderAt, hnode]
          exact hfolder
        rw [withFolder_of_folderAt hfolder, withFolder_of_folderAt hfolder']
        exact ⟨rfl, h⟩
      · have hnone' : d'.node? l = none := hnode.trans hnone
        have hput := withFolder_of_none hnone now
        have hput' := withFolder_of_none hnone' now
        rw [hput, hput']
        exact ⟨rfl, h.of_put (fun hcovers => hcovers.elim hmissing hl) (htree _ hput)
          (htree' _ hput') rfl rfl⟩

/-- **A way is made** on both disks, up to the same folder. -/
theorem pave (h : Beside k d d') (hhere : d.FolderAt here) (hhere' : d'.FolderAt here)
    (hdocument : k.document ∉ visited here ns) (hnames : ∀ name ∈ ns, Path.IsName name) :
    Outcomes k (Disk.pave now d here ns) (Disk.pave now d' here ns) := by
  induction ns generalizing d d' here with
  | nil => exact ⟨rfl, h⟩
  | cons name ns ih =>
    rw [visited_cons, List.mem_cons, not_or] at hdocument
    rw [List.forall_mem_cons] at hnames
    rw [Disk.pave, Disk.pave]
    split
    · exact ⟨rfl, h⟩
    · next hfits =>
      -- one folder is a walk by one name
      have hensure : ∀ {d : Disk}, d.FolderAt here →
          d.ensureFolderAt now here [name] = d.withFolder now (next here name) := by
        intro d hhere
        rw [ensureFolderAt_eq, walk_cons_of_folderAt hhere, if_neg hfits]
        rfl
      have hone : ∀ name' ∈ [name], Path.IsName name' := fun name' hname' =>
        List.mem_singleton.mp hname' ▸ hnames.1
      have hne : next here name ≠ k.document := by
        intro heq
        exact hdocument.2 (heq ▸ here_mem_visited _ _)
      have houtcomes : Outcomes k (outcomeOf d (d.withFolder now (next here name)))
          (outcomeOf d' (d'.withFolder now (next here name))) :=
        h.withFolder hne
          (fun d₁ hd₁ => h.tree.ensureFolderAt hhere hone ((hensure hhere).trans hd₁))
          (fun d₁ hd₁ => h.tree'.ensureFolderAt hhere' hone ((hensure hhere').trans hd₁))
      obtain ⟨hvalue, hbeside⟩ := houtcomes
      rcases error_or_ok hvalue with ⟨e, hfolder, hfolder'⟩ | ⟨d₁, d₁', hfolder, hfolder'⟩
      · rw [hfolder, hfolder']
        exact ⟨rfl, h⟩
      · rw [hfolder, hfolder'] at hbeside ⊢
        exact ih hbeside (withFolder_eq_ok hfolder).1 (withFolder_eq_ok hfolder').1 hdocument.2
          hnames.2

/-- **A folder where a walk ends** is made on both disks or on neither. -/
theorem ensureFolderAt (h : Beside k d d') (hstart : d.FolderAt start)
    (hstart' : d'.FolderAt start) (hclear : k.Clear start ns)
    (hlast : ¬k.Covers (target start (ns ++ [name])))
    (hnames : ∀ name' ∈ ns ++ [name], Path.IsName name') :
    Outcomes k (outcomeOf d (d.ensureFolderAt now start (ns ++ [name])))
      (outcomeOf d' (d'.ensureFolderAt now start (ns ++ [name]))) := by
  have htree : ∀ d₁, d.ensureFolderAt now start (ns ++ [name]) = .ok d₁ → d₁.IsTree :=
    fun d₁ => h.tree.ensureFolderAt hstart hnames
  have htree' : ∀ d₁, d'.ensureFolderAt now start (ns ++ [name]) = .ok d₁ → d₁.IsTree :=
    fun d₁ => h.tree'.ensureFolderAt hstart' hnames
  simp only [ensureFolderAt_eq] at htree htree' ⊢
  rw [h.walk_eq hclear]
  simp only [h.walk_eq hclear] at htree'
  cases hwalk : d.walk start (ns ++ [name]) with
  | error e => exact ⟨rfl, h⟩
  | ok l =>
    rw [hwalk] at htree htree'
    obtain rfl := eq_target_of_walk hwalk
    exact h.withFolder (fun heq => hlast (Or.inr heq)) htree htree'

/-- **A folder with all that is missing above it** is made on both disks or on neither. -/
theorem makeWay (h : Beside k d d') (hstart : d.FolderAt start) (hstart' : d'.FolderAt start)
    (hclear : k.Clear start ns) (hdot : name ≠ ".")
    (hlast : ¬k.Covers (target start (ns ++ [name])))
    (hnames : ∀ name' ∈ ns ++ [name], Path.IsName name') :
    Outcomes k (Disk.makeWay now start ((ns ++ [name]) :: wayTo (ns ++ [name])) d)
      (Disk.makeWay now start ((ns ++ [name]) :: wayTo (ns ++ [name])) d') := by
  by_cases hwalk : d.walk start (ns ++ [name]) = .error .notFound
  · have hwalk' := (h.walk_eq hclear name).trans hwalk
    have hway : wayNames (ns ++ [name]) = ns.filter (· ≠ ".") := by
      rw [wayNames, List.filter_append, List.filter_cons_of_pos (by simpa using hdot),
        List.filter_nil, List.dropLast_concat]
    have hpave : Outcomes k (Disk.pave now d start (wayNames (ns ++ [name])))
        (Disk.pave now d' start (wayNames (ns ++ [name]))) := by
      refine h.pave hstart hstart' (fun hmem => ?_) fun name' hname' =>
        hnames name' (mem_of_mem_wayNames hname')
      exact hclear.document_not_mem (mem_visited_of_filter (hway ▸ hmem))
    have hmade := foldersMade_pave now d start (wayNames (ns ++ [name]))
    have hmade' := foldersMade_pave now d' start (wayNames (ns ++ [name]))
    rw [makeWay_wayTo hstart hwalk, makeWay_wayTo hstart' hwalk']
    generalize Disk.pave now d start (wayNames (ns ++ [name])) = paved at hpave hmade ⊢
    generalize Disk.pave now d' start (wayNames (ns ++ [name])) = paved' at hpave hmade' ⊢
    obtain ⟨outcome, d₁⟩ := paved
    obtain ⟨outcome', d₁'⟩ := paved'
    obtain ⟨rfl, hbeside⟩ : outcome' = outcome ∧ Beside k d₁ d₁' := hpave
    cases outcome' with
    | error e => exact ⟨rfl, hbeside⟩
    | ok u =>
      exact hbeside.ensureFolderAt (hmade.folderAt hstart) (hmade'.folderAt hstart') hclear hlast
        hnames
  · have hwalk' : d'.walk start (ns ++ [name]) ≠ .error .notFound := by
      rwa [h.walk_eq hclear]
    rw [makeWay_of_found hwalk, makeWay_of_found hwalk']
    exact h.ensureFolderAt hstart hstart' hclear hlast hnames

/-- **The folders of a path** past the footprint are made on both disks or on neither. -/
theorem makeFolders (h : Beside k d d') (hp : k.Passes d p) (now : Instant) :
    Outcomes k (d.makeFolders now p) (d'.makeFolders now p) := by
  obtain ⟨ns, name, hnames, hdot, -, hclear, hlast⟩ := hp
  have hnamed : ∀ name' ∈ ns ++ [name], Path.IsName name' := fun name' hname' =>
    Path.isName_of_mem_names (hnames ▸ hname')
  rw [place, hnames] at hlast
  unfold Disk.makeFolders
  split
  · exact ⟨rfl, h⟩
  split
  · exact ⟨rfl, h⟩
  split
  · exact ⟨rfl, h⟩
  rw [h.startOf, hnames]
  exact h.makeWay (h.tree.folderAt_startOf p) (h.startOf p ▸ h.tree'.folderAt_startOf p) hclear hdot
    hlast hnamed

/-! ## Writing and removing -/

/-- A path past the footprint is resolved alike. -/
theorem resolve_eq (h : Beside k d d') (hp : k.Passes d p) : d'.resolve p = d.resolve p := by
  obtain ⟨ns, name, hnames, -, -, hclear, -⟩ := hp
  rw [resolve, resolve, h.startOf, hnames, h.walk_eq hclear]

/-- **A file past the footprint** is written on both disks or on neither. -/
theorem write (h : Beside k d d') (hp : k.Passes d p) (octets : ByteArray) :
    Outcomes k (outcomeOf d (d.write p octets)) (outcomeOf d' (d'.write p octets)) := by
  have hlast := hp.not_covers_place
  have hvalue : (outcomeOf d' (d'.write p octets)).1 = (outcomeOf d (d.write p octets)).1 := by
    unfold Disk.write
    rw [h.resolve_eq hp]
    cases hl : d.resolve p with
    | error e => rfl
    | ok l =>
      obtain rfl := eq_place_of_resolve hl
      dsimp only [Except.bind]
      rw [h.node hlast]
      split
      · rfl
      · split <;> rfl
      · split <;> rfl
  rcases error_or_ok hvalue with ⟨e, hwrite, hwrite'⟩ | ⟨d₁, d₁', hwrite, hwrite'⟩
  · rw [hwrite, hwrite']
    exact ⟨rfl, h⟩
  · rw [hwrite, hwrite']
    have hput := (write_eq_ok_iff.mp hwrite).2.2.2
    have hput' := (write_eq_ok_iff.mp hwrite').2.2.2
    rw [place_eq_of_home h.home] at hput'
    exact ⟨rfl, h.of_put hlast (h.tree.write hwrite) (h.tree'.write hwrite') hput hput'⟩

/-- **What is removed past the footprint** is removed from both disks. -/
theorem remove (h : Beside k d d') (hp : k.Passes d p) (hhome : ¬d.place p <+: d.home) :
    Beside k (d.remove p) (d'.remove p) := by
  have htree' : (d'.remove p).IsTree :=
    h.tree'.remove (by rwa [place_eq_of_home h.home, h.home])
  refine ⟨h.tree.remove hhome, htree', ?_, fun {l} hl => ?_, fun {l} hl => ?_, fun {l} hl => ?_⟩
  · rw [home_remove, home_remove, h.home]
  · have hgoes' : d'.Goes p l ↔ d.Goes p l := by rw [Goes, Goes, h.resolve_eq hp]
    by_cases hgoes : d.Goes p l
    · rw [node?_remove_of_goes hgoes, node?_remove_of_goes (hgoes'.mpr hgoes)]
    · rw [node?_remove_of_not_goes hgoes, node?_remove_of_not_goes (mt hgoes'.mp hgoes), h.node hl]
  · exact fun hfile => h.missing hl hfile.of_remove
  · exact fun hfile => h.missing' hl hfile.of_remove

end Beside

end Rehearsal.Disk
