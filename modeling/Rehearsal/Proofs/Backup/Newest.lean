import Mathlib.Data.List.Nodup
import Rehearsal.Proofs.Backup.Accesses
import Rehearsal.Proofs.Backup.Bounds
import Rehearsal.Proofs.Backup.Existing

/-!
# The backups of a run

The backups that are made on a run can be read off the events (`Backup.made`): each attempt that
succeeds makes one, with the instant of the event and the size of the document that is written.
Below a root in which there was nothing, these are the backups that are listed, one of each name
(`Backup.listed_as_made`).

But a backup is not listed with the instant at which it was made. It is listed with that of its
folder, and the folder may be left from an attempt that failed before. On a run where no backup
finds its folder there (`Backup.MadeAfresh`), the two are the same, and the listing is the run read
backwards, newest first. Otherwise it may not be (`Backup.listed_older_than_made`).
-/

namespace Rehearsal.Backup

variable {now : Instant} {root : Path} {name : String} {b : Bridge} {e : Event} {x : Backup}
  {events : List Event} {backups : List Backup}

/-! ## What is made -/

/-- **The backup that an event makes**, if it makes one, with the instant of the event. -/
def madeBy (root : Path) (e : Event) (b : Bridge) : Option Backup :=
  match e.2 with
  | .create name? =>
    match nameFor e.1 name?, (create e.1 root name? b).value with
    | .ok name, .ok path => some ⟨name, e.1, b.registry.encode.size, path⟩
    | _, _ => none
  | _ => none

/-- **The backups made on a run**, from first to last. -/
def made (root : Path) : List Event → Bridge → List Backup
  | [], _ => []
  | e :: events, b => (madeBy root e b).toList ++ made root events (e.2.after root e.1 b)

/-- **A run on which every backup is made afresh**: there is nothing in the place of its folder when
it is made. -/
def MadeAfresh (root : Path) : List Event → Bridge → Prop
  | [], _ => True
  | e :: events, b =>
    (∀ x ∈ madeBy root e b,
        (b.storage.disk.node? (b.storage.disk.place root ++ [x.name])).isNone = true)
      ∧ MadeAfresh root events (e.2.after root e.1 b)

instance decidableMadeAfresh (root : Path) :
    (events : List Event) → (b : Bridge) → Decidable (MadeAfresh root events b)
  | [], _ => inferInstanceAs (Decidable True)
  | e :: events, b =>
    have := decidableMadeAfresh root events (e.2.after root e.1 b)
    inferInstanceAs (Decidable (_ ∧ _))

theorem madeBy_eq_some (h : madeBy root e b = some x) : ∃ name?, e.2 = .create name?
    ∧ nameFor e.1 name? = .ok x.name ∧ (create e.1 root name? b).value = .ok x.path
    ∧ x.createdAt = e.1 ∧ x.size = b.registry.encode.size := by
  obtain ⟨now, s⟩ := e
  unfold madeBy at h
  cases s with
  | bridge op => cases h
  | restore name => cases h
  | create name? =>
    dsimp only at h
    split at h
    · next name path hname hpath =>
      cases h
      exact ⟨name?, rfl, hname, hpath, rfl, rfl⟩
    · cases h

/-- An attempt that succeeds makes a backup. -/
theorem exists_madeBy {name? : Option String} {path : Path}
    (hname : nameFor now name? = .ok name) (hvalue : (create now root name? b).value = .ok path) :
    ∃ x, madeBy root (now, .create name?) b = some x ∧ x.name = name := by
  refine ⟨⟨name, now, b.registry.encode.size, path⟩, ?_, rfl⟩
  unfold madeBy
  dsimp only
  rw [hname, hvalue]

/-- **What is made**: a backup that was not there, of a name that backups may have, and that holds
the document of the registry. -/
structure Makes (root : Path) (e : Event) (b : Bridge) (x : Backup) : Prop where
  validName : Backup.validName x.name = true
  path : x.path = documentPath root x.name
  createdAt : x.createdAt = e.1
  free : b.storage.disk.exists? (documentPath root x.name) = false
  size : x.size = b.registry.encode.size
  holds : Holds root x.name b.registry.encode (e.2.after root e.1 b)

theorem makes_of_madeBy (houtside : Outside root b.storage) (h : madeBy root e b = some x) :
    Makes root e b x := by
  obtain ⟨now, s⟩ := e
  obtain ⟨name?, rfl, hname, hvalue, hcreated, hsize⟩ := madeBy_eq_some h
  have hmaking := making_create now root name? b
  rw [hvalue] at hmaking
  obtain ⟨name, hname', hpath, -, -, hholds⟩ := Holds.of_making houtside hmaking
  cases hname.symm.trans hname'
  refine ⟨validName_of_nameFor hname, hpath, hcreated, ?_, hsize, hholds⟩
  by_contra htaken
  have hexists : b.storage.disk.exists? (documentPath root x.name) = true := by simpa using htaken
  rw [create_of_exists hname hexists] at hvalue
  cases hvalue

/-- The instants of what is made are those of some of the events. -/
theorem sublist_instants (root : Path) (events : List Event) (b : Bridge) :
    ((made root events b).map (·.createdAt)).Sublist (events.map (·.1)) := by
  induction events generalizing b with
  | nil => exact .refl []
  | cons e events ih =>
    rw [made, List.map_append, List.map_cons]
    cases hmade : madeBy root e b with
    | none => exact (ih _).cons e.1
    | some x =>
      obtain ⟨-, -, -, -, hcreated, -⟩ := madeBy_eq_some hmade
      show (x.createdAt :: _).Sublist _
      rw [hcreated]
      exact (ih _).cons_cons e.1

/-! ## One step -/

/-- **Where files come below the root**: in the place of the document of a backup that is made. -/
theorem file_below_after (houtside : Outside root b.storage) (s : Step) {below : List String}
    {octets : ByteArray}
    (h : (s.after root now b).storage.disk.node? (b.storage.disk.place root ++ below)
      = some (.file octets)) :
    b.storage.disk.node? (b.storage.disk.place root ++ below) = some (.file octets)
      ∨ ∃ x, madeBy root (now, s) b = some x ∧ below = [x.name, documentName] := by
  have hsite : b.storage.site? ≠ some (b.storage.disk.place root ++ below) := fun hsite =>
    houtside _ hsite (List.prefix_append _ _)
  cases s with
  | bridge op => exact Or.inl (((op.onlyDocument_after now b).disk.file_iff hsite).mp h)
  | restore name =>
    exact Or.inl (((restoring_restore now root name b).onlyDocument.disk.file_iff hsite).mp h)
  | create name? =>
    have hmaking := making_create now root name? b
    cases hname : nameFor now name? with
    | error e =>
      refine Or.inl ?_
      change (create now root name? b).state.storage.disk.node? _ = _ at h
      rwa [(hmaking.of_misnamed hname).2] at h
    | ok name =>
      by_cases hself : (create now root name? b).value.isOk = true
          ∧ b.storage.disk.place root ++ below = b.storage.disk.place (documentPath root name)
      · obtain ⟨hok, hplace⟩ := hself
        rw [place_documentPath _ root (validName_of_nameFor hname)] at hplace
        cases hvalue : (create now root name? b).value with
        | error e =>
          rw [hvalue] at hok
          cases hok
        | ok path =>
          obtain ⟨x, hmade, rfl⟩ := exists_madeBy hname hvalue
          exact Or.inr ⟨x, hmade, List.append_cancel_left hplace⟩
      · exact Or.inl (((hmaking.changed hname).disk.file_iff fun hbound =>
          hbound.elim hsite hself).mp h)

/-- The store stays outside of the backups. -/
theorem Outside.after (h : Outside root b.storage) (s : Step) :
    Outside root (s.after root now b).storage := by
  refine h.of_grows ?_ (s.accessed_after now root b).grows
  cases s with
  | bridge op => exact (op.onlyDocument_after now b).folder
  | create name? => exact (making_create now root name? b).onlyBackups.2.folder
  | restore name => exact (restoring_restore now root name b).onlyDocument.folder

/-! ## Runs -/

/-- **Backups accounted for**: they are all there, each of its own name and with its document, and
there is no other file below the root. -/
structure Accounted (root : Path) (backups : List Backup) (b : Bridge) : Prop where
  tree : b.storage.disk.IsTree
  outside : Outside root b.storage
  file : ∀ below octets, below ≠ [] →
    b.storage.disk.node? (b.storage.disk.place root ++ below) = some (.file octets) →
    ∃ x ∈ backups, below = [x.name, documentName]
  document : ∀ x ∈ backups, validName x.name = true ∧ x.path = documentPath root x.name
    ∧ ∃ octets, b.storage.disk.read (documentPath root x.name) = .ok octets
      ∧ x.size = octets.size
  names : (backups.map (·.name)).Nodup

namespace Accounted

/-- **A step accounts for what it makes.** -/
theorem after (h : Accounted root backups b) (e : Event) :
    Accounted root (backups ++ (madeBy root e b).toList) (e.2.after root e.1 b) := by
  obtain ⟨now, s⟩ := e
  have haccessed := s.accessed_after now root b
  have hmakes := fun x => makes_of_madeBy (x := x) h.outside (e := (now, s))
  refine ⟨haccessed.isTree h.tree, h.outside.after s, fun below octets hbelow hnode => ?_,
    fun x hx => ?_, ?_⟩
  · rw [haccessed.grows.place] at hnode
    rcases file_below_after h.outside s hnode with hnode | ⟨x, hmade, rfl⟩
    · obtain ⟨x, hx, heq⟩ := h.file below octets hbelow hnode
      exact ⟨x, List.mem_append_left _ hx, heq⟩
    · exact ⟨x, List.mem_append_right _ (Option.mem_toList.mpr hmade), rfl⟩
  · rcases List.mem_append.mp hx with hx | hx
    · obtain ⟨hvalid, hpath, octets, hread, hsize⟩ := h.document x hx
      exact ⟨hvalid, hpath, octets, (Holds.after ⟨h.outside, hread⟩ hvalid s).read, hsize⟩
    · obtain ⟨hvalid, hpath, -, -, hsize, hholds⟩ := hmakes x (Option.mem_toList.mp hx)
      exact ⟨hvalid, hpath, _, hholds.read, hsize⟩
  · rw [List.map_append, List.nodup_append]
    refine ⟨h.names, ?_, ?_⟩
    · cases madeBy root (now, s) b with
      | none => exact List.nodup_nil
      | some x => exact List.nodup_singleton _
    · -- one that is there keeps another of its name from being made
      rintro name hname name' hname' rfl
      obtain ⟨x, hx, hxname⟩ := List.mem_map.mp hname
      obtain ⟨y, hy, hyname⟩ := List.mem_map.mp hname'
      obtain ⟨-, -, octets, hread, -⟩ := h.document x hx
      have hfree := (hmakes y (Option.mem_toList.mp hy)).free
      rw [hyname, ← hxname, Disk.exists?_of_read hread] at hfree
      cases hfree

/-- **A run accounts for what is made on it.** -/
theorem run (h : Accounted root backups b) (events : List Event) :
    Accounted root (backups ++ made root events b) (Run.state (Step.after root) events b) := by
  induction events generalizing backups b with
  | nil => simpa [made] using h
  | cons e events ih =>
    rw [made, ← List.append_assoc]
    exact ih (h.after e)

/-- A name that is listed is that of a backup accounted for. -/
theorem exists_of_read (h : Accounted root backups b)
    (hname : Path.IsName name ∧ name ≠ "." ∧ name ≠ "..") {octets : ByteArray}
    (hread : b.storage.disk.read (documentPath root name) = .ok octets) :
    ∃ x ∈ backups, x.name = name := by
  have hnode := (Disk.of_read_eq_ok hread).2
  rw [place_documentPath_of_isName _ root hname] at hnode
  obtain ⟨x, hx, heq⟩ := h.file _ octets (by simp) hnode
  exact ⟨x, hx, (List.head_eq_of_cons_eq heq).symm⟩

/-- **The backups accounted for are those listed**, but for the instants. -/
theorem perm_listing (h : Accounted root backups b) (hroot : root ≠ "") :
    ((listing b.storage.disk root).map fun x => (x.name, x.size, x.path)).Perm
      (backups.map fun x => (x.name, x.size, x.path)) := by
  have hnodup : ∀ {backups : List Backup}, (backups.map (·.name)).Nodup →
      (backups.map fun x => (x.name, x.size, x.path)).Nodup := by
    intro backups hnames
    refine List.Nodup.of_map Prod.fst ?_
    rwa [List.map_map]
  refine (List.perm_ext_iff_of_nodup (hnodup (nodup_names_listing _ root)) (hnodup h.names)).mpr ?_
  intro key
  rw [List.mem_map, List.mem_map]
  constructor
  · rintro ⟨x, hx, rfl⟩
    obtain ⟨-, hnode, hpath, octets, hread, hsize⟩ := mem_listing_iff.mp hx
    obtain ⟨y, hy, hname⟩ :=
      h.exists_of_read (h.tree.named (Option.isSome_iff_exists.mpr ⟨_, hnode⟩)) hread
    obtain ⟨-, hpath', octets', hread', hsize'⟩ := h.document y hy
    rw [hname] at hpath' hread'
    obtain rfl := Except.ok.inj (hread.symm.trans hread')
    exact ⟨y, hy, by rw [hname, hsize, hsize', hpath, hpath']⟩
  · rintro ⟨x, hx, rfl⟩
    obtain ⟨hvalid, hpath, octets, hread, hsize⟩ := h.document x hx
    obtain ⟨hfolder, t, hnode⟩ := of_read_documentPath hroot (isName_of_validName hvalid) hread
    exact ⟨⟨x.name, t, x.size, x.path⟩,
      mem_listing_iff.mpr ⟨hfolder, hnode, hpath, octets, hread, hsize⟩, rfl⟩

end Accounted

/-! ## Instants -/

/-- **A folder that has come on a run** has the instant of the event that made it. -/
theorem exists_event_of_folder {l : Location} {t : Instant}
    (hnone : b.storage.disk.node? l = none)
    (h : (Run.state (Step.after root) events b).storage.disk.node? l = some (.folder t)) :
    ∃ before e later, events = before ++ e :: later ∧ t = e.1
      ∧ (Run.state (Step.after root) before b).storage.disk.node? l = none
      ∧ (Run.state (Step.after root) (before ++ [e]) b).storage.disk.node? l
        = some (.folder t) := by
  induction events using List.reverseRecOn with
  | nil =>
    rw [Run.state_nil, hnone] at h
    cases h
  | append_singleton events e ih =>
    have hafter := h
    rw [Run.state_concat] at h
    rcases (e.2.accessed_after e.1 root _).of_folder h with hbefore | ⟨hmissing, ht⟩
    · obtain ⟨before, e', later, rfl, ht, hmissing, hmade⟩ := ih hbefore
      exact ⟨before, e', later ++ [e], by simp, ht, hmissing, hmade⟩
    · exact ⟨events, e, [], rfl, ht, hmissing, hafter⟩

/-- **Backups made afresh are dated**: their folders have the instants at which they were made. -/
theorem dated_of_madeAfresh (h : Accounted root backups b) (hroot : root ≠ "")
    (hdated : ∀ x ∈ backups, b.storage.disk.node? (b.storage.disk.place root ++ [x.name])
      = some (.folder x.createdAt))
    (hafresh : MadeAfresh root events b) :
    ∀ x ∈ backups ++ made root events b,
      (Run.state (Step.after root) events b).storage.disk.node?
          ((Run.state (Step.after root) events b).storage.disk.place root ++ [x.name])
        = some (.folder x.createdAt) := by
  induction events generalizing backups b with
  | nil => simpa [made] using hdated
  | cons e events ih =>
    obtain ⟨hfresh, hafresh⟩ := hafresh
    have haccessed := e.2.accessed_after e.1 root b
    rw [made, ← List.append_assoc]
    refine ih (h.after e) (fun x hx => ?_) hafresh
    rw [haccessed.grows.place]
    rcases List.mem_append.mp hx with hx | hx
    · exact haccessed.grows.folder (hdated x hx)
    · have hmade := Option.mem_toList.mp hx
      obtain ⟨hvalid, -, hcreated, -, -, hholds⟩ := makes_of_madeBy h.outside hmade
      obtain ⟨-, t, hnode⟩ :=
        of_read_documentPath hroot (isName_of_validName hvalid) hholds.read
      rw [haccessed.grows.place] at hnode
      rcases haccessed.of_folder hnode with hbefore | ⟨-, ht⟩
      · have hnone := hfresh x hmade
        rw [hbefore] at hnone
        cases hnone
      · rw [hnode, ht, hcreated]

/-! ## The listing of a run -/

/-- Later events make later backups. -/
theorem pairwise_made (root : Path) (b : Bridge)
    (hclock : events.Pairwise fun e e' => e.1 < e'.1) :
    (made root events b).Pairwise fun x y => x.createdAt < y.createdAt :=
  List.pairwise_map.mp
    ((List.pairwise_map.mpr hclock).sublist (sublist_instants root events b))

/-- **Dated backups are listed newest first**, if each was made later than those before it. -/
theorem Accounted.listing_eq (h : Accounted root backups b) (hroot : root ≠ "")
    (hdated : ∀ x ∈ backups, b.storage.disk.node? (b.storage.disk.place root ++ [x.name])
      = some (.folder x.createdAt))
    (hordered : backups.Pairwise fun x y => x.createdAt < y.createdAt) :
    listing b.storage.disk root = backups.reverse := by
  have hmem : ∀ x, x ∈ listing b.storage.disk root ↔ x ∈ backups := by
    intro x
    constructor
    · intro hx
      have hkey : (x.name, x.size, x.path) ∈ backups.map fun x => (x.name, x.size, x.path) :=
        (h.perm_listing hroot).mem_iff.mp (List.mem_map_of_mem hx)
      obtain ⟨y, hy, heq⟩ := List.mem_map.mp hkey
      have hnode := (mem_listing_iff.mp hx).2.1
      obtain ⟨name, created, size, path⟩ := x
      obtain ⟨name', created', size', path'⟩ := y
      cases heq
      -- one folder has one instant
      cases (hdated _ hy).symm.trans hnode
      exact hy
    · intro hx
      obtain ⟨hvalid, hpath, octets, hread, hsize⟩ := h.document x hx
      have hfolder := (of_read_documentPath hroot (isName_of_validName hvalid) hread).1
      exact mem_listing_iff.mpr ⟨hfolder, hdated x hx, hpath, octets, hread, hsize⟩
  have hnodup : ∀ {backups : List Backup}, (backups.map (·.name)).Nodup → backups.Nodup :=
    List.Nodup.of_map _
  have hinstants : (backups.map (·.createdAt)).Nodup := by
    refine List.pairwise_map.mpr (hordered.imp fun {x y} hlt heq => ?_)
    rw [heq] at hlt
    exact Int64.lt_irrefl hlt
  refine List.Perm.eq_of_pairwise (fun x y hx hy hxy hyx => ?_) (pairwise_listing _ root)
    (List.pairwise_reverse.mpr (hordered.imp Int64.le_of_lt))
    ((List.perm_ext_iff_of_nodup (hnodup (nodup_names_listing _ root))
      (List.nodup_reverse.mpr (hnodup h.names))).mpr fun x => ?_)
  · exact List.inj_on_of_nodup_map hinstants ((hmem x).mp hx) (List.mem_reverse.mp hy)
      (Int64.le_antisymm hyx hxy)
  · rw [List.mem_reverse, hmem]

/-- **The backups made on a run are those listed after it.** Take a root with a path and with
nothing below it, a store outside of it, and any events at instants one after the other: backups of
given names or of none, some of which fail and are tried again, changes of the registry, and
restores. Then there is one entry of each name of which a backup was made, with the size and the
path of the document that was written, and the entries stand in the order of their instants, latest
first. Each instant is that of the event at which the folder of the backup was made. If every backup
is made afresh, the listing is the list of the backups made, each with the instant at which it was
made, newest first. -/
theorem listed_as_made (root : Path) (b : Bridge) (events : List Event) (hroot : root ≠ "")
    (htree : b.storage.disk.IsTree) (houtside : Outside root b.storage)
    (hbare : ∀ below, below ≠ [] →
      b.storage.disk.node? (b.storage.disk.place root ++ below) = none)
    (hclock : events.Pairwise fun e e' => e.1 < e'.1) :
    let after := fun events => Run.state (Step.after root) events b
    let listed := (list root (after events)).value
    let backups := made root events b
    (listed.map fun x => (x.name, x.size, x.path)).Perm
        (backups.map fun x => (x.name, x.size, x.path))
      ∧ (listed.map (·.name)).Nodup
      ∧ listed.Pairwise (fun x y => y.createdAt ≤ x.createdAt)
      ∧ (∀ x ∈ listed, ∃ before e later, events = before ++ e :: later ∧ x.createdAt = e.1
          ∧ (after before).storage.disk.node? (b.storage.disk.place root ++ [x.name]) = none
          ∧ (after (before ++ [e])).storage.disk.node? (b.storage.disk.place root ++ [x.name])
            = some (.folder x.createdAt))
      ∧ (MadeAfresh root events b → listed = backups.reverse) := by
  intro after listed backups
  have hstart : Accounted root [] b := by
    refine ⟨htree, houtside, fun below octets hbelow hnode => ?_, fun x hx => ?_, List.nodup_nil⟩
    · rw [hbare below hbelow] at hnode
      cases hnode
    · cases hx
  have haccounted : Accounted root backups (after events) := hstart.run events
  have hgrows : b.storage.disk.Grows (after events).storage.disk :=
    Run.state_of_forall (P := fun b' : Bridge => b.storage.disk.Grows b'.storage.disk)
      (fun (e : Event) _ b' hb' => hb'.trans (e.2.accessed_after e.1 root b').grows) (.refl _)
  have hlisted : listed = listing (after events).storage.disk root := (list_eq root _).1
  rw [hlisted]
  refine ⟨haccounted.perm_listing hroot, nodup_names_listing _ root, pairwise_listing _ root,
    fun x hx => ?_, fun hafresh => ?_⟩
  · have hnode := (mem_listing_iff.mp hx).2.1
    rw [hgrows.place] at hnode
    exact exists_event_of_folder (hbare [x.name] (by simp)) hnode
  · have hdated := dated_of_madeAfresh hstart hroot (fun x hx => by cases hx) hafresh
    exact haccounted.listing_eq hroot hdated (pairwise_made root b hclock)

/-- A function is registered, saving for `c` is refused, and `a` and `d` are made: they are listed
newest first. -/
theorem listed_as_made_after_refusal :
    let b : Bridge :=
      ⟨SortedMap.empty, .new (.memory none) (.fresh 0 []) ⟨fun _ => false, (· == 1)⟩⟩
    let events : List Event := [(5, .bridge (.register "f" ⟨"python"⟩ ["x"] [])),
      (6, .create (some "c")), (7, .create (some "a")), (8, .bridge .clear),
      (9, .create (some "d"))]
    (list "backups" (Run.state (Step.after "backups") events b)).value
        = (made "backups" events b).reverse
      ∧ (made "backups" events b).map (fun x => (x.name, x.createdAt)) = [("a", 7), ("d", 9)] := by
  intro b events
  have hbare : ∀ below, below ≠ [] →
      b.storage.disk.node? (b.storage.disk.place "backups" ++ below) = none := by
    intro below _
    have hmissing : b.storage.disk.node? (b.storage.disk.place "backups") = none := rfl
    exact Disk.IsTree.node?_of_prefix (.fresh 0) (List.prefix_append _ _) hmissing
  have hlisted := listed_as_made "backups" b events (by decide) (.fresh 0)
    (outside_memory rfl) hbare (by decide)
  exact ⟨hlisted.2.2.2.2 (by decide +kernel), by decide +kernel⟩

/-- **A backup listed as older than it is.** Saving for `b` is refused, then `a` is made, and then
`b`: it was made last, and it is listed last, with the instant of the attempt that failed. -/
theorem listed_older_than_made :
    let b : Bridge :=
      ⟨SortedMap.empty, .new (.memory none) (.fresh 0 []) ⟨fun _ => false, (· == 0)⟩⟩
    let events : List Event :=
      [(1, .create (some "b")), (2, .create (some "a")), (3, .create (some "b"))]
    (made "backups" events b).map (fun x => (x.name, x.createdAt)) = [("a", 2), ("b", 3)]
      ∧ (list "backups" (Run.state (Step.after "backups") events b)).value.map
          (fun x => (x.name, x.createdAt)) = [("a", 2), ("b", 1)] := by
  intro b events
  have hbelow : below (Run.state (Step.after "backups") events b).storage.disk "backups"
      = [⟨"a", 2, 2, documentPath "backups" "a"⟩, ⟨"b", 1, 2, documentPath "backups" "b"⟩] := by
    decide +kernel
  refine ⟨by decide +kernel, ?_⟩
  rw [(list_eq _ _).1, listing, hbelow, newestFirst, List.mergeSort_of_pairwise (by decide)]
  rfl

end Rehearsal.Backup
