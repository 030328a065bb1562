import Rehearsal.Proofs.Disk.Walk

/-!
# How folders are made

The folders of a path are made from the end: if the last cannot be made for want of those above it,
these are made first, and so on upwards. What comes of it is more easily told from the start. Going
along the way **one name at a time**, each folder that is missing is made (`Disk.pave`), and that is
what making folders does if anything is missing at all (`Disk.makeWay_wayTo`).

So whether the folders of a path can be made is told by what is on the way: no file, and no name
that is too long (`Disk.CanMake`). A path that ends in `.` asks for more, since there is no folder
of that name to be made. When they can be made, all on the way is folders afterwards, and nothing
else has changed (`Disk.CanMake.makeFolders`).
-/

namespace Rehearsal.Disk

variable {d d' : Disk} {here start l : Location} {name : String} {names ns : List String}
  {now : Instant}

/-! ## One folder -/

/-- **The disk with a folder at a location**, made or found there. -/
def withFolder (d : Disk) (now : Instant) (l : Location) : Except FileError Disk :=
  match d.node? l with
  | none => .ok (d.put l (.folder now))
  | some (.folder _) => .ok d
  | some (.file _) => .error .alreadyExists

theorem withFolder_of_folderAt (h : d.FolderAt l) (now : Instant) : d.withFolder now l = .ok d := by
  obtain ⟨t, hnode⟩ := h
  rw [withFolder, hnode]

theorem withFolder_of_none (h : d.node? l = none) (now : Instant) :
    d.withFolder now l = .ok (d.put l (.folder now)) := by
  rw [withFolder, h]

theorem withFolder_of_fileAt (h : d.FileAt l) (now : Instant) :
    d.withFolder now l = .error .alreadyExists := by
  obtain ⟨octets, hnode⟩ := h
  rw [withFolder, hnode]

/-- What a folder at a location comes to, if it can be. -/
theorem withFolder_eq_ok (h : d.withFolder now l = .ok d') :
    d'.FolderAt l ∧ FoldersMade now d d' ∧ ∀ l', l' ≠ l → d'.node? l' = d.node? l' := by
  unfold withFolder at h
  split at h
  · next hnode =>
    cases h
    exact ⟨⟨now, node?_put_self _ _ _⟩, foldersMade_put hnode, fun l' hl => node?_put_of_ne d hl _⟩
  · next t hnode =>
    cases h
    exact ⟨⟨t, hnode⟩, .refl now d, fun _ _ => rfl⟩
  · cases h

/-- A folder can be at a location unless a file is. -/
theorem exists_withFolder (h : ¬d.FileAt l) (now : Instant) :
    ∃ d', d.withFolder now l = .ok d' := by
  rcases folderAt_or_none h with hfolder | hnone
  · exact ⟨d, withFolder_of_folderAt hfolder now⟩
  · exact ⟨_, withFolder_of_none hnone now⟩

/-- **A folder is made where a walk ends.** -/
theorem ensureFolderAt_eq (d : Disk) (now : Instant) (start : Location) (names : List String) :
    d.ensureFolderAt now start names = (d.walk start names).bind (d.withFolder now) := by
  unfold ensureFolderAt makeFolderAt leadsToFolder
  cases hwalk : d.walk start names with
  | error e => cases e <;> rfl
  | ok l =>
    cases hnode : d.node? l with
    | none => simp [Except.bind, hnode, withFolder_of_none hnode]
    | some n =>
      cases n with
      | file octets =>
        simp [Except.bind, Except.map, hnode, withFolder_of_fileAt ⟨octets, hnode⟩]
      | folder t =>
        simp [Except.bind, Except.map, hnode, withFolder_of_folderAt ⟨t, hnode⟩]

/-! ## One name at a time -/

/-- **Go along names and make each folder that is missing.** The disk after a failure holds
the folders made before it. -/
def pave (now : Instant) : Disk → Location → List String → Except FileError Unit × Disk
  | d, _, [] => (.ok (), d)
  | d, here, name :: names =>
    if nameLimit < name.utf8ByteSize then (.error .nameTooLong, d)
    else
      match d.withFolder now (next here name) with
      | .ok d' => pave now d' (next here name) names
      | .error e => (.error e, d)

theorem pave_append (now : Instant) (d : Disk) (here : Location) (ns ns' : List String) :
    pave now d here (ns ++ ns')
      = match pave now d here ns with
        | (.ok (), d') => pave now d' (target here ns) ns'
        | (.error e, d') => (.error e, d') := by
  induction ns generalizing d here with
  | nil => rfl
  | cons name ns ih =>
    rw [List.cons_append, pave, pave, target_cons]
    split
    · rfl
    · cases d.withFolder now (next here name) with
      | error e => rfl
      | ok d' => exact ih d' (next here name)

theorem foldersMade_pave (now : Instant) (d : Disk) (here : Location) (ns : List String) :
    FoldersMade now d (pave now d here ns).2 := by
  induction ns generalizing d here with
  | nil => exact .refl now d
  | cons name ns ih =>
    rw [pave]
    split
    · exact .refl now d
    · cases hfolder : d.withFolder now (next here name) with
      | error e => exact .refl now d
      | ok d' => exact (withFolder_eq_ok hfolder).2.1.trans (ih d' _)

/-- **Nothing changes off the way.** -/
theorem node?_pave (hl : l ∉ visited here ns) : (pave now d here ns).2.node? l = d.node? l := by
  induction ns generalizing d here with
  | nil => rfl
  | cons name ns ih =>
    rw [visited_cons, List.mem_cons, not_or] at hl
    rw [pave]
    split
    · rfl
    · cases hfolder : d.withFolder now (next here name) with
      | error e => rfl
      | ok d' =>
        have hne : l ≠ next here name := by
          rintro rfl
          exact hl.2 (here_mem_visited _ _)
        exact (ih hl.2).trans ((withFolder_eq_ok hfolder).2.2 l hne)

/-- **All on the way is folders** when it is done. -/
theorem folderAt_pave (hhere : d.FolderAt here) (h : (pave now d here ns).1 = .ok ()) :
    ∀ l ∈ visited here ns, (pave now d here ns).2.FolderAt l := by
  induction ns generalizing d here with
  | nil =>
    intro l hl
    rw [List.mem_singleton.mp hl]
    exact hhere
  | cons name ns ih =>
    rw [pave] at h ⊢
    split at h
    · cases h
    · next hfits =>
      rw [if_neg hfits]
      cases hfolder : d.withFolder now (next here name) with
      | error e =>
        rw [hfolder] at h
        cases h
      | ok d' =>
        rw [hfolder] at h
        obtain ⟨hnext, hmade, -⟩ := withFolder_eq_ok hfolder
        intro l hl
        rw [visited_cons, List.mem_cons] at hl
        rcases hl with rfl | hl
        · exact (foldersMade_pave now d' _ ns).folderAt (hmade.folderAt hhere)
        · exact ih hnext h l hl

theorem fits_of_pave (h : (pave now d here ns).1 = .ok ()) : ∀ name ∈ ns, Fits name := by
  induction ns generalizing d here with
  | nil => exact fun _ hname => by cases hname
  | cons name ns ih =>
    rw [pave] at h
    split at h
    · cases h
    · next hfits =>
      cases hfolder : d.withFolder now (next here name) with
      | error e =>
        rw [hfolder] at h
        cases h
      | ok d' =>
        rw [hfolder] at h
        exact List.forall_mem_cons.mpr ⟨Nat.le_of_not_gt hfits, ih h⟩

/-- **It can be done** where there are no files and no name is too long. -/
theorem pave_eq_ok (hway : ∀ l ∈ visited here ns, ¬d.FileAt l) (hfits : ∀ name ∈ ns, Fits name) :
    (pave now d here ns).1 = .ok () := by
  induction ns generalizing d here with
  | nil => rfl
  | cons name ns ih =>
    rw [visited_cons, List.forall_mem_cons] at hway
    rw [List.forall_mem_cons] at hfits
    rw [pave, if_neg (Nat.not_lt_of_ge hfits.1)]
    obtain ⟨d', hfolder⟩ := exists_withFolder (hway.2 _ (here_mem_visited _ _)) now
    have hmade := (withFolder_eq_ok hfolder).2.1
    rw [hfolder]
    exact ih (fun l hl => hmade.not_fileAt (hway.2 l hl)) hfits.2

/-- Where there are folders already, there is nothing to do. -/
theorem pave_of_folderAt (hway : ∀ l ∈ visited here ns, d.FolderAt l)
    (hfits : ∀ name ∈ ns, Fits name) : pave now d here ns = (.ok (), d) := by
  induction ns generalizing here with
  | nil => rfl
  | cons name ns ih =>
    rw [visited_cons, List.forall_mem_cons] at hway
    rw [List.forall_mem_cons] at hfits
    rw [pave, if_neg (Nat.not_lt_of_ge hfits.1),
      withFolder_of_folderAt (hway.2 _ (here_mem_visited _ _))]
    exact ih hway.2 hfits.2

/-! ## From the end -/

/-- The names of the folders that are made above the last, if anything is missing. -/
def wayNames (names : List String) : List String := (names.filter (· ≠ ".")).dropLast

/-- What an attempt to change a disk leaves: the disk changed, or the disk and the fault. -/
def outcomeOf (d : Disk) : Except FileError Disk → Except FileError Unit × Disk
  | .ok d' => (.ok (), d')
  | .error e => (.error e, d)

/-- Attempts of the same outcome fail alike, or both are good. -/
theorem error_or_ok {r r' : Except FileError Disk} (h : (outcomeOf d' r').1 = (outcomeOf d r).1) :
    (∃ e, r = .error e ∧ r' = .error e) ∨ ∃ d₁ d₁', r = .ok d₁ ∧ r' = .ok d₁' := by
  cases r with
  | error e =>
    cases r' with
    | error e' =>
      cases h
      exact Or.inl ⟨e, rfl, rfl⟩
    | ok d₁' => cases h
  | ok d₁ =>
    cases r' with
    | error e' => cases h
    | ok d₁' => exact Or.inr ⟨d₁, d₁', rfl, rfl⟩

/-- One folder more, where all above it is folders. -/
theorem outcomeOf_ensureFolderAt_concat (hway : ∀ l ∈ visited start ns, d.FolderAt l)
    (hfits : ∀ name ∈ ns, Fits name) (name : String) :
    outcomeOf d (d.ensureFolderAt now start (ns ++ [name]))
      = pave now d (target start ns) [name] := by
  have hwalk : d.walk start ns = .ok (target start ns) :=
    walk_eq_ok_iff.mpr ⟨fun l hl => hway l (mem_visited.mpr (Or.inl hl)), hfits⟩
  have hlast : d.FolderAt (target start ns) := hway _ (mem_visited.mpr (Or.inr rfl))
  rw [ensureFolderAt_eq, walk_append, hwalk]
  show outcomeOf d ((d.walk (target start ns) [name]).bind (d.withFolder now)) = _
  rw [walk_cons_of_folderAt hlast, pave]
  split
  · rfl
  · show outcomeOf d (d.withFolder now (next (target start ns) name)) = _
    cases d.withFolder now (next (target start ns) name) <;> rfl

/-- The beginnings of a list with one more at the end. -/
theorem beginnings_concat (ns : List String) (name : String) :
    beginnings (ns ++ [name]) = beginnings ns ++ [ns ++ [name]] := by
  have hlength : (ns ++ [name]).length = ns.length + 1 := List.length_append
  rw [beginnings, hlength, List.range_succ, List.map_append, List.map_singleton]
  congr 1
  · refine List.map_congr_left fun n hn => ?_
    exact List.take_append_of_le_length (Nat.le_of_lt_succ (List.mem_range.mp hn))
  · rw [← hlength, List.take_length]

theorem makeWay_of_missing {way : List (List String)}
    (h : d.walk start names = .error .notFound) :
    makeWay now start (names :: way) d
      = match makeWay now start way d with
        | (.ok (), d') => outcomeOf d' (d'.ensureFolderAt now start names)
        | (.error e, d') => (.error e, d') := by
  have hensure : d.ensureFolderAt now start names = .error .notFound := by
    rw [ensureFolderAt_eq, h]
    rfl
  rw [makeWay, hensure]
  dsimp only
  rcases makeWay now start way d with ⟨_ | u, d'⟩
  · rfl
  · dsimp only
    cases d'.ensureFolderAt now start names <;> rfl

theorem makeWay_of_found {way : List (List String)}
    (h : d.walk start names ≠ .error .notFound) :
    makeWay now start (names :: way) d = outcomeOf d (d.ensureFolderAt now start names) := by
  have hfound : d.ensureFolderAt now start names ≠ .error .notFound := by
    rw [ensureFolderAt_eq]
    cases hwalk : d.walk start names with
    | error e =>
      intro he
      cases he
      exact h hwalk
    | ok l =>
      show d.withFolder now l ≠ .error .notFound
      unfold withFolder
      split <;> simp
  rw [makeWay]
  cases hensure : d.ensureFolderAt now start names with
  | ok d' => rfl
  | error e => cases e <;> first | rfl | exact absurd hensure hfound

/-- **A way that begins well is made from the end as from the start.** -/
theorem makeWay_eq_pave (hstart : d.FolderAt start)
    (hway : ∀ q, q <+: ns → d.walk start q = .error .notFound
      ∨ d.walk start q = .ok (target start q) ∧ ¬d.FileAt (target start q)) :
    makeWay now start ((beginnings ns).filter (· ≠ [])).reverse d = pave now d start ns := by
  induction ns using List.reverseRecOn with
  | nil => rfl
  | append_singleton ns name ih =>
    have hlist : ((beginnings (ns ++ [name])).filter (· ≠ [])).reverse
        = (ns ++ [name]) :: ((beginnings ns).filter (· ≠ [])).reverse := by
      rw [beginnings_concat, List.filter_append, List.filter_cons_of_pos (by simp), List.filter_nil,
        List.reverse_append]
      rfl
    have ih := ih fun q hq => hway q (hq.trans (List.prefix_append ns [name]))
    rw [hlist, pave_append]
    rcases hway _ (List.prefix_refl _) with hmissing | ⟨hwalk, -⟩
    · -- the way is made first, and then one folder more
      rw [makeWay_of_missing hmissing, ih]
      cases hpave : pave now d start ns with
      | mk outcome d' =>
        cases outcome with
        | error e => rfl
        | ok u =>
          have hok : (pave now d start ns).1 = .ok () := congrArg Prod.fst hpave
          have hfolders := folderAt_pave hstart hok
          rw [hpave] at hfolders
          exact outcomeOf_ensureFolderAt_concat hfolders (fits_of_pave hok) name
    · -- the folders above the last are there
      obtain ⟨hstations, hfits⟩ := walk_eq_ok_iff.mp hwalk
      have hfolders : ∀ l ∈ visited start ns, d.FolderAt l := by
        intro l hl
        rw [stations_append, List.forall_mem_append] at hstations
        rcases mem_visited.mp hl with hl | rfl
        · exact hstations.1 l hl
        · exact hstations.2 _ List.mem_cons_self
      have hfits' : ∀ name ∈ ns, Fits name := fun name hname =>
        hfits name (List.mem_append_left _ hname)
      rw [makeWay_of_found (by rw [hwalk]; simp), pave_of_folderAt hfolders hfits']
      exact outcomeOf_ensureFolderAt_concat hfolders hfits' name

/-- Where a walk finds something missing, the ways to it begin well. -/
theorem walk_of_prefix (h : d.walk here names = .error .notFound) {q : List String} {last : String}
    (hq : q ++ [last] <+: names.filter (· ≠ ".")) :
    d.walk here q = .error .notFound
      ∨ d.walk here q = .ok (target here q) ∧ ¬d.FileAt (target here q) := by
  induction names generalizing here q with
  | nil => cases h
  | cons name names ih =>
    by_cases hhere : d.FolderAt here
    · rw [walk_cons_of_folderAt hhere] at h
      split at h
      · cases h
      · next hfits =>
        by_cases hdot : name = "."
        · subst hdot
          rw [List.filter_cons_of_neg (by simp)] at hq
          exact ih h hq
        · rw [List.filter_cons_of_pos (by simpa using hdot)] at hq
          cases q with
          | nil => exact Or.inr ⟨rfl, hhere.not_fileAt⟩
          | cons first q =>
            obtain ⟨rfl, hq'⟩ := List.cons_prefix_cons.mp hq
            rw [walk_cons_of_folderAt hhere, if_neg hfits, target_cons]
            exact ih h hq'
    · by_cases hfile : d.FileAt here
      · rw [walk_cons_of_fileAt hfile] at h
        cases h
      · have hnone := (folderAt_or_none hfile).resolve_left hhere
        cases q with
        | nil => exact Or.inr ⟨rfl, hfile⟩
        | cons first q => exact Or.inl (walk_cons_of_none hnone first q)

/-! ## The folders of a path -/

section

variable {p : Path}

theorem makeFolders_of_ne (hne : p ≠ "") (hnul : '\x00' ∉ p.toList)
    (hlong : p.utf8ByteSize ≤ pathLimit) :
    d.makeFolders now p
      = makeWay now (d.startOf p) (Path.names p :: wayTo (Path.names p)) d := by
  rw [makeFolders, if_neg hne, if_neg hnul, if_neg (Nat.not_lt_of_ge hlong)]

/-- **Where something is missing** on the way, the way is made from the start. -/
theorem makeWay_wayTo (hstart : d.FolderAt start) (h : d.walk start names = .error .notFound) :
    makeWay now start (names :: wayTo names) d
      = match pave now d start (wayNames names) with
        | (.ok (), d') => outcomeOf d' (d'.ensureFolderAt now start names)
        | (.error e, d') => (.error e, d') := by
  have hway : makeWay now start (wayTo names) d = pave now d start (wayNames names) := by
    refine makeWay_eq_pave hstart fun q hq => ?_
    rcases List.eq_nil_or_concat (names.filter (· ≠ ".")) with hnil | ⟨front, last, hlast⟩
    · rw [hnil] at hq
      rw [List.prefix_nil.mp hq]
      exact Or.inr ⟨rfl, hstart.not_fileAt⟩
    · rw [List.concat_eq_append] at hlast
      rw [hlast, List.dropLast_concat] at hq
      obtain ⟨rest, rfl⟩ := hq
      -- what comes after `q` is not nothing, since the last name does
      cases rest with
      | nil =>
        have hbegins : q ++ [last] <+: names.filter (· ≠ ".") :=
          hlast ▸ ⟨[], by simp⟩
        exact walk_of_prefix h hbegins
      | cons name rest =>
        have hbegins : q ++ [name] <+: names.filter (· ≠ ".") :=
          hlast ▸ ⟨rest ++ [last], by simp⟩
        exact walk_of_prefix h hbegins
  rw [makeWay_of_missing h, hway]

/-- **The folders of a path can be made.** No name on the way is too long, and no file is on the
way. What the walk stands in is a folder, or it is among the folders that are made above the last.
-/
structure CanMake (d : Disk) (p : Path) : Prop where
  nul : '\x00' ∉ p.toList
  long : p.utf8ByteSize ≤ pathLimit
  fits : ∀ name ∈ Path.names p, Fits name
  way : ∀ l ∈ visited (d.startOf p) (Path.names p), ¬d.FileAt l
  stands : ∀ l ∈ stations (d.startOf p) (Path.names p),
    d.FolderAt l ∨ l ∈ visited (d.startOf p) (wayNames (Path.names p))

/-- **A folder is ensured** where a walk ends at no file. -/
theorem ensureFolderAt_eq_ok_iff : (∃ d', d.ensureFolderAt now start names = .ok d')
    ↔ (∀ l ∈ stations start names, d.FolderAt l) ∧ (∀ name ∈ names, Fits name)
      ∧ ¬d.FileAt (target start names) := by
  rw [ensureFolderAt_eq, ← and_assoc, ← walk_eq_ok_iff]
  cases hwalk : d.walk start names with
  | error e => exact iff_of_false (by rintro ⟨d', h⟩; cases h) (by rintro ⟨h, -⟩; cases h)
  | ok l =>
    obtain rfl := eq_target_of_walk hwalk
    show (∃ d', d.withFolder now (target start names) = .ok d') ↔ _
    by_cases hfile : d.FileAt (target start names)
    · rw [withFolder_of_fileAt hfile]
      exact iff_of_false (by rintro ⟨d', h⟩; cases h) fun h => h.2 hfile
    · exact iff_of_true (exists_withFolder hfile now) ⟨rfl, hfile⟩

/-- Afterwards there are folders all along, and nothing else has changed. -/
theorem of_ensureFolderAt_eq_ok (h : d.ensureFolderAt now start names = .ok d') :
    (∀ l ∈ visited start names, d'.FolderAt l)
      ∧ ∀ l, l ≠ target start names → d'.node? l = d.node? l := by
  obtain ⟨hstations, hfits, -⟩ := ensureFolderAt_eq_ok_iff.mp ⟨d', h⟩
  rw [ensureFolderAt_eq, walk_eq_ok_iff.mpr ⟨hstations, hfits⟩] at h
  obtain ⟨hlast, hmade, hsame⟩ := withFolder_eq_ok h
  refine ⟨fun l hl => ?_, hsame⟩
  rcases mem_visited.mp hl with hl | rfl
  · exact hmade.folderAt (hstations l hl)
  · exact hlast

theorem outcomeOf_eq_ok {r : Except FileError Disk} (h : (outcomeOf d r).1 = .ok ()) :
    r = .ok (outcomeOf d r).2 := by
  cases r <;> cases h
  rfl

theorem mem_visited_of_wayNames (h : l ∈ visited start (wayNames names)) :
    l ∈ visited start names := by
  obtain ⟨rest, hrest⟩ := List.dropLast_prefix (names.filter (· ≠ "."))
  have hmem := mem_visited_append h rest
  rw [wayNames, hrest] at hmem
  exact mem_visited_of_filter hmem

theorem mem_of_mem_wayNames (h : name ∈ wayNames names) : name ∈ names :=
  (List.mem_filter.mp (List.dropLast_subset _ h)).1

theorem mem_of_mem_wayTo {q : List String} (hq : q ∈ wayTo names) (h : name ∈ q) :
    name ∈ names := by
  obtain ⟨hbegins, -⟩ := List.mem_filter.mp (List.mem_reverse.mp hq)
  obtain ⟨n, -, rfl⟩ := List.mem_map.mp hbegins
  exact mem_of_mem_wayNames (List.mem_of_mem_take h)

/-- **Folders that were made** were made one name at a time, if anything was missing above the last,
and then the last was ensured. -/
theorem ensured_of_makeWay (hstart : d.FolderAt start)
    (h : (makeWay now start (names :: wayTo names) d).1 = .ok ()) :
    ∃ d₁, FoldersMade now d d₁ ∧ (∀ l, l ∉ visited start (wayNames names) → d₁.node? l = d.node? l)
      ∧ d₁.ensureFolderAt now start names
        = .ok (makeWay now start (names :: wayTo names) d).2 := by
  by_cases hwalk : d.walk start names = .error .notFound
  · have hmade := foldersMade_pave now d start (wayNames names)
    have hsame : ∀ l, l ∉ visited start (wayNames names) →
        (pave now d start (wayNames names)).2.node? l = d.node? l := fun l hl => node?_pave hl
    rw [makeWay_wayTo hstart hwalk] at h ⊢
    generalize pave now d start (wayNames names) = paved at h hmade hsame ⊢
    rcases paved with ⟨_ | u, d₁⟩
    · cases h
    · exact ⟨d₁, hmade, hsame, outcomeOf_eq_ok h⟩
  · rw [makeWay_of_found hwalk] at h ⊢
    exact ⟨d, .refl now d, fun _ _ => rfl, outcomeOf_eq_ok h⟩

/-- **Folders that were made could be made.** -/
theorem canMake_of_makeFolders (hstart : d.FolderAt (d.startOf p))
    (h : (d.makeFolders now p).1 = .ok ()) : d.CanMake p := by
  by_cases hne : p = ""
  · subst hne
    have hhere : ∀ l ∈ visited (d.startOf "") (Path.names ""), ¬d.FileAt l := by
      intro l hl
      rw [List.mem_singleton.mp hl]
      exact hstart.not_fileAt
    exact ⟨by simp, by decide, by simp [Path.names], hhere, by simp [Path.names, stations]⟩
  have hnul : '\x00' ∉ p.toList := by
    intro hmem
    rw [makeFolders, if_neg hne, if_pos hmem] at h
    cases h
  have hlong : p.utf8ByteSize ≤ pathLimit := by
    refine Nat.le_of_not_gt fun hgt => ?_
    rw [makeFolders, if_neg hne, if_neg hnul, if_pos hgt] at h
    cases h
  rw [makeFolders_of_ne hne hnul hlong] at h
  obtain ⟨d₁, hmade, hsame, hensure⟩ := ensured_of_makeWay hstart h
  obtain ⟨hstations, hfits, hlast⟩ := ensureFolderAt_eq_ok_iff.mp ⟨_, hensure⟩
  refine ⟨hnul, hlong, hfits, ?_, fun l hl => or_iff_not_imp_right.mpr fun hoff => ?_⟩
  · rintro l hl ⟨octets, hfile⟩
    -- a file on the way would still be there
    have hfile₁ : d₁.FileAt l := ⟨octets, hmade.node_of_some hfile⟩
    rcases mem_visited.mp hl with hl | rfl
    · exact (hstations l hl).not_fileAt hfile₁
    · exact hlast hfile₁
  · obtain ⟨t, hfolder⟩ := hstations l hl
    exact ⟨t, hsame l hoff ▸ hfolder⟩

/-- Where a way can be made, it is. -/
theorem CanMake.ensured (h : d.CanMake p) (hstart : d.FolderAt (d.startOf p)) (now : Instant) :
    (makeWay now (d.startOf p) (Path.names p :: wayTo (Path.names p)) d).1 = .ok () := by
  have hfinish : ∀ {d₁ : Disk}, FoldersMade now d d₁ →
      (∀ l ∈ stations (d.startOf p) (Path.names p), d₁.FolderAt l) →
      (outcomeOf d₁ (d₁.ensureFolderAt now (d.startOf p) (Path.names p))).1 = .ok () := by
    intro d₁ hmade hstations
    have hlast := hmade.not_fileAt (h.way _ (mem_visited.mpr (Or.inr rfl)))
    obtain ⟨d₂, hensure⟩ := ensureFolderAt_eq_ok_iff.mpr ⟨hstations, h.fits, hlast⟩
    rw [hensure]
    rfl
  by_cases hwalk : d.walk (d.startOf p) (Path.names p) = .error .notFound
  · rw [makeWay_wayTo hstart hwalk]
    have hpave : (pave now d (d.startOf p) (wayNames (Path.names p))).1 = .ok () :=
      pave_eq_ok (fun l hl => h.way l (mem_visited_of_wayNames hl))
        fun name hname => h.fits name (mem_of_mem_wayNames hname)
    have hfolders := folderAt_pave hstart hpave
    have hmade := foldersMade_pave now d (d.startOf p) (wayNames (Path.names p))
    generalize pave now d (d.startOf p) (wayNames (Path.names p)) = paved at hpave hfolders hmade ⊢
    rcases paved with ⟨_ | u, d₁⟩
    · cases hpave
    · exact hfinish hmade fun l hl => (h.stands l hl).elim hmade.folderAt (hfolders l)
  · rw [makeWay_of_found hwalk]
    refine hfinish (.refl now d) (walk_eq_ok_iff.mp ?_).1
    exact (walk_of_not_fileAt (fun l hl => h.way l (mem_visited.mpr (Or.inl hl)))
      h.fits).resolve_right hwalk

/-- **Folders that can be made are made**, and all on the way is folders then. -/
theorem CanMake.makeFolders (h : d.CanMake p) (hstart : d.FolderAt (d.startOf p)) (now : Instant) :
    (d.makeFolders now p).1 = .ok ()
      ∧ ∀ l ∈ visited (d.startOf p) (Path.names p), (d.makeFolders now p).2.FolderAt l := by
  by_cases hne : p = ""
  · subst hne
    refine ⟨rfl, fun l hl => ?_⟩
    rw [List.mem_singleton.mp hl]
    exact hstart
  · rw [makeFolders_of_ne hne h.nul h.long]
    have hok := h.ensured hstart now
    obtain ⟨d₁, -, -, hensure⟩ := ensured_of_makeWay hstart hok
    exact ⟨hok, (of_ensureFolderAt_eq_ok hensure).1⟩

/-- The ways to the folders above keep to the way. -/
theorem mem_visited_of_wayTo {q : List String} (hq : q ∈ wayTo names) (h : l ∈ visited start q) :
    l ∈ visited start names := by
  obtain ⟨hbegins, -⟩ := List.mem_filter.mp (List.mem_reverse.mp hq)
  obtain ⟨n, -, rfl⟩ := List.mem_map.mp hbegins
  have hway : l ∈ visited start ((wayNames names).take n ++ (wayNames names).drop n) :=
    mem_visited_append h _
  rw [List.take_append_drop] at hway
  exact mem_visited_of_wayNames hway

/-- A folder that is made below others is on the way. -/
theorem target_mem_visited_of_wayTo {q : List String} (h : q ∈ wayTo names) (start : Location) :
    target start q ∈ visited start names :=
  mem_visited_of_wayTo h (mem_visited.mpr (Or.inr rfl))

theorem node?_outcomeOf_ensureFolderAt (d : Disk) (hl : l ≠ target start names) :
    (outcomeOf d (d.ensureFolderAt now start names)).2.node? l = d.node? l := by
  cases hensure : d.ensureFolderAt now start names with
  | error e => rfl
  | ok d' => exact (of_ensureFolderAt_eq_ok hensure).2 l hl

/-- A way that is made changes nothing but where its walks end. -/
theorem node?_makeWay {way : List (List String)} (hl : ∀ q ∈ way, l ≠ target start q) :
    (makeWay now start way d).2.node? l = d.node? l := by
  induction way generalizing d with
  | nil => rfl
  | cons q way ih =>
    rw [List.forall_mem_cons] at hl
    by_cases hwalk : d.walk start q = .error .notFound
    · rw [makeWay_of_missing hwalk]
      have hway := ih (d := d) hl.2
      generalize makeWay now start way d = made at hway ⊢
      rcases made with ⟨_ | u, d'⟩
      · exact hway
      · exact (node?_outcomeOf_ensureFolderAt d' hl.1).trans hway
    · rw [makeWay_of_found hwalk]
      exact node?_outcomeOf_ensureFolderAt d hl.1

/-- **Making folders changes nothing off the way**, also where it fails. -/
theorem node?_makeFolders (hl : l ∉ visited (d.startOf p) (Path.names p)) :
    (d.makeFolders now p).2.node? l = d.node? l := by
  unfold Disk.makeFolders
  split
  · rfl
  split
  · rfl
  split
  · rfl
  refine node?_makeWay (List.forall_mem_cons.mpr ⟨?_, fun q hq => ?_⟩)
  · rintro rfl
    exact hl (mem_visited.mpr (Or.inr rfl))
  · rintro rfl
    exact hl (target_mem_visited_of_wayTo hq _)

end

end Rehearsal.Disk
