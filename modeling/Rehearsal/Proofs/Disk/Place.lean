import Mathlib.Data.List.Induction
import Rehearsal.Disk

/-!
# Where paths lead

Resolving a path succeeds only if all folders on the way are there, but where it succeeds the
outcome does not depend on them: there are no links on a disk, so a path has **a place of its
own** (`Disk.place`), told by its names alone. What is proved about places then holds of every
disk with the same working folder.

The place of a path joined with a name is directly below the place of the path
(`Disk.place_join`). That keeps the folders of two backups apart.

That a path finds nothing does not quite say that there is nothing in its place: it may be
that the way goes through a missing folder and up again. Without going up it does say so
(`Disk.Rooted.node?_place`).
-/

namespace Rehearsal

namespace Path

/-! ## The names of a joined path -/

/-- The names on both sides of a slash are all the names there are. -/
theorem names_append_slash (p q : Path) : names (p ++ "/" ++ q) = names p ++ names q := by
  have htext : (p ++ "/" ++ q).toList = p.toList ++ '/' :: q.toList := by
    rw [String.toList_append, String.toList_append, List.append_assoc]
    rfl
  rw [names, htext, List.splitOn_append_cons_self, List.filter_append, List.map_append]
  rfl

/-- **A single name**: it is not empty and holds no slash. -/
def IsName (q : String) : Prop := q ≠ "" ∧ '/' ∉ q.toList

theorem names_of_isName {q : String} (h : IsName q) : names q = [q] := by
  have hq : q.toList ≠ [] := fun hnil => h.1 (String.toList_eq_nil_iff.mp hnil)
  rw [names, List.splitOn_eq_singleton h.2, List.filter_cons_of_pos (by simpa using hq),
    List.filter_nil, List.map_singleton, String.ofList_toList]

theorem not_isAbsolute_of_isName {q : String} (h : IsName q) : isAbsolute q = false := by
  rw [isAbsolute, beq_eq_false_iff_ne]
  intro hhead
  exact h.2 (List.mem_of_head? hhead)

/-- A path that asks for a folder has a slash at its end. -/
theorem eq_append_slash {p : Path} (h : asksFolder p = true) : ∃ p' : Path, p = p' ++ "/" := by
  rw [asksFolder, beq_iff_eq, List.getLast?_eq_some_iff] at h
  obtain ⟨cs, hcs⟩ := h
  refine ⟨String.ofList cs, String.toList_inj.mp ?_⟩
  rw [hcs, String.toList_append, String.toList_ofList]
  rfl

/-- **Joining with a name adds the name.** -/
theorem names_join (p : Path) {q : String} (h : IsName q) :
    names (join p q) = names p ++ [q] := by
  unfold join
  rw [not_isAbsolute_of_isName h]
  split
  · next hp =>
    obtain rfl : p = "" := by simpa using hp
    rw [names_of_isName h]
    rfl
  · split
    · next hfolder =>
      obtain ⟨p', rfl⟩ := eq_append_slash hfolder
      have hempty := names_append_slash p' ""
      rw [String.append_empty, show names "" = [] from rfl, List.append_nil] at hempty
      rw [names_append_slash, hempty, names_of_isName h]
    · rw [names_append_slash, names_of_isName h]

/-- A path joined with a name is not empty. -/
theorem join_ne_empty (p : Path) {q : String} (h : IsName q) : join p q ≠ "" := by
  intro hempty
  have hnames := names_join p h
  rw [hempty] at hnames
  exact absurd hnames.symm (by simp [names])

theorem isAbsolute_join (p : Path) {q : String} (h : IsName q) :
    isAbsolute (join p q) = isAbsolute p := by
  have happend : ∀ s : String, p ≠ "" → isAbsolute (p ++ s) = isAbsolute p := by
    intro s hp
    have hne : p.toList ≠ [] := fun hnil => hp (String.toList_eq_nil_iff.mp hnil)
    rw [isAbsolute, isAbsolute, String.toList_append, List.head?_append,
      List.head?_eq_some_head hne, Option.some_or]
  unfold join
  rw [not_isAbsolute_of_isName h]
  split
  · next hp =>
    obtain rfl : p = "" := by simpa using hp
    rw [not_isAbsolute_of_isName h]
    rfl
  · next hp =>
    have hp : p ≠ "" := by simpa using hp
    split
    · exact happend q hp
    · rw [String.append_assoc]
      exact happend _ hp

/-- A path joined with a name asks for no folder. -/
theorem asksFolder_join (p : Path) {q : String} (h : IsName q) : asksFolder (join p q) = false := by
  have hends : ∃ front : String, join p q = front ++ q := by
    unfold join
    rw [not_isAbsolute_of_isName h]
    split
    · exact ⟨"", (String.empty_append).symm⟩
    · split
      · exact ⟨p, rfl⟩
      · exact ⟨p ++ "/", rfl⟩
  obtain ⟨front, hends⟩ := hends
  have hq : q.toList ≠ [] := fun hnil => h.1 (String.toList_eq_nil_iff.mp hnil)
  rw [hends, asksFolder, String.toList_append, List.getLast?_append,
    List.getLast?_eq_some_getLast hq, Option.some_or, ← List.getLast?_eq_some_getLast hq,
    beq_eq_false_iff_ne]
  exact fun hlast => h.2 (List.mem_of_getLast? hlast)

end Path

namespace Disk

/-! ## Where names lead -/

/-- **The location that names lead to** from a location, by the names alone. -/
def target : Location → List String → Location
  | here, [] => here
  | here, name :: names =>
    if name = "." then target here names
    else if name = ".." then target here.dropLast names
    else target (here ++ [name]) names

/-- **The location of a path**, whether or not the way there exists. -/
def place (d : Disk) (p : Path) : Location := target (d.startOf p) (Path.names p)

/-- Where a path leads does not depend on what is on the disk. -/
theorem place_eq_of_home {d d' : Disk} (h : d'.home = d.home) (p : Path) :
    d'.place p = d.place p := by
  rw [place, place, startOf, startOf, h]

theorem target_append (here : Location) (names names' : List String) :
    target here (names ++ names') = target (target here names) names' := by
  induction names generalizing here with
  | nil => rfl
  | cons name names ih =>
    rw [List.cons_append, target, target]
    split
    · exact ih _
    split
    · exact ih _
    · exact ih _

/-- A walk that ends, ends where its names lead. -/
theorem eq_target_of_walk {d : Disk} {here l : Location} {names : List String}
    (h : d.walk here names = .ok l) : l = target here names := by
  induction names generalizing here with
  | nil => simpa [walk, target] using h.symm
  | cons name names ih =>
    unfold walk at h
    unfold target
    split at h
    · cases h
    · cases h
    · split at h
      · next hdot => rw [if_pos hdot]; exact ih h
      · next hdot =>
        rw [if_neg hdot]
        split at h
        · next hup => rw [if_pos hup]; exact ih h
        · next hup =>
          rw [if_neg hup]
          split at h
          · cases h
          · exact ih h

/-- What a path is like that is resolved at all. -/
structure Resolvable (p : Path) : Prop where
  nul : '\x00' ∉ p.toList
  ne : p ≠ ""
  long : p.utf8ByteSize ≤ pathLimit

theorem Resolvable.resolve_eq {p : Path} (h : Resolvable p) (d : Disk) :
    d.resolve p = d.walk (d.startOf p) (Path.names p) := by
  rw [resolve, if_neg h.nul, if_neg h.ne, if_neg (Nat.not_lt_of_ge h.long)]

/-- **A path resolves** where the walk along its names ends, if it is resolved at all. -/
theorem resolve_eq_ok_iff {d : Disk} {p : Path} {l : Location} :
    d.resolve p = .ok l ↔ Resolvable p ∧ d.walk (d.startOf p) (Path.names p) = .ok l := by
  refine ⟨fun h => ?_, fun ⟨hp, hwalk⟩ => (hp.resolve_eq d).trans hwalk⟩
  unfold resolve at h
  split at h
  · cases h
  split at h
  · cases h
  split at h
  · cases h
  · next hnul hne hlong => exact ⟨⟨hnul, hne, Nat.le_of_not_gt hlong⟩, h⟩

/-- **A path that resolves, resolves to its place.** -/
theorem eq_place_of_resolve {d : Disk} {p : Path} {l : Location} (h : d.resolve p = .ok l) :
    l = d.place p :=
  eq_target_of_walk (resolve_eq_ok_iff.mp h).2

/-! ## Disks without gaps -/

/-- **Whatever is there is in a folder**: above each location at which there is something, there is
something too. -/
def Rooted (d : Disk) : Prop :=
  ∀ (l : Location) (name : String), (d.node? (l ++ [name])).isSome = true →
    (d.node? l).isSome = true

/-- With something at a location, there is something at each location above it. -/
theorem Rooted.isSome_of_prefix {d : Disk} (h : d.Rooted) {l l' : Location} (habove : l' <+: l)
    (hl : (d.node? l).isSome = true) : (d.node? l').isSome = true := by
  obtain ⟨below, rfl⟩ := habove
  induction below using List.reverseRecOn with
  | nil => rwa [List.append_nil] at hl
  | append_singleton below name ih =>
    rw [← List.append_assoc] at hl
    exact ih (h _ _ hl)

/-- A walk that goes up nowhere is on the way down all the time. -/
theorem prefix_target {names : List String} (h : ".." ∉ names) (here : Location) :
    here <+: target here names := by
  induction names generalizing here with
  | nil => exact List.prefix_refl here
  | cons name names ih =>
    have hup : name ≠ ".." := fun hname => h (hname ▸ List.mem_cons_self)
    have hnames : ".." ∉ names := fun hmem => h (List.mem_cons_of_mem _ hmem)
    rw [target, if_neg hup]
    split
    · exact ih hnames here
    · exact (List.prefix_append here [name]).trans (ih hnames _)

/-- A walk that goes up nowhere fails for want of something above where its names lead. -/
theorem missing_of_walk {d : Disk} {here : Location} {names : List String} (hup : ".." ∉ names)
    (h : d.walk here names = .error .notFound) :
    ∃ l, l <+: target here names ∧ d.node? l = none := by
  induction names generalizing here with
  | nil => cases h
  | cons name names ih =>
    have hnames : ".." ∉ names := fun hmem => hup (List.mem_cons_of_mem _ hmem)
    have hne : name ≠ ".." := fun hname => hup (hname ▸ List.mem_cons_self)
    unfold walk at h
    split at h
    · next hmissing => exact ⟨here, prefix_target hup here, hmissing⟩
    · cases h
    · rw [if_neg hne] at h
      rw [target, if_neg hne]
      split at h
      · next hdot =>
        rw [if_pos hdot]
        exact ih hnames h
      · next hdot =>
        rw [if_neg hdot]
        split at h
        · cases h
        · exact ih hnames h

/-- **On a disk without gaps nothing is hidden**: where a path without `..` finds nothing, there is
nothing in its place. -/
theorem Rooted.node?_place {d : Disk} (hrooted : d.Rooted) {p : Path} (hp : p ≠ "")
    (hup : ".." ∉ Path.names p) (h : d.read p = .error .notFound) : d.node? (d.place p) = none := by
  have hfind : d.find p = .error .notFound := by
    unfold read at h
    split at h
    · cases h
    · cases h
    · next e he =>
      obtain rfl : e = .notFound := Except.error.inj h
      exact he
  clear h
  unfold find at hfind
  cases hresolve : d.resolve p with
  | ok l =>
    rw [hresolve] at hfind
    rw [← eq_place_of_resolve hresolve]
    cases hnode : d.node? l with
    | none => rfl
    | some n =>
      cases n with
      | folder t => simp [Except.bind, hnode] at hfind
      | file octets =>
        simp only [Except.bind, hnode] at hfind
        split at hfind <;> simp at hfind
  | error e =>
    rw [hresolve] at hfind
    obtain rfl : e = .notFound := Except.error.inj hfind
    unfold resolve at hresolve
    split at hresolve
    · cases hresolve
    split at hresolve
    · cases hresolve
    obtain ⟨l, habove, hmissing⟩ := missing_of_walk hup hresolve
    by_contra hnode
    have hsome := hrooted.isSome_of_prefix habove (Option.isSome_iff_ne_none.mpr hnode)
    rw [hmissing] at hsome
    cases hsome

/-- **What a path joined with a name leads to** is directly below what the path leads to. -/
theorem place_join (d : Disk) (p : Path) {q : String} (h : Path.IsName q) (hdot : q ≠ ".")
    (hup : q ≠ "..") : d.place (Path.join p q) = d.place p ++ [q] := by
  rw [place, startOf, Path.isAbsolute_join p h, Path.names_join p h, target_append]
  rw [target, if_neg hdot, if_neg hup]
  rfl

end Disk

end Rehearsal
