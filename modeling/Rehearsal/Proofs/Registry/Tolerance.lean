import Mathlib.Data.List.Nodup
import Mathlib.Logic.Relation
import Rehearsal.Proofs.Action.Members
import Rehearsal.Proofs.Json.Spelling
import Rehearsal.Proofs.Registry.RoundTrip

/-!
# What a stored document may differ in

A document need not have been written by the program to be read. Members may stand in any order, in
the document, in its records, in the actions of their bodies and in the parts of these; a record may
have members that nobody asks for; and all but one of its members may be missing, each standing then
for a certain value (`FunctionRecord.defaults`).

Each of these is one way in which two trees may differ (`FunctionRecord.Varies`,
`Registry.Varies`), and any number of them, one after the other and in either direction, leaves the
registry the same (`Registry.ofWritten?_of_alike`).

A record is read part by part, each from the values under one name
(`FunctionRecord.ofWritten?_object`), so what a difference is to a record is what it is to these
values. For the document itself the names must differ: of two records with one name the later counts,
and another order would make another one the later.
-/

namespace Rehearsal

namespace SortedMap

variable {κ α : Type} [Ord κ] [Std.TransOrd κ] [Std.LawfulEqOrd κ]

/-- Entries of different keys may be inserted in either order. -/
theorem insert_comm {k k' : κ} (h : k ≠ k') (m : SortedMap κ α) (x x' : α) :
    (m.insert k x).insert k' x' = (m.insert k' x').insert k x := by
  refine ext_get? fun j => ?_
  simp only [get?_insert, Std.LawfulEqCmp.compare_eq_iff_eq]
  by_cases hj : j = k
  · subst hj
    simp [h]
  · simp [hj]

/-- **The map of entries in another order** is the same if no key stands twice. -/
theorem ofList_of_perm {es es' : List (κ × α)} (h : es.Perm es')
    (hkeys : (es.map Prod.fst).Nodup) : ofList es = ofList es' := by
  refine h.foldl_eq' (fun e he e' he' m => ?_) _
  by_cases hkey : e.1 = e'.1
  · rw [List.inj_on_of_nodup_map hkeys he he' hkey]
  · exact insert_comm hkey m e.2 e'.2

end SortedMap

namespace Json

/-- **Members that all have texts for names** are the members with these names. -/
theorem named?_eq_some_iff {members : List (Option String × Written)}
    {ms : List (String × Written)} :
    named? members = some ms ↔ members = ms.map fun m => (some m.1, m.2) := by
  induction members generalizing ms with
  | nil => cases ms <;> simp [named?]
  | cons m members ih =>
    obtain ⟨k, w⟩ := m
    cases k with
    | none =>
      have hnone : named? ((none, w) :: members) = none := rfl
      rw [hnone]
      cases ms <;> simp
    | some k =>
      rw [named?_cons, Option.map_eq_some_iff]
      constructor
      · rintro ⟨ms', hms', rfl⟩
        rw [ih.mp hms', List.map_cons]
      · intro h
        cases ms with
        | nil => simp at h
        | cons m ms =>
          simp only [List.map_cons, List.cons.injEq, Prod.mk.injEq, Option.some.injEq] at h
          obtain ⟨⟨rfl, rfl⟩, hms⟩ := h
          exact ⟨ms, ih.mpr hms, rfl⟩

/-- Under a name that no member has there is no value. -/
theorem valuesOf_eq_nil {members : List (Option String × Written)} {ms : List (String × Written)}
    {k : String} (h : named? members = some ms) (hk : some k ∉ members.map Prod.fst) :
    valuesOf k ms = [] := by
  rw [named?_eq_some_iff.mp h, List.map_map] at hk
  rw [valuesOf, List.map_eq_nil_iff, List.filter_eq_nil_iff]
  rintro m hm hmk
  exact hk (List.mem_map.mpr ⟨m, hm, congrArg some (by simpa using hmk)⟩)

end Json

/-- Actions in another order are trees of texts or neither is. -/
theorem Action.Reordered.isSpelled_iff {w w' : Json.Written} (h : Action.Reordered w w') :
    w.isSpelled = true ↔ w'.isSpelled = true := by
  cases h with
  | members hperm => exact Json.Written.isSpelled_object_iff_of_perm hperm
  | details hperm => simp only [Json.Written.isSpelled_object_iff, List.forall_mem_append,
      List.forall_mem_cons, hperm.mem_iff]

namespace FunctionRecord

open Json (Written valuesOf named?)

variable {k name : String} {w w' : Written} {front back ms ms' : List (String × Written)}
  {now : Instant} {levels : Nat}

/-! ## The parts of a record -/

theorem atMostOne?_of_two_le (h : 2 ≤ (valuesOf name ms).length) : atMostOne? name ms = none := by
  unfold atMostOne?
  split
  · next hvalues =>
    rw [hvalues] at h
    exact absurd h (by simp)
  · next hvalues =>
    rw [hvalues] at h
    exact absurd h (by simp)
  · rfl

/-- **The value under a name**, or none, is told by the values there, in whatever order. -/
theorem atMostOne?_congr (h : (valuesOf name ms).Perm (valuesOf name ms')) :
    atMostOne? name ms = atMostOne? name ms' := by
  rcases h.eq_or_two_le with heq | ⟨htwo, htwo'⟩
  · rw [atMostOne?, atMostOne?, heq]
  · rw [atMostOne?_of_two_le htwo, atMostOne?_of_two_le htwo']

theorem atMostOne?_middle_of_ne (h : k ≠ name) :
    atMostOne? name (front ++ (k, w) :: back) = atMostOne? name (front ++ back) :=
  atMostOne?_congr (by rw [Json.valuesOf_middle_of_ne h])

section

variable {α : Type} {missing : α} {read : Written → Option α}

/-- **A part that may be missing**, read by its name. -/
def part? (missing : α) (read : Written → Option α) (name : String)
    (members : List (String × Written)) : Option α :=
  (atMostOne? name members).bind (orDefault missing read)

/-- **A missing part is what it stands for.** -/
theorem part?_middle_of_missing (habsent : valuesOf k (front ++ back) = [])
    (hread : read w = some missing) :
    part? missing read k (front ++ (k, w) :: back) = part? missing read k (front ++ back) := by
  obtain ⟨hfront, hback⟩ : valuesOf k front = [] ∧ valuesOf k back = [] := by
    rw [Json.valuesOf_append] at habsent
    exact List.append_eq_nil_iff.mp habsent
  rw [part?, part?, atMostOne?, atMostOne?, habsent, Json.valuesOf_middle_self, hfront, hback]
  exact hread

/-- A part depends on what its value is read as. -/
theorem part?_middle (hread : read w = read w') :
    part? missing read k (front ++ (k, w) :: back)
      = part? missing read k (front ++ (k, w') :: back) := by
  unfold part? atMostOne?
  rw [Json.valuesOf_middle_self, Json.valuesOf_middle_self]
  rcases valuesOf k front with _ | ⟨v, _ | ⟨v', vs⟩⟩
  · rcases valuesOf k back with _ | ⟨v, vs⟩
    · exact hread
    · rfl
  · rfl
  · rfl

end

/-- The tag of the language, which must be there. -/
def tag? (members : List (String × Written)) : Option String :=
  (atMostOne? "lang" members).bind fun w => w.bind Written.text?

/-- **The record that members stand for**: each of its parts is read by its name. -/
def ofMembers? (now : Instant) (levels : Nat) (members : List (String × Written)) :
    Option FunctionRecord := do
  let tag ← tag? members
  let params ← part? [] Written.texts? "params" members
  let body ← part? [] (body? levels) "bodyActions" members
  let timestamp ← part? now instant? "timestamp" members
  let registeredAt ← part? none nullableInstant? "registeredAt" members
  let lastCalled ← part? none nullableInstant? "lastCalled" members
  let callCount ← part? 0 count? "callCount" members
  pure ⟨⟨tag⟩, params, body, timestamp, registeredAt, lastCalled, callCount⟩

/-- Finding all parts first and reading them then is reading each where it is found. -/
theorem bind_record?_eq (now : Instant) (levels : Nat) (members : List (String × Written)) :
    (Parts.ofMembers? members).bind (Parts.record? now levels) = ofMembers? now levels members := by
  unfold Parts.ofMembers? ofMembers? tag? part?
  -- a name that has two values is a fault either way, wherever it is found
  rcases atMostOne? "lang" members with _ | lang
  · rfl
  rcases atMostOne? "params" members with _ | params
  · simp
  rcases atMostOne? "bodyActions" members with _ | body
  · simp
  rcases atMostOne? "timestamp" members with _ | timestamp
  · simp
  rcases atMostOne? "registeredAt" members with _ | registeredAt
  · simp
  rcases atMostOne? "lastCalled" members with _ | lastCalled
  · simp
  rcases atMostOne? "callCount" members with _ | callCount
  · simp
  rfl

/-- **A record is read part by part.** -/
theorem ofWritten?_object (now : Instant) (levels : Nat)
    (members : List (Option String × Written)) : ofWritten? now levels (.object members)
      = (named? members).bind (ofMembers? now (levels - 2)) := by
  show ((named? members).bind Parts.ofMembers?).bind (Parts.record? now (levels - 2)) = _
  rw [Option.bind_assoc]
  exact congrArg _ (funext fun ms => bind_record?_eq now (levels - 2) ms)

/-! ## The ways in which records may differ -/

/-- **The names that are asked for.** -/
def memberNames : List String :=
  ["lang", "params", "bodyActions", "timestamp", "registeredAt", "lastCalled", "callCount"]

/-- **What a missing member stands for**: no parameters, no actions, never registered and never
called, and active when it is read. -/
def defaults (now : Instant) : List (String × Written) :=
  [("params", .array []), ("bodyActions", .array []), ("registeredAt", .null), ("lastCalled", .null),
    ("callCount", (Json.int 0).written), ("timestamp", (Json.int now.toInt).written)]

/-- **One way in which two records may differ.** -/
inductive Varies (now : Instant) : Written → Written → Prop
  /-- The members stand in another order. -/
  | order {members members' : List (Option String × Written)} (h : members.Perm members') :
    Varies now (.object members) (.object members')
  /-- There is a member that is not asked for, whatever it holds. -/
  | unknown {front back : List (Option String × Written)} {k : String} {w : Written}
    (h : k ∉ memberNames) (hw : w.isSpelled = true) :
    Varies now (.object (front ++ back)) (.object (front ++ (some k, w) :: back))
  /-- A member that is missing in the one is there in the other, as what it stands for. -/
  | missing {front back : List (Option String × Written)} {k : String} {w : Written}
    (h : (k, w) ∈ defaults now) (habsent : some k ∉ (front ++ back).map Prod.fst) :
    Varies now (.object (front ++ back)) (.object (front ++ (some k, w) :: back))
  /-- An action stands in another order. -/
  | action {front back : List (Option String × Written)} {before after : List Written}
    {a a' : Written} (h : Action.Reordered a a') :
    Varies now (.object (front ++ (some "bodyActions", .array (before ++ a :: after)) :: back))
      (.object (front ++ (some "bodyActions", .array (before ++ a' :: after)) :: back))
  /-- An action stands in another order, in a record whose parts have no names. -/
  | actionByPlace {lang params a a' : Written} {before after rest : List Written}
    (h : Action.Reordered a a') :
    Varies now (.array (lang :: params :: .array (before ++ a :: after) :: rest))
      (.array (lang :: params :: .array (before ++ a' :: after) :: rest))

/-- **Records that have the same under each name** that is asked for are the same. -/
theorem ofMembers?_congr (h : ∀ name ∈ memberNames, atMostOne? name ms = atMostOne? name ms') :
    ofMembers? now levels ms = ofMembers? now levels ms' := by
  simp only [memberNames, List.forall_mem_cons] at h
  obtain ⟨h₁, h₂, h₃, h₄, h₅, h₆, h₇, -⟩ := h
  simp only [ofMembers?, tag?, part?, h₁, h₂, h₃, h₄, h₅, h₆, h₇]

/-- A part does not depend on a member of another name. -/
theorem part?_middle_of_ne {α : Type} {missing : α} {read : Written → Option α} (h : k ≠ name) :
    part? missing read name (front ++ (k, w) :: back) = part? missing read name (front ++ back) := by
  rw [part?, atMostOne?_middle_of_ne h]
  rfl

theorem tag?_middle_of_ne (h : k ≠ "lang") :
    tag? (front ++ (k, w) :: back) = tag? (front ++ back) := by
  rw [tag?, atMostOne?_middle_of_ne h]
  rfl

/-- **A record with a missing member** is the record with what the member stands for. -/
theorem ofMembers?_of_missing (h : (k, w) ∈ defaults now)
    (habsent : valuesOf k (front ++ back) = []) :
    ofMembers? now levels (front ++ (k, w) :: back) = ofMembers? now levels (front ++ back) := by
  have hparams : (Written.array []).texts? = some [] := rfl
  have hbody : body? levels (.array []) = some [] := rfl
  have hnull : nullableInstant? .null = some none := rfl
  have hcount : count? (Json.int 0).written = some 0 := count?_int 0
  simp only [defaults, List.mem_cons, Prod.mk.injEq, List.not_mem_nil, or_false] at h
  rcases h with ⟨rfl, rfl⟩ | ⟨rfl, rfl⟩ | ⟨rfl, rfl⟩ | ⟨rfl, rfl⟩ | ⟨rfl, rfl⟩ | ⟨rfl, rfl⟩
  all_goals
    simp only [ofMembers?, tag?_middle_of_ne, part?_middle_of_ne, ne_eq, String.reduceEq,
      not_false_eq_true]
  · simp only [part?_middle_of_missing habsent hparams]
  · simp only [part?_middle_of_missing habsent hbody]
  · simp only [part?_middle_of_missing habsent hnull]
  · simp only [part?_middle_of_missing habsent hnull]
  · simp only [part?_middle_of_missing habsent hcount]
  · simp only [part?_middle_of_missing habsent (instant?_int now)]

/-- A body with an action in another order. -/
theorem body?_of_reordered {before after : List Written} {a a' : Written}
    (h : Action.Reordered a a') (levels : Nat) :
    body? levels (.array (before ++ a :: after)) = body? levels (.array (before ++ a' :: after)) := by
  show (before ++ a :: after).mapM (Action.ofWritten? levels)
    = (before ++ a' :: after).mapM (Action.ofWritten? levels)
  rw [List.mapM_append, List.mapM_append, List.mapM_cons, List.mapM_cons,
    Action.ofWritten?_of_reordered h]

/-- **Records that may differ so are the same.** -/
theorem ofWritten?_of_varies (h : Varies now w w') (levels : Nat) :
    ofWritten? now levels w = ofWritten? now levels w' := by
  cases h with
  | order hperm =>
    rw [ofWritten?_object, ofWritten?_object]
    exact hperm.rel_mapM.bind_eq fun ms ms' _ hms =>
      ofMembers?_congr fun name _ => atMostOne?_congr (Json.perm_valuesOf hms name)
  | @unknown front back k w hk _ =>
    rw [ofWritten?_object, ofWritten?_object, Json.named?_middle, Json.named?_append]
    simp only [Option.bind_assoc, Option.bind_map, Function.comp_def]
    refine congrArg (Option.bind _) (funext fun before => congrArg (Option.bind _)
      (funext fun after => ofMembers?_congr fun name hname => ?_))
    exact (atMostOne?_middle_of_ne fun heq : k = name => hk (heq ▸ hname)).symm
  | @missing front back k w hdefault habsent =>
    rw [ofWritten?_object, ofWritten?_object, Json.named?_middle, Json.named?_append]
    cases hfront : named? front with
    | none => rfl
    | some before =>
      cases hback : named? back with
      | none => rfl
      | some after =>
        have hnamed : named? (front ++ back) = some (before ++ after) := by
          rw [Json.named?_append, hfront, hback]
          rfl
        exact (ofMembers?_of_missing hdefault (Json.valuesOf_eq_nil hnamed habsent)).symm
  | action ha =>
    rw [ofWritten?_object, ofWritten?_object, Json.named?_middle, Json.named?_middle]
    simp only [Option.bind_assoc, Option.bind_map, Function.comp_def, ofMembers?,
      tag?_middle_of_ne, part?_middle_of_ne, part?_middle (body?_of_reordered ha _), ne_eq,
      String.reduceEq, not_false_eq_true]
  | actionByPlace ha =>
    simp only [ofWritten?, Parts.ofWritten?, Parts.ofItems?, List.length_cons]
    split
    · simp [Parts.record?, orDefault, body?_of_reordered ha]
    · rfl

/-- What a missing member stands for is a tree of a text. -/
theorem isSpelled_of_mem_defaults (h : (k, w) ∈ defaults now) : w.isSpelled = true := by
  simp only [defaults, List.mem_cons, Prod.mk.injEq, List.not_mem_nil, or_false] at h
  rcases h with ⟨-, rfl⟩ | ⟨-, rfl⟩ | ⟨-, rfl⟩ | ⟨-, rfl⟩ | ⟨-, rfl⟩ | ⟨-, rfl⟩
  · rfl
  · rfl
  · rfl
  · rfl
  · exact Written.isSpelled_int 0
  · exact Written.isSpelled_int now.toInt

/-- **Records that differ so are trees of texts** or neither is. -/
theorem isSpelled_iff_of_varies (h : Varies now w w') :
    w.isSpelled = true ↔ w'.isSpelled = true := by
  cases h with
  | order hperm => exact Written.isSpelled_object_iff_of_perm hperm
  | unknown _ hw => simp only [Written.isSpelled_object_iff, List.forall_mem_append,
      List.forall_mem_cons, hw, true_and]
  | missing hdefault _ => simp only [Written.isSpelled_object_iff, List.forall_mem_append,
      List.forall_mem_cons, isSpelled_of_mem_defaults hdefault, true_and]
  | action ha => simp only [Written.isSpelled_object_iff, Written.isSpelled_array_iff,
      List.forall_mem_append, List.forall_mem_cons, ha.isSpelled_iff]
  | actionByPlace ha => simp only [Written.isSpelled_array_iff, List.forall_mem_append,
      List.forall_mem_cons, ha.isSpelled_iff]

end FunctionRecord

namespace Registry

open Json (Written named?)

variable {now : Instant} {w w' : Written}

/-! ## The ways in which documents may differ -/

/-- **One way in which two documents may differ.** -/
inductive Varies (now : Instant) : Written → Written → Prop
  /-- The records stand in another order. -/
  | order {members members' : List (Option String × Written)} (h : members.Perm members')
    (hnames : (members.map Prod.fst).Nodup) : Varies now (.object members) (.object members')
  /-- A record differs. -/
  | record {front back : List (Option String × Written)} {k : String} {f f' : Written}
    (h : FunctionRecord.Varies now f f') :
    Varies now (.object (front ++ (some k, f) :: back)) (.object (front ++ (some k, f') :: back))

/-- **Documents that differ in any number of these ways**, one after the other and each in either
direction. -/
abbrev Alike (now : Instant) : Written → Written → Prop := Relation.EqvGen (Varies now)

/-- The records of members have the names of the members. -/
theorem map_fst_records? {members : List (String × Written)}
    {records : List (String × FunctionRecord)} (h : records? now members = some records) :
    records.map Prod.fst = members.map Prod.fst := by
  induction members generalizing records with
  | nil =>
    obtain rfl : [] = records := Option.some.inj h
    rfl
  | cons m members ih =>
    unfold records? at h ih
    rw [List.mapM_cons] at h
    simp only [Option.bind_eq_bind, Option.bind_eq_some_iff, Option.map_eq_some_iff,
      Option.pure_def, Option.some.injEq] at h
    obtain ⟨_, ⟨f, -, rfl⟩, rest, hrest, rfl⟩ := h
    rw [List.map_cons, List.map_cons, ih hrest]

/-- **The registry of records in another order** is the same if no name stands twice. -/
theorem map_ofList_records?_of_perm {members members' : List (String × Written)}
    (h : members.Perm members') (hnames : (members.map Prod.fst).Nodup) :
    (records? now members).map SortedMap.ofList = (records? now members').map SortedMap.ofList := by
  have hrel : Option.Rel List.Perm (records? now members) (records? now members') := h.rel_mapM
  rw [Option.map_eq_bind, Option.map_eq_bind]
  refine hrel.bind_eq fun records records' hread hperm => ?_
  have hkeys : (records.map Prod.fst).Nodup := by rwa [map_fst_records? hread]
  exact congrArg some (SortedMap.ofList_of_perm hperm hkeys)

theorem ofWritten?_of_varies (h : Varies now w w') : ofWritten? now w = ofWritten? now w' := by
  cases h with
  | @order members members' hperm hnames =>
    unfold ofWritten?
    rw [Json.members?_object, Json.members?_object]
    refine hperm.rel_mapM.bind_eq fun ms ms' hnamed hms => map_ofList_records?_of_perm hms ?_
    rw [Json.named?_eq_some_iff.mp hnamed, List.map_map] at hnames
    exact List.Nodup.of_map some (by rwa [List.map_map])
  | @record front back k f f' hf =>
    unfold ofWritten?
    rw [Json.members?_object, Json.members?_object, Json.named?_middle, Json.named?_middle]
    simp only [Option.bind_assoc, Option.bind_map, Function.comp_def, records?, List.mapM_append,
      List.mapM_cons, FunctionRecord.ofWritten?_of_varies hf]

/-- **Documents that are alike are the same registry.** -/
theorem ofWritten?_of_alike (h : Alike now w w') : ofWritten? now w = ofWritten? now w' := by
  induction h with
  | rel w w' h => exact ofWritten?_of_varies h
  | refl w => rfl
  | symm w w' _ ih => exact ih.symm
  | trans w w' w'' _ _ ih ih' => exact ih.trans ih'

/-- Documents that are alike are trees of texts or neither is. -/
theorem isSpelled_iff_of_alike (h : Alike now w w') : w.isSpelled = true ↔ w'.isSpelled = true := by
  induction h with
  | rel w w' h =>
    cases h with
    | order hperm _ => exact Written.isSpelled_object_iff_of_perm hperm
    | record hf => simp only [Written.isSpelled_object_iff, List.forall_mem_append,
        List.forall_mem_cons, FunctionRecord.isSpelled_iff_of_varies hf]
  | refl w => exact Iff.rfl
  | symm w w' _ ih => exact ih.symm
  | trans w w' w'' _ _ ih ih' => exact ih.trans ih'

end Registry

end Rehearsal
