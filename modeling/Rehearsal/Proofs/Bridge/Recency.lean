import Rehearsal.Proofs.Bridge.History
import Rehearsal.Proofs.Bridge.Statistics

/-!
# Most recently used first

The ranking by last activity knows nothing of the history. It is a sort by the instants in the
records, and the records have been through documents and back. Still, if the clock goes forward all
the time, it is **the order in which the functions were last used** (`Bridge.recent_by_last_use`).
To use a function is to register it or to call it with success (`Operation.Uses`). A call of what is
not registered is no use of anything, and neither is what is done with the document.

What an event does to the order is told by what it does to the records. A use dates the record of
its function by its own instant, which is later than any before, and every other record that is left
is as it was (`Operation.Uses.timestamp_eq`, `Operation.get?_of_not_uses`). So the record of a
function always bears the instant of its last use (`Bridge.exists_lastUse`), and a sort by instants
is a sort by events.
-/

namespace Rehearsal.Bridge

variable {now : Instant} {op : Operation} {b : Bridge} {name : String} {f : FunctionRecord}
  {events : List Event} {e : Event} {i j : Nat}

/-! ## Uses -/

/-- **An operation uses a function**: it registers it, or calls it and is given a result. -/
def Operation.Uses (now : Instant) (b : Bridge) (name : String) : Operation → Prop
  | .register name' _ _ _ => name' = name
  | .call name' args => name' = name ∧ ∃ result, (Bridge.call now name' args b).value = .ok result
  | _ => False

/-- What is called with success is what is registered. -/
theorem Operation.uses_call_iff {args : List String} :
    (Operation.call name args).Uses now b name ↔ ∃ f, b.registry.get? name = some f := by
  constructor
  · rintro ⟨-, result, hresult⟩
    cases hget : b.registry.get? name with
    | some f => exact ⟨f, rfl⟩
    | none =>
      rw [call_of_not_contains now name b args (SortedMap.contains_eq_false_iff.mpr hget)] at hresult
      cases hresult
  · rintro ⟨f, hf⟩
    exact ⟨rfl, _, call_value_of_get? now name b args hf⟩

/-- An operation uses one function. -/
theorem Operation.Uses.name_eq {name' : String} (h : op.Uses now b name) (h' : op.Uses now b name') :
    name = name' := by
  cases op with
  | register => exact h.symm.trans h'
  | call => exact h.1.symm.trans h'.1
  | unregister | clear | save | load | reopen => cases h

/-- A call is dated by its own instant, if the function was not dated later. -/
theorem timestamp_called (h : f.timestamp ≤ now) : (f.called now).timestamp = now := by
  show (if now ≤ f.timestamp then f.timestamp else now) = now
  split
  · next hle => exact Int64.le_antisymm h hle
  · rfl

/-- **A use dates the record by its own instant**, if the record was not dated later. -/
theorem Operation.Uses.timestamp_eq (h : op.Uses now b name)
    (hold : ∀ f, b.registry.get? name = some f → f.timestamp ≤ now)
    (hf : op.onRecord now name (b.registry.get? name) = some f) : f.timestamp = now := by
  cases op with
  | register name' lang params body =>
    obtain rfl : name' = name := h
    rw [onRecord, if_pos rfl] at hf
    rw [← Option.some.inj hf]
    rfl
  | call name' args =>
    obtain ⟨rfl, -⟩ := h
    rw [onRecord, if_pos rfl] at hf
    obtain ⟨g, hg, rfl⟩ := Option.map_eq_some_iff.mp hf
    exact timestamp_called (hold g hg)
  | unregister | clear | save | load | reopen => cases h

/-- **What is not used is as it was**, as long as it is left. -/
theorem Operation.get?_of_not_uses (h : ¬op.Uses now b name)
    (hf : op.onRecord now name (b.registry.get? name) = some f) : b.registry.get? name = some f := by
  cases op with
  | register name' lang params body =>
    have hname : ¬name' = name := h
    rwa [onRecord, if_neg hname] at hf
  | unregister name' =>
    rw [onRecord] at hf
    split at hf
    · cases hf
    · exact hf
  | clear => cases hf
  | call name' args =>
    by_cases hname : name' = name
    · subst hname
      rw [onRecord, if_pos rfl] at hf
      obtain ⟨g, hg, -⟩ := Option.map_eq_some_iff.mp hf
      exact absurd (Operation.uses_call_iff.mpr ⟨g, hg⟩) h
    · rwa [onRecord, if_neg hname] at hf
  | save | load | reopen => exact hf

/-! ## Last uses -/

/-- **A use in a run**: the event at a place of it uses a function. -/
def UsedAt (events : List Event) (b : Bridge) (name : String) (i : Nat) : Prop :=
  ∃ e, events[i]? = some e ∧ e.2.Uses e.1 (Run.state Operation.after (events.take i) b) name

/-- **The last use** of a function in a run. -/
structure LastUse (events : List Event) (b : Bridge) (name : String) (i : Nat) : Prop where
  used : UsedAt events b name i
  last : ∀ j, UsedAt events b name j → j ≤ i

theorem usedAt_concat_iff :
    UsedAt (events ++ [e]) b name i
      ↔ UsedAt events b name i
        ∨ i = events.length ∧ e.2.Uses e.1 (Run.state Operation.after events b) name := by
  unfold UsedAt
  rcases Nat.lt_trichotomy i events.length with hlt | rfl | hgt
  · rw [List.getElem?_append_left hlt, List.take_append_of_le_length hlt.le]
    simp [hlt.ne]
  · simp
  · rw [List.getElem?_eq_none (by simp; omega), List.getElem?_eq_none hgt.le]
    simp [hgt.ne']

/-- A use at the end of a run is the last one. -/
theorem lastUse_concat_of_uses
    (h : e.2.Uses e.1 (Run.state Operation.after events b) name) :
    LastUse (events ++ [e]) b name events.length where
  used := usedAt_concat_iff.mpr (Or.inr ⟨rfl, h⟩)
  last j hj := by
    obtain ⟨e', he', -⟩ := hj
    obtain ⟨hlt, -⟩ := List.getElem?_eq_some_iff.mp he'
    rw [List.length_append, List.length_singleton] at hlt
    omega

/-- The last use stays the last if the next event is no use. -/
theorem LastUse.concat (h : LastUse events b name i)
    (he : ¬e.2.Uses e.1 (Run.state Operation.after events b) name) :
    LastUse (events ++ [e]) b name i where
  used := usedAt_concat_iff.mpr (Or.inl h.used)
  last j hj := by
    rcases usedAt_concat_iff.mp hj with hj | ⟨-, huse⟩
    · exact h.last j hj
    · exact absurd huse he

/-- Two functions have different last uses. -/
theorem LastUse.name_eq {name' : String} (h : LastUse events b name i)
    (h' : LastUse events b name' i) : name = name' := by
  obtain ⟨e, he, huse⟩ := h.used
  obtain ⟨e', he', huse'⟩ := h'.used
  obtain rfl := Option.some.inj (he.symm.trans he')
  exact huse.name_eq huse'

/-- There is one last use of a function. -/
theorem LastUse.unique (h : LastUse events b name i) (h' : LastUse events b name j) : i = j :=
  Nat.le_antisymm (h'.last i h.used) (h.last j h'.used)

/-- Later in a run is later by the clock, if the clock goes forward. -/
theorem instant_lt_of_lt {e' : Event} (hclock : events.Pairwise fun e e' => e.1 < e'.1)
    (hi : events[i]? = some e) (hj : events[j]? = some e') (hlt : i < j) : e.1 < e'.1 := by
  obtain ⟨hbound, rfl⟩ := List.getElem?_eq_some_iff.mp hi
  obtain ⟨hbound', rfl⟩ := List.getElem?_eq_some_iff.mp hj
  exact List.pairwise_iff_getElem.mp hclock i j hbound hbound' hlt

section

variable {t : Instant} {storage : Storage}

/-- **A record bears the instant of the last use** of its function, if the clock goes forward. -/
theorem exists_lastUse (hempty : storage.content = .ok none)
    (hserved : Served Operation.after events (connect t storage).state)
    (hclock : events.Pairwise fun e e' => e.1 < e'.1) {f : FunctionRecord}
    (hf : (recorded events).get? name = some f) :
    ∃ i e, events[i]? = some e ∧ LastUse events (connect t storage).state name i
      ∧ f.timestamp = e.1 := by
  induction events using List.reverseRecOn generalizing f with
  | nil => cases hf
  | append_singleton events e ih =>
    obtain ⟨hclock, -, hlater⟩ := List.pairwise_append.mp hclock
    have hregistry := (registry_run hempty hserved.init).2
    rw [get?_recorded_concat, ← hregistry] at hf
    by_cases huse : e.2.Uses e.1 (Run.state Operation.after events (connect t storage).state) name
    · refine ⟨events.length, e, by simp, lastUse_concat_of_uses huse,
        huse.timestamp_eq (fun g hg => ?_) hf⟩
      rw [hregistry] at hg
      obtain ⟨j, e', he', -, htimestamp⟩ := ih hserved.init hclock hg
      rw [htimestamp]
      exact Int64.le_of_lt (hlater e' (List.mem_of_getElem? he') e (List.mem_singleton_self e))
    · have hkept := Operation.get?_of_not_uses huse hf
      rw [hregistry] at hkept
      obtain ⟨i, e', he', hlast, htimestamp⟩ := ih hserved.init hclock hkept
      have hi := (List.getElem?_eq_some_iff.mp he').1
      exact ⟨i, e', by rw [List.getElem?_append_left hi, he'], hlast.concat huse, htimestamp⟩

/-- **The recent functions are those most recently used first.** Take any run that starts with
nothing stored, in which the store never fails and every event is later than the one before. The
ranking by last activity has every registered function, and each once. Every function in it has been
used in the run, which is to be registered or to be called with a result, and of two functions the
one that was last used later comes first. -/
theorem recent_by_last_use (t : Instant) (storage : Storage) (events : List Event)
    (hempty : storage.content = .ok none)
    (hserved : Served Operation.after events (connect t storage).state)
    (hclock : events.Pairwise fun e e' => e.1 < e'.1) :
    let b := (connect t storage).state
    let r := (Run.state Operation.after events b).registry
    let names := r.recent.map Prod.fst
    names.Nodup
      ∧ (∀ name, name ∈ names ↔ r.contains name = true)
      ∧ (∀ name ∈ names, ∃ i, LastUse events b name i)
      ∧ names.Pairwise fun name name' => ∀ i j, LastUse events b name i →
          LastUse events b name' j → j < i := by
  intro b r names
  have hranks : r.Ranks (fun f => f.timestamp.toInt) r.recent := r.ranks_recent
  have hused : ∀ name f, (name, f) ∈ r.recent → ∃ i e, events[i]? = some e
      ∧ LastUse events b name i ∧ f.timestamp = e.1 := by
    intro name f hmem
    have hget := (hranks.mem_iff name f).mp hmem
    rw [show r = recorded events from (registry_run hempty hserved).2] at hget
    exact exists_lastUse hempty hserved hclock hget
  refine ⟨hranks.nodup, fun name => ?_, fun name hname => ?_, ?_⟩
  · rw [List.mem_map, SortedMap.contains, Option.isSome_iff_exists]
    constructor
    · rintro ⟨⟨name, f⟩, hmem, rfl⟩
      exact ⟨f, (hranks.mem_iff name f).mp hmem⟩
    · rintro ⟨f, hget⟩
      exact ⟨(name, f), (hranks.mem_iff name f).mpr hget, rfl⟩
  · obtain ⟨⟨name, f⟩, hmem, rfl⟩ := List.mem_map.mp hname
    obtain ⟨i, -, -, hlast, -⟩ := hused name f hmem
    exact ⟨i, hlast⟩
  · refine List.pairwise_map.mpr (hranks.ordered.imp_of_mem ?_)
    rintro ⟨name, f⟩ ⟨name', f'⟩ hmem hmem' horder i j hi hj
    obtain ⟨i', e, he, hlast, htimestamp⟩ := hused name f hmem
    obtain ⟨j', e', he', hlast', htimestamp'⟩ := hused name' f' hmem'
    obtain rfl := hi.unique hlast
    obtain rfl := hj.unique hlast'
    dsimp only at horder
    rw [htimestamp, htimestamp', ← Int64.lt_iff_toInt_lt, Int64.toInt_inj] at horder
    -- an earlier place has an earlier instant, and one place is the last use of one function only
    rcases Nat.lt_trichotomy i j with hlt | rfl | hgt
    · have hinstant := instant_lt_of_lt hclock he he' hlt
      rcases horder with hless | ⟨heq, -⟩
      · exact absurd hinstant (Int64.not_lt.mpr (Int64.le_of_lt hless))
      · exact absurd (heq ▸ hinstant) Int64.lt_irrefl
    · obtain rfl := Option.some.inj (he.symm.trans he')
      obtain rfl := hi.name_eq hj
      rcases horder with hless | ⟨-, hless⟩
      · exact absurd hless Int64.lt_irrefl
      · exact absurd hless (lt_irrefl name)
    · exact hgt

end

/-- Two functions are registered, and the first is called after that and found in the document
again. A call of a third one finds nothing. -/
theorem recent_by_last_use_recalled :
    let storage : Storage := .new (.memory none) (.fresh 0 []) .none
    let events : List Event := [(10, .register "f" ⟨"python"⟩ [] []),
      (20, .register "g" ⟨"python"⟩ [] []), (30, .call "f" ["x"]), (40, .call "h" []), (50, .reopen)]
    let b := (connect 0 storage).state
    let names := (Run.state Operation.after events b).registry.recent.map Prod.fst
    names = ["f", "g"] ∧ ∃ i j, LastUse events b "f" i ∧ LastUse events b "g" j ∧ j < i := by
  intro storage events b names
  have hserved : Served Operation.after events (connect 0 storage).state := by
    rw [connect_state]
    exact served_of_unfailing Operation.unfailing_after events
      (Storage.Unfailing.read ⟨⟨none, rfl⟩, rfl, rfl⟩)
  have hnames : names = ["f", "g"] := by
    show (Run.state Operation.after events (connect 0 storage).state).registry.recent.map Prod.fst = _
    rw [(registry_run rfl hserved).2, Registry.recent,
      List.mergeSort_of_pairwise (by decide +kernel)]
    rfl
  obtain ⟨-, -, hused, hordered⟩ := recent_by_last_use 0 storage events rfl hserved (by decide)
  obtain ⟨i, hi⟩ := hused "f" (show "f" ∈ names by rw [hnames]; simp)
  obtain ⟨j, hj⟩ := hused "g" (show "g" ∈ names by rw [hnames]; simp)
  have hpair : names.Pairwise fun name name' => ∀ i j, LastUse events b name i →
      LastUse events b name' j → j < i := hordered
  rw [hnames] at hpair
  exact ⟨hnames, i, j, hi, hj, List.rel_of_pairwise_cons hpair (by simp) i j hi hj⟩

end Rehearsal.Bridge
