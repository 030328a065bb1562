import Rehearsal.Proofs.Bridge.Run

/-!
# The registry and its history

A registry is **what its history says**: a name is registered if the last thing that settled
it was a registration, and its record tells that registration and the calls since. Nothing
else of the history matters, and neither does the storage: as long as the store never fails,
the stored document stands for the registry (`Bridge.Settled`), so saving, loading and
connecting anew all leave the registry as it is (`Bridge.registry_run`). What remains is a fold
over the events, and it can be followed one name at a time (`Bridge.get?_recorded_concat`).

The clock may go backwards. The record then keeps the latest instant there has been, and not
the instant of the latest call.
-/

namespace Rehearsal

/-! ## Records and the calls they count -/

/-- **The latest of some instants.** -/
def Instant.Latest (t : Instant) (ts : List Instant) : Prop := t ∈ ts ∧ ∀ t' ∈ ts, t' ≤ t

theorem Instant.latest_append_singleton {t : Instant} {ts : List Instant} (h : Latest t ts)
    (now : Instant) : Latest (max now t) (ts ++ [now]) := by
  have hmax : max now t = if now ≤ t then t else now := rfl
  rw [hmax]
  split
  · next hle =>
    refine ⟨List.mem_append_left _ h.1, fun t' ht' => ?_⟩
    rcases List.mem_append.mp ht' with ht' | ht'
    · exact h.2 t' ht'
    · rw [List.mem_singleton.mp ht']
      exact hle
  · next hle =>
    have hlt : t ≤ now := (Int64.le_total now t).resolve_left hle
    refine ⟨List.mem_append_right _ (List.mem_singleton_self now), fun t' ht' => ?_⟩
    rcases List.mem_append.mp ht' with ht' | ht'
    · exact Int64.le_trans (h.2 t' ht') hlt
    · rw [List.mem_singleton.mp ht']
      exact Int64.le_refl now

/-- **A record that tells one registration and the calls since**: what was registered, and when;
how many calls there were, as far as 64 bits hold that; the latest instant of all; and the same
as the instant of the last call, if there was one. -/
structure FunctionRecord.Recounts (f : FunctionRecord) (registered : Instant) (lang : Language)
    (params : List String) (body : List Action) (calls : List Instant) : Prop where
  lang : f.lang = lang
  params : f.params = params
  body : f.body = body
  registeredAt : f.registeredAt = some registered
  callCount : f.callCount = UInt64.ofNat calls.length
  timestamp : Instant.Latest f.timestamp (registered :: calls)
  lastCalled : f.lastCalled = if calls = [] then none else some f.timestamp

namespace FunctionRecord

theorem recounts_fresh (now : Instant) (lang : Language) (params : List String)
    (body : List Action) : (fresh now lang params body).Recounts now lang params body [] where
  lang := rfl
  params := rfl
  body := rfl
  registeredAt := rfl
  callCount := rfl
  timestamp := ⟨List.mem_singleton_self now, fun t ht => by
    rw [List.mem_singleton.mp ht]
    exact Int64.le_refl now⟩
  lastCalled := rfl

/-- A call is recounted. -/
theorem Recounts.called {f : FunctionRecord} {registered : Instant} {lang : Language}
    {params : List String} {body : List Action} {calls : List Instant}
    (h : f.Recounts registered lang params body calls) (now : Instant) :
    (f.called now).Recounts registered lang params body (calls ++ [now]) where
  lang := h.lang
  params := h.params
  body := h.body
  registeredAt := h.registeredAt
  callCount := by
    rw [callCount_called, h.callCount, List.length_append, List.length_singleton,
      UInt64.ofNat_add]
    rfl
  timestamp := Instant.latest_append_singleton h.timestamp now
  lastCalled := by rw [if_neg (by simp), lastCalled_called]

end FunctionRecord

namespace Bridge

/-! ## The registry without the storage -/

/-- **The registry that a history leaves**, from the empty one. -/
def recorded (events : List Event) : Registry :=
  events.foldl (fun r e => (e.2.effect e.1 r).registry r) SortedMap.empty

theorem recorded_concat (events : List Event) (e : Event) :
    recorded (events ++ [e])
      = (e.2.effect e.1 (recorded events)).registry (recorded events) := by
  rw [recorded, List.foldl_append]
  rfl

/-- **The stored document stands for the registry**: it is the document of the registry, or there
is none and the registry is empty. -/
def Settled (b : Bridge) : Prop :=
  b.storage.content = .ok (some b.registry.encode)
    ∨ b.storage.content = .ok none ∧ b.registry = SortedMap.empty

/-- What is stored is loaded as the registry there is. -/
theorem Settled.registryOf {b : Bridge} (h : b.Settled) (now : Instant) :
    registryOf now b.storage.content = b.registry := by
  rcases h with hsome | ⟨hnone, hempty⟩
  · rw [hsome, registryOf_encode]
  · rw [hnone, registryOf_none, hempty]

/-- An effect on a bridge whose document stands for its registry changes the registry without a
look at the storage, and the document stands for the new one. -/
theorem Settled.on {e : Effect} {now : Instant} {b : Bridge} (h : b.Settled)
    (hserves : b.storage.Serves) (hserves' : (e.on now b).storage.Serves) :
    (e.on now b).Settled ∧ (e.on now b).registry = e.registry b.registry := by
  cases e with
  | nothing => exact ⟨h, rfl⟩
  | load =>
    have hregistry : (Effect.load.on now b).registry = b.registry := by
      rw [Effect.registry_on_load hserves, h.registryOf]
    refine ⟨?_, hregistry⟩
    unfold Settled
    rw [hregistry]
    exact h
  | save r => exact ⟨Or.inl (Effect.content_on_save hserves hserves'), rfl⟩

/-- **A run leaves the registry of its history**, if it starts with nothing stored and the store
never fails. -/
theorem registry_run {t : Instant} {storage : Storage} {events : List Event}
    (hempty : storage.content = .ok none)
    (hserved : Served Operation.after events (connect t storage).state) :
    (Run.state Operation.after events (connect t storage).state).Settled
      ∧ (Run.state Operation.after events (connect t storage).state).registry
        = recorded events := by
  induction events using List.reverseRecOn with
  | nil =>
    have hregistry := registry_connect hserved.first
    rw [hempty, registryOf_none] at hregistry
    refine ⟨Or.inr ⟨?_, hregistry⟩, hregistry⟩
    rw [Run.state_nil, connect_state]
    exact hempty
  | append_singleton events e ih =>
    obtain ⟨hsettled, hregistry⟩ := ih hserved.init
    have hserves := hserved.last
    rw [Run.state_concat, e.2.after_eq] at hserves ⊢
    obtain ⟨hon, honregistry⟩ := hsettled.on hserved.init.last hserves
    refine ⟨hon, ?_⟩
    rw [honregistry, hregistry, recorded_concat]

/-! ## One name at a time -/

/-- What an operation does to the record under a name. -/
def Operation.onRecord (now : Instant) (name : String) :
    Operation → Option FunctionRecord → Option FunctionRecord
  | .register name' lang params body, f =>
    if name' = name then some (.fresh now lang params body) else f
  | .unregister name', f => if name' = name then none else f
  | .clear, _ => none
  | .call name' _, f => if name' = name then f.map (FunctionRecord.called now) else f
  | _, f => f

/-- **An operation acts on each name apart from the others.** -/
theorem Operation.get?_effect (op : Operation) (now : Instant) (r : Registry) (name : String) :
    ((op.effect now r).registry r).get? name = op.onRecord now name (r.get? name) := by
  cases op with
  | register name' lang params body =>
    rw [onRecord]
    by_cases hname : name' = name
    · subst hname
      rw [if_pos rfl]
      exact SortedMap.get?_insert_self r name' _
    · rw [if_neg hname]
      exact SortedMap.get?_insert_of_ne r (Ne.symm hname) _
  | unregister name' =>
    rw [onRecord, effect]
    by_cases hname : name' = name
    · subst hname
      rw [if_pos rfl]
      by_cases hcontains : r.contains name' = true
      · rw [if_pos hcontains]
        exact SortedMap.get?_erase_self r name'
      · rw [if_neg hcontains]
        show r.get? name' = none
        exact SortedMap.contains_eq_false_iff.mp (eq_false_of_ne_true hcontains)
    · rw [if_neg hname]
      split
      · exact SortedMap.get?_erase_of_ne r (Ne.symm hname)
      · rfl
  | clear => rfl
  | call name' args =>
    rw [onRecord, effect]
    by_cases hcontains : r.contains name' = true
    · obtain ⟨f, hf⟩ := Option.isSome_iff_exists.mp hcontains
      rw [if_pos hcontains]
      show (r.recordCall now name').get? name = _
      rw [Registry.recordCall, hf]
      dsimp only
      by_cases hname : name' = name
      · subst hname
        rw [if_pos rfl, SortedMap.get?_insert_self, hf, Option.map_some]
      · rw [if_neg hname, SortedMap.get?_insert_of_ne r (Ne.symm hname)]
    · have hnone : r.get? name' = none :=
        SortedMap.contains_eq_false_iff.mp (eq_false_of_ne_true hcontains)
      rw [if_neg hcontains]
      show r.get? name = _
      by_cases hname : name' = name
      · subst hname
        rw [if_pos rfl, hnone, Option.map_none]
      · rw [if_neg hname]
  | save => rfl
  | load => rfl
  | reopen => rfl

/-- **Only a registration brings a name in.** -/
theorem Operation.of_isSome_onRecord {op : Operation} {now : Instant} {name : String}
    {f : Option FunctionRecord} (h : (op.onRecord now name f).isSome = true) :
    f.isSome = true ∨ ∃ lang params body, op = .register name lang params body := by
  cases op with
  | register name' lang params body =>
    by_cases hname : name' = name
    · exact Or.inr ⟨lang, params, body, by rw [hname]⟩
    · rw [onRecord, if_neg hname] at h
      exact Or.inl h
  | unregister name' =>
    rw [onRecord] at h
    split at h
    · cases h
    · exact Or.inl h
  | clear => cases h
  | call name' args =>
    rw [onRecord] at h
    split at h
    · exact Or.inl (by simpa using h)
    · exact Or.inl h
  | save | load | reopen => exact Or.inl h

theorem get?_recorded_concat (events : List Event) (e : Event) (name : String) :
    (recorded (events ++ [e])).get? name
      = e.2.onRecord e.1 name ((recorded events).get? name) := by
  rw [recorded_concat, Operation.get?_effect]

/-- **The operation settles whether a name is registered.** -/
def Operation.settles (name : String) : Operation → Bool
  | .register name' _ _ _ => name' = name
  | .unregister name' => name' = name
  | .clear => true
  | _ => false

/-- The operation calls the name. -/
def Operation.calls (name : String) : Operation → Bool
  | .call name' _ => name' = name
  | _ => false

/-- **The instants at which a name was called**, in order. -/
def callsOf (name : String) (events : List Event) : List Instant :=
  (events.filter fun e => e.2.calls name).map Prod.fst

theorem callsOf_concat (name : String) (events : List Event) (e : Event) :
    callsOf name (events ++ [e])
      = callsOf name events ++ if e.2.calls name = true then [e.1] else [] := by
  unfold callsOf
  rw [List.filter_append, List.map_append, List.filter_singleton]
  cases e.2.calls name <;> rfl

/-- What settles nothing can only be a call. -/
theorem Operation.onRecord_of_not_settles {op : Operation} {now : Instant} {name : String}
    (h : op.settles name = false) (f : Option FunctionRecord) :
    op.onRecord now name f
      = if op.calls name = true then f.map (FunctionRecord.called now) else f := by
  cases op with
  | register name' lang params body => exact if_neg (by simpa [settles] using h)
  | unregister name' => exact if_neg (by simpa [settles] using h)
  | clear => cases h
  | call name' args =>
    rw [onRecord, calls]
    by_cases hname : name' = name
    · rw [if_pos hname, if_pos (by simpa using hname)]
    · rw [if_neg hname, if_neg (by simpa using hname)]
  | save => rfl
  | load => rfl
  | reopen => rfl

/-- **The last thing that settled a name was its registration**: what was registered, when, and
what happened since. -/
structure RegisteredLast (events : List Event) (name : String) (registered : Instant)
    (lang : Language) (params : List String) (body : List Action) (since : List Event) : Prop where
  split : ∃ before, events = before ++ (registered, .register name lang params body) :: since
  unsettled : ∀ e ∈ since, e.2.settles name = false

section

variable {events since : List Event} {name : String} {registered : Instant} {lang : Language}
  {params : List String} {body : List Action}

/-- **A registered name has the record of its last registration** and of the calls since. -/
theorem RegisteredLast.recounts
    (h : RegisteredLast events name registered lang params body since) :
    ∃ f, (recorded events).get? name = some f
      ∧ f.Recounts registered lang params body (callsOf name since) := by
  obtain ⟨⟨before, rfl⟩, hsince⟩ := h
  induction since using List.reverseRecOn with
  | nil =>
    refine ⟨.fresh registered lang params body, ?_, FunctionRecord.recounts_fresh _ _ _ _⟩
    rw [get?_recorded_concat, Operation.onRecord, if_pos rfl]
  | append_singleton since e ih =>
    obtain ⟨f, hf, hrecounts⟩ := ih fun e' he' => hsince e' (List.mem_append_left _ he')
    have hsettles := hsince e (List.mem_append_right _ (List.mem_singleton_self e))
    -- what has happened since the registration is followed from its end
    rw [← List.cons_append, ← List.append_assoc, get?_recorded_concat, hf, callsOf_concat,
      Operation.onRecord_of_not_settles hsettles]
    split
    · exact ⟨f.called e.1, rfl, hrecounts.called e.1⟩
    · exact ⟨f, rfl, by rwa [List.append_nil]⟩

/-- **A name with a record was registered**, and nothing has settled it since. -/
theorem exists_registeredLast (h : ((recorded events).get? name).isSome = true) :
    ∃ registered lang params body since,
      RegisteredLast events name registered lang params body since := by
  induction events using List.reverseRecOn with
  | nil => cases h
  | append_singleton events e ih =>
    rw [get?_recorded_concat] at h
    -- either the last event settles the name, or the events before it have
    cases hsettles : e.2.settles name with
    | true =>
      obtain ⟨t, op⟩ := e
      cases op with
      | register name' lang params body =>
        obtain rfl : name' = name := by simpa [Operation.settles] using hsettles
        exact ⟨t, lang, params, body, [], ⟨events, rfl⟩, fun e he => by cases he⟩
      | unregister name' =>
        obtain rfl : name' = name := by simpa [Operation.settles] using hsettles
        simp [Operation.onRecord] at h
      | clear => cases h
      | call name' args => cases hsettles
      | save => cases hsettles
      | load => cases hsettles
      | reopen => cases hsettles
    | false =>
      have hbefore : ((recorded events).get? name).isSome = true := by
        rw [Operation.onRecord_of_not_settles hsettles] at h
        split at h
        · simpa using h
        · exact h
      obtain ⟨registered, lang, params, body, since, ⟨before, hevents⟩, hsince⟩ := ih hbefore
      refine ⟨registered, lang, params, body, since ++ [e], ⟨before, ?_⟩, fun e' he' => ?_⟩
      · rw [hevents, List.append_assoc, List.cons_append]
      · rcases List.mem_append.mp he' with he' | he'
        · exact hsince e' he'
        · rw [List.mem_singleton.mp he']
          exact hsettles

end

/-! ## The registry of a run -/

/-- **The registry is exactly what its history says.** After any run that starts with nothing
stored and in which the store never fails, a name is registered if and only if the last thing
that settled it was its registration, and its record recounts that registration and the calls
since. -/
theorem registry_of_history (t : Instant) (storage : Storage) (events : List Event)
    (hempty : storage.content = .ok none)
    (hserved : Served Operation.after events (connect t storage).state) (name : String) :
    ((Run.state Operation.after events (connect t storage).state).registry.contains name = true
        ↔ ∃ registered lang params body since,
          RegisteredLast events name registered lang params body since)
      ∧ ∀ registered lang params body since,
          RegisteredLast events name registered lang params body since →
          ∃ f, (Run.state Operation.after events (connect t storage).state).registry.get? name
              = some f
            ∧ f.Recounts registered lang params body (callsOf name since) := by
  rw [(registry_run hempty hserved).2]
  refine ⟨⟨exists_registeredLast, ?_⟩, fun _ _ _ _ _ h => h.recounts⟩
  rintro ⟨registered, lang, params, body, since, h⟩
  obtain ⟨f, hf, -⟩ := h.recounts
  exact Option.isSome_iff_exists.mpr ⟨f, hf⟩

/-- A function registered again, called twice and loaded in between, with the clock going
backwards: the call of the first registration is forgotten. -/
theorem registry_of_history_twice_called :
    let storage : Storage := .new (.memory none) (.fresh 0 []) .none
    let since : List Event := [(50, .call "f" []), (20, .reopen), (40, .call "f" ["x"])]
    let events : List Event := [(10, .register "f" ⟨"python"⟩ [] []), (15, .call "f" []),
      (30, .register "f" ⟨"javascript"⟩ ["x"] [])] ++ since
    ∃ f, (Run.state Operation.after events (connect 0 storage).state).registry.get? "f" = some f
      ∧ f.Recounts 30 ⟨"javascript"⟩ ["x"] [] [50, 40] := by
  intro storage since events
  have hserved : Served Operation.after events (connect 0 storage).state := by
    rw [connect_state]
    exact served_of_unfailing Operation.unfailing_after events
      (Storage.Unfailing.read ⟨⟨none, rfl⟩, rfl, rfl⟩)
  have hlast : RegisteredLast events "f" 30 ⟨"javascript"⟩ ["x"] [] since :=
    ⟨⟨[(10, .register "f" ⟨"python"⟩ [] []), (15, .call "f" [])], rfl⟩, by decide⟩
  exact (registry_of_history 0 storage events rfl hserved "f").2 _ _ _ _ _ hlast

end Bridge

end Rehearsal
