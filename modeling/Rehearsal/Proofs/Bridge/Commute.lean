import Mathlib.Logic.Relation
import Mathlib.Order.Basic
import Mathlib.Data.String.Basic
import Rehearsal.Proofs.Bridge.History

/-!
# Operations on different functions

Two operations that name **different functions** may be done in either order. Neither sees the
record of the other, so each gives the same result first or second; and the registry is a map in
the order of its names, so nothing of the order in which it was changed is left in it or in its
document.

The storage has accesses that a change of order moves about, so what is compared of two bridges is
what can be seen of them: the registry, the stored document and the number of writes
(`Bridge.View`). As long as the store never fails, an operation acts on what is seen of a bridge
(`Bridge.view_run`), and there the two orders are equal (`Operation.onView_comm`). From that follows
the same of whole runs, one exchange after the other (`Bridge.onView_reordered`).
-/

namespace Rehearsal

namespace SortedMap

/-- **The names of a map are strictly ascending**, and so each is there once. -/
theorem keys_ascending {α : Type} (m : SortedMap String α) : m.keys.Pairwise (· < ·) :=
  List.pairwise_map.mpr (m.ascending.imp compare_lt_iff_lt.mp)

end SortedMap

/-- **The names of the members of a document**, in its order. -/
def Json.memberNames? (octets : ByteArray) : Option (List String) :=
  ((Written.ofOctets? octets).bind Written.members?).map fun members => members.map Prod.fst

/-- The document of a registry has a member for each function, in the order of the names. -/
theorem Registry.memberNames?_encode (r : Registry) :
    Json.memberNames? r.encode = some r.keys := by
  rw [Json.memberNames?, encode, document, Json.ofOctets?_document _ (isIntegral_toJson r),
    Option.bind_some, toJson, Json.members?_written_object, Option.map_some, List.map_map,
    List.map_map]
  rfl

namespace Bridge

/-! ## The function that is named -/

/-- **The function that an operation names**, if it names one. -/
def Operation.name? : Operation → Option String
  | .register name _ _ _ => some name
  | .unregister name => some name
  | .call name _ => some name
  | _ => none

/-- **Two operations that name different functions.** -/
def Operation.Apart (op op' : Operation) : Prop :=
  ∃ name name', op.name? = some name ∧ op'.name? = some name' ∧ name ≠ name'

/-- **An operation leaves the records alone** that it does not name. -/
theorem Operation.onRecord_of_ne {op : Operation} {name name' : String} (h : op.name? = some name)
    (hne : name ≠ name') (now : Instant) (f : Option FunctionRecord) :
    op.onRecord now name' f = f := by
  cases op with
  | register _ _ _ _ | unregister _ | call _ _ =>
    cases h
    exact if_neg hne
  | clear | save | load | reopen => cases h

/-! ## What an operation gives -/

/-- The write of a registry has succeeded, if the store has never failed. -/
theorem Effect.write_value_of_serves {r : Registry} {now : Instant} {b : Bridge}
    (h : b.storage.Serves) (h' : ((Effect.save r).on now b).storage.Serves) :
    (Storage.write now r.encode b.storage).value = .ok () :=
  Storage.write_value_of_writes h.writes h'.writes

/-- **What an operation gives depends on the record it names** and on nothing else, if the store
does not fail. -/
theorem Operation.run_value_congr {op : Operation} {name : String} {now : Instant}
    {b b' : Bridge} (hname : op.name? = some name)
    (hrecord : b.registry.get? name = b'.registry.get? name)
    (hb : b.storage.Serves) (hafter : (op.after now b).storage.Serves)
    (hb' : b'.storage.Serves) (hafter' : (op.after now b').storage.Serves) :
    (op.run now b).value = (op.run now b').value := by
  rw [op.after_eq] at hafter hafter'
  cases op with
  | register _ lang params body =>
    have hsaved := Effect.write_value_of_serves hb hafter
    have hsaved' := Effect.write_value_of_serves hb' hafter'
    exact ((register_value ..).trans hsaved).trans ((register_value ..).trans hsaved').symm
  | unregister removed =>
    obtain rfl := Option.some.inj hname
    have hcontains : b.registry.contains removed = b'.registry.contains removed :=
      congrArg Option.isSome hrecord
    show (Bridge.unregister now removed b).value = (Bridge.unregister now removed b').value
    cases h : b.registry.contains removed with
    | true =>
      have h' := hcontains.symm.trans h
      rw [effect, if_pos h] at hafter
      rw [effect, if_pos h'] at hafter'
      rw [unregister_value_of_contains now removed b h,
        unregister_value_of_contains now removed b' h',
        Effect.write_value_of_serves hb hafter, Effect.write_value_of_serves hb' hafter']
    | false =>
      rw [unregister_of_not_contains now removed b h,
        unregister_of_not_contains now removed b' (hcontains.symm.trans h)]
  | call called args =>
    obtain rfl := Option.some.inj hname
    have hcontains : b.registry.contains called = b'.registry.contains called :=
      congrArg Option.isSome hrecord
    show (Bridge.call now called args b).value = (Bridge.call now called args b').value
    cases h : b.registry.get? called with
    | some f =>
      rw [call_value_of_get? now called b args h,
        call_value_of_get? now called b' args (hrecord.symm.trans h)]
    | none =>
      have hmissing := SortedMap.contains_eq_false_iff.mpr h
      rw [call_of_not_contains now called b args hmissing,
        call_of_not_contains now called b' args (hcontains.symm.trans hmissing)]
  | clear | save | load | reopen => cases hname

/-! ## What can be seen of a bridge -/

/-- **What can be seen of a bridge**: its registry, the stored document, and how many writes there
have been. -/
@[ext] structure View where
  registry : Registry
  content : Except StorageError (Option ByteArray)
  writes : Nat

/-- What can be seen of this bridge. -/
def view (b : Bridge) : View := ⟨b.registry, b.storage.content, b.storage.writes⟩

/-- What is seen after an effect that meets no failure. -/
def Effect.onView (now : Instant) : Effect → View → View
  | .nothing, v => v
  | .load, v => { v with registry := registryOf now v.content }
  | .save r, v => ⟨r, .ok (some r.encode), v.writes + 1⟩

/-- What is seen after an operation that meets no failure. -/
def Operation.onView (now : Instant) (op : Operation) (v : View) : View :=
  (op.effect now v.registry).onView now v

/-- **An effect acts on what can be seen**, if the store does not fail. -/
theorem Effect.view_on {e : Effect} {now : Instant} {b : Bridge} (h : b.storage.Serves)
    (h' : (e.on now b).storage.Serves) : (e.on now b).view = e.onView now b.view := by
  cases e with
  | nothing => rfl
  | load => exact View.ext (Effect.registry_on_load h) rfl rfl
  | save r =>
    exact View.ext rfl (Effect.content_on_save h h')
      (Storage.counts_write b.storage now r.encode).2.2

/-- **An operation acts on what can be seen**, if the store does not fail. -/
theorem Operation.view_after {op : Operation} {now : Instant} {b : Bridge} (h : b.storage.Serves)
    (h' : (op.after now b).storage.Serves) : (op.after now b).view = op.onView now b.view := by
  rw [op.after_eq] at h' ⊢
  exact Effect.view_on h h'

/-- **A run acts on what can be seen**, if the store never fails. -/
theorem view_run {events : List Event} {b : Bridge} (hserved : Served Operation.after events b) :
    (Run.state Operation.after events b).view = Run.state Operation.onView events b.view := by
  induction events generalizing b with
  | nil => rfl
  | cons e events ih =>
    have hstep := Operation.view_after hserved.first hserved.tail.first
    exact (ih hserved.tail).trans (congrArg (Run.state Operation.onView events) hstep)

/-! ## Either order -/

/-- Whether an operation saves, by the record it names. -/
def Operation.saves : Operation → Option FunctionRecord → Bool
  | .register _ _ _ _, _ => true
  | .unregister _, f => f.isSome
  | .call _ _, f => f.isSome
  | _, _ => false

/-- **What is seen after an operation that names a function**: the registry it leaves, stored and
counted if the operation saves at all. One that does not save leaves the registry as it is. -/
theorem Operation.onView_of_name {op : Operation} {name : String} (h : op.name? = some name)
    (now : Instant) (v : View) :
    (op.onView now v).registry = (op.effect now v.registry).registry v.registry
      ∧ (op.saves (v.registry.get? name) = true →
          (op.onView now v).content = .ok (some (op.onView now v).registry.encode)
            ∧ (op.onView now v).writes = v.writes + 1)
      ∧ (op.saves (v.registry.get? name) = false → op.onView now v = v) := by
  unfold onView
  cases op with
  | register _ lang params body => exact ⟨rfl, fun _ => ⟨rfl, rfl⟩, fun hsaves => by cases hsaves⟩
  | unregister _ | call _ _ =>
    obtain rfl := Option.some.inj h
    rw [effect]
    split
    · next hcontains =>
      exact ⟨rfl, fun _ => ⟨rfl, rfl⟩, fun hsaves => absurd (hcontains.symm.trans hsaves) (by simp)⟩
    · next hcontains => exact ⟨rfl, fun hsaves => absurd hsaves hcontains, fun _ => rfl⟩
  | clear | save | load | reopen => cases h

theorem Operation.get?_onView {op : Operation} {name : String} (h : op.name? = some name)
    (now : Instant) (v : View) (k : String) :
    (op.onView now v).registry.get? k = op.onRecord now k (v.registry.get? k) := by
  rw [(onView_of_name h now v).1, get?_effect]

/-- The record of one function after an operation on another. -/
theorem Operation.get?_onView_of_ne {op : Operation} {name name' : String}
    (h : op.name? = some name) (hne : name ≠ name') (now : Instant) (v : View) :
    (op.onView now v).registry.get? name' = v.registry.get? name' := by
  rw [get?_onView h, onRecord_of_ne h hne]

/-- **Operations on different functions leave the same registry in either order.** -/
theorem Operation.registry_comm {op op' : Operation} (h : op.Apart op') (t t' : Instant)
    (v : View) :
    (op'.onView t' (op.onView t v)).registry = (op.onView t (op'.onView t' v)).registry := by
  obtain ⟨name, name', hname, hname', hne⟩ := h
  refine SortedMap.ext_get? fun k => ?_
  rw [get?_onView hname', get?_onView hname, get?_onView hname, get?_onView hname']
  -- of the two, at most one names the function looked up
  by_cases hk : name = k
  · subst hk
    rw [onRecord_of_ne hname' hne.symm, onRecord_of_ne hname' hne.symm]
  · rw [onRecord_of_ne hname hk, onRecord_of_ne hname hk]

/-- **Operations on different functions may be done in either order**, as far as can be seen. -/
theorem Operation.onView_comm {op op' : Operation} (h : op.Apart op') (t t' : Instant)
    (v : View) : op'.onView t' (op.onView t v) = op.onView t (op'.onView t' v) := by
  have hregistry := registry_comm h t t' v
  obtain ⟨name, name', hname, hname', hne⟩ := h
  obtain ⟨-, hsave, hstill⟩ := onView_of_name hname t v
  obtain ⟨-, hsave', hstill'⟩ := onView_of_name hname' t' v
  obtain ⟨-, hlater, hlaterStill⟩ := onView_of_name hname t (op'.onView t' v)
  obtain ⟨-, hlater', hlaterStill'⟩ := onView_of_name hname' t' (op.onView t v)
  -- whether one of them saves does not depend on the other
  rw [get?_onView_of_ne hname' hne.symm] at hlater hlaterStill
  rw [get?_onView_of_ne hname hne] at hlater' hlaterStill'
  cases hs : op.saves (v.registry.get? name) with
  | false => rw [hlaterStill hs, hstill hs]
  | true =>
    cases hs' : op'.saves (v.registry.get? name') with
    | false => rw [hlaterStill' hs', hstill' hs']
    | true =>
      obtain ⟨hcontent, hwrites⟩ := hlater hs
      obtain ⟨hcontent', hwrites'⟩ := hlater' hs'
      refine View.ext hregistry ?_ ?_
      · rw [hcontent, hcontent', hregistry]
      · rw [hwrites, hwrites', (hsave hs).2, (hsave' hs').2]

/-- **Two runs that differ in the order of two neighbours**, which name different functions. -/
inductive Exchanged : List Event → List Event → Prop
  | mk (before after : List Event) {e e' : Event} (h : e.2.Apart e'.2) :
      Exchanged (before ++ e :: e' :: after) (before ++ e' :: e :: after)

theorem onView_exchanged {events events' : List Event} (h : Exchanged events events') (v : View) :
    Run.state Operation.onView events v = Run.state Operation.onView events' v := by
  cases h with
  | @mk before after e e' h =>
    rw [Run.state_append, Run.state_append]
    exact congrArg (Run.state Operation.onView after) (Operation.onView_comm h e.1 e'.1 _)

/-- **Exchanging neighbours again and again** changes nothing that can be seen. -/
theorem onView_reordered {events events' : List Event}
    (h : Relation.ReflTransGen Exchanged events events') (v : View) :
    Run.state Operation.onView events v = Run.state Operation.onView events' v := by
  induction h with
  | refl => rfl
  | tail _ hlast ih => exact ih.trans (onView_exchanged hlast v)

/-! ## The document of a run -/

/-- An operation that writes, or that meets a document that stands for the registry, leaves one
that does. -/
theorem Operation.settled_after {op : Operation} {now : Instant} {b : Bridge}
    (h : b.storage.Serves) (h' : (op.after now b).storage.Serves)
    (hb : b.Settled ∨ (op.after now b).storage.writes ≠ b.storage.writes) :
    (op.after now b).Settled := by
  rw [op.after_eq] at h' hb ⊢
  rcases hb with hsettled | hwrites
  · exact (hsettled.on h h').1
  · cases heffect : op.effect now b.registry with
    | nothing =>
      rw [heffect] at hwrites
      exact absurd rfl hwrites
    | load =>
      rw [heffect] at hwrites
      exact absurd rfl hwrites
    | save r =>
      rw [heffect] at h'
      exact Or.inl (Effect.content_on_save h h')

/-- **Once something is written, the document stands for the registry.** -/
theorem settled_run {events : List Event} {b : Bridge}
    (hserved : Served Operation.after events b)
    (hb : b.Settled
      ∨ (Run.state Operation.after events b).storage.writes ≠ b.storage.writes) :
    (Run.state Operation.after events b).Settled := by
  induction events generalizing b with
  | nil => exact hb.resolve_right fun h => h rfl
  | cons e events ih =>
    refine ih hserved.tail ?_
    -- either this step writes, or the writes are all still to come
    by_cases hwrites : (e.2.after e.1 b).storage.writes = b.storage.writes
    · exact hb.imp (fun h => Operation.settled_after hserved.first hserved.tail.first (Or.inl h))
        fun h => by rwa [hwrites]
    · exact Or.inl (Operation.settled_after hserved.first hserved.tail.first (Or.inr hwrites))

/-- **Operations on different functions commute.** Two of them leave the same registry, the same
document and as many writes in either order, and each gives the same result. So any two runs that
differ by exchanging such neighbours leave the same document; and if the document stood for the
registry at the beginning, or if anything has been written since, its members are the functions,
strictly ascending by name. -/
theorem operations_commute :
    (∀ (op op' : Operation) (t t' : Instant) (b : Bridge), op.Apart op' →
      Served Operation.after [(t, op), (t', op')] b →
      Served Operation.after [(t', op'), (t, op)] b →
      (op'.after t' (op.after t b)).view = (op.after t (op'.after t' b)).view
        ∧ (op.run t b).value = (op.run t (op'.after t' b)).value
        ∧ (op'.run t' (op.after t b)).value = (op'.run t' b).value)
      ∧ ∀ (events events' : List Event) (b : Bridge),
        Relation.ReflTransGen Exchanged events events' →
        Served Operation.after events b → Served Operation.after events' b →
        (Run.state Operation.after events b).view = (Run.state Operation.after events' b).view
          ∧ (b.Settled
              ∨ (Run.state Operation.after events b).storage.writes ≠ b.storage.writes →
            ∀ octets, (Run.state Operation.after events b).storage.content = .ok (some octets) →
              Json.memberNames? octets
                  = some (Run.state Operation.after events b).registry.keys
                ∧ (Run.state Operation.after events b).registry.keys.Pairwise (· < ·)) := by
  refine ⟨fun op op' t t' b happart hserved hserved' => ?_,
    fun events events' b horder hserved hserved' => ⟨?_, fun hb octets hcontent => ?_⟩⟩
  · have hview : (op'.after t' (op.after t b)).view = (op.after t (op'.after t' b)).view :=
      (view_run hserved).trans
        ((Operation.onView_comm happart t t' b.view).trans (view_run hserved').symm)
    have hfirst := Operation.view_after hserved.first hserved.tail.first
    have hfirst' := Operation.view_after hserved'.first hserved'.tail.first
    obtain ⟨name, name', hname, hname', hne⟩ := happart
    refine ⟨hview, Operation.run_value_congr hname ?_ hserved.first hserved.tail.first
      hserved'.tail.first hserved'.last, Operation.run_value_congr hname' ?_
      hserved.tail.first hserved.last hserved'.first hserved'.tail.first⟩
    · have hrecord := Operation.get?_onView_of_ne hname' hne.symm t' b.view
      rw [← hfirst'] at hrecord
      exact hrecord.symm
    · have hrecord := Operation.get?_onView_of_ne hname hne t b.view
      rw [← hfirst] at hrecord
      exact hrecord
  · rw [view_run hserved, view_run hserved', onView_reordered horder]
  · rcases settled_run hserved hb with hsome | ⟨hnone, -⟩
    · rw [hsome] at hcontent
      obtain rfl : _ = octets := Option.some.inj (Except.ok.inj hcontent)
      exact ⟨Registry.memberNames?_encode _, SortedMap.keys_ascending _⟩
    · rw [hnone] at hcontent
      cases hcontent

/-- Two functions registered and one of them called, with the clock going backwards: the other may
be registered first or last. -/
theorem operations_commute_first_or_last :
    let b : Bridge := ⟨SortedMap.empty, .new (.memory none) (.fresh 0 []) .none⟩
    let other : Event := (30, .register "é" ⟨"python"⟩ ["x"] [])
    let registered : Event := (20, .register "f" ⟨"javascript"⟩ [] [])
    let called : Event := (10, .call "f" ["1"])
    let b' := registered.2.after 20 b
    (Run.state Operation.after [other, registered, called] b).view
        = (Run.state Operation.after [registered, called, other] b).view
      ∧ (called.2.run 10 b').value = (called.2.run 10 (other.2.after 30 b')).value
      ∧ ∃ octets, (Run.state Operation.after [other, registered, called] b).storage.content
          = .ok (some octets)
        ∧ Json.memberNames? octets = some ["f", "é"] := by
  intro b other registered called b'
  have hserved : ∀ events, Served Operation.after events b := fun events =>
    served_of_unfailing Operation.unfailing_after events ⟨⟨none, rfl⟩, rfl, rfl⟩
  have horder : Relation.ReflTransGen Exchanged [other, registered, called]
      [registered, called, other] :=
    .tail (.single (.mk [] [called] ⟨"é", "f", rfl, rfl, by decide⟩))
      (.mk [registered] [] ⟨"é", "f", rfl, rfl, by decide⟩)
  obtain ⟨hview, hnames⟩ := operations_commute.2 _ _ b horder (hserved _) (hserved _)
  have hcalled := operations_commute.1 called.2 other.2 10 30 b' ⟨"f", "é", rfl, rfl, by decide⟩
    (hserved [registered, called, other]).tail (hserved [registered, other, called]).tail
  have hkeys : (Run.state Operation.after [other, registered, called] b).registry.keys
      = ["f", "é"] := by decide +kernel
  refine ⟨hview, hcalled.2.1, _, rfl, ?_⟩
  exact (hnames (Or.inl (Or.inr ⟨rfl, rfl⟩)) _ rfl).1.trans (congrArg some hkeys)

end Bridge

end Rehearsal
