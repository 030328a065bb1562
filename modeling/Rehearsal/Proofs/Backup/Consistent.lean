import Rehearsal.Proofs.Backup.Upheld

/-!
# Statistics stay consistent

The statistics of a function say when it was registered, how often and when it was last called, and
when anything last happened to it. They **fit together** (`FunctionRecord.Consistent`): nothing
happened before the registration, and what happened last is the last call, or the registration if
there was none.

They do so at all times (`Backup.statistics_consistent`), and for that it has to be so of every
registry there is, since a document that a failed write has left behind may be loaded later, and a
backup restored. The clock plays no part: a function that is called when the clock has gone back is
dated no earlier than it was, and one that is registered anew begins anew.
-/

namespace Rehearsal

/-- An instant is no later than the later of two. -/
theorem Instant.le_max_right (now t : Instant) : t ≤ max now t := by
  have hmax : max now t = if now ≤ t then t else now := rfl
  rw [hmax]
  split
  · exact Int64.le_refl t
  · next hle => exact (Int64.le_total now t).resolve_left hle

/-! ## Records -/

/-- **Statistics that fit together**: the function was registered at some instant, and nothing
happened to it before that; it was never called, and then the registration is the last activity, or
it was called, and then the last call is. -/
def FunctionRecord.Consistent (f : FunctionRecord) : Prop :=
  ∃ r, f.registeredAt = some r ∧ r ≤ f.timestamp
    ∧ (f.callCount = 0 ∧ f.lastCalled = none ∧ f.timestamp = r
      ∨ 0 < f.callCount ∧ f.lastCalled = some f.timestamp)

/-- **The calls can be counted one further.** -/
def FunctionRecord.CountsOn (f : FunctionRecord) : Prop := f.callCount.toNat + 1 < UInt64.size

theorem FunctionRecord.consistent_fresh (now : Instant) (lang : Language) (params : List String)
    (body : List Action) : (fresh now lang params body).Consistent :=
  ⟨now, rfl, Int64.le_refl now, Or.inl ⟨rfl, rfl, rfl⟩⟩

/-- **A call keeps statistics consistent**, whatever the clock, unless the count is full. -/
theorem FunctionRecord.Consistent.called {f : FunctionRecord} (h : f.Consistent)
    (hcount : f.CountsOn) (now : Instant) : (f.called now).Consistent := by
  obtain ⟨r, hregistered, hle, -⟩ := h
  have hpositive : 0 < f.callCount + 1 := by
    have hsize : UInt64.size = 18446744073709551616 := rfl
    have hsum : (f.callCount + 1).toNat = (f.callCount.toNat + 1) % UInt64.size :=
      UInt64.toNat_add f.callCount 1
    unfold CountsOn at hcount
    rw [UInt64.lt_iff_toNat_lt, hsum, Nat.mod_eq_of_lt hcount]
    exact Nat.succ_pos _
  exact ⟨r, hregistered, Int64.le_trans hle (Instant.le_max_right now f.timestamp),
    Or.inr ⟨hpositive, rfl⟩⟩

/-! ## Registries -/

/-- **A registry with consistent statistics** of all functions. -/
def Registry.Consistent (r : Registry) : Prop :=
  ∀ (name : String) (f : FunctionRecord), r.get? name = some f → f.Consistent

namespace Registry

variable {r : Registry} {name : String}

theorem consistent_empty : Registry.Consistent SortedMap.empty := fun _ _ h => by cases h

theorem Consistent.insert (h : r.Consistent) {f : FunctionRecord} (hf : f.Consistent)
    (name : String) : Registry.Consistent (r.insert name f) := by
  intro other g hg
  rw [SortedMap.get?_insert] at hg
  split at hg
  · cases hg
    exact hf
  · exact h other g hg

theorem Consistent.erase (h : r.Consistent) (name : String) :
    Registry.Consistent (r.erase name) := by
  intro other g hg
  rw [SortedMap.get?_erase] at hg
  split at hg
  · cases hg
  · exact h other g hg

theorem Consistent.recordCall (h : r.Consistent)
    (hcount : ∀ f, r.get? name = some f → f.CountsOn) (now : Instant) :
    Registry.Consistent (r.recordCall now name) := by
  unfold Registry.recordCall
  split
  · next f hf => exact h.insert ((h name f hf).called (hcount f hf) now) name
  · exact h

end Registry

namespace Backup

variable {root : Path} {b : Bridge}

/-- **A step that counts no call too many**: a function that is called can be called once more. -/
def Step.CountsOn (r : Registry) : Step → Prop
  | .bridge (.call name _) => ∀ f, r.get? name = some f → f.CountsOn
  | _ => True

/-- What an operation saves has consistent statistics, if the registry has. -/
theorem consistent_of_effect {op : Bridge.Operation} {now : Instant} {r r' : Registry}
    (h : r.Consistent) (hcount : (Step.bridge op).CountsOn r) (hsaved : op.effect now r = .save r') :
    r'.Consistent := by
  cases op with
  | register name lang params body =>
    cases hsaved
    exact h.insert (FunctionRecord.consistent_fresh now lang params body) name
  | unregister name =>
    rw [Bridge.Operation.effect] at hsaved
    split at hsaved
    · cases hsaved
      exact h.erase name
    · cases hsaved
  | clear =>
    cases hsaved
    exact Registry.consistent_empty
  | call name args =>
    rw [Bridge.Operation.effect] at hsaved
    split at hsaved
    · cases hsaved
      exact h.recordCall hcount now
    · cases hsaved
  | save =>
    cases hsaved
    exact h
  | load => cases hsaved
  | reopen => cases hsaved

/-! ## Everything that can be reached -/

/-- **The bridges that can be reached** from one over a storage with nothing in it: by any steps at
any instants, whatever the store refuses, and whatever others do to the storage short of editing a
document. -/
inductive Reached (root : Path) : Bridge → Prop where
  | opened (now : Instant) (storage : Storage) (hbare : Bare root storage) :
    Reached root (Bridge.connect now storage).state
  | step {b : Bridge} (h : Reached root b) (now : Instant) (s : Step)
      (hcount : s.CountsOn b.registry) : Reached root (s.after root now b)
  | others {b : Bridge} (h : Reached root b) (storage : Storage)
      (huntouched : Untouched root b.storage storage) :
    Reached root { b with storage := storage }

/-- **Whatever was reached**, all registries there are have consistent statistics. -/
theorem Reached.upholds (h : Reached root b) : Upholds Registry.Consistent root b := by
  induction h with
  | opened now storage hbare => exact hbare.upholds Registry.consistent_empty now
  | step _ now s hcount ih =>
    refine ih.after Registry.consistent_empty s fun op r hop heffect => ?_
    subst hop
    exact consistent_of_effect ih.registry hcount heffect
  | others _ storage huntouched ih => exact ih.of_untouched huntouched

/-- **Statistics stay consistent.** Begin with nothing stored, and take any steps at any instants,
also with a clock that goes back, whatever accesses the store refuses, and whatever others do short
of editing a document; only no count of calls may overflow. Then every function in memory was
registered at some instant, no later than its last activity. If it was never called, this is the
registration, and else the last call. The same holds of the functions in the stored document and in
every backup. -/
theorem statistics_consistent (h : Reached root b) :
    (∀ name f, b.registry.get? name = some f →
        ∃ r, f.registeredAt = some r ∧ r ≤ f.timestamp
          ∧ (f.callCount = 0 ∧ f.lastCalled = none ∧ f.timestamp = r
            ∨ 0 < f.callCount ∧ f.lastCalled = some f.timestamp))
      ∧ (∀ octets, b.storage.content = .ok (some octets) →
          DocumentOf Registry.Consistent octets)
      ∧ ∀ name octets, validName name = true →
          b.storage.disk.read (documentPath root name) = .ok octets →
          DocumentOf Registry.Consistent octets :=
  ⟨h.upholds.registry, fun _ => h.upholds.content, fun _ _ hname => h.upholds.backup hname⟩

/-- A function is registered at 10 and called at 5, and the write after the call is refused, so that
loading takes the call back. -/
theorem statistics_consistent_stale :
    let storage : Storage := .new (.memory none) (.fresh 0 []) ⟨fun _ => false, fun n => n == 1⟩
    let called := Run.state (Step.after "backups") [(10, .bridge (.register "f" ⟨"python"⟩ [] [])),
      (5, .bridge (.call "f" []))] (Bridge.connect 12 storage).state
    let loaded := (Step.bridge .load).after "backups" 3 called
    (∃ f, called.registry.get? "f" = some f ∧ f.callCount = 1 ∧ f.Consistent)
      ∧ ∃ f, loaded.registry.get? "f" = some f ∧ f.callCount = 0 ∧ f.Consistent := by
  intro storage called loaded
  have hbare : Bare "backups" storage := bare_fresh "backups" _
  have hcalled : Reached "backups" called := by
    refine ((Reached.opened 12 storage hbare).step 10 (.bridge (.register "f" ⟨"python"⟩ [] []))
      trivial).step 5 (.bridge (.call "f" [])) fun f hf => ?_
    obtain rfl : FunctionRecord.fresh 10 ⟨"python"⟩ [] [] = f := Option.some.inj hf
    show (0 : UInt64).toNat + 1 < UInt64.size
    decide
  have hloaded : Reached "backups" loaded := hcalled.step 3 (.bridge .load) trivial
  have hload : ∀ b, ((Step.bridge .load).after "backups" 3 b).registry
      = Bridge.registryOf 3 (Storage.read b.storage).value :=
    fun b => congrArg Bridge.registry (Bridge.load_state 3 b)
  have hregistry : loaded.registry
      = Registry.register SortedMap.empty 10 "f" ⟨"python"⟩ [] [] :=
    (hload called).trans (Bridge.registryOf_encode 3 _)
  refine ⟨⟨_, rfl, rfl, (statistics_consistent hcalled).1 "f" _ rfl⟩, ?_⟩
  have hf : loaded.registry.get? "f" = some (.fresh 10 ⟨"python"⟩ [] []) := by
    rw [hregistry]
    rfl
  exact ⟨_, hf, rfl, (statistics_consistent hloaded).1 "f" _ hf⟩

end Backup

end Rehearsal
