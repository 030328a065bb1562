import Rehearsal.Proofs.Snippet.Naming

/-!
# What a call leads to

Four kinds of things have names that a call may have: methods of loaded libraries, functions, the
two ways to print, and nothing at all. They are asked in this order, and a target leads to **the
first that knows it** (`Callee.Leads`). A library knows every target that is its name or begins with
its name and a dot, even if it has no such method, so what is behind it is hidden.

A call of a function cannot fail. The function is looked up twice, before the call and in it, and
nothing happens in between; and a write that fails is only logged. So a call always has one of five
outcomes, and the only one that changes anything is the result of a function
(`Snippet.call_resolved`).
-/

namespace Rehearsal

namespace Callee

/-! ## The segments of a target -/

/-- The first segment is what stands before the first dot. -/
theorem getElem?_splitOn_zero (cs : List Char) :
    (cs.splitOn '.')[0]? = some (cs.takeWhile (· ≠ '.')) := by
  by_cases hdot : '.' ∈ cs
  · obtain ⟨first, rest, rfl, hfirst⟩ := List.eq_append_cons_of_mem hdot
    have htake : ∀ c ∈ first, decide (c ≠ '.') = true := fun c hc =>
      decide_eq_true fun heq => hfirst (heq ▸ hc)
    rw [List.splitOn_append_cons_self_of_not_mem hfirst, List.takeWhile_append_of_pos htake]
    simp
  · have htake : cs.takeWhile (· ≠ '.') = cs :=
      List.takeWhile_eq_self_iff.mpr fun c hc => decide_eq_true fun heq => hdot (heq ▸ hc)
    rw [List.splitOn_eq_singleton hdot, htake]
    rfl

/-- **The library of a target** is what stands before the first dot, or the whole. -/
theorem libraryOf_eq (target : String) :
    libraryOf target = String.ofList (target.toList.takeWhile (· ≠ '.')) := by
  rw [libraryOf, segments, List.getElem?_map, getElem?_splitOn_zero]
  rfl

/-- **The method of a target** is what stands between the first dot and the next, or nothing. -/
theorem methodOf_eq (target : String) :
    methodOf target
      = String.ofList (((target.toList.dropWhile (· ≠ '.')).drop 1).takeWhile (· ≠ '.')) := by
  rw [methodOf, segments, List.getElem?_map]
  generalize target.toList = cs
  by_cases hdot : '.' ∈ cs
  · obtain ⟨first, rest, rfl, hfirst⟩ := List.eq_append_cons_of_mem hdot
    have hdrop : ∀ c ∈ first, decide (c ≠ '.') = true := fun c hc =>
      decide_eq_true fun heq => hfirst (heq ▸ hc)
    rw [List.splitOn_append_cons_self_of_not_mem hfirst, List.dropWhile_append_of_pos hdrop,
      List.getElem?_cons_succ, getElem?_splitOn_zero]
    simp
  · have hdrop : cs.dropWhile (· ≠ '.') = [] :=
      List.dropWhile_eq_nil_iff.mpr fun c hc => decide_eq_true fun heq => hdot (heq ▸ hc)
    rw [List.splitOn_eq_singleton hdot, hdrop]
    rfl

/-! ## The order of resolution -/

/-- **What a target leads to**, where nothing before it knows the target. -/
inductive Leads (s : Session) (target : String) : Callee → Prop where
  | method (hlibrary : s.libraries.isLoaded (libraryOf target) = true) :
    Leads s target (.method (libraryOf target) (methodOf target))
  | function {f : FunctionRecord} (hlibrary : s.libraries.isLoaded (libraryOf target) = false)
      (hfunction : s.bridge.registry.get? target = some f) : Leads s target (.function target)
  | print (hlibrary : s.libraries.isLoaded (libraryOf target) = false)
      (hfunction : s.bridge.registry.contains target = false) (hprint : target ∈ printing) :
    Leads s target .print
  | nothing (hlibrary : s.libraries.isLoaded (libraryOf target) = false)
      (hfunction : s.bridge.registry.contains target = false) (hprint : target ∉ printing) :
    Leads s target .nothing

variable {s : Session} {target : String} {callee : Callee}

/-- A target leads to one thing. -/
theorem Leads.resolve_eq (h : Leads s target callee) : resolve s target = callee := by
  unfold resolve
  cases h with
  | method hlibrary => rw [if_pos hlibrary]
  | function hlibrary hfunction =>
    rw [if_neg (by simp [hlibrary]), if_pos (SortedMap.contains_of_get? hfunction)]
  | print hlibrary hfunction hprint =>
    rw [if_neg (by simp [hlibrary]), if_neg (by simp [hfunction]), if_pos (by simpa using hprint)]
  | nothing hlibrary hfunction hprint =>
    rw [if_neg (by simp [hlibrary]), if_neg (by simp [hfunction]), if_neg (by simpa using hprint)]

/-- **Every target leads to something**, if only to nothing. -/
theorem leads_resolve (s : Session) (target : String) : Leads s target (resolve s target) := by
  suffices h : ∃ callee, Leads s target callee by
    obtain ⟨callee, hleads⟩ := h
    rwa [hleads.resolve_eq]
  cases hlibrary : s.libraries.isLoaded (libraryOf target) with
  | true => exact ⟨_, .method hlibrary⟩
  | false =>
    cases hfunction : s.bridge.registry.get? target with
    | some f => exact ⟨_, .function hlibrary hfunction⟩
    | none =>
      have hcontains := SortedMap.contains_eq_false_iff.mpr hfunction
      by_cases hprint : target ∈ printing
      · exact ⟨_, .print hlibrary hcontains hprint⟩
      · exact ⟨_, .nothing hlibrary hcontains hprint⟩

end Callee

namespace Snippet

/-! ## Outcomes of calls -/

variable (now : Instant) (s : Session) (target : String) (args : List String)

/-- **What a call comes to**, by what its target leads to. -/
theorem call_value :
    (call now target args s).value
      = match Callee.resolve s target with
        | .method library method =>
          match Libraries.invoke? library method args with
          | some value => .libraryResult value
          | none => .missingMethod library method
        | .function name => (callFunction now name args s).value
        | .print => .printed (args.head?.getD "")
        | .nothing => .notFound target := by
  unfold call
  rw [Routine.get_bind_apply]
  cases Callee.resolve s target with
  | method library method =>
    dsimp only
    unfold callMethod
    cases Libraries.invoke? library method args <;> rfl
  | function name => rfl
  | print => rfl
  | nothing => rfl

variable {s target}

/-- **The session after a call of a function**: one more call is recorded and saved. -/
theorem call_state_of_get? {f : FunctionRecord} (h : Callee.resolve s target = .function target)
    (hf : s.bridge.registry.get? target = some f) :
    (call now target args s).state
      = s.withBridge ((Bridge.Effect.save (s.bridge.registry.insert target (f.called now))).on now
          s.bridge) := by
  rw [call_state, Deed.after_call, h]
  dsimp only
  rw [Bridge.call_state_of_get? now target s.bridge args hf, Registry.recordCall, hf]

/-- A call that leads to no function changes nothing. -/
theorem call_state_of_ne (h : ∀ name, Callee.resolve s target ≠ .function name) :
    (call now target args s).state = s := by
  rw [call_state, Deed.after_call]
  cases hresolve : Callee.resolve s target with
  | function name => exact absurd hresolve (h name)
  | method | print | nothing => rfl

/-- **A call never fails.** What a function of the bridge comes to is a result. -/
theorem call_value_ne_failed (reason : String) :
    (call now target args s).value ≠ .bridgeFailed reason
      ∧ (call now target args s).value ≠ .failed reason := by
  rw [call_value]
  have hleads := Callee.leads_resolve s target
  generalize Callee.resolve s target = callee at *
  cases hleads with
  | method _ =>
    dsimp only
    cases Libraries.invoke? (Callee.libraryOf target) (Callee.methodOf target) args <;> simp
  | function _ hf => simp [callFunction_value now s args hf]
  | print => simp
  | nothing => simp

/-- **Calls are resolved in order, and never fail.** Let the library be what stands in a target
before its first dot, or the whole target, and the method what stands between that dot and the next,
or nothing. If the library is loaded, the outcome is the result of the method, if it has one of that
name, and that the method is missing, if it has not; there may be a function of the name of the
target or not. Otherwise, if the target is a function, the outcome is a result of it. Otherwise the
first argument is printed as it stands, if the target is one of those that print, and else nothing
is found. There is always an outcome, and it is never a fault of the bridge. And only the call of a
function changes the session. Of that function one more call is counted, and its last activity and
its last call become the later one of the clock and its last activity before. Nothing else of the
session changes but the storage, to which the registry is tried to be written once. -/
theorem call_resolved (now : Instant) (lang : Language) (target : String) (args : List String)
    (s : Session) :
    let library := String.ofList (target.toList.takeWhile (· ≠ '.'))
    let method := String.ofList (((target.toList.dropWhile (· ≠ '.')).drop 1).takeWhile (· ≠ '.'))
    let r := execute now lang (.call target args) s
    (s.libraries.isLoaded library = true →
        (method = Libraries.exampleMethod → ∃ value,
          Libraries.invoke? library method args = some value ∧ r.value = .ok (.libraryResult value))
          ∧ (method ≠ Libraries.exampleMethod → r.value = .ok (.missingMethod library method))
          ∧ r.state = s)
      ∧ (s.libraries.isLoaded library = false →
        ∀ f, s.bridge.registry.get? target = some f →
          let later := max now f.timestamp
          let registry : Registry := s.bridge.registry.insert target
            { f with timestamp := later, lastCalled := some later, callCount := f.callCount + 1 }
          let storage := (Storage.write now registry.encode s.bridge.storage).state
          (∃ result, r.value = .ok (.bridgeResult result))
            ∧ r.state = { s with bridge := ⟨registry, storage⟩ }
            ∧ storage.writes = s.bridge.storage.writes + 1
            ∧ storage.reads = s.bridge.storage.reads)
      ∧ (s.libraries.isLoaded library = false → s.bridge.registry.contains target = false →
          (target = "print" ∨ target = "console.log" →
            r.value = .ok (.printed (args.head?.getD "")))
          ∧ (target ≠ "print" → target ≠ "console.log" → r.value = .ok (.notFound target))
          ∧ r.state = s)
      ∧ ∃ outcome, r.value = .ok outcome ∧ ∀ reason, outcome ≠ .bridgeFailed reason := by
  intro library method r
  have hlibraryOf : Callee.libraryOf target = library := Callee.libraryOf_eq target
  have hmethodOf : Callee.methodOf target = method := Callee.methodOf_eq target
  have hvalue : r.value = .ok (call now target args s).value := rfl
  have hstate : r.state = (call now target args s).state := rfl
  rw [hvalue, hstate, ← hlibraryOf, ← hmethodOf]
  refine ⟨fun hloaded => ?_, fun hloaded f hf => ?_, fun hloaded hcontains => ?_,
    _, rfl, fun reason => (call_value_ne_failed now args reason).1⟩
  · have hresolve := (Callee.Leads.method hloaded).resolve_eq
    refine ⟨fun hmethod => ?_, fun hmethod => ?_, ?_⟩
    · rw [call_value, hresolve, hmethod]
      exact ⟨_, rfl, rfl⟩
    · rw [call_value, hresolve]
      dsimp only
      rw [Libraries.invoke?, if_neg hmethod]
    · exact call_state_of_ne now args (by simp [hresolve])
  · have hresolve := (Callee.Leads.function hloaded hf).resolve_eq
    intro later registry storage
    have hcounts := Storage.counts_write s.bridge.storage now registry.encode
    refine ⟨⟨(f.called now).simulate now args, ?_⟩, ?_, hcounts.2.2, hcounts.2.1⟩
    · rw [call_value, hresolve]
      dsimp only
      rw [callFunction_value now s args hf]
    · rw [call_state_of_get? now args hresolve hf]
      rfl
  · refine ⟨fun hprint => ?_, fun hprint hlog => ?_, ?_⟩
    · have hmem : target ∈ Callee.printing := by simpa [Callee.printing] using hprint
      rw [call_value, (Callee.Leads.print hloaded hcontains hmem).resolve_eq]
    · have hmem : target ∉ Callee.printing := by simp [Callee.printing, hprint, hlog]
      rw [call_value, (Callee.Leads.nothing hloaded hcontains hmem).resolve_eq]
    · refine call_state_of_ne now args fun name hresolve => ?_
      have hleads := Callee.leads_resolve s target
      rw [hresolve] at hleads
      cases hleads with
      | function _ hf => exact absurd (SortedMap.contains_of_get? hf) (by simp [hcontains])

/-- A library hides the function of its method's name and misses any other method, a function hides
printing while its store refuses to be written, and the other way to print is still there. -/
theorem call_resolved_each :
    let f := FunctionRecord.fresh 5 .python [] []
    let registry : Registry :=
      ((SortedMap.empty.insert "math.exampleMethod" f).insert "print" f)
    let s : Session := ⟨SortedMap.empty, SortedMap.empty.insert "math" (),
      ⟨registry, .new (.memory none) (.fresh 0 []) (.always false true)⟩, "backups", false, false⟩
    let outcome : String → List String → Except StorageError Outcome := fun target args =>
      (execute 3 .javascript (.call target args) s).value
    (∃ value, outcome "math.exampleMethod" ["1"] = .ok (.libraryResult value))
      ∧ outcome "math" ["1"] = .ok (.missingMethod "math" "")
      ∧ (∃ result, outcome "print" ["1"] = .ok (.bridgeResult result))
      ∧ (execute 3 .javascript (.call "print" ["1"]) s).state.bridge.registry.get? "print"
        = some { f with timestamp := 5, lastCalled := some 5, callCount := 1 }
      ∧ outcome "console.log" [] = .ok (.printed "")
      ∧ outcome "math2.f" [] = .ok (.notFound "math2.f") := by
  intro f registry s outcome
  have hmethod := (call_resolved 3 .javascript "math.exampleMethod" ["1"] s).1 rfl
  have hmissing := (call_resolved 3 .javascript "math" ["1"] s).1 rfl
  have hfunction := (call_resolved 3 .javascript "print" ["1"] s).2.1 rfl f rfl
  have hprint := (call_resolved 3 .javascript "console.log" [] s).2.2.1 rfl rfl
  have hnothing := (call_resolved 3 .javascript "math2.f" [] s).2.2.1 rfl rfl
  obtain ⟨value, -, hvalue⟩ := hmethod.1 rfl
  refine ⟨⟨value, hvalue⟩, hmissing.2.1 (by decide), hfunction.1, ?_, hprint.1 (by simp),
    hnothing.2.1 (by simp) (by simp)⟩
  rw [hfunction.2.1]
  exact SortedMap.get?_insert_self _ _ _

end Snippet

end Rehearsal
