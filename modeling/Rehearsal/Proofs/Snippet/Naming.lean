import Rehearsal.Proofs.Action.Shapes
import Rehearsal.Proofs.Shell.Deeds

/-!
# Calling what was defined

The names that definitions give and the names that calls have are two classes. A definition takes any
word, and a call takes words and dots as long as the first character is a letter of the basic
alphabet or an underscore. So a function may have a name by which **no call reaches it**
(`Action.classify_call_eq_iff`): `def 1f(x):` defines `1f`, and `1f(2)` calls `f`.

Every other name is called as it was defined. A definition registers its name in memory whether or
not the store takes it, and a name without dots is hidden by no library but the one of that name
(`Snippet.call_by_name`).
-/

namespace Rehearsal

open Text

namespace Action

variable {line name args : String} {params : List String}

/-- **A name that calls can have**: it begins with a basic letter or an underscore. -/
def CanBeCalled (name : String) : Prop := ∃ c ∈ name.toList.head?, isNameStart c = true

/-- The name of a definition is a word, and not empty. -/
theorem header_of_definition (h : (classify line).kind = .definition name params) :
    name ≠ "" ∧ ∀ c ∈ name.toList, isWord c = true := by
  obtain ⟨word, body, text, hheader, -, heq⟩ :=
    definition?_eq_some_iff.mp (definition?_of_kindOf h)
  obtain ⟨rfl, -⟩ := Kind.definition.inj heq
  rw [String.toList_ofList]
  refine ⟨fun hempty => hheader.name_ne_nil ?_, hheader.word⟩
  rw [← String.toList_ofList (l := word), hempty, String.toList_empty]

theorem word_of_definition (h : (classify line).kind = .definition name params) :
    ∀ c ∈ name.toList, isWord c = true := (header_of_definition h).2

/-- **Which words are called by their names.** -/
theorem classify_call_eq_iff (hname : ∀ c ∈ name.toList, isWord c = true)
    (hassign : '=' ∉ args.toList) (hclose : ')' ∉ args.toList) (hbreak : '\n' ∉ args.toList) :
    classify (name ++ "(" ++ args ++ ")") = ⟨.call name (commaPieces args.toList), .javascript⟩
      ↔ CanBeCalled name := by
  have hline : (name ++ "(" ++ args ++ ")").toList = name.toList ++ '(' :: (args.toList ++ [')']) := by
    simp
  rw [classify, hline]
  constructor
  · intro h
    obtain ⟨target, pieces, htarget, -, -, heq⟩ :=
      of_call? (call?_of_kindOf (congrArg Action.kind h))
    obtain ⟨rfl, -⟩ := Kind.call.inj heq
    unfold CanBeCalled
    rw [String.toList_ofList]
    exact htarget.start
  · intro hstart
    have htarget : IsTarget name.toList := ⟨hstart, fun c hc => isNameChar_of_isWord (hname c hc)⟩
    rw [ofLine, (fits_call htarget hassign hclose hbreak).kindOf_eq, String.ofList_toList]
    rfl

end Action

/-! ## Definitions and calls as steps of snippets -/

/-- A target without a dot names one library, itself. -/
theorem Callee.libraryOf_of_undotted {target : String} (h : '.' ∉ target.toList) :
    Callee.libraryOf target = target := by
  rw [Callee.libraryOf, Callee.segments, List.splitOn_eq_singleton h]
  exact String.ofList_toList

/-- A word is a name without a dot. -/
theorem Callee.libraryOf_of_word {name : String} (h : ∀ c ∈ name.toList, isWord c = true) :
    Callee.libraryOf name = name :=
  Callee.libraryOf_of_undotted fun hmem => absurd (h _ hmem) (by decide)

/-- **A registered word leads to its function**, unless a library of that name is loaded. -/
theorem Callee.resolve_of_word {s : Session} {name : String}
    (hname : ∀ c ∈ name.toList, isWord c = true) (hlibrary : s.libraries.isLoaded name = false)
    (hregistered : s.bridge.registry.contains name = true) :
    Callee.resolve s name = .function name := by
  rw [Callee.resolve, Callee.libraryOf_of_word hname, if_neg (by simp [hlibrary]),
    if_pos hregistered]

namespace Snippet

section

variable (now : Instant) (s : Session) (lang : Language)

/-- **What a definition comes to**, by what the store says. -/
theorem step_definition_value (name : String) (params : List String) :
    (step now ⟨.definition name params, lang⟩ s).value
      = match (Bridge.register now name lang params [] s.bridge).value with
        | .ok () => .registered name lang
        | .error e => .failed e.message := by
  unfold step execute
  rw [Routine.bind_value, Routine.bind_value, Routine.bind_state, Session.onBridge_apply]
  dsimp only
  cases (Bridge.register now name lang params [] s.bridge).value <;> rfl

/-- **What a call of a function comes to.** -/
theorem callFunction_value {name : String} {f : FunctionRecord} (args : List String)
    (hf : s.bridge.registry.get? name = some f) :
    (callFunction now name args s).value = .bridgeResult ((f.called now).simulate now args) := by
  unfold callFunction
  rw [Routine.bind_value, Session.onBridge_apply]
  dsimp only
  rw [Bridge.call_value_of_get? _ _ _ args hf]
  rfl

/-- What a call comes to that leads to a function. -/
theorem step_call_value {target name : String} {f : FunctionRecord} (args : List String)
    (h : Callee.resolve s target = .function name) (hf : s.bridge.registry.get? name = some f) :
    (step now ⟨.call target args, lang⟩ s).value
      = .bridgeResult ((f.called now).simulate now args) := by
  have hcall : (call now target args s).value = (callFunction now name args s).value := by
    unfold call
    rw [Routine.get_bind_apply, h]
  exact hcall.trans (callFunction_value now s args hf)

/-- **The function after its definition**, and after a call of it: it is in memory, and the call is
the first one that is counted. -/
theorem get?_after_definition_call (name : String) (params args : List String) (later : Instant)
    (hname : ∀ c ∈ name.toList, isWord c = true) (hlibrary : s.libraries.isLoaded name = false) :
    let f := FunctionRecord.fresh now lang params []
    let defined := (step now ⟨.definition name params, lang⟩ s).state
    let called := (step later ⟨.call name args, .javascript⟩ defined).state
    defined.bridge.registry.get? name = some f ∧ Callee.resolve defined name = .function name
      ∧ called.bridge.registry.get? name = some (f.called later) := by
  intro f defined called
  have hdefined : defined = s.withBridge (Bridge.register now name lang params [] s.bridge).state :=
    step_state now s _
  have hregistry : defined.bridge.registry = s.bridge.registry.register now name lang params [] := by
    rw [hdefined, Bridge.register_state]
    rfl
  have hget : defined.bridge.registry.get? name = some f := by
    rw [hregistry]
    exact SortedMap.get?_insert_self _ _ _
  have hresolve : Callee.resolve defined name = .function name := by
    refine Callee.resolve_of_word hname ?_ ?_
    · rw [hdefined]
      exact hlibrary
    · exact SortedMap.contains_of_get? hget
  have hcalled : called = defined.withBridge (Bridge.call later name args defined.bridge).state := by
    refine (step_state later defined _).trans ?_
    show (Deed.call name args).after later defined = _
    rw [Deed.after_call, hresolve]
  refine ⟨hget, hresolve, ?_⟩
  rw [hcalled, Session.withBridge, Bridge.call_state_of_get? later name defined.bridge args hget]
  show (defined.bridge.registry.recordCall later name).get? name = _
  rw [Registry.recordCall, hget]
  exact SortedMap.get?_insert_self _ _ _

end

/-- **A function is called by the name that it was defined with**, if calls can have that name. Take
any line that is a definition, and any text of arguments
without `=`, a bracket that closes and a line break. Then the name with the text in brackets is a
call of exactly that name, with the pieces of the text as its arguments, if and only if the name
begins with a basic letter or an underscore. And if so, and no library of the name is loaded, then
after the definition, which is registered if the store takes the write and fails if not, the call
gives a result and is the first one that is counted. -/
theorem call_by_name (line name args : String) (params : List String)
    (hdefined : (Action.classify line).kind = .definition name params)
    (hassign : '=' ∉ args.toList) (hclose : ')' ∉ args.toList) (hbreak : '\n' ∉ args.toList) :
    (Action.classify (name ++ "(" ++ args ++ ")")
        = ⟨.call name (Action.commaPieces args.toList), .javascript⟩ ↔ Action.CanBeCalled name)
      ∧ (Action.CanBeCalled name →
          ∀ (now later : Instant) (s : Session), s.libraries.isLoaded name = false →
            let defined := step now (Action.classify line) s
            let called := step later (Action.classify (name ++ "(" ++ args ++ ")")) defined.state
            let stored := Storage.write now
              (s.bridge.registry.register now name .python params []).encode s.bridge.storage
            (defined.value = match stored.value with
                | .ok () => .registered name .python
                | .error e => .failed e.message)
              ∧ (∃ result, called.value = .bridgeResult result)
              ∧ ∃ f, called.state.bridge.registry.get? name = some f ∧ f.callCount = 1) := by
  have hword := Action.word_of_definition hdefined
  have hcall := Action.classify_call_eq_iff hword hassign hclose hbreak
  refine ⟨hcall, fun hname now later s hlibrary => ?_⟩
  intro defined called stored
  have hline : Action.classify line = ⟨.definition name params, .python⟩ :=
    Action.classify_eq_of_kind hdefined
  have hfunction := get?_after_definition_call now s .python name params
    (Action.commaPieces args.toList) later hword hlibrary
  rw [← hline, ← hcall.mpr hname] at hfunction
  obtain ⟨hget, hresolve, hcounted⟩ := hfunction
  have hvalue : defined.value = match stored.value with
      | .ok () => .registered name .python
      | .error e => .failed e.message := by
    show (step now (Action.classify line) s).value = _
    rw [hline, step_definition_value, Bridge.register_value]
  have hresult := step_call_value later defined.state .javascript
    (Action.commaPieces args.toList) hresolve hget
  rw [← hcall.mpr hname] at hresult
  exact ⟨hvalue, ⟨_, hresult⟩, _, hcounted, rfl⟩

/-- A word that begins with an underscore is called, here over a store that refuses to be written. -/
theorem call_by_name_refused :
    let refusing : Storage := .new (.memory none) (.fresh 0 []) (.always false true)
    let s : Session := ⟨SortedMap.empty, SortedMap.empty, ⟨SortedMap.empty, refusing⟩, "backups",
      false, false⟩
    let defined := step 1 (Action.classify "def _é(x):") s
    let called := step 2 (Action.classify "_é(3)") defined.state
    defined.value = .failed "IO error on /write: write refused"
      ∧ ∃ result, called.value = .bridgeResult result := by
  intro refusing s defined called
  have hdefined : (Action.classify "def _é(x):").kind = .definition "_é" ["x"] := by decide +kernel
  have hname := call_by_name "def _é(x):" "_é" "3" ["x"] hdefined (by decide) (by decide) (by decide)
  obtain ⟨hvalue, hresult, -⟩ := hname.2 ⟨'_', rfl, by decide⟩ 1 2 s rfl
  exact ⟨hvalue, hresult⟩

/-- **Not every function is called by its name.** The name of a definition may begin with a digit, and
then what looks like its call is a call of something else. And a definition that the store does not
take fails, even if its name is registered in memory. -/
theorem not_every_name_called :
    (¬∀ (line name args : String) (params : List String), Action.IsLine line.toList →
        (Action.classify line).kind = .definition name params →
        '=' ∉ args.toList → ')' ∉ args.toList → '\n' ∉ args.toList →
        Action.classify (name ++ "(" ++ args ++ ")")
          = ⟨.call name (Action.commaPieces args.toList), .javascript⟩)
      ∧ ¬∀ (s : Session) (now : Instant), s.libraries.isLoaded "f" = false →
        (step now (Action.classify "def f():") s).value = .registered "f" .python := by
  constructor
  · intro h
    have hcall := h "def 1f(x):" "1f" "2" ["x"] ⟨by decide, by decide⟩ (by decide +kernel)
      (by decide) (by decide) (by decide)
    exact absurd hcall (by decide +kernel)
  · intro h
    have hline : Action.classify "def f():" = ⟨.definition "f" [], .python⟩ := by decide +kernel
    have hvalue := h ⟨SortedMap.empty, SortedMap.empty,
      ⟨SortedMap.empty, .new (.memory none) (.fresh 0 []) (.always false true)⟩, "backups",
      false, false⟩ 1 rfl
    rw [hline, step_definition_value, Bridge.register_value] at hvalue
    cases hvalue

end Snippet

end Rehearsal
