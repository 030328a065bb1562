import Rehearsal.Proofs.Bridge.History
import Rehearsal.Proofs.Snippet.Resolution

/-!
# What a snippet comes to

A snippet is a list of actions, and what it does to a session can be read off the list, one name at
a time. Of a variable the last assignment counts. Of a function the last definition counts and the
calls after it, or all calls if the snippet does not define it (`Action.onRecord`). The libraries do
not change, so it is known beforehand which calls they take away.

**The store has no part in this.** A definition that the store does not take fails, and it is the
only kind of action that can. But it is made in memory all the same, so the actions after it find
what they would have found (`Snippet.effect_of_actions`).
-/

namespace Rehearsal

/-! ## Records and calls -/

/-- **A record and what it is after so many calls**: the same function, with the calls counted as
far as 64 bits hold that. -/
structure FunctionRecord.AfterCalls (f : FunctionRecord) (calls : Nat) (f' : FunctionRecord) :
    Prop where
  lang : f'.lang = f.lang
  params : f'.params = f.params
  body : f'.body = f.body
  callCount : f'.callCount = f.callCount + UInt64.ofNat calls

namespace FunctionRecord.AfterCalls

variable {f f' : FunctionRecord} {calls : Nat}

theorem refl (f : FunctionRecord) : f.AfterCalls 0 f := ⟨rfl, rfl, rfl, (UInt64.add_zero _).symm⟩

theorem called (h : f.AfterCalls calls f') (now : Instant) :
    f.AfterCalls (calls + 1) (f'.called now) where
  lang := h.lang
  params := h.params
  body := h.body
  callCount := by
    rw [callCount_called, h.callCount, UInt64.ofNat_add, UInt64.add_assoc]
    rfl

end FunctionRecord.AfterCalls

/-! ## What single actions do to a name -/

namespace Action

/-- **The value assigned to a variable** by an action, if it assigns to it. -/
def assigned? (name : String) (a : Action) : Option String :=
  match a.kind with
  | .assignment target value => if target = name then some value else none
  | _ => none

/-- **The action defines a function** of a name. -/
def Registers (name : String) (a : Action) : Prop := ∃ params, a.kind = .definition name params

/-- **The action calls a name**, and no library takes the call: none is loaded that is named by what
stands before the first dot. -/
def calls (libraries : Libraries) (name : String) (a : Action) : Bool :=
  match a.kind with
  | .call target _ =>
    decide (target = name)
      && !libraries.isLoaded (String.ofList (target.toList.takeWhile (· ≠ '.')))
  | _ => false

/-- **What an action does to the record under a name.** -/
def onRecord (now : Instant) (libraries : Libraries) (name : String) (f : Option FunctionRecord)
    (a : Action) : Option FunctionRecord :=
  match a.kind with
  | .definition name' params => if name' = name then some (.fresh now a.lang params []) else f
  | .call _ _ => if a.calls libraries name then f.map (FunctionRecord.called now) else f
  | _ => f

variable {now : Instant} {libraries : Libraries} {name : String} {a : Action}
  {actions : List Action}

theorem onRecord_call {target : String} {args : List String} {lang : Language}
    (f : Option FunctionRecord) :
    (⟨.call target args, lang⟩ : Action).onRecord now libraries name f
      = if target = name ∧ libraries.isLoaded (Callee.libraryOf target) = false then
          f.map (FunctionRecord.called now)
        else f := by
  have hcalls : (⟨.call target args, lang⟩ : Action).calls libraries name
      = (decide (target = name) && !libraries.isLoaded (Callee.libraryOf target)) := by
    rw [Callee.libraryOf_eq]
    rfl
  show (if (⟨.call target args, lang⟩ : Action).calls libraries name = true then _ else _) = _
  rw [hcalls]
  simp

/-- An action that does not define a function can only call it. -/
theorem onRecord_of_not_registers (h : ¬a.Registers name) (f : Option FunctionRecord) :
    a.onRecord now libraries name f
      = if a.calls libraries name then f.map (FunctionRecord.called now) else f := by
  obtain ⟨kind, lang⟩ := a
  cases kind with
  | definition name' params =>
    have hname : name' ≠ name := by
      rintro rfl
      exact h ⟨params, rfl⟩
    exact if_neg hname
  | call target args => rfl
  | assignment | returning | unknown => rfl

/-- **A record stays**, and the calls are counted, over actions that do not define its function. -/
theorem exists_afterCalls (h : ∀ a ∈ actions, ¬a.Registers name) (f : FunctionRecord) :
    ∃ f', actions.foldl (onRecord now libraries name) (some f) = some f'
      ∧ f.AfterCalls (actions.countP (calls libraries name)) f' := by
  induction actions using List.reverseRecOn with
  | nil => exact ⟨f, rfl, .refl f⟩
  | append_singleton actions a ih =>
    obtain ⟨f', hf', hcalls⟩ := ih fun a ha => h a (List.mem_append_left _ ha)
    have ha := h a (List.mem_append_right _ (List.mem_singleton_self a))
    rw [List.foldl_append, hf', List.foldl_cons, List.foldl_nil, onRecord_of_not_registers ha,
      List.countP_append, List.countP_singleton]
    split
    · exact ⟨f'.called now, rfl, hcalls.called now⟩
    · exact ⟨f', rfl, hcalls⟩

/-- **A name has a record** after actions if it had one before, or one of them defines it. -/
theorem isSome_foldl_onRecord_iff (f : Option FunctionRecord) :
    (actions.foldl (onRecord now libraries name) f).isSome = true
      ↔ f.isSome = true ∨ ∃ a ∈ actions, a.Registers name := by
  induction actions generalizing f with
  | nil => simp
  | cons a actions ih =>
    rw [List.foldl_cons, ih, List.exists_mem_cons_iff, ← or_assoc]
    refine or_congr_left ?_
    by_cases ha : a.Registers name
    · obtain ⟨kind, lang⟩ := a
      obtain ⟨params, rfl⟩ := ha
      simp [onRecord, Registers]
    · rw [onRecord_of_not_registers ha, or_iff_left ha]
      split <;> simp

end Action

namespace Snippet

variable (now : Instant) (s : Session) (a : Action) (actions : List Action) (name : String)

/-! ## Steps -/

theorem libraries_step : (step now a s).state.libraries = s.libraries := by
  rw [step_state]
  obtain ⟨kind, lang⟩ := a
  cases kind with
  | call target args =>
    show ((Deed.call target args).after now s).libraries = s.libraries
    rw [Deed.after_call]
    cases Callee.resolve s target <;> rfl
  | definition | assignment | returning | unknown => rfl

/-- **An action does to a variable** what it assigns. -/
theorem get?_vars_step :
    (step now a s).state.vars.get? name = (a.assigned? name).or (s.vars.get? name) := by
  rw [step_state]
  obtain ⟨kind, lang⟩ := a
  cases kind with
  | assignment target value =>
    show (s.vars.insert target value).get? name
      = (if target = name then some value else none).or (s.vars.get? name)
    by_cases htarget : target = name
    · rw [htarget, if_pos rfl, SortedMap.get?_insert_self, Option.some_or]
    · rw [if_neg htarget, SortedMap.get?_insert_of_ne _ (Ne.symm htarget), Option.none_or]
  | call target args =>
    show ((Deed.call target args).after now s).vars.get? name = _
    rw [Deed.after_call]
    cases Callee.resolve s target <;> rfl
  | definition | returning | unknown => rfl

/-- **An action does to a record** what it says, whatever the store does. -/
theorem get?_registry_step :
    (step now a s).state.bridge.registry.get? name
      = a.onRecord now s.libraries name (s.bridge.registry.get? name) := by
  rw [step_state]
  obtain ⟨kind, lang⟩ := a
  cases kind with
  | definition name' params =>
    show ((Deed.define name' lang params).after now s).bridge.registry.get? name = _
    rw [Deed.registry_after (by simp)]
    exact (Bridge.Operation.register name' lang params []).get?_effect now s.bridge.registry name
  | call target args =>
    show ((Deed.call target args).after now s).bridge.registry.get? name = _
    rw [Deed.registry_after (by simp), Deed.step?_call, Action.onRecord_call]
    have hleads := Callee.leads_resolve s target
    generalize Callee.resolve s target = callee at *
    cases hleads with
    | function hlibrary _ =>
      refine ((Bridge.Operation.call target args).get?_effect now s.bridge.registry name).trans ?_
      simp [Bridge.Operation.onRecord, hlibrary]
    | method hlibrary => simp [hlibrary]
    | print _ hcontains | nothing _ hcontains =>
      -- if this is the name, there is no record to count the call in
      show s.bridge.registry.get? name = _
      split
      · next hcalled =>
        obtain ⟨rfl, -⟩ := hcalled
        rw [SortedMap.contains_eq_false_iff.mp hcontains, Option.map_none]
      · rfl
  | assignment | returning | unknown => rfl

/-! ## Runs -/

theorem libraries_run : (run now actions s).state.libraries = s.libraries := by
  induction actions generalizing s with
  | nil => rfl
  | cons a actions ih => rw [run_cons_state, ih, libraries_step]

/-- **The last assignment to a variable counts.** -/
theorem get?_vars_run :
    (run now actions s).state.vars.get? name
      = ((actions.filterMap (Action.assigned? name)).getLast?).or (s.vars.get? name) := by
  induction actions generalizing s with
  | nil => rfl
  | cons a actions ih =>
    rw [run_cons_state, ih, get?_vars_step, List.filterMap_cons, ← Option.or_assoc]
    cases a.assigned? name with
    | none => simp
    | some value =>
      rw [List.getLast?_cons]
      cases (actions.filterMap (Action.assigned? name)).getLast? <;> rfl

/-- **The record under a name after actions** is what they say one after the other. -/
theorem get?_registry_run :
    (run now actions s).state.bridge.registry.get? name
      = actions.foldl (Action.onRecord now s.libraries name) (s.bridge.registry.get? name) := by
  induction actions generalizing s with
  | nil => rfl
  | cons a actions ih =>
    rw [run_cons_state, ih, libraries_step, get?_registry_step, List.foldl_cons]

/-- **A function that actions define** is the one of the last definition, with the calls since. -/
theorem exists_afterCalls_of_definition {before after : List Action} {params : List String}
    {lang : Language} (hlast : ∀ a ∈ after, ¬a.Registers name) :
    ∃ f, (run now (before ++ ⟨.definition name params, lang⟩ :: after) s).state.bridge.registry.get?
          name = some f
      ∧ (FunctionRecord.fresh now lang params []).AfterCalls
          (after.countP (Action.calls s.libraries name)) f := by
  have hdefined (f : Option FunctionRecord) :
      (⟨.definition name params, lang⟩ : Action).onRecord now s.libraries name f
        = some (.fresh now lang params []) := if_pos rfl
  rw [get?_registry_run, List.foldl_append, List.foldl_cons, hdefined]
  exact Action.exists_afterCalls hlast _

/-- **Only definitions fail**, and only if the store does not take them. -/
theorem step_failed_iff :
    (∃ reason, (step now a s).value = .failed reason)
      ↔ ∃ name params, a.kind = .definition name params ∧ ∃ e,
        (Storage.write now (s.bridge.registry.register now name a.lang params []).encode
          s.bridge.storage).value = .error e := by
  obtain ⟨kind, lang⟩ := a
  constructor
  · rintro ⟨reason, hfailed⟩
    cases kind with
    | definition name params =>
      refine ⟨name, params, rfl, ?_⟩
      rw [step_definition_value, Bridge.register_value] at hfailed
      split at hfailed
      · cases hfailed
      · next e hstored => exact ⟨e, hstored⟩
    | call target args => exact absurd hfailed (call_value_ne_failed now args reason).2
    | assignment | returning | unknown => cases hfailed
  · rintro ⟨name, params, hkind, e, hstored⟩
    obtain rfl : kind = .definition name params := hkind
    refine ⟨e.message, ?_⟩
    rw [step_definition_value, Bridge.register_value, hstored]

/-- **What a list of actions does to a session**, whatever writes the store refuses. Each variable
has the value that was assigned to it last, or the one that it had. The libraries are the same. A
function is registered if it was or if an action defines it. If actions define it, it is the
function of the last definition of it, with an empty body, and counts the calls after that. If it
was registered and none defines it, it is the function that it was, and counts the calls in addition
to those before. A call that a loaded library takes is not counted. And there is one outcome for
each action, which is a failure exactly if the action is a definition and the store refused, at that
moment, to take the registry with it. -/
theorem effect_of_actions (now : Instant) (actions : List Action) (s : Session) :
    let r := run now actions s
    (∀ name, r.state.vars.get? name
        = ((actions.filterMap (Action.assigned? name)).getLast?).or (s.vars.get? name))
      ∧ r.state.libraries = s.libraries
      ∧ (∀ name, r.state.bridge.registry.contains name = true
          ↔ s.bridge.registry.contains name = true ∨ ∃ a ∈ actions, a.Registers name)
      ∧ (∀ name params lang before after,
          actions = before ++ ⟨.definition name params, lang⟩ :: after →
          (∀ a ∈ after, ¬a.Registers name) →
          ∃ f, r.state.bridge.registry.get? name = some f ∧ f.lang = lang ∧ f.params = params
            ∧ f.body = []
            ∧ f.callCount = UInt64.ofNat (after.countP (Action.calls s.libraries name)))
      ∧ (∀ name f, s.bridge.registry.get? name = some f → (∀ a ∈ actions, ¬a.Registers name) →
          ∃ f', r.state.bridge.registry.get? name = some f'
            ∧ f.AfterCalls (actions.countP (Action.calls s.libraries name)) f')
      ∧ r.value.length = actions.length
      ∧ ∀ before a after, actions = before ++ a :: after →
          let b := (run now before s).state.bridge
          ∃ outcome, r.value[before.length]? = some outcome
            ∧ ((∃ reason, outcome = .failed reason)
              ↔ ∃ name params, a.kind = .definition name params ∧ ∃ e,
                (Storage.write now (b.registry.register now name a.lang params []).encode
                  b.storage).value = .error e) := by
  intro r
  refine ⟨get?_vars_run now s actions, libraries_run now s actions, fun name => ?_,
    fun name params lang before after hactions hlast => ?_, fun name f hf hnone => ?_,
    length_run_value now s actions, fun before a after hactions => ?_⟩
  · rw [SortedMap.contains, get?_registry_run]
    exact Action.isSome_foldl_onRecord_iff _
  · subst hactions
    obtain ⟨f, hf, hcalls⟩ := exists_afterCalls_of_definition now s name hlast
    exact ⟨f, hf, hcalls.lang, hcalls.params, hcalls.body,
      hcalls.callCount.trans (UInt64.zero_add _)⟩
  · rw [get?_registry_run, hf]
    exact Action.exists_afterCalls hnone f
  · intro b
    refine ⟨_, ?_, step_failed_iff now (run now before s).state a⟩
    rw [← run_value_getElem?, ← hactions]

/-- A function defined twice over a store that refuses every write, with calls before, between and
after, and a function that a library hides. -/
theorem effect_of_actions_refused :
    let s : Session := ⟨SortedMap.empty.insert "x" "0", SortedMap.empty.insert "math" (),
      ⟨SortedMap.empty.insert "math.g" (.fresh 5 .python [] []),
        .new (.memory none) (.fresh 0 []) (.always false true)⟩, "backups", false, false⟩
    let after : List Action := [⟨.call "f" ["1"], .javascript⟩, ⟨.call "math.g" [], .javascript⟩,
      ⟨.assignment "x" "1", .python⟩, ⟨.call "f" ["2"], .javascript⟩,
      ⟨.assignment "x" "2", .python⟩]
    let before : List Action := [⟨.call "f" [], .javascript⟩, ⟨.definition "f" ["a"], .python⟩,
      ⟨.call "f" [], .javascript⟩]
    let r := run 7 (before ++ ⟨.definition "f" ["b"], .python⟩ :: after) s
    r.state.vars.get? "x" = some "2"
      ∧ (∃ f, r.state.bridge.registry.get? "f" = some f ∧ f.params = ["b"] ∧ f.callCount = 2)
      ∧ (∃ f, r.state.bridge.registry.get? "math.g" = some f ∧ f.callCount = 0)
      ∧ ∃ reason, r.value[3]? = some (.failed reason) := by
  intro s after before r
  obtain ⟨hvars, -, -, hdefined, hkept, -, houtcome⟩ :=
    effect_of_actions 7 (before ++ ⟨.definition "f" ["b"], .python⟩ :: after) s
  refine ⟨(hvars "x").trans rfl, ?_, ?_, ?_⟩
  · obtain ⟨f, hf, -, hparams, -, hcount⟩ := hdefined "f" ["b"] .python before after rfl
      (by simp [after, Action.Registers])
    exact ⟨f, hf, hparams, hcount.trans (by decide +kernel)⟩
  · obtain ⟨f, hf, hcalls⟩ := hkept "math.g" (.fresh 5 .python [] []) rfl
      (by simp [before, after, Action.Registers])
    exact ⟨f, hf, hcalls.callCount.trans (by decide +kernel)⟩
  · obtain ⟨outcome, hentry, hfailed⟩ := houtcome before _ after rfl
    obtain ⟨reason, rfl⟩ := hfailed.mpr ⟨"f", ["b"], rfl, _, rfl⟩
    exact ⟨reason, hentry⟩

end Snippet

end Rehearsal
