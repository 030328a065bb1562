import Rehearsal.Bridge.Call

/-!
# The value and the trace of a simulated call

A body is walked through with a value that its actions put in place of each other, and with the
lines so far. Nothing else is handed on from one action to the next, so all that an action does to a
walk can be said of it by itself: the value that it **yields** for the arguments, if any
(`Action.Kind.yield?`), and the line that it adds (`Action.Kind.traced`). What an action does not
yield it leaves as it was, a `return` that cannot be evaluated no less than a definition
(`Walk.step_eq`).

So the value of a call is what the last yielding action of the body yields, and the trace has a line
for each action. The lines are put together in the walk, but they are the source forms of the
actions all the same, but for the `return`s that yield (`FunctionRecord.simulate_value_and_trace`).
-/

namespace Rehearsal

open Action.Kind (listed)

/-! ## Single actions -/

namespace Action.Kind

/-- **What an action yields** when its function is called with arguments. -/
def yield? (args : List String) : Kind → Option Json
  | .assignment _ value => arithmetic? value args
  | .call target _ => if prints target then some (.string ("Output: " ++ listed args)) else none
  | .returning value => returned? value args
  | .definition _ _ => none
  | .unknown _ => none

/-- **The line of an action** in a trace: its source form, with the value in the place of the text
that a `return` yields it for. -/
def traced (args : List String) (k : Kind) : String :=
  match k, k.yield? args with
  | .returning _, some value => "return " ++ value.shown
  | k, _ => k.source

variable {args : List String} {value : String}

theorem traced_of_yield {v : Json} (h : (returning value).yield? args = some v) :
    (returning value).traced args = "return " ++ v.shown := by
  unfold traced
  rw [h]

/-- What yields nothing is shown as it is, and so is what is no `return`. -/
theorem traced_eq_source {k : Kind} (h : ∀ value v, k = .returning value → k.yield? args ≠ some v) :
    k.traced args = k.source := by
  unfold traced
  split
  · next v hyield => exact absurd hyield (h _ v rfl)
  · rfl

end Action.Kind

/-! ## Walks -/

namespace Walk

variable (args : List String)

/-- **What an action does to a walk**, whatever came before it. -/
theorem step_eq (w : Walk) (k : Action.Kind) :
    w.step args k = ⟨(k.yield? args).or w.value, w.trace.push (k.traced args)⟩ := by
  cases k with
  | returning value =>
    cases hreturned : returned? value args with
    | none =>
      rw [Action.Kind.traced_eq_source (by simp [Action.Kind.yield?, hreturned])]
      simp [step, hreturned, Action.Kind.yield?, tell, Action.Kind.source]
    | some v =>
      rw [Action.Kind.traced_of_yield hreturned]
      simp [step, hreturned, Action.Kind.yield?, tell, put]
  | assignment | call | definition | unknown => rfl

/-- **What a body does to a walk**: the last yielding action counts, and every action adds its
line. -/
theorem foldl_step (w : Walk) (body : List Action) :
    body.foldl (fun w a => w.step args a.kind) w
      = ⟨((body.filterMap fun a => a.kind.yield? args).getLast?).or w.value,
          w.trace ++ (body.map fun a => a.kind.traced args).toArray⟩ := by
  induction body generalizing w with
  | nil => simp
  | cons a body ih =>
    rw [List.foldl_cons, step_eq, ih]
    cases hyield : a.kind.yield? args with
    | none => simp [hyield]
    | some v =>
      cases hlast : (body.filterMap fun a => a.kind.yield? args).getLast? <;>
        simp [hyield, hlast, List.getLast?_cons]

end Walk

/-! ## Calls -/

namespace FunctionRecord

variable (now : Instant) (f : FunctionRecord) (args : List String)

/-- **The value of a call** is what the last yielding action yields. -/
theorem value_simulate :
    (f.simulate now args).value
      = ((f.body.filterMap fun a => a.kind.yield? args).getLast?).getD (f.placeholder now) := by
  unfold simulate Walk.through
  rw [Walk.foldl_step, Walk.start, Option.or_none]

/-- **The trace of a call** has a line for each action. -/
theorem trace_simulate :
    (f.simulate now args).trace = f.body.map fun a => a.kind.traced args := by
  unfold simulate Walk.through
  rw [Walk.foldl_step]
  simp [Walk.start]

/-- What yields nothing has no part in the value. -/
theorem filterMap_filter_isSome (body : List Action) :
    (body.filter fun a => (a.kind.yield? args).isSome).filterMap (fun a => a.kind.yield? args)
      = body.filterMap fun a => a.kind.yield? args := by
  rw [List.filterMap_filter]
  refine congrArg (List.filterMap · body) (funext fun a => ?_)
  cases a.kind.yield? args <;> rfl

/-- **The value and the trace of a simulated call.** An action yields a value for the arguments or
does not, and does so by itself: whatever value a walk has come to, it has the one yielded after
the action, and the one from before if there is none. The trace has a line for each action of the
body, in order. The line of a `return` that yields shows the value, and any other is the source form
of the action. The value of the call is the one that is yielded last, and where none is, it is a text
of the language and the instant. So a body in two pieces has the traces of the pieces, and bodies
with the same yielding actions have the same value, whatever actions that yield nothing stand
between them. -/
theorem simulate_value_and_trace (now : Instant) (f : FunctionRecord) (args : List String) :
    let r := f.simulate now args
    let yields := fun a : Action => a.kind.yield? args
    (∀ (w : Walk) (a : Action), (w.step args a.kind).value = (yields a).or w.value)
      ∧ r.trace.length = f.body.length
      ∧ (∀ before a after, f.body = before ++ a :: after →
          ∃ line, r.trace[before.length]? = some line
            ∧ (∀ text v, a.kind = .returning text → yields a = some v → line = "return " ++ v.shown)
            ∧ ((∀ text, a.kind ≠ .returning text) ∨ yields a = none → line = a.kind.source))
      ∧ (∀ before a after v, f.body = before ++ a :: after → yields a = some v →
          (∀ b ∈ after, yields b = none) → r.value = v)
      ∧ ((∀ a ∈ f.body, yields a = none) →
          r.value = .string ("result_" ++ f.lang.tag ++ "_" ++ toString now.toInt))
      ∧ (∀ first second, (simulate now { f with body := first ++ second } args).trace
          = (simulate now { f with body := first } args).trace
            ++ (simulate now { f with body := second } args).trace)
      ∧ ∀ body, body.filter (fun a => (yields a).isSome) = f.body.filter (fun a => (yields a).isSome) →
          (simulate now { f with body := body } args).value = r.value := by
  intro r yields
  have hvalue : r.value = ((f.body.filterMap yields).getLast?).getD (f.placeholder now) :=
    value_simulate now f args
  have htrace : r.trace = f.body.map fun a => a.kind.traced args := trace_simulate now f args
  refine ⟨fun w a => ?_, ?_, fun before a after hbody => ⟨a.kind.traced args, ?_, ?_, ?_⟩,
    fun before a after v hbody hyield hlast => ?_, fun hnone => ?_, fun first second => ?_,
    fun body hbody => ?_⟩
  · rw [Walk.step_eq]
  · rw [htrace, List.length_map]
  · rw [htrace, hbody]
    simp
  · intro text v hkind hyield
    replace hyield : a.kind.yield? args = some v := hyield
    rw [hkind] at hyield ⊢
    exact Action.Kind.traced_of_yield hyield
  · intro hsource
    refine Action.Kind.traced_eq_source fun text v hkind hyield => ?_
    rcases hsource with hother | hnone
    · exact hother text hkind
    · exact absurd (hnone.symm.trans hyield) (by simp)
  · have hafter : after.filterMap yields = [] := List.filterMap_eq_nil_iff.mpr hlast
    rw [hvalue, hbody, List.filterMap_append, List.filterMap_cons_some hyield, hafter,
      List.getLast?_concat, Option.getD_some]
  · rw [hvalue, List.filterMap_eq_nil_iff.mpr hnone]
    rfl
  · rw [trace_simulate, trace_simulate, trace_simulate, List.map_append]
  · have hyielded : body.filterMap yields = f.body.filterMap yields := by
      rw [← filterMap_filter_isSome args body, ← filterMap_filter_isSome args f.body]
      exact congrArg (List.filterMap yields) hbody
    rw [value_simulate, hvalue]
    exact congrArg (fun values => values.getLast?.getD (f.placeholder now)) hyielded

/-- A call prints and then gives back its arguments, and a `return` that cannot be evaluated comes
after that and before an unknown line. -/
theorem simulate_value_and_trace_kept :
    let f := FunctionRecord.fresh 5 .python []
      [⟨.call "print" ["x"], .javascript⟩, ⟨.returning "args", .python⟩,
        ⟨.returning "a - b", .python⟩, ⟨.unknown "???", .javascript⟩]
    (f.simulate 7 ["2", "3"]).value = .string "2, 3"
      ∧ (f.simulate 7 ["2", "3"]).trace[1]? = some "return 2, 3"
      ∧ (f.simulate 7 ["2", "3"]).trace[2]? = some "return a - b"
      ∧ (simulate 7 { f with body := f.body.take 2 } ["2", "3"]).value
        = (f.simulate 7 ["2", "3"]).value := by
  intro f
  have hyield : (Action.Kind.returning "args").yield? ["2", "3"] = some (.string "2, 3") := rfl
  have hnone : (Action.Kind.returning "a - b").yield? ["2", "3"] = none := rfl
  obtain ⟨-, -, hline, hvalue, -, -, hsame⟩ := simulate_value_and_trace 7 f ["2", "3"]
  refine ⟨hvalue [_] ⟨.returning "args", .python⟩ [_, _] _ rfl hyield ?_, ?_, ?_, ?_⟩
  · exact List.forall_mem_cons.mpr ⟨hnone, List.forall_mem_singleton.mpr rfl⟩
  · obtain ⟨line, hat, htold, -⟩ := hline [_] ⟨.returning "args", .python⟩ [_, _] rfl
    exact hat.trans (congrArg some (htold _ _ rfl hyield))
  · obtain ⟨line, hat, -, htold⟩ := hline [_, _] ⟨.returning "a - b", .python⟩ [_] rfl
    exact hat.trans (congrArg some (htold (Or.inr hnone)))
  · exact hsame (f.body.take 2) rfl

end FunctionRecord

end Rehearsal
