import Rehearsal.Proofs.Agreement
import Rehearsal.Snippet

/-!
# Calls in two sessions

A call looks at the session twice: to see what its target leads to, and to call a function. So in
two sessions in which the target leads to the same, a call agrees if calling a function does
(`Snippet.agrees_call`), however the sessions differ apart from that.
-/

namespace Rehearsal.Snippet

open Routine (Agree)

variable {R : Session → Session → Prop} {now : Instant} {s s' : Session} {target : String}
  {args : List String}

theorem agree_callMethod (library method : String) (args : List String) :
    Agree R (callMethod library method args) (callMethod library method args) := by
  unfold callMethod
  split
  · exact (Agree.say _).bind fun _ => .pure _
  · exact (Agree.say _).bind fun _ => .pure _

theorem agree_callFunction {name : String}
    (hbridge : Agree R (Session.onBridge (Bridge.call now name args))
      (Session.onBridge (Bridge.call now name args))) :
    Agree R (callFunction now name args) (callFunction now name args) := by
  unfold callFunction
  refine hbridge.bind fun r => ?_
  cases r with
  | ok result => exact (Agree.sayAll _).bind fun _ => (Agree.say _).bind fun _ => .pure _
  | error e => exact (Agree.say _).bind fun _ => .pure _

/-- **A call agrees in two sessions** in which its target leads to the same. -/
theorem agrees_call (hs : R s s') (hresolve : Callee.resolve s' target = Callee.resolve s target)
    (hbridge : ∀ name, Agree R (Session.onBridge (Bridge.call now name args))
      (Session.onBridge (Bridge.call now name args))) :
    (call now target args s).Agrees R (call now target args s') := by
  unfold call
  rw [Routine.get_bind_apply, Routine.get_bind_apply, hresolve]
  cases Callee.resolve s target with
  | method library method => exact agree_callMethod library method args s s' hs
  | function name => exact agree_callFunction (hbridge name) s s' hs
  | print => exact ((Agree.say _).bind fun _ => .pure _) s s' hs
  | nothing => exact ((Agree.say _).bind fun _ => .pure _) s s' hs

end Rehearsal.Snippet
