import Assertions.Script.Run

/-!
What a script leaves behind: the steps it started, how it ended, and the contents of everything
that received something. Asking for the events at the end makes the process-wide capture.
-/

namespace Assertions

/-- How a script ended that was not halted. -/
inductive Outcome where
  | returned (steps : Nat)
  | unwound (error : CaseError)
  deriving DecidableEq, Repr

structure Report where
  trace : List Entry
  outcome : Outcome
  sinks : List (String × Sink)
  captures : List Scope
  hook : List String
  events : List Captured
  printed : List Printed
  errorStream : List String
  deriving DecidableEq, Repr

namespace Report

def ofStore (trace : List Entry) (outcome : Outcome) (store : Store) : Report :=
  { trace := trace
    outcome := outcome
    sinks := store.sinks
    captures := store.visible
    hook := store.hook
    events := store.makeCapture.captured
    printed := store.printed
    errorStream := store.errorStream }

end Report

/-- A halted script has no report. -/
def Script.report (script : Script) (s : State) : Except Halt Report :=
  let run := script.runFrom s
  match run.ending with
  | .returned steps => .ok (.ofStore run.trace (.returned steps) run.state.store)
  | .unwound payload => .ok (.ofStore run.trace (.unwound (.ofPayload payload)) run.state.store)
  | .halted cause => .error cause

end Assertions
