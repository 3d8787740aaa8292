import Assertions.Assertion

/-!
Scripts: sequences of steps that use everything the library offers. A step is a simple one,
or a frame around a body of further steps, or a guard, whose line is written when the list of
steps that it stands in is left, by return or by unwinding.
-/

namespace Assertions

inductive Query where
  | events
  | mismatchesForLabel (label : String)
  | eventsForCase (case : String)
  | count (level event : Option String)
  | expect (op event : String)
  | clear
  deriving DecidableEq, Repr

inductive Step where
  /-- A step that cannot be read, because of one of its fields. -/
  | malformed (field : String)
  | check (label : String) (assertion : Assertion)
  | panic (payload : Payload)
  | resume (payload : Payload)
  | emit (line : String)
  | writeLine (sink : SinkRef) (line : String)
  | readSink (sink : SinkRef)
  | clearSink (sink : SinkRef)
  | init (profile : Profile)
  | initCapture
  | log (event : Event)
  /-- Asks a named capture, or else the process-wide one. -/
  | query (capture : Option String) (query : Query)
  deriving DecidableEq, Repr

/-- What becomes of a failed case: its error is the result of the step, or it is raised again as
a panic. -/
inductive OnFailure where
  | report
  | unwrap
  | raise
  deriving DecidableEq, Repr

inductive Frame where
  | routed (sink : SinkRef)
  | case (name : String) (onFailure : OnFailure)
  | attempt
  | thread
  | captured (name : String)
  deriving DecidableEq, Repr

/-- `word` is what the script calls a step; only the trace shows it. -/
inductive Script where
  | done
  | simple (word : String) (step : Step) (next : Script)
  | guarded (word line : String) (next : Script)
  | framed (word : String) (frame : Frame) (body next : Script)
  deriving DecidableEq, Inhabited, Repr

inductive Result where
  | ok
  | count (n : Nat)
  | returned (steps : Nat)
  | failed (error : CaseError)
  | caught (payload : Payload)
  | joined (error : CaseError)
  | sink (sink : Sink)
  | events (events : List Captured)
  deriving DecidableEq, Repr

/-- A step that was started. It has no result when it was left by unwinding. -/
structure Entry where
  path : List Nat
  word : String
  result : Option Result
  deriving DecidableEq, Repr

end Assertions
