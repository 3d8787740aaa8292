import Assertions.Case
import Assertions.Script.Basic

/-!
Running a script. Steps run in order; a frame changes the state before its body and sees how the
body ended. The guards of a list of steps are kept until the list has ended and then write their
lines, the last one first, inside the frames around the list.
-/

namespace Assertions

namespace Query

def answer (events : List Captured) : Query → Effect Result
  | .events => return .events events
  | .mismatchesForLabel label => return .events (Captured.mismatchesForLabel label events)
  | .eventsForCase case => return .events (Captured.eventsForCase case events)
  | .count level? event? => return .count (Captured.count level? event? events)
  | .expect op event =>
      if Captured.hasEvent op event events then return .ok
      else Effect.panicWith (Captured.missing op event events)
  | .clear => return .ok

def clears : Query → Bool
  | .clear => true
  | _ => false

/-- Asking the process-wide capture makes it. -/
def askGlobal (query : Query) : Effect Result := do
  Effect.makeCapture
  let events ← Effect.read (·.captured)
  if query.clears then Effect.change fun store => { store with captured := [] }
  query.answer events

def askScope (name : String) (query : Query) : Effect Result := do
  match ← Effect.read (·.placeOf? name) with
  | none => Effect.halt (.malformed "capture")
  | some place =>
      let events ← Effect.read fun store => (store.scopes[place]?.map Scope.events).getD []
      if query.clears then
        Effect.change fun store =>
          { store with scopes := store.scopes.modify place Scope.clear }
      query.answer events

end Query

namespace Step

open Effect in
def perform : Step → Effect Result
  | .malformed field => halt (.malformed field)
  | .check label assertion => do
      Effect.check label assertion
      return .ok
  | .panic payload => Effect.panic payload
  | .resume payload => unwind payload
  | .emit line => do
      Effect.emit line
      return .ok
  | .writeLine sink line => do
      mention sink
      deliver (.sink sink.id) line
      return .ok
  | .readSink sink => do
      mention sink
      return .sink (← read (·.sink sink.id))
  | .clearSink sink => do
      mention sink
      change (·.changeSink sink.id Sink.clear)
      return .ok
  | .init profile => do
      Effect.init profile
      return .ok
  | .initCapture => do
      makeCapture
      return .count (← read (·.captured.length))
  | .log event => do
      Effect.log event
      return .ok
  | .query none question => question.askGlobal
  | .query (some name) question => question.askScope name

end Step

namespace OnFailure

/-- What a failed case is worth to the step around it. -/
def conclude (onFailure : OnFailure) (error : CaseError) : Effect Result :=
  match onFailure with
  | .report => return .failed error
  | .unwrap =>
      Effect.panicWith ("called `Result::unwrap()` on an `Err` value: " ++ error.debug)
  | .raise => Effect.panicWith error.message

end OnFailure

namespace Frame

def enter : Frame → Effect Unit
  | .routed sink => do
      Effect.mention sink
      fun s => (.returned (), s.withRoute (some (.sink sink.id)))
  | .case name _ => Effect.openCase name
  | .attempt => return ()
  | .thread => fun s => (.returned (), { s with thread := .fresh })
  | .captured name => fun s => (.returned (), s.openScope name)

/-- Puts back what `enter` changed in the thread `outer`. -/
def restore (outer : Thread) (s : State) : Frame → State
  | .routed _ => s.withRoute outer.route
  | .case _ _ => s
  | .attempt => s
  | .thread => { s with thread := outer }
  | .captured _ => s.closeScope outer.scope

/-- What the step evaluates to when its body ended so. -/
def conclude : Frame → Ending Nat → Effect Result
  | .routed _, ending | .captured _, ending => fun s => (ending.map .returned, s)
  | .case name onFailure, ending => do
      match ← Effect.closeCase name ending with
      | .ok () => return .ok
      | .error error => onFailure.conclude error
  | .attempt, .returned steps => return .returned steps
  | .attempt, .unwound payload => return .caught payload
  | .thread, .returned steps => return .returned steps
  | .thread, .unwound payload => return .joined (.ofPayload payload)
  | _, .halted cause => Effect.halt cause

def leave (outer : Thread) (frame : Frame) (ending : Ending Nat) : Effect Result :=
  fun s => frame.conclude ending (frame.restore outer s)

end Frame

/-- Writes the lines of guards. After a return, a panic of one of them is how the steps end, and
the guards behind it write nothing; while a payload unwinds, a panic cannot be caught. -/
def Ending.released {α : Type} : List String → Ending α → Effect α
  | [], ending => fun s => (ending, s)
  | _, .halted cause => Effect.halt cause
  | line :: lines, .returned value => do
      Effect.emit line
      released lines (.returned value)
  | line :: lines, .unwound payload => do
      match ← Effect.catching (Effect.emit line) with
      | .returned _ => released lines (.unwound payload)
      | _ => Effect.halt .aborted

/-- How a list of steps ended, which steps were started, the state that was left, and the lines of
the guards that are kept, the last one first. -/
structure Run where
  ending : Ending Nat
  trace : List Entry
  state : State
  guards : List String
  deriving DecidableEq, Repr

namespace Run

def released (run : Run) : Run :=
  let (ending, s) := run.ending.released run.guards run.state
  ⟨ending, run.trace, s, []⟩

end Run

namespace Script

def resultOf : Ending Result → Option Result
  | .returned result => some result
  | _ => none

/-- Goes on with `next` when the step before it returned. -/
def followed (ending : Ending Result) (trace : List Entry) (s : State) (next : State → Run) :
    Run :=
  match ending with
  | .returned _ =>
      let rest := next s
      { rest with trace := trace ++ rest.trace }
  | .unwound payload => ⟨.unwound payload, trace, s, []⟩
  | .halted cause => ⟨.halted cause, trace, s, []⟩

/-- `path` leads to the list of steps and `index` is the place of the first of them; the value of
a list that was run to its end is the number of its steps. The guards of the list are kept. -/
def run (path : List Nat) (index : Nat) : Script → State → Run
  | .done, s => ⟨.returned index, [], s, []⟩
  | .simple word step next, s =>
      let (ending, s') := step.perform s
      followed ending [⟨path ++ [index], word, resultOf ending⟩] s' (next.run path (index + 1))
  | .guarded word line next, s =>
      let rest := next.run path (index + 1) s
      { rest with
        trace := ⟨path ++ [index], word, some .ok⟩ :: rest.trace
        guards := rest.guards ++ [line] }
  | .framed word frame body next, s =>
      match frame.enter s with
      | (.returned _, entered) =>
          let inner := (body.run (path ++ [index]) 0 entered).released
          let (ending, s') := frame.leave s.thread inner.ending inner.state
          followed ending (⟨path ++ [index], word, resultOf ending⟩ :: inner.trace) s'
            (next.run path (index + 1))
      | (.unwound payload, s') =>
          ⟨.unwound payload, [⟨path ++ [index], word, none⟩], s', []⟩
      | (.halted cause, s') => ⟨.halted cause, [⟨path ++ [index], word, none⟩], s', []⟩

def runFrom (script : Script) (s : State) : Run :=
  (script.run [] 0 s).released

end Script

end Assertions
