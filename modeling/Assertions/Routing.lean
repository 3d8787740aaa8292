import Assertions.World

/-!
Where diagnostic lines go. Every thread has one slot for its target: routing to a sink fills the
slot while a body runs and puts back what was there, however the body ends. A line goes to what
is in the slot at that moment, or to the standard error stream when the slot is empty.
-/

namespace Assertions

/-- What a sink can be made as. -/
inductive SinkKind where
  | memory
  | forwarding
  | counting
  | panicking
  | stderr
  deriving DecidableEq, Repr

def SinkKind.sink : SinkKind → Sink
  | .memory => .memory []
  | .forwarding => .forwarding []
  | .counting => .counting 0
  | .panicking => .panicking
  | .stderr => .stderr

/-- Puts in front of a forwarded line. -/
def forwardMark : String := "fwd: "

namespace Sink

/-- The sink after one more line in its memory or its count. -/
def keep (line : String) : Sink → Sink
  | .memory lines => .memory (lines ++ [line])
  | .forwarding lines => .forwarding (lines ++ [line])
  | .counting count => .counting (count + 1)
  | sink => sink

def clear : Sink → Sink
  | .memory _ => .memory []
  | .forwarding _ => .forwarding []
  | .counting _ => .counting 0
  | sink => sink

end Sink

namespace Store

/-- A sink that was never made is an empty memory. -/
def sink (store : Store) (id : String) : Sink :=
  (store.sinks.lookup id).getD (.memory [])

/-- Sinks stay in the order in which they were made. -/
def changeSink (store : Store) (id : String) (f : Sink → Sink) : Store :=
  { store with sinks := Table.put store.sinks id (f (store.sink id)) }

end Store

/-- A sink as a step of a script mentions it; an unknown kind is `none`. -/
structure SinkRef where
  id : String
  kind : Option SinkKind
  deriving DecidableEq, Repr

namespace Effect

variable {α : Type}

/-- Makes the sink at its first mention; the kind does not matter later. -/
def mention (ref : SinkRef) : Effect Unit := do
  if (← read fun store => store.sinks.lookup ref.id).isSome then return ()
  match ref.kind with
  | none => halt (.malformed "kind")
  | some kind => change fun store => store.changeSink ref.id fun _ => kind.sink

/-- Runs `body` with `target` in the slot, and puts the slot back however `body` ends. -/
def routed (target : Target) (body : Effect α) : Effect α :=
  fun s =>
    let (ending, s') := body (s.withRoute (some target))
    (ending, s'.withRoute s.thread.route)

def keepLine (id line : String) : Effect Unit :=
  change fun store => store.changeSink id (Sink.keep line)

def errorLine (line : String) : Effect Unit :=
  change fun store => { store with errorStream := store.errorStream ++ [line] }

/-- Writes to a target, whatever the slot holds. -/
def deliver : Target → String → Effect Unit
  | .inside id, line => keepLine id line
  | .sink id, line => do
      match ← read (·.sink id) with
      | .memory _ | .counting _ => keepLine id line
      -- The sink emits the marked line, which is kept by the memory that it has put in the slot.
      | .forwarding _ => routed (.inside id) (keepLine id (forwardMark ++ line))
      | .panicking => panicWith ("sink refused: " ++ line)
      | .stderr => errorLine line

/-- Writes to what the slot holds. -/
def emit (line : String) : Effect Unit :=
  fun s =>
    match s.thread.route with
    | none => errorLine line s
    | some target => deliver target line s

end Effect

end Assertions
