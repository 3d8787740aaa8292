import Assertions.Event.Captured
import Assertions.Event.Filter
import Assertions.Event.Line
import Assertions.Failure

/-!
What a run can see and change, and how a run ends. A thread has its own sink and its own capture;
everything else is shared by all threads. A computation returns, unwinds with a payload, or is
halted; only a halted one cannot be caught.
-/

namespace Assertions

inductive Sink where
  | memory (lines : List String)
  /-- Writes every line again, marked, while a memory of its own is routed. -/
  | forwarding (lines : List String)
  | counting (count : Nat)
  | panicking
  | stderr
  deriving DecidableEq, Repr

/-- What diagnostic lines are routed to: a sink, or the memory inside a forwarding sink. -/
inductive Target where
  | sink (id : String)
  | inside (id : String)
  deriving DecidableEq, Repr

/-- What is a thread's own: the target of its lines and the capture of its events. -/
structure Thread where
  route : Option Target
  scope : Option Nat
  deriving DecidableEq, Repr

/-- A thread starts with neither a route nor a capture. -/
def Thread.fresh : Thread := ⟨none, none⟩

/-- A capture for the events of one body; captures are told apart by their place, not by their
name. -/
structure Scope where
  name : String
  events : List Captured
  deriving DecidableEq, Repr

def Scope.clear (scope : Scope) : Scope :=
  { scope with events := [] }

/-- What receives the events of threads without a capture of their own. -/
inductive Subscriber where
  | capture
  | bare
  | lines (filter : Filter)
  | records (filter : Filter)
  deriving DecidableEq, Repr

/-- Where in a program events are logged: the component and the names of the fields. -/
abbrev Site := String × List String

/-- Which sites are listened to while no subscriber is installed. A site settles that at its first
event after a capture was made, and opening a capture opens all settled sites again. -/
structure Attention where
  openScopes : Nat
  /-- Whether no other capture was open when the last one was opened. -/
  alone : Bool
  settled : List (Site × Bool)
  deriving DecidableEq, Repr

/-- Whether the logging was initialised; an initialisation that unwound cannot be done again. -/
inductive Initialisation where
  | open
  | done
  | poisoned
  deriving DecidableEq, Repr

/-- What all threads share. -/
structure Store where
  sinks : List (String × Sink)
  scopes : List Scope
  attention : Attention
  errorStream : List String
  hook : List String
  environment : Option String
  initialisation : Initialisation
  captureMade : Bool
  subscriber : Option Subscriber
  captured : List Captured
  printed : List Printed
  deriving DecidableEq, Repr

structure State where
  thread : Thread
  store : Store
  deriving DecidableEq, Repr

/-- Why a run cannot go on: a step that cannot be read, or a panic while another one unwinds. -/
inductive Halt where
  | malformed (field : String)
  | aborted
  deriving DecidableEq, Repr

inductive Ending (α : Type) where
  | returned (value : α)
  | unwound (payload : Payload)
  | halted (cause : Halt)
  deriving DecidableEq, Repr

namespace Ending

variable {α β : Type}

def map (f : α → β) : Ending α → Ending β
  | .returned value => .returned (f value)
  | .unwound payload => .unwound payload
  | .halted cause => .halted cause

end Ending

/-- A computation on the state that may unwind; what it changed until then stays changed. -/
def Effect (α : Type) : Type :=
  State → Ending α × State

namespace Effect

variable {α β : Type}

def returning (value : α) : Effect α :=
  fun s => (.returned value, s)

def andThen (first : Effect α) (next : α → Effect β) : Effect β :=
  fun s =>
    match first s with
    | (.returned value, s') => next value s'
    | (.unwound payload, s') => (.unwound payload, s')
    | (.halted cause, s') => (.halted cause, s')

instance : Monad Effect where
  pure := returning
  bind := andThen

theorem pure_apply (value : α) (s : State) :
    (pure value : Effect α) s = (.returned value, s) := rfl

theorem bind_of_returned {first : Effect α} {next : α → Effect β} {s s' : State} {value : α}
    (h : first s = (.returned value, s')) : (first >>= next) s = next value s' := by
  simp only [bind, andThen, h]

theorem bind_of_unwound {first : Effect α} {next : α → Effect β} {s s' : State}
    {payload : Payload} (h : first s = (.unwound payload, s')) :
    (first >>= next) s = (.unwound payload, s') := by
  simp only [bind, andThen, h]

/-- Goes on as `payload` from here to the nearest catch. -/
def unwind (payload : Payload) : Effect α :=
  fun s => (.unwound payload, s)

def halt (cause : Halt) : Effect α :=
  fun s => (.halted cause, s)

def read (f : Store → α) : Effect α :=
  fun s => (.returned (f s.store), s)

def change (f : Store → Store) : Effect Unit :=
  fun s => (.returned (), { s with store := f s.store })

/-- Stands in the list of hook calls for a payload without a text. -/
def textlessHook : String := "<not text>"

/-- Unlike a plain unwind, a panic is first reported to the hook. -/
def panic (payload : Payload) : Effect α := do
  change fun store => { store with hook := store.hook ++ [payload.text?.getD textlessHook] }
  unwind payload

def panicWith (message : String) : Effect α :=
  panic (.text message)

/-- Evaluates to the ending of `body`, so that an unwind stops here. -/
def catching (body : Effect α) : Effect (Ending α) :=
  fun s =>
    match body s with
    | (.halted cause, s') => (.halted cause, s')
    | (ending, s') => (.returned ending, s')

end Effect

namespace State

def withRoute (s : State) (route : Option Target) : State :=
  { s with thread := { s.thread with route := route } }

/-- A process in which nothing has happened yet. -/
def fresh (environment : Option String) : State where
  thread := .fresh
  store :=
    { sinks := []
      scopes := []
      attention := ⟨0, true, []⟩
      errorStream := []
      hook := []
      environment := environment
      initialisation := .open
      captureMade := false
      subscriber := none
      captured := []
      printed := [] }

/-- A process whose capture was made before anything else and receives all events. -/
def capturing : State :=
  let s := fresh none
  { s with store := { s.store with captureMade := true, subscriber := some .capture } }

end State

end Assertions
