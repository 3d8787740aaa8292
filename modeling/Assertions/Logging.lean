import Assertions.World

/-!
Where events go. One subscriber receives the events of the whole process, and the first one that
is installed stays. The initialisation runs once, and the process-wide capture is made once; each
tries to install a subscriber, and neither minds when there is one already. A capture for one
body takes the events of its thread away from that subscriber. While there is none, events reach
such captures only from the sites in the program that are listened to. The initialisation unwinds
when the filter text of the environment would be cut inside a character.
-/

namespace Assertions

inductive Profile where
  | development
  | production
  | test
  deriving DecidableEq, Repr

namespace Profile

def name : Profile → String
  | .development => "Development"
  | .production => "Production"
  | .test => "Test"

/-- The filter that holds when the environment sets none. -/
def directive : Profile → String
  | .development => "comtest=debug"
  | .production => "comtest=info"
  | .test => "comtest=trace"

def ownFilter (profile : Profile) : Filter :=
  (Filter.read profile.directive).toOption.getD []

/-- The filter of the environment, when there is one that can be read. -/
def filter (profile : Profile) (environment : Option String) : Except Text.Cut Filter :=
  match environment.map Filter.read with
  | none | some (.error .unreadable) => .ok profile.ownFilter
  | some (.ok filter) => .ok filter
  | some (.error (.cut place)) => .error place

/-- Only a subscriber that prints has a filter. -/
def subscriber (profile : Profile) (environment : Option String) : Except Text.Cut Subscriber :=
  match profile with
  | .development => .lines <$> profile.filter environment
  | .production => .records <$> profile.filter environment
  | .test => .ok .bare

end Profile

namespace Store

/-- The first subscriber stays. -/
def install (store : Store) (subscriber : Subscriber) : Store :=
  { store with subscriber := store.subscriber.or (some subscriber) }

/-- Spends the one try, whether or not the subscriber is taken. -/
def initialised (store : Store) (subscriber : Subscriber) : Store :=
  { store.install subscriber with initialisation := .done }

/-- Spends its one try as the initialisation does. -/
def makeCapture (store : Store) : Store :=
  if store.captureMade then store
  else { store.install .capture with captureMade := true }

def record (scopes : List Scope) (place : Nat) (event : Captured) : List Scope :=
  scopes.modify place fun capture => { capture with events := capture.events ++ [event] }

def publish (store : Store) (event : Event) : Store :=
  match store.subscriber with
  | none | some .bare => store
  | some .capture => { store with captured := store.captured ++ [.ofEvent event] }
  | some (.lines filter) =>
      if filter.passes event then
        { store with printed := store.printed ++ [.line event.line] }
      else store
  | some (.records filter) =>
      if filter.passes event then
        { store with printed := store.printed ++ [event.record] }
      else store

/-- The place of the capture that was made last under a name. -/
def placeOf? (store : Store) (name : String) : Option Nat :=
  ((store.scopes.zipIdx.filter fun capture => capture.1.name == name).getLast?).map (·.2)

/-- The captures that a name still leads to. -/
def visible (store : Store) : List Scope :=
  (store.scopes.zipIdx.filter fun capture =>
    store.placeOf? capture.1.name == some capture.2).map (·.1)

end Store

namespace Attention

def opened (a : Attention) : Attention :=
  { openScopes := a.openScopes + 1
    alone := a.openScopes = 0
    settled := a.settled.map fun site => (site.1, true) }

def closed (a : Attention) : Attention :=
  { a with openScopes := a.openScopes - 1 }

/-- A site that is first reached on a thread without a capture, while only one capture is open,
is not listened to. -/
def hears (a : Attention) (thread : Thread) (site : Site) : Bool :=
  (a.settled.lookup site).getD (thread.scope.isSome || !a.alone)

def settle (a : Attention) (thread : Thread) (site : Site) : Attention :=
  if (a.settled.lookup site).isSome then a
  else { a with settled := a.settled ++ [(site, a.hears thread site)] }

end Attention

namespace State

def openScope (s : State) (name : String) : State where
  thread := { s.thread with scope := some s.store.scopes.length }
  store :=
    { s.store with
      scopes := s.store.scopes ++ [⟨name, []⟩]
      attention := s.store.attention.opened }

/-- The capture stays, with what it received; the thread has its earlier one again. -/
def closeScope (s : State) (earlier : Option Nat) : State where
  thread := { s.thread with scope := earlier }
  store := { s.store with attention := s.store.attention.closed }

/-- What receives an event that is listened to: the innermost capture of the thread, or else the
subscriber. -/
def receive (s : State) (event : Event) : Store :=
  match s.thread.scope with
  | some place => { s.store with scopes := Store.record s.store.scopes place (.ofEvent event) }
  | none => s.store.publish event

/-- With a subscriber every site is listened to; without one and before the first capture none
is. -/
def logged (s : State) (event : Event) : Store :=
  if s.store.subscriber.isSome then s.receive event
  else if s.store.scopes.isEmpty then s.store
  else
    let received := if s.store.attention.hears s.thread event.site then s.receive event else s.store
    { received with attention := s.store.attention.settle s.thread event.site }

end State

namespace Effect

variable {α : Type}

/-- What an initialisation after one that unwound panics with. -/
def poisonedMessage : String := "Once instance has previously been poisoned"

def init (profile : Profile) : Effect Unit := do
  match ← read (·.initialisation) with
  | .done => return ()
  | .poisoned => panic (.literal poisonedMessage)
  | .open =>
      match profile.subscriber (← read (·.environment)) with
      | .ok subscriber => change (·.initialised subscriber)
      | .error place => do
          change fun store => { store with initialisation := .poisoned }
          panicWith place.message

def makeCapture : Effect Unit :=
  change Store.makeCapture

def log (event : Event) : Effect Unit :=
  fun s => (.returned (), { s with store := s.logged event })

end Effect

end Assertions
