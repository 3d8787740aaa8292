import Assertions.Proofs.Effects
import Assertions.Assertion

/-!
What becomes of a line. The target in the slot decides: the line is kept by one sink, or goes to
the standard error stream, or is refused by a panic. Nothing else changes, and a forwarding sink
has put the slot back when it returns.
-/

namespace Assertions

namespace Store

theorem lookup_changeSink (store : Store) (id other : String) (f : Sink → Sink) :
    (store.changeSink id f).sinks.lookup other =
      if other = id then some (f (store.sink id)) else store.sinks.lookup other :=
  Table.lookup_put _ _ _ _

theorem sink_changeSink (store : Store) (id : String) (f : Sink → Sink) :
    (store.changeSink id f).sink id = f (store.sink id) := by
  rw [sink, lookup_changeSink, if_pos rfl, Option.getD_some]

end Store

namespace State

def kept (s : State) (id line : String) : State :=
  { s with store := s.store.changeSink id (Sink.keep line) }

def onErrorStream (s : State) (line : String) : State :=
  { s with store := { s.store with errorStream := s.store.errorStream ++ [line] } }

def afterEvent (s : State) (event : Event) : State :=
  { s with store := s.logged event }

def hooked (s : State) (message : String) : State :=
  { s with store := { s.store with hook := s.store.hook ++ [message] } }

end State

/-- The sink holds this now, and nothing else has changed. -/
structure Puts (id : String) (sink : Sink) (s t : State) : Prop where
  here : t.store.sink id = sink
  others : ∀ other, other ≠ id → t.store.sinks.lookup other = s.store.sinks.lookup other
  rest : t = { s with store := { s.store with sinks := t.store.sinks } }

theorem State.puts_kept {s : State} {id line : String} {sink : Sink}
    (now : (s.store.sink id).keep line = sink) : Puts id sink s (s.kept id line) where
  here := (Store.sink_changeSink _ _ _).trans now
  others _ apart := (Store.lookup_changeSink _ _ _ _).trans (if_neg apart)
  rest := rfl

/-- How a line that is emitted ends up, by the target in the slot. -/
inductive Sends (line : String) (s : State) : Ending Unit → State → Prop
  | unrouted (route : s.thread.route = none) :
      Sends line s (.returned ()) (s.onErrorStream line)
  | inside {id} (route : s.thread.route = some (.inside id)) :
      Sends line s (.returned ()) (s.kept id line)
  | memory {id lines} (route : s.thread.route = some (.sink id))
      (kind : s.store.sink id = .memory lines)
      (puts : Puts id (.memory (lines ++ [line])) s (s.kept id line)) :
      Sends line s (.returned ()) (s.kept id line)
  | counting {id count} (route : s.thread.route = some (.sink id))
      (kind : s.store.sink id = .counting count)
      (puts : Puts id (.counting (count + 1)) s (s.kept id line)) :
      Sends line s (.returned ()) (s.kept id line)
  | forwarding {id lines} (route : s.thread.route = some (.sink id))
      (kind : s.store.sink id = .forwarding lines)
      (puts : Puts id (.forwarding (lines ++ ["fwd: " ++ line])) s (s.kept id ("fwd: " ++ line))) :
      Sends line s (.returned ()) (s.kept id ("fwd: " ++ line))
  | panicking {id} (route : s.thread.route = some (.sink id))
      (kind : s.store.sink id = .panicking) :
      Sends line s (.unwound (.text ("sink refused: " ++ line)))
        (s.hooked ("sink refused: " ++ line))
  | stderr {id} (route : s.thread.route = some (.sink id)) (kind : s.store.sink id = .stderr) :
      Sends line s (.returned ()) (s.onErrorStream line)

theorem Effect.deliver_apply (id line : String) (s : State) :
    Effect.deliver (.sink id) line s =
      match s.store.sink id with
      | .memory _ | .counting _ => (.returned (), s.kept id line)
      | .forwarding _ => (.returned (), s.kept id ("fwd: " ++ line))
      | .panicking =>
          (.unwound (.text ("sink refused: " ++ line)), s.hooked ("sink refused: " ++ line))
      | .stderr => (.returned (), s.onErrorStream line) := by
  have made : Effect.read (·.sink id) s = (.returned (s.store.sink id), s) := rfl
  refine (bind_of_returned made).trans ?_
  cases s.store.sink id <;> rfl

/-- A sink that was made before stays as it is. -/
theorem Effect.mention_apply (sink : SinkRef) (s : State) :
    Effect.mention sink s =
      match s.store.sinks.lookup sink.id, sink.kind with
      | some _, _ => (.returned (), s)
      | none, none => (.halted (.malformed "kind"), s)
      | none, some kind =>
          (.returned (), { s with store := s.store.changeSink sink.id fun _ => kind.sink }) := by
  have read : Effect.read (fun store => store.sinks.lookup sink.id) s =
    (.returned (s.store.sinks.lookup sink.id), s) := rfl
  refine (bind_of_returned read).trans ?_
  cases s.store.sinks.lookup sink.id with
  | some _ => rfl
  | none => cases sink.kind <;> rfl

theorem sends_emit (line : String) (s : State) :
    Sends line s (Effect.emit line s).1 (Effect.emit line s).2 := by
  rw [Effect.emit]
  cases route : s.thread.route with
  | none => exact .unrouted route
  | some target =>
      cases target with
      | inside id => exact .inside route
      | sink id =>
          dsimp only
          rw [Effect.deliver_apply]
          cases kind : s.store.sink id with
          | memory lines => exact .memory route kind (State.puts_kept (by rw [kind]; rfl))
          | forwarding lines => exact .forwarding route kind (State.puts_kept (by rw [kind]; rfl))
          | counting count => exact .counting route kind (State.puts_kept (by rw [kind]; rfl))
          | panicking => exact .panicking route kind
          | stderr => exact .stderr route kind

theorem Sends.emit_eq {line : String} {s s' : State} {ending : Ending Unit}
    (h : Sends line s ending s') : Effect.emit line s = (ending, s') := by
  rw [Effect.emit]
  cases h with
  | unrouted route | inside route => rw [route]; rfl
  | memory route kind | counting route kind | forwarding route kind | panicking route kind
  | stderr route kind =>
      rw [route]
      dsimp only
      rw [Effect.deliver_apply, kind]

/-- Emitting neither halts nor changes the thread. -/
theorem Sends.live {line : String} {s s' : State} {ending : Ending Unit}
    (h : Sends line s ending s') : ending.Live ∧ s'.thread = s.thread := by
  cases h <;> exact ⟨trivial, rfl⟩

end Assertions
