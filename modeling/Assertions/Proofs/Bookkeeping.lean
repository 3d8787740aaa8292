import Assertions.Proofs.Runs
import Assertions.Proofs.Tally

/-!
What steps and frames do to the accounts. A step of a script that writes lines only by failed
assertions books one line and one event for its failure, or one call of the hook for its panic, and
nothing when it returns; a frame books nothing around its body but the panic by which a case raises
its error again.
-/

namespace Assertions

def Ending.price {α : Type} (n : Nat) : Ending α → Nat
  | .unwound _ => n
  | _ => 0

/-- A check that unwinds does so by a panic when the equality that it asks panics, or when the first
side that is not shown does. -/
def Assertion.panics (assertion : Assertion) : Bool :=
  match assertion.comparison.verdict, assertion.expected, assertion.actual with
  | .panics _, _, _ => true
  | .different, .panics _, _ => true
  | .different, .text _, .panics _ => true
  | _, _, _ => false

namespace Step

/-- The plain panics of a step that is left by unwinding; a resumed payload is none. -/
def panics : Step → Nat
  | .check _ assertion => if assertion.panics then 1 else 0
  | .resume _ => 0
  | _ => 1

end Step

/-- The plain panics of a frame itself that is left by unwinding: a case raises its error again, and
other frames let the payload of their body pass. -/
def Frame.panics : Frame → Nat
  | .case _ _ => 1
  | .routed _ | .attempt | .thread | .captured _ => 0

def SinkRef.Plain (sink : SinkRef) : Prop :=
  ∀ kind, sink.kind = some kind → kind.sink.Plain

section Outcomes

variable {still : Prop} {s t : State}

end Outcomes

/-- A computation that writes no line and logs no failure; when it unwinds, that is by a panic. -/
def Effect.Silent {α : Type} (still : Prop) (e : Effect α) : Prop :=
  ∀ s, s.Ready → (e s).1.Live → Tallies still [] [] ((e s).1.price 1) s (e s).2

namespace Effect.Silent

variable {α β : Type} {still : Prop}

theorem pure (value : α) : (Pure.pure value : Effect α).Silent still :=
  fun _ ready _ => .refl ready

theorem read (f : Store → α) : (Effect.read f).Silent still :=
  fun _ ready _ => .refl ready

theorem halt (cause : Halt) : (Effect.halt cause : Effect α).Silent still :=
  fun _ _ live => live.elim

theorem panic (payload : Payload) : (Effect.panic payload : Effect α).Silent still :=
  fun _ ready _ => .hooked ready _

theorem log {event : Event} (other : (Captured.ofEvent event).isMismatch = false)
    (site : event.site ≠ Event.mismatchSite) : (Effect.log event).Silent still :=
  fun _ ready _ => .silent ready other site

theorem change {f : Store → Store} (sinks : ∀ a, (f a).sinks = a.sinks)
    (errorStream : ∀ a, (f a).errorStream = a.errorStream) (scopes : ∀ a, (f a).scopes = a.scopes)
    (captured : ∀ a, (f a).captured = a.captured)
    (subscriber : ∀ a x, a.subscriber = some x → (f a).subscriber = some x)
    (attention : ∀ a, (f a).attention = a.attention) (hook : ∀ a, (f a).hook = a.hook) :
    (Effect.change f).Silent still :=
  fun _ ready _ => .of_kept ready [] rfl (sinks _) (errorStream _) (scopes _) (captured _)
    (subscriber _) (attention _) ((hook _).trans (List.append_nil _).symm)

theorem bind {e : Effect α} {k : α → Effect β} (first : e.Silent still)
    (next : ∀ a, (k a).Silent still) : (e >>= k).Silent still := by
  intro s ready live
  have head := first s ready
  rw [bind_apply] at live ⊢
  generalize e s = result at head live ⊢
  obtain ⟨ending, t⟩ := result
  cases ending with
  | returned value =>
      have booked := head trivial
      have rest := booked.trans (next value t (booked.ready ready) live)
      change Tallies still [] [] (0 + _) s _ at rest
      rwa [Nat.zero_add] at rest
  | unwound payload => exact head trivial
  | halted cause => exact live.elim

theorem mention {sink : SinkRef} (plain : sink.Plain) : (Effect.mention sink).Silent still := by
  intro s ready live
  rw [mention_apply] at live ⊢
  cases found : s.store.sinks.lookup sink.id with
  | some _ => exact .refl ready
  | none =>
      cases as : sink.kind with
      | none =>
          rw [found, as] at live
          exact live.elim
      | some kind =>
          have booked : Tallies still [] [] 0 s _ := .made ready sink.id (plain kind as)
          rwa [Store.made, found] at booked

theorem makeCapture : Effect.makeCapture.Silent still := by
  refine change ?_ ?_ ?_ ?_ (fun _ _ => Store.subscriber_makeCapture) ?_ ?_
  all_goals
    intro a
    rw [Store.makeCapture]
    split <;> rfl

theorem init (profile : Profile) : (Effect.init profile).Silent still := by
  refine bind (read _) fun initialisation => ?_
  cases initialisation with
  | done => exact pure ()
  | poisoned => exact panic _
  | «open» =>
      refine bind (read _) fun environment => ?_
      cases profile.subscriber environment with
      | ok subscriber =>
          exact change (fun _ => rfl) (fun _ => rfl) (fun _ => rfl) (fun _ => rfl)
            (fun _ _ subscribed => Store.subscriber_install subscribed _) (fun _ => rfl)
            fun _ => rfl
      | error place =>
          exact bind
            (change (fun _ => rfl) (fun _ => rfl) (fun _ => rfl) (fun _ => rfl) (fun _ _ => id)
              (fun _ => rfl) fun _ => rfl)
            fun _ => panic _

theorem answer (events : List Captured) (question : Query) :
    (question.answer events).Silent still := by
  cases question with
  | expect op event =>
      simp only [Query.answer]
      split
      · exact pure _
      · exact panic _
  | events | mismatchesForLabel _ | eventsForCase _ | count _ _ | clear => exact pure _

theorem query {capture : Option String} {question : Query} (keeps : question ≠ .clear) :
    (Step.query capture question).perform.Silent still := by
  have clears : question.clears = false := by
    cases question <;> first | rfl | exact absurd rfl keeps
  cases capture with
  | none =>
      refine bind makeCapture fun _ => bind (read _) fun events => ?_
      rw [clears]
      exact answer events question
  | some name =>
      refine bind (read _) fun place? => ?_
      cases place? with
      | none => exact halt _
      | some place =>
          refine bind (read _) fun events => ?_
          rw [clears]
          exact answer events question

end Effect.Silent

namespace Frame

section Books

variable {still : Prop} {s entered : State}

end Books

end Frame

end Assertions
