import Assertions.Proofs.Emission
import Assertions.Script.Run
import Mathlib.Logic.Relation

/-!
The changes that steps are made of. A step can end in many ways, but each state on its way comes
from the one before by one of a few changes, and which of them a step can make is said here once.
A relation that contains these changes, and can be chained, contains every step.
-/

namespace Assertions

variable {α β : Type}

inductive Change where
  | keep (id line : String)
  | make (id : String) (kind : SinkKind)
  | clearSink (id : String)
  | errorLine (line : String)
  | hook (message : String)
  | log (event : Event)
  | initialise (subscriber : Subscriber)
  | poison
  | makeCapture
  | clearCaptured
  | clearScope (place : Nat)
  | openScope (name : String)
  | closeScope

/-- The sink is there afterwards; one that was there before stays as it was. -/
def Store.made (store : Store) (id : String) (kind : SinkKind) : Store :=
  if (store.sinks.lookup id).isSome then store else store.changeSink id fun _ => kind.sink

def Change.apply (s : State) : Change → State
  | .keep id line => s.kept id line
  | .make id kind => { s with store := s.store.made id kind }
  | .clearSink id => { s with store := s.store.changeSink id Sink.clear }
  | .errorLine line => s.onErrorStream line
  | .hook message => s.hooked message
  | .log event => s.afterEvent event
  | .initialise subscriber => { s with store := s.store.initialised subscriber }
  | .poison => { s with store := { s.store with initialisation := .poisoned } }
  | .makeCapture => { s with store := s.store.makeCapture }
  | .clearCaptured => { s with store := { s.store with captured := [] } }
  | .clearScope place =>
      { s with store := { s.store with scopes := s.store.scopes.modify place Scope.clear } }
  | .openScope name => { s with store := (s.openScope name).store }
  | .closeScope => { s with store := (s.closeScope none).store }

theorem Change.apply_thread (s : State) (change : Change) : (change.apply s).thread = s.thread := by
  cases change <;> rfl

def Change.OfLine : Change → Prop
  | .keep _ _ | .errorLine _ | .hook _ => True
  | _ => False

def Change.OfFailure : Change → Prop
  | .log event => ∃ m, event = .mismatch Component.assertion m
  | change => change.OfLine

/-- The changes that a step can make. -/
def Step.Can (st : Step) : Change → Prop
  | .keep _ _ | .errorLine _ | .hook _ | .make _ _ => True
  | .clearSink id => ∃ kind, st = .clearSink ⟨id, kind⟩
  | .log event =>
      st = .log event ∨
        ∃ label assertion m, st = .check label assertion ∧ event = .mismatch Component.assertion m
  | .initialise _ | .poison => ∃ profile, st = .init profile
  | .makeCapture => st = .initCapture ∨ ∃ question, st = .query none question
  | .clearCaptured => st = .query none .clear
  | .clearScope _ => ∃ name, st = .query (some name) .clear
  | .openScope _ | .closeScope => False

def Step.Passing : Step → Prop
  | .init _ => False
  | _ => True

/-- Steps that install no subscriber. -/
def Step.Local : Step → Prop
  | .init _ | .initCapture | .query none _ => False
  | _ => True

/-- What a case logs first. -/
def Event.caseStart (name : String) : Event :=
  .start Component.boundary OpName.runCase (some name)

/-- What a case with such a result logs last. -/
def Event.caseEnd (name : String) : Except CaseError Unit → Event
  | .ok () => .finish Component.boundary OpName.runCase Event.measured (some name)
  | .error error => .failure Component.boundary OpName.runCase error Event.measured (some name)

namespace Effect

variable {body : Effect α} {s t : State} {name : String}

/-- A case puts its two events around what its body does. -/
theorem runCase_of_returned {value : α}
    (returns : body (s.afterEvent (.caseStart name)) = (.returned value, t)) :
    runCase name body s = (.returned (.ok ()), t.afterEvent (.caseEnd name (.ok ()))) := by
  have opened : openCase name s = (.returned (), s.afterEvent (.caseStart name)) := rfl
  exact (bind_of_returned opened).trans (bind_of_returned (catching_of_returned returns))

theorem runCase_of_unwound {payload : Payload}
    (unwinds : body (s.afterEvent (.caseStart name)) = (.unwound payload, t)) :
    runCase name body s =
      (.returned (.error (.ofPayload payload)),
        t.afterEvent (.caseEnd name (.error (.ofPayload payload)))) := by
  have opened : openCase name s = (.returned (), s.afterEvent (.caseStart name)) := rfl
  exact (bind_of_returned opened).trans (bind_of_returned (catching_of_unwound unwinds))

end Effect

/-- The changes of the store that a frame can make, besides those of its body. -/
def Frame.Can (frame : Frame) : Change → Prop
  | .make id _ => ∃ kind, frame = .routed ⟨id, kind⟩
  | .hook _ => ∃ name onFailure, frame = .case name onFailure
  | .log event =>
      ∃ name onFailure, frame = .case name onFailure ∧
        (event = .caseStart name ∨ ∃ result, event = .caseEnd name result)
  | .openScope name => frame = .captured name
  | .closeScope => ∃ name, frame = .captured name
  | _ => False

/-- One change after the other, each of them of a kind. -/
def Chain (can : Change → Prop) : State → State → Prop :=
  Relation.ReflTransGen fun s t => ∃ change, can change ∧ t = Change.apply s change

namespace Chain

variable {can : Change → Prop} {s t : State}

instance : IsPreorder State (Chain can) where
  refl _ := .refl
  trans _ _ _ := .trans

theorem single (change : Change) (h : can change) : Chain can s (change.apply s) :=
  Relation.ReflTransGen.single ⟨change, h, rfl⟩

theorem mono {can' : Change → Prop} (h : ∀ change, can change → can' change)
    (chain : Chain can s t) : Chain can' s t := by
  refine Relation.ReflTransGen.mono ?_ _ _ chain
  rintro _ _ ⟨change, able, same⟩
  exact ⟨change, h change able, same⟩

theorem lift {R : State → State → Prop} [IsPreorder State R]
    (h : ∀ s change, can change → R s (change.apply s)) (chain : Chain can s t) : R s t := by
  induction chain with
  | refl => exact refl_of R s
  | tail _ step ih =>
      obtain ⟨change, able, rfl⟩ := step
      exact trans_of R ih (h _ change able)

end Chain

theorem Query.eq_clear {question : Query} (h : question.clears = true) : question = .clear := by
  cases question <;> first | rfl | cases h

/-- Whatever becomes of a line, one change is behind it. -/
theorem Sends.change {line : String} {s t : State} {ending : Ending Unit}
    (h : Sends line s ending t) : ∃ change : Change, change.OfLine ∧ t = change.apply s := by
  cases h with
  | unrouted _ | stderr _ _ => exact ⟨.errorLine _, trivial, rfl⟩
  | inside _ | memory _ _ | counting _ _ | forwarding _ _ => exact ⟨.keep _ _, trivial, rfl⟩
  | panicking _ _ => exact ⟨.hook _, trivial, rfl⟩

namespace Effect

variable {can : Change → Prop}

/-- Every run that is not halted is a chain of such changes. -/
abbrev Makes (can : Change → Prop) (e : Effect α) : Prop :=
  e.Moves (Chain can)

theorem Makes.mono {can' : Change → Prop} {e : Effect α} (makes : e.Makes can)
    (h : ∀ change, can change → can' change) : e.Makes can' :=
  fun s live => (makes s live).mono h

/-- Every run is a chain of such changes, and none is halted. -/
structure Does (can : Change → Prop) (e : Effect α) : Prop where
  lives : e.Lives
  makes : e.Makes can

namespace Does

theorem mono {can' : Change → Prop} {e : Effect α} (does : e.Does can)
    (h : ∀ change, can change → can' change) : e.Does can' :=
  ⟨does.lives, does.makes.mono h⟩

theorem pure (value : α) : (pure value : Effect α).Does can :=
  ⟨.pure value, .pure value⟩

theorem read (f : Store → α) : (Effect.read f).Does can :=
  ⟨.read f, .read f⟩

theorem unwind (payload : Payload) : (Effect.unwind payload : Effect α).Does can :=
  ⟨.unwind payload, .unwind payload⟩

theorem change {f : Store → Store}
    (single : ∀ s : State, Chain can s { s with store := f s.store }) :
    (Effect.change f).Does can :=
  ⟨.change f, .change single⟩

theorem bind {e : Effect α} {k : α → Effect β} (first : e.Does can) (next : ∀ a, (k a).Does can) :
    (e >>= k).Does can :=
  ⟨.bind first.lives fun a => (next a).lives, .bind first.makes fun a => (next a).makes⟩

theorem panic (payload : Payload) (h : ∀ message, can (.hook message)) :
    (Effect.panic payload : Effect α).Does can :=
  bind (change fun _ => .single (.hook _) (h _)) fun _ => unwind payload

theorem log {event : Event} (h : can (.log event)) : (Effect.log event).Does can :=
  ⟨fun _ => trivial, fun _ _ => .single (.log event) h⟩

theorem emit (line : String) : (Effect.emit line).Does Change.OfLine := by
  refine ⟨fun s => (sends_emit line s).live.1, fun s _ => ?_⟩
  obtain ⟨change, ofLine, same⟩ := (sends_emit line s).change
  rw [same]
  exact .single change ofLine

theorem deliver (id line : String) : (Effect.deliver (.sink id) line).Does Change.OfLine := by
  refine ⟨fun s => ?_, fun s _ => ?_⟩
  · rw [deliver_apply]
    cases s.store.sink id <;> trivial
  · rw [deliver_apply]
    cases s.store.sink id with
    | memory _ | counting _ | forwarding _ => exact .single (.keep _ _) trivial
    | panicking => exact .single (.hook _) trivial
    | stderr => exact .single (.errorLine _) trivial

theorem fail (m : Mismatch) : (Effect.fail m : Effect α).Does Change.OfFailure := by
  refine bind ((emit m.line).mono ?_) fun _ => bind (log ⟨m, rfl⟩) fun _ => unwind _
  intro change ofLine
  cases change <;> first | exact ofLine | exact ofLine.elim

theorem render (shown : Shown) : (Effect.render shown).Does Change.OfFailure := by
  cases shown with
  | text text => exact pure text
  | panics message => exact panic _ fun _ => trivial
  | fails label => exact fail _

theorem check (label : String) (assertion : Assertion) :
    (Effect.check label assertion).Does Change.OfFailure := by
  refine bind ?_ fun equal => ?_
  · cases assertion.comparison.verdict with
    | equal => exact pure true
    | different => exact pure false
    | panics message => exact panic _ fun _ => trivial
  · cases equal with
    | true => exact pure ()
    | false => exact bind (render _) fun _ => bind (render _) fun _ => fail _

theorem init (profile : Profile) : (Effect.init profile).Does (Step.init profile).Can := by
  refine bind (read _) fun initialisation => ?_
  cases initialisation with
  | done => exact pure ()
  | poisoned => exact panic _ fun _ => trivial
  | «open» =>
      refine bind (read _) fun environment => ?_
      cases profile.subscriber environment with
      | ok subscriber => exact change fun _ => .single (.initialise subscriber) ⟨profile, rfl⟩
      | error place =>
          exact bind (change fun _ => .single .poison ⟨profile, rfl⟩) fun _ =>
            panic _ fun _ => trivial

theorem answer (events : List Captured) (question : Query)
    (h : ∀ message, can (.hook message)) : (question.answer events).Does can := by
  cases question with
  | expect op event =>
      simp only [Query.answer]
      split
      · exact pure _
      · exact panic _ h
  | events | mismatchesForLabel _ | eventsForCase _ | count _ _ | clear => exact pure _

theorem askGlobal (question : Query) :
    question.askGlobal.Does (Step.query none question).Can := by
  have answers (events : List Captured) :
      (question.answer events).Does (Step.query none question).Can :=
    answer events question fun _ => trivial
  refine bind (change fun _ => .single .makeCapture (.inr ⟨question, rfl⟩)) fun _ =>
    bind (read _) fun events => ?_
  dsimp only
  split
  · rename_i clears
    refine bind (change fun _ => .single .clearCaptured ?_) fun _ => answers events
    rw [Query.eq_clear clears]
    rfl
  · exact answers events

end Does

/-- Nothing happens to a sink that was made before. -/
theorem mention_makes (sink : SinkRef) (h : ∀ kind, can (.make sink.id kind)) :
    (mention sink).Makes can := by
  intro s live
  rw [mention_apply] at live ⊢
  cases found : s.store.sinks.lookup sink.id with
  | some _ => exact .refl
  | none =>
      cases as : sink.kind with
      | none =>
          rw [found, as] at live
          exact live.elim
      | some kind =>
          have step : Chain can s _ := .single (.make sink.id kind) (h kind)
          rwa [Change.apply, Store.made, found] at step

end Effect

theorem Query.askScope_makes (name : String) (question : Query) :
    (question.askScope name).Makes (Step.query (some name) question).Can := by
  have answers (events : List Captured) :
      (question.answer events).Makes (Step.query (some name) question).Can :=
    (Effect.Does.answer events question fun _ => trivial).makes
  refine .bind (.read _) fun place? => ?_
  cases place? with
  | none => exact .halt _
  | some place =>
      refine .bind (.read _) fun events => ?_
      dsimp only
      split
      · rename_i clears
        refine .bind (.change fun _ => .single (.clearScope place) ?_) fun _ =>
          answers events
        rw [eq_clear clears]
        exact ⟨name, rfl⟩
      · exact answers events

theorem Step.perform_makes (st : Step) : st.perform.Makes st.Can := by
  have line (change : Change) (h : change.OfLine) : st.Can change := by
    cases change <;> trivial
  cases st with
  | malformed field => exact .halt _
  | check label assertion =>
      refine .bind ((Effect.Does.check label assertion).makes.mono ?_) fun _ => .pure _
      intro change ofFailure
      cases change with
      | log event =>
          obtain ⟨m, rfl⟩ := ofFailure
          exact .inr ⟨label, assertion, m, rfl, rfl⟩
      | keep _ _ | errorLine _ | hook _ => trivial
      | make _ _ | clearSink _ | initialise _ | poison | makeCapture | clearCaptured
      | clearScope _ | openScope _ | closeScope => exact ofFailure.elim
  | panic payload => exact (Effect.Does.panic payload fun _ => trivial).makes
  | resume payload => exact .unwind payload
  | emit text => exact .bind ((Effect.Does.emit text).makes.mono line) fun _ => .pure _
  | writeLine sink text =>
      exact .bind (Effect.mention_makes sink fun _ => trivial) fun _ =>
        .bind ((Effect.Does.deliver sink.id text).makes.mono line) fun _ => .pure _
  | readSink sink =>
      exact .bind (Effect.mention_makes sink fun _ => trivial) fun _ =>
        .bind (.read _) fun _ => .pure _
  | clearSink sink =>
      exact .bind (Effect.mention_makes sink fun _ => trivial) fun _ =>
        .bind (.change fun _ => .single (.clearSink sink.id) ⟨sink.kind, rfl⟩) fun _ =>
          .pure _
  | init profile => exact .bind (Effect.Does.init profile).makes fun _ => .pure _
  | initCapture =>
      exact .bind (.change fun _ => .single .makeCapture (.inl rfl)) fun _ =>
        .bind (.read _) fun _ => .pure _
  | log event => exact .bind (Effect.Does.log (.inl rfl)).makes fun _ => .pure _
  | query capture question =>
      cases capture with
      | none => exact (Effect.Does.askGlobal question).makes
      | some name => exact question.askScope_makes name

end Assertions
