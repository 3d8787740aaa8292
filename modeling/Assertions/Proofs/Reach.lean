import Assertions.Proofs.Changes
import Assertions.Proofs.Runs

/-!
What a script can do to the store. The thread is as before at the end of every list of steps, and
the store comes from the first one by changes that its steps, its frames and its lines can make,
on whichever threads they are made. What each of these changes keeps is kept by the run.
-/

namespace Assertions

variable {α : Type} {can : Change → Prop}

/-- One store becomes the other by such changes, on any threads. -/
def Becomes (can : Change → Prop) : Store → Store → Prop :=
  Relation.ReflTransGen fun a b =>
    ∃ thread change, can change ∧ b = (Change.apply ⟨thread, a⟩ change).store

namespace Becomes

variable {a b : Store}

theorem single (s : State) (change : Change) (h : can change) :
    Becomes can s.store (change.apply s).store :=
  Relation.ReflTransGen.single ⟨s.thread, change, h, rfl⟩

/-- What every single change keeps is kept. -/
theorem invariant (becomes : Becomes can a b) (kept : Store → Prop)
    (step : ∀ s change, can change → kept s.store → kept (Change.apply s change).store)
    (start : kept a) : kept b := by
  induction becomes with
  | refl => exact start
  | tail _ last ih =>
      obtain ⟨thread, change, able, rfl⟩ := last
      exact step ⟨thread, _⟩ change able ih

end Becomes

/-- The thread is as before, and the store has become another one. -/
structure Reaches (can : Change → Prop) (s t : State) : Prop where
  thread : t.thread = s.thread
  store : Becomes can s.store t.store

instance : IsPreorder State (Reaches can) where
  refl _ := ⟨rfl, .refl⟩
  trans _ _ _ h k := ⟨k.thread.trans h.thread, h.store.trans k.store⟩

theorem Chain.reaches {s t : State} (chain : Chain can s t) : Reaches can s t :=
  chain.lift fun s change able => ⟨change.apply_thread s, .single s change able⟩

theorem Effect.Makes.reaches {e : Effect α} {own : Change → Prop} (makes : e.Makes own)
    (able : ∀ change, own change → can change) : e.Moves (Reaches can) :=
  fun s live => ((makes s live).mono able).reaches

theorem OnFailure.conclude_makes (onFailure : OnFailure) (error : CaseError)
    (hook : ∀ message, can (.hook message)) : (onFailure.conclude error).Makes can := by
  cases onFailure with
  | report => exact .pure _
  | unwrap | raise => exact (Effect.Does.panic _ hook).makes

/-- Around a body that has led along `R`, a case leads along `R` when its two events and a panic
about its error do. -/
theorem Frame.case_moves {R : State → State → Prop} [IsPreorder State R] {name : String}
    (starts : ∀ s : State, R s (s.afterEvent (.caseStart name)))
    (ends : ∀ (s : State) result, R s (s.afterEvent (.caseEnd name result)))
    (hook : ∀ (s : State) message, R s (s.hooked message)) (onFailure : OnFailure) :
    (Frame.case name onFailure).Moves R := by
  intro s ending t ended body left
  have closed (result : Except CaseError Unit) : R s (t.afterEvent (.caseEnd name result)) :=
    trans_of R (trans_of R (starts s) body) (ends t result)
  cases ending with
  | halted cause => exact ended.elim
  | returned steps => exact closed (.ok ())
  | unwound payload =>
      have concludes : (onFailure.conclude (.ofPayload payload)).Makes
          fun change => ∃ message, change = .hook message :=
        onFailure.conclude_makes _ fun message => ⟨message, rfl⟩
      refine trans_of R (closed (.error (.ofPayload payload))) ((concludes _ left).lift ?_)
      rintro u _ ⟨message, rfl⟩
      exact hook u message

theorem Frame.reaches_case {name : String} {onFailure : OnFailure}
    (able : ∀ change, (Frame.case name onFailure).Can change → can change) :
    (Frame.case name onFailure).Moves (Reaches can) := by
  refine Frame.case_moves (fun s => ?_) (fun s result => ?_) (fun s message => ?_) onFailure
  · exact (Chain.single (.log (.caseStart name)) (able _ ⟨_, _, rfl, .inl rfl⟩)).reaches
  · have closes := able (.log (.caseEnd name result)) ⟨_, _, rfl, .inr ⟨result, rfl⟩⟩
    exact (Chain.single (.log (.caseEnd name result)) closes).reaches
  · exact (Chain.single (.hook message) (able _ ⟨_, _, rfl⟩)).reaches

theorem Frame.reaches {frame : Frame} (able : ∀ change, frame.Can change → can change) :
    frame.Moves (Reaches can) := by
  refine Frame.Undone.moves ?_
  cases frame with
  | routed sink =>
      have makes : (Effect.mention sink).Makes can :=
        Effect.mention_makes sink fun kind => able (.make sink.id kind) ⟨sink.kind, rfl⟩
      refine ⟨makes.reaches fun _ h => h, fun s t body => ⟨?_, body.store⟩⟩
      exact congrArg (fun thread => { thread with route := s.thread.route }) body.thread
  | case name onFailure => exact reaches_case able
  | attempt => trivial
  | thread => exact fun s t body => ⟨rfl, body.store⟩
  | captured name =>
      refine fun s t body => ⟨?_, ?_⟩
      · exact congrArg (fun thread => { thread with scope := s.thread.scope }) body.thread
      · have opened := Becomes.single s (.openScope name) (able _ rfl)
        have closed := Becomes.single t .closeScope (able _ ⟨name, rfl⟩)
        exact (opened.trans body.store).trans closed

theorem Frame.enter_becomes {frame : Frame} {s entered : State}
    (entry : frame.enter s = (.returned (), entered)) :
    Becomes (fun _ => True) s.store entered.store := by
  cases frame with
  | attempt | thread =>
      cases entry
      exact .refl
  | case name onFailure =>
      cases entry
      exact .single s (.log (.caseStart name)) trivial
  | captured name =>
      cases entry
      exact .single s (.openScope name) trivial
  | routed sink =>
      have makes : (Effect.mention sink).Makes fun _ => True :=
        Effect.mention_makes sink fun _ => trivial
      have reaches := makes.reaches (fun _ h => h) s
      obtain ⟨t, mentioned, rfl⟩ := mention_of_enter entry
      rw [mentioned] at reaches
      exact (reaches trivial).store

theorem Script.effect_reaches {script : Script}
    (able : script.All (fun st => ∀ change, st.Can change → can change)
      fun fr => ∀ change, fr.Can change → can change)
    (line : ∀ change, change.OfLine → can change) (path : List Nat) :
    (script.effect path).Moves (Reaches can) :=
  script.effect_moves (fun st h => st.perform_makes.reaches h)
    (fun text => (Effect.Does.emit text).makes.reaches line) (fun _ h => Frame.reaches h) able path

theorem Effect.emit_becomes (line : String) : (Effect.emit line).Moves (Reaches fun _ => True) :=
  (Effect.Does.emit line).makes.reaches fun _ _ => trivial

theorem Script.run_becomes (script : Script) (path : List Nat) (index : Nat) (s : State)
    (live : (script.run path index s).ending.Live) :
    Reaches (fun _ => True) s (script.run path index s).state :=
  script.run_moves (fun st _ => st.perform_makes.reaches fun _ _ => trivial) Effect.emit_becomes
    (fun _ _ => Frame.reaches fun _ _ => trivial)
    (.of_forall (fun _ => trivial) (fun _ => trivial) script) path index s live

theorem Script.released_becomes (script : Script) (path : List Nat) (index : Nat) (s : State)
    (live : (script.run path index s).released.ending.Live) :
    Reaches (fun _ => True) s (script.run path index s).released.state :=
  Run.released_moves Effect.emit_becomes (script.run_becomes path index s) live

theorem Script.effect_becomes (script : Script) (path : List Nat) :
    (script.effect path).Moves (Reaches fun _ => True) :=
  script.released_becomes path 0

/-- Behind a frame the thread is as it was before it. -/
theorem Frame.left_reaches {frame : Frame} {body : Script} {path : List Nat} {s entered t : State}
    {ending : Ending Result} (entry : frame.enter s = (.returned (), entered))
    (left : frame.leave s.thread (body.effect path entered).1 (body.effect path entered).2 =
      (ending, t)) (live : ending.Live) : Reaches (fun _ => True) s t := by
  have moves : frame.Moves (Reaches fun _ => True) := Frame.reaches fun _ _ => trivial
  have around := moves s
  rw [entry] at around
  have left_live : (frame.leave s.thread (body.effect path entered).1
      (body.effect path entered).2).1.Live := by
    rw [left]
    exact live
  have inner := Frame.leave_live left_live
  have reached := around _ _ inner (body.effect_becomes path entered inner) left_live
  rwa [left] at reached

end Assertions
