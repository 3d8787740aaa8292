import Assertions.Proofs.Lexical
import Assertions.Proofs.Runs

/-!
The slot of a thread does what handing the target in does. A computation that is told its target
is played on the slot by reading the slot at its beginning; the effects of the library are exactly
the played ones, and the slot is as before at the end of each of them. The induction over scripts
carries this from single steps to bodies, whether they return or unwind.
-/

namespace Assertions

variable {α β : Type}

/-- What the slot holds has no influence, and stays. -/
def Effect.Slotless (e : Effect α) : Prop :=
  ∀ route, e.Agree fun s t => t = s.withRoute route

namespace Effect.Slotless

theorem change (f : Store → Store) : (Effect.change f).Slotless :=
  fun _ => Agree.change fun _ _ same => by rw [same]; rfl

theorem read (f : Store → α) : (Effect.read f).Slotless :=
  fun _ => Agree.read fun _ _ same => by rw [same]; rfl

theorem keepLine (id line : String) : (Effect.keepLine id line).Slotless :=
  change _

theorem errorLine (line : String) : (Effect.errorLine line).Slotless :=
  change _

theorem makeCapture : Effect.makeCapture.Slotless :=
  change _

theorem pure (value : α) : (pure value : Effect α).Slotless :=
  fun _ => Agree.pure value

theorem unwind (payload : Payload) : (Effect.unwind payload : Effect α).Slotless :=
  fun _ => Agree.unwind payload

theorem halt (cause : Halt) : (Effect.halt cause : Effect α).Slotless :=
  fun _ => Agree.halt cause

theorem bind {e : Effect α} {k : α → Effect β} (first : e.Slotless) (next : ∀ a, (k a).Slotless) :
    (e >>= k).Slotless :=
  fun route => Agree.bind (first route) fun a => next a route

theorem panic (payload : Payload) : (Effect.panic payload : Effect α).Slotless :=
  bind (change _) fun _ => unwind payload

theorem log (event : Event) : (Effect.log event).Slotless :=
  fun _ _ _ same => by rw [same]; exact ⟨rfl, rfl⟩

theorem judge (verdict : Verdict) : (Effect.judge verdict).Slotless :=
  fun route => Effect.judge_agree (fun payload => panic payload route) verdict

theorem mention (sink : SinkRef) : (Effect.mention sink).Slotless := by
  refine bind (read _) fun made => ?_
  split
  · exact pure ()
  · split
    · exact halt _
    · exact change _

theorem init (profile : Profile) : (Effect.init profile).Slotless := by
  refine bind (read _) fun initialisation => ?_
  cases initialisation with
  | done => exact pure ()
  | poisoned => exact panic _
  | «open» =>
      refine bind (read _) fun environment => ?_
      split
      · exact change _
      · exact bind (change _) fun _ => panic _

theorem answer (events : List Captured) (query : Query) : (query.answer events).Slotless :=
  fun route => Query.answer_agree (fun payload => panic payload route) events query

theorem askGlobal (query : Query) : query.askGlobal.Slotless := by
  refine bind (change _) fun _ => bind (read _) fun events => ?_
  dsimp only
  split
  · exact bind (change _) fun _ => answer events query
  · exact answer events query

theorem askScope (name : String) (query : Query) : (Query.askScope name query).Slotless := by
  refine bind (read _) fun place? => ?_
  cases place? with
  | none => exact halt _
  | some place =>
      refine bind (read _) fun events => ?_
      dsimp only
      split
      · exact bind (change _) fun _ => answer events query
      · exact answer events query

theorem initCapture : Step.initCapture.perform.Slotless :=
  bind makeCapture fun _ => bind (read _) fun _ => pure _

theorem conclude (frame : Frame) (ending : Ending Nat) : (frame.conclude ending).Slotless :=
  fun route =>
    Frame.conclude_agree (fun event => log event route) (fun payload => panic payload route) frame
      ending

end Effect.Slotless

namespace Lexical

/-- Plays a computation on the slot. -/
def played (l : Lexical α) : Effect α :=
  fun s =>
    let (ending, scene) := l s.thread.route s.scene
    (ending, scene.under s.thread.route)

theorem played_pure (value : α) : (pure value : Lexical α).played = pure value := rfl

theorem played_bind (l : Lexical α) (k : α → Lexical β) :
    (l >>= k).played = l.played >>= fun a => (k a).played := by
  funext s
  rw [Effect.bind_apply]
  change played (andThen l k) s = _
  simp only [played, andThen]
  generalize l s.thread.route s.scene = result
  obtain ⟨ending, scene⟩ := result
  cases ending <;> rfl

theorem played_catching (l : Lexical α) : l.catching.played = l.played.catching := by
  funext s
  unfold played catching Effect.catching
  dsimp only
  generalize l s.thread.route s.scene = result
  obtain ⟨ending, scene⟩ := result
  cases ending <;> rfl

theorem played_silent {e : Effect α} (h : e.Slotless) : (silent e).played = e := by
  funext s
  obtain ⟨same, left⟩ := h s.thread.route (s.withRoute none) s rfl
  exact Prod.ext same left.symm

theorem played_within (target : Target) (l : Lexical α) :
    (within target l).played = Effect.routed target l.played := rfl

theorem played_deliver (target : Target) (line : String) :
    (deliver target line).played = Effect.deliver target line := by
  cases target with
  | inside id => exact played_silent (.keepLine id line)
  | sink id =>
      simp only [deliver, Effect.deliver]
      rw [played_bind, played_silent (.read _)]
      congr 1
      funext sink
      cases sink with
      | memory lines | counting count => exact played_silent (.keepLine id line)
      | forwarding lines =>
          refine (played_within (.inside id) _).trans ?_
          exact congrArg (Effect.routed (.inside id)) (played_silent (.keepLine id _))
      | panicking => exact played_silent (.panic _)
      | stderr => exact played_silent (.errorLine line)

theorem played_emit (line : String) : (emit line).played = Effect.emit line := by
  funext s
  obtain ⟨⟨route, scope⟩, store⟩ := s
  cases route with
  | none => rfl
  | some target => exact congrFun (played_deliver target line) ⟨⟨some target, scope⟩, store⟩

theorem played_fail (m : Mismatch) : (fail m : Lexical α).played = Effect.fail m := by
  simp only [fail, Effect.fail, played_bind, played_emit, played_silent (.log _),
    played_silent (.unwind _)]

theorem played_render (shown : Shown) : (render shown).played = Effect.render shown := by
  cases shown with
  | text text => rfl
  | panics message => exact played_silent (.panic _)
  | fails label => exact played_fail _

theorem played_check (label : String) (assertion : Assertion) :
    (check label assertion).played = Effect.check label assertion := by
  simp only [check, compare, Effect.check, Effect.compare]
  rw [played_bind, played_silent (.judge _)]
  congr 1
  funext equal
  cases equal with
  | true => rfl
  | false => simp [played_bind, played_render, played_fail]

theorem played_perform (step : Step) : (perform step).played = step.perform := by
  cases step with
  | check label assertion => simp [perform, Step.perform, played_bind, played_check, played_pure]
  | emit line => simp [perform, Step.perform, played_bind, played_emit, played_pure]
  | writeLine sink line =>
      simp [perform, Step.perform, played_bind, played_silent (.mention _), played_deliver,
        played_pure]
  | malformed field => exact played_silent (.halt _)
  | panic payload => exact played_silent (.panic _)
  | resume payload => exact played_silent (.unwind _)
  | readSink sink =>
      exact played_silent (.bind (.mention _) fun _ => .bind (.read _) fun _ => .pure _)
  | clearSink sink =>
      exact played_silent (.bind (.mention _) fun _ => .bind (.change _) fun _ => .pure _)
  | init profile => exact played_silent (.bind (.init _) fun _ => .pure _)
  | initCapture => exact played_silent .initCapture
  | log event => exact played_silent (.bind (.log _) fun _ => .pure _)
  | query capture question =>
      cases capture with
      | none => exact played_silent (.askGlobal _)
      | some name => exact played_silent (.askScope _ _)

theorem released_returned (line : String) (lines : List String) (value : α) :
    released (line :: lines) (.returned value) =
      emit line >>= fun _ => released lines (.returned value) := rfl

theorem released_unwound (line : String) (lines : List String) (payload : Payload) :
    (released (line :: lines) (.unwound payload) : Lexical α) =
      catching (emit line) >>= fun
        | .returned _ => released lines (.unwound payload)
        | _ => silent (Effect.halt .aborted) := rfl

theorem played_released (lines : List String) (ending : Ending α) :
    (released lines ending).played = ending.released lines := by
  induction lines with
  | nil => rfl
  | cons line lines ih =>
      cases ending with
      | halted cause =>
          rw [Ending.released_halted]
          exact played_silent (.halt cause)
      | returned value =>
          rw [released_returned, Ending.released_returned, played_bind, played_emit, ih]
      | unwound payload =>
          rw [released_unwound, Ending.released_unwound, played_bind, played_catching, played_emit]
          congr 1
          funext outcome
          cases outcome with
          | returned _ => exact ih
          | unwound _ | halted _ => exact played_silent (.halt .aborted)

/-- A played computation on a scene and the target that is handed in. -/
theorem played_under (l : Lexical α) (route : Option Target) (scene : Scene) :
    l.played (scene.under route) = ((l route scene).1, (l route scene).2.under route) := rfl

theorem enter_under (frame : Frame) (route : Option Target) (scene : Scene) :
    frame.enter (scene.under route) =
      match enter frame route scene with
      | (.returned value, entered) => (.returned value, entered.under (inner route frame))
      | (.unwound payload, scene') => (.unwound payload, scene'.under route)
      | (.halted cause, scene') => (.halted cause, scene'.under route) := by
  cases frame with
  | routed sink =>
      have mention := congrFun (played_silent (.mention sink)) (scene.under route)
      rw [played_under] at mention
      rw [Frame.enter_routed, ← mention, enter]
      generalize silent (Effect.mention sink) route scene = result
      obtain ⟨ending, scene'⟩ := result
      cases ending <;> rfl
  | case name onFailure | captured name => rfl
  | attempt | thread => rfl

theorem leave_under (frame : Frame) (outer : Option Nat) (ending : Ending Nat)
    (route : Option Target) (scene : Scene) :
    frame.leave ⟨route, outer⟩ ending (scene.under (inner route frame)) =
      ((leave outer frame ending route scene).1,
        (leave outer frame ending route scene).2.under route) := by
  have concluded := played_silent (.conclude frame ending)
  have restored : frame.restore ⟨route, outer⟩ (scene.under (inner route frame)) =
      (restore outer scene frame).under route := by
    cases frame <;> rfl
  rw [Frame.leave, restored, ← concluded]
  rfl

theorem followed_under (ending : Ending Result) (trace : List Entry) (route : Option Target)
    (scene : Scene) {next : State → Run} {next' : Scene → Course}
    (h : ∀ scene, next (scene.under route) = (next' scene).under route) :
    Script.followed ending trace (scene.under route) next =
      (followed ending trace scene next').under route := by
  cases ending with
  | returned result =>
      simp only [Script.followed, followed, h]
      rfl
  | unwound payload | halted cause => rfl

theorem released_under (course : Course) (route : Option Target) :
    (course.under route).released = (course.released route).under route := by
  have guards := congrFun (played_released course.guards course.ending) (course.scene.under route)
  simp only [Run.released, Course.under, Course.released, ← guards, played_under]

theorem run_under (script : Script) (route : Option Target) (path : List Nat) (index : Nat)
    (scene : Scene) :
    script.run path index (scene.under route) =
      (run route path index script scene).under route := by
  -- Frames run their body under another route, so the induction is for every route.
  induction script generalizing route path index scene with
  | done => rfl
  | simple word step next ih =>
      have performed := congrFun (played_perform step) (scene.under route)
      simp only [Script.run, run, ← performed, played_under]
      exact followed_under _ _ route _ (ih route path (index + 1))
  | guarded word line next ih =>
      simp only [Script.run, run, ih]
      rfl
  | framed word frame body next ihBody ihNext =>
      simp only [Script.run, run, enter_under]
      generalize enter frame route scene = result
      obtain ⟨ending, entered⟩ := result
      cases ending with
      | returned value =>
          simp only [ihBody, released_under]
          have left := leave_under frame scene.scope
            ((run (inner route frame) (path ++ [index]) 0 body entered).released
              (inner route frame)).ending route
            ((run (inner route frame) (path ++ [index]) 0 body entered).released
              (inner route frame)).scene
          simp only [Course.under]
          rw [show (scene.under route).thread = ⟨route, scene.scope⟩ from rfl, left]
          exact followed_under _ _ route _ (ihNext route path (index + 1))
      | unwound payload | halted cause => rfl

end Lexical

/-- Running a script on the slot is running it with its targets handed in: it ends the same, every
step has the same result, everything holds the same, and the slot is as it was. -/
theorem run_is_lexical (script : Script) (s : State) :
    script.runFrom s = (Lexical.runFrom s.thread.route script s.scene).under s.thread.route := by
  rw [Script.runFrom, Lexical.runFrom, ← Lexical.released_under, ← Lexical.run_under]
  rfl

end Assertions
