import Assertions.Proofs.Emission
import Assertions.Script.Run

/-!
Inductions over scripts, done once. A relation between the first and the last state of a run
needs to be shown of single steps, of the line of one guard, and of a frame around a body that
has moved along it; two runs of one script agree when single steps, lines and frames do. What a
run is halted in is left out of the first kind of induction. However a list of steps ends, its
thread is as it was, so a frame that is left in two runs is left by the threads that entered it.
-/

namespace Assertions

variable {α : Type}

namespace Ending

theorem released_halted (line : String) (lines : List String) (cause : Halt) :
    (released (line :: lines) (.halted cause) : Effect α) = Effect.halt cause := rfl

theorem released_returned (line : String) (lines : List String) (value : α) :
    released (line :: lines) (.returned value) =
      Effect.emit line >>= fun _ => released lines (.returned value) := rfl

theorem released_unwound (line : String) (lines : List String) (payload : Payload) :
    (released (line :: lines) (.unwound payload) : Effect α) =
      Effect.catching (Effect.emit line) >>= fun
        | .returned _ => released lines (.unwound payload)
        | _ => Effect.halt .aborted := rfl

end Ending

/-- A list of steps with its guards, as one computation. -/
def Script.effect (path : List Nat) (script : Script) : Effect Nat :=
  fun s =>
    let run := (script.run path 0 s).released
    (run.ending, run.state)

theorem Frame.enter_routed (sink : SinkRef) (s : State) :
    (Frame.routed sink).enter s =
      match Effect.mention sink s with
      | (.returned _, s') => (.returned (), s'.withRoute (some (.sink sink.id)))
      | (.unwound payload, s') => (.unwound payload, s')
      | (.halted cause, s') => (.halted cause, s') := by
  change Effect.andThen (Effect.mention sink) _ s = _
  simp only [Effect.andThen]
  generalize Effect.mention sink s = result
  obtain ⟨ending, s'⟩ := result
  cases ending <;> rfl

/-- A route is entered behind the first mention of its sink. -/
theorem Frame.mention_of_enter {sink : SinkRef} {s entered : State}
    (entry : (Frame.routed sink).enter s = (.returned (), entered)) :
    ∃ t, Effect.mention sink s = (.returned (), t) ∧
      entered = t.withRoute (some (.sink sink.id)) := by
  rw [enter_routed] at entry
  cases mentioned : Effect.mention sink s with
  | mk ending t =>
      rw [mentioned] at entry
      cases ending with
      | unwound _ | halted _ => cases entry
      | returned _ =>
          cases entry
          exact ⟨t, rfl, rfl⟩

theorem Effect.mention_thread (sink : SinkRef) (s : State) :
    (Effect.mention sink s).2.thread = s.thread := by
  rw [Effect.mention_apply]
  split <;> rfl

/-- Entering a frame does not raise anything. -/
theorem Frame.enter_ne_unwound (frame : Frame) (s t : State) (payload : Payload) :
    frame.enter s ≠ (.unwound payload, t) := by
  cases frame with
  | routed sink =>
      rw [enter_routed, Effect.mention_apply]
      cases s.store.sinks.lookup sink.id with
      | some _ => nofun
      | none => cases sink.kind <;> nofun
  | case _ _ | attempt | thread | captured _ => nofun

/-- A frame is only halted before it does anything. -/
theorem Frame.enter_thread_of_halted {frame : Frame} {s t : State} {cause : Halt}
    (entry : frame.enter s = (.halted cause, t)) : t.thread = s.thread := by
  cases frame with
  | routed sink =>
      have kept := Effect.mention_thread sink s
      rw [enter_routed] at entry
      generalize Effect.mention sink s = result at entry kept
      obtain ⟨ending, s'⟩ := result
      cases ending with
      | returned _ | unwound _ => cases entry
      | halted cause =>
          cases entry
          exact kept
  | case _ _ | attempt | thread | captured _ => cases entry

namespace Script

/-- Every step and every frame, at any depth, is of a kind. -/
def All (step : Step → Prop) (frame : Frame → Prop) : Script → Prop
  | .done => True
  | .simple _ st next => step st ∧ next.All step frame
  | .guarded _ _ next => next.All step frame
  | .framed _ fr body next => frame fr ∧ body.All step frame ∧ next.All step frame

theorem All.mono {step step' : Step → Prop} {frame frame' : Frame → Prop}
    (steps : ∀ st, step st → step' st) (frames : ∀ fr, frame fr → frame' fr) {script : Script}
    (all : script.All step frame) : script.All step' frame' := by
  induction script with
  | done => trivial
  | simple word st next ih => exact ⟨steps st all.1, ih all.2⟩
  | guarded word line next ih => exact ih all
  | framed word fr body next ihBody ihNext =>
      exact ⟨frames fr all.1, ihBody all.2.1, ihNext all.2.2⟩

theorem All.of_forall {step : Step → Prop} {frame : Frame → Prop} (steps : ∀ st, step st)
    (frames : ∀ fr, frame fr) (script : Script) : script.All step frame := by
  induction script with
  | done => trivial
  | simple word st next ih => exact ⟨steps st, ih⟩
  | guarded word line next ih => exact ih
  | framed word fr body next ihBody ihNext => exact ⟨frames fr, ihBody, ihNext⟩

theorem All.and {step step' : Step → Prop} {frame frame' : Frame → Prop} {script : Script}
    (all : script.All step frame) (all' : script.All step' frame') :
    script.All (fun st => step st ∧ step' st) (fun fr => frame fr ∧ frame' fr) := by
  induction script with
  | done => trivial
  | simple word st next ih => exact ⟨⟨all.1, all'.1⟩, ih all.2 all'.2⟩
  | guarded word line next ih => exact ih all all'
  | framed word fr body next ihBody ihNext =>
      exact ⟨⟨all.1, all'.1⟩, ihBody all.2.1 all'.2.1, ihNext all.2.2 all'.2.2⟩

/-- Whenever the run performs a step, `P` holds of the step and of the state before it. -/
def Meets (P : Step → State → Prop) (path : List Nat) (index : Nat) : Script → State → Prop
  | .done, _ => True
  | .simple _ st next, s =>
      P st s ∧ ∀ result t, st.perform s = (.returned result, t) → next.Meets P path (index + 1) t
  | .guarded _ _ next, s => next.Meets P path (index + 1) s
  | .framed _ frame body next, s =>
      ∀ entered, frame.enter s = (.returned (), entered) →
        body.Meets P (path ++ [index]) 0 entered ∧
        ∀ result t,
          frame.leave s.thread (body.effect (path ++ [index]) entered).1
              (body.effect (path ++ [index]) entered).2 = (.returned result, t) →
            next.Meets P path (index + 1) t

theorem Meets.mono {P Q : Step → State → Prop} (h : ∀ st s, P st s → Q st s) {script : Script}
    {path : List Nat} {index : Nat} {s : State} (meets : script.Meets P path index s) :
    script.Meets Q path index s := by
  induction script generalizing path index s with
  | done => trivial
  | simple word st next ih =>
      exact ⟨h st s meets.1, fun result t performed => ih (meets.2 result t performed)⟩
  | guarded word line next ih => exact ih meets
  | framed word frame body next ihBody ihNext =>
      intro entered entry
      obtain ⟨inside, behind⟩ := meets entered entry
      exact ⟨ihBody inside, fun result t left => ihNext (behind result t left)⟩

theorem Meets.of_all {P : Step → State → Prop} {step : Step → Prop} {frame : Frame → Prop}
    (h : ∀ st s, step st → P st s) {script : Script} (all : script.All step frame)
    (path : List Nat) (index : Nat) (s : State) : script.Meets P path index s := by
  induction script generalizing path index s with
  | done => trivial
  | simple word st next ih => exact ⟨h st s all.1, fun _ t _ => ih all.2 path (index + 1) t⟩
  | guarded word line next ih => exact ih all path (index + 1) s
  | framed word frame body next ihBody ihNext =>
      intro entered _
      exact ⟨ihBody all.2.1 (path ++ [index]) 0 entered,
        fun _ t _ => ihNext all.2.2 path (index + 1) t⟩

theorem run_simple {word : String} {st : Step} {next : Script} {path : List Nat} {index : Nat}
    {s t : State} {ending : Ending Result} (performed : st.perform s = (ending, t)) :
    (simple word st next).run path index s =
      followed ending [⟨path ++ [index], word, resultOf ending⟩] t (next.run path (index + 1)) := by
  rw [run, performed]

theorem run_framed {word : String} {frame : Frame} {body next : Script} {path : List Nat}
    {index : Nat} {s entered t : State} {ending : Ending Result}
    (entry : frame.enter s = (.returned (), entered))
    (left : frame.leave s.thread (body.effect (path ++ [index]) entered).1
      (body.effect (path ++ [index]) entered).2 = (ending, t)) :
    (framed word frame body next).run path index s =
      followed ending
        (⟨path ++ [index], word, resultOf ending⟩ ::
          (body.run (path ++ [index]) 0 entered).released.trace)
        t (next.run path (index + 1)) := by
  rw [run, entry]
  dsimp only [effect] at left ⊢
  rw [left]

end Script

section Moves

variable {R : State → State → Prop}

/-- A frame leads along `R` when its body did, and so does a frame that is not entered. -/
def Frame.Moves (R : State → State → Prop) (frame : Frame) : Prop :=
  ∀ s,
    match frame.enter s with
    | (.returned _, entered) =>
        ∀ (ending : Ending Nat) (t : State), ending.Live → R entered t →
          (frame.leave s.thread ending t).1.Live → R s (frame.leave s.thread ending t).2
    | (ending, s') => ending.Live → R s s'

theorem Frame.leave_live {frame : Frame} {outer : Thread} {ending : Ending Nat} {s : State}
    (live : (frame.leave outer ending s).1.Live) : ending.Live := by
  cases ending with
  | returned _ | unwound _ => trivial
  | halted cause => cases frame <;> exact live

theorem Ending.live_of_released {lines : List String} {ending : Ending α} {s : State}
    (live : (ending.released lines s).1.Live) : ending.Live := by
  cases ending with
  | returned _ | unwound _ => trivial
  | halted cause => cases lines <;> exact live

/-- Unless the run is halted, the frame was entered and left, and its body was not halted. -/
theorem Script.framed_of_live {word : String} {frame : Frame} {body next : Script}
    {path : List Nat} {index : Nat} {s : State}
    (live : ((framed word frame body next).run path index s).ending.Live) :
    ∃ entered ending t, frame.enter s = (.returned (), entered) ∧
      frame.leave s.thread (body.effect (path ++ [index]) entered).1
        (body.effect (path ++ [index]) entered).2 = (ending, t) ∧
      (body.effect (path ++ [index]) entered).1.Live ∧ ending.Live := by
  cases entry : frame.enter s with
  | mk entering entered =>
      cases entering with
      | unwound payload => exact absurd entry (frame.enter_ne_unwound s entered payload)
      | halted cause =>
          rw [run, entry] at live
          exact live.elim
      | returned _ =>
          cases left : frame.leave s.thread (body.effect (path ++ [index]) entered).1
              (body.effect (path ++ [index]) entered).2 with
          | mk ending t =>
              rw [run_framed entry left] at live
              have ended : ending.Live := by
                cases ending with
                | returned _ | unwound _ => trivial
                | halted cause => exact live
              have left_live : (frame.leave s.thread (body.effect (path ++ [index]) entered).1
                  (body.effect (path ++ [index]) entered).2).1.Live := by
                rw [left]
                exact ended
              exact ⟨entered, ending, t, rfl, left, Frame.leave_live left_live, ended⟩

variable [IsPreorder State R]

/-- What a frame does around a body that has moved along `R` can be undone along `R`. -/
def Frame.Undone (R : State → State → Prop) : Frame → Prop
  | .routed sink =>
      (Effect.mention sink).Moves R ∧
        ∀ s t, R (s.withRoute (some (.sink sink.id))) t → R s (t.withRoute s.thread.route)
  | .case name onFailure => (Frame.case name onFailure).Moves R
  | .attempt => True
  | .thread => ∀ s t, R { s with thread := .fresh } t → R s { t with thread := s.thread }
  | .captured name => ∀ s t, R (s.openScope name) t → R s (t.closeScope s.thread.scope)

/-- Only the frame of a case does more than change the thread for its body. -/
theorem Frame.Undone.moves {frame : Frame} (undone : frame.Undone R) : frame.Moves R := by
  cases frame with
  | case name onFailure => exact undone
  | routed sink =>
      intro s
      have made := undone.1 s
      have kept := Effect.mention_thread sink s
      rw [enter_routed]
      generalize Effect.mention sink s = result at made kept ⊢
      obtain ⟨ending, s'⟩ := result
      cases ending with
      | returned _ =>
          intro ending t _ body _
          have left := undone.2 s' t body
          rw [kept] at left
          exact trans_of R (made trivial) left
      | unwound payload => exact made
      | halted cause => exact made
  | attempt =>
      intro s ending t ended body _
      cases ending with
      | halted cause => exact ended.elim
      | returned _ | unwound _ => exact body
  | thread =>
      intro s ending t ended body _
      cases ending with
      | halted cause => exact ended.elim
      | returned _ | unwound _ => exact undone s t body
  | captured name =>
      intro s ending t _ body _
      exact undone s t body

theorem Ending.released_moves (line : ∀ text, (Effect.emit text).Moves R) (lines : List String)
    (ending : Ending α) : (ending.released lines).Moves R := by
  induction lines with
  | nil => exact fun s _ => refl_of R s
  | cons text lines ih =>
      cases ending with
      | halted cause => exact .halt cause
      | returned value => exact .bind (line text) fun _ => ih
      | unwound payload =>
          rw [released_unwound]
          refine .bind (.catching (line text)) fun outcome => ?_
          cases outcome with
          | returned _ => exact ih
          | unwound _ | halted _ => exact .halt .aborted

theorem Script.followed_moves {ending : Ending Result} {trace : List Entry} {s s' : State}
    {next : State → Run} (step : ending.Live → R s s')
    (rest : (next s').ending.Live → R s' (next s').state)
    (live : (followed ending trace s' next).ending.Live) :
    R s (followed ending trace s' next).state := by
  cases ending with
  | returned result => exact trans_of R (step trivial) (rest live)
  | unwound payload => exact step trivial
  | halted cause => exact live.elim

theorem Run.released_moves (line : ∀ text, (Effect.emit text).Moves R) {run : Run} {s : State}
    (h : run.ending.Live → R s run.state) (live : run.released.ending.Live) :
    R s run.released.state :=
  trans_of R (h (Ending.live_of_released live))
    (Ending.released_moves line run.guards run.ending run.state live)

theorem Script.run_moves {step : Step → Prop} {frame : Frame → Prop}
    (steps : ∀ st, step st → st.perform.Moves R) (line : ∀ text, (Effect.emit text).Moves R)
    (frames : ∀ fr, frame fr → fr.Moves R) (script : Script) (all : script.All step frame)
    (path : List Nat) (index : Nat) (s : State) (live : (script.run path index s).ending.Live) :
    R s (script.run path index s).state := by
  induction script generalizing path index s with
  | done => exact refl_of R s
  | simple word st next ih =>
      exact followed_moves (steps st all.1 s) (ih all.2 path (index + 1) _) live
  | guarded word text next ih => exact ih all path (index + 1) s live
  | framed word fr body next ihBody ihNext =>
      have moves := frames fr all.1 s
      rw [run] at live ⊢
      cases entry : fr.enter s with
      | mk ending entered =>
          simp only [entry] at moves live ⊢
          cases ending with
          | returned _ =>
              refine followed_moves ?_ (ihNext all.2.2 path (index + 1) _) live
              -- The body releases its guards before the frame is left.
              intro left
              have inner := Frame.leave_live left
              have body := Run.released_moves line (ihBody all.2.1 _ 0 entered) inner
              exact moves _ _ inner body left
          | unwound payload => exact moves trivial
          | halted cause => exact live.elim

theorem Script.effect_moves {step : Step → Prop} {frame : Frame → Prop}
    (steps : ∀ st, step st → st.perform.Moves R) (line : ∀ text, (Effect.emit text).Moves R)
    (frames : ∀ fr, frame fr → fr.Moves R) (script : Script) (all : script.All step frame)
    (path : List Nat) : (script.effect path).Moves R :=
  fun s live => Run.released_moves line (script.run_moves steps line frames all path 0 s) live

end Moves

section Agree

variable {R : State → State → Prop}

theorem Effect.judge_agree (panic : ∀ payload, (Effect.panic payload : Effect Bool).Agree R)
    (verdict : Verdict) : (Effect.judge verdict).Agree R := by
  cases verdict with
  | equal => exact .pure true
  | different => exact .pure false
  | panics message => exact panic (.text message)

theorem Effect.fail_agree (emit : ∀ line, (Effect.emit line).Agree R)
    (log : ∀ event, (Effect.log event).Agree R) (m : Mismatch) :
    (Effect.fail m : Effect α).Agree R :=
  .bind (emit _) fun _ => .bind (log _) fun _ => .unwind _

/-- Of all that an assertion does, only its line, its event and a panic reach the state. -/
theorem Effect.check_agree (emit : ∀ line, (Effect.emit line).Agree R)
    (log : ∀ event, (Effect.log event).Agree R)
    (panic : ∀ {β : Type} payload, (Effect.panic payload : Effect β).Agree R) (label : String)
    (assertion : Assertion) : (Effect.check label assertion).Agree R := by
  have render (shown : Shown) : (Effect.render shown).Agree R := by
    cases shown with
    | text text => exact .pure text
    | panics message => exact panic _
    | fails label => exact fail_agree emit log _
  refine .bind (Effect.judge_agree panic _) fun equal => ?_
  cases equal with
  | true => exact .pure ()
  | false => exact .bind (render _) fun _ => .bind (render _) fun _ => fail_agree emit log _

theorem Query.answer_agree (panic : ∀ payload, (Effect.panic payload : Effect Result).Agree R)
    (events : List Captured) (question : Query) : (question.answer events).Agree R := by
  cases question with
  | expect op event =>
      simp only [Query.answer]
      split
      · exact .pure _
      · exact panic _
  | events | mismatchesForLabel _ | eventsForCase _ | count _ _ | clear => exact .pure _

theorem Effect.closeCase_agree (log : ∀ event, (Effect.log event).Agree R) (name : String)
    (ending : Ending α) : (Effect.closeCase name ending).Agree R := by
  cases ending with
  | returned value => exact .bind (log _) fun _ => .pure _
  | unwound payload => exact .bind (log _) fun _ => .pure _
  | halted cause => exact .halt cause

/-- Of all that closes a frame, only the log and a panic reach the state. -/
theorem Frame.conclude_agree (log : ∀ event, (Effect.log event).Agree R)
    (panic : ∀ payload, (Effect.panic payload : Effect Result).Agree R) (frame : Frame)
    (ending : Ending Nat) : (frame.conclude ending).Agree R := by
  cases frame with
  | routed sink | captured name => exact fun _ _ related => ⟨rfl, related⟩
  | case name onFailure =>
      refine .bind (Effect.closeCase_agree log name ending) fun result => ?_
      split
      · exact .pure _
      · cases onFailure with
        | report => exact .pure _
        | unwrap | raise => exact panic _
  | attempt | thread =>
      cases ending with
      | returned steps => exact .pure _
      | unwound payload => exact .pure _
      | halted cause => exact .halt cause

/-- Two runs that differ in their states only, and there by `R`. -/
structure Run.Agree (R : State → State → Prop) (a b : Run) : Prop where
  ending : a.ending = b.ending
  trace : a.trace = b.trace
  guards : a.guards = b.guards
  state : R a.state b.state

/-- Entered from related states, and left in related states by the threads that entered it, a frame
gives the same. -/
structure Frame.Agree (R : State → State → Prop) (frame : Frame) : Prop where
  enter : frame.enter.Agree R
  leave : ∀ s t, R s t → ∀ (ending : Ending Nat) (s' t' : State), R s' t' →
    s'.thread = (frame.enter s).2.thread → t'.thread = (frame.enter t).2.thread →
    (frame.leave s.thread ending s').1 = (frame.leave t.thread ending t').1 ∧
      R (frame.leave s.thread ending s').2 (frame.leave t.thread ending t').2

theorem Ending.released_agree (line : ∀ text, (Effect.emit text).Agree R) (lines : List String)
    (ending : Ending α) : (ending.released lines).Agree R := by
  induction lines with
  | nil => exact fun s t related => ⟨rfl, related⟩
  | cons text lines ih =>
      cases ending with
      | halted cause => exact .halt cause
      | returned value => exact .bind (line text) fun _ => ih
      | unwound payload =>
          rw [released_unwound]
          refine .bind (.catching (line text)) fun outcome => ?_
          cases outcome with
          | returned _ => exact ih
          | unwound _ | halted _ => exact .halt .aborted

theorem Run.Agree.released (line : ∀ text, (Effect.emit text).Agree R) {a b : Run}
    (h : a.Agree R b) : a.released.Agree R b.released := by
  obtain ⟨ending, trace, s, guards⟩ := a
  obtain ⟨ending', trace', t, guards'⟩ := b
  obtain ⟨rfl, rfl, rfl, related⟩ := h
  obtain ⟨same, related'⟩ := Ending.released_agree line guards ending s t related
  exact ⟨same, rfl, rfl, related'⟩

theorem Script.followed_agree {ending : Ending Result} {trace : List Entry} {s t : State}
    {next next' : State → Run} (related : R s t)
    (rest : Run.Agree R (next s) (next' t)) :
    Run.Agree R (followed ending trace s next) (followed ending trace t next') := by
  cases ending with
  | returned result =>
      exact ⟨rest.ending, congrArg (trace ++ ·) rest.trace, rest.guards, rest.state⟩
  | unwound payload | halted cause => exact ⟨rfl, rfl, rfl, related⟩

section Threads

variable {thread : Thread}

/-- One state, on this thread. -/
def On (thread : Thread) (s t : State) : Prop :=
  t = s ∧ s.thread = thread

theorem Effect.agree_on {e : Effect α} (stays : ∀ s, (e s).2.thread = s.thread) :
    e.Agree (On thread) := by
  rintro _ s ⟨rfl, on⟩
  exact ⟨rfl, rfl, (stays s).trans on⟩

theorem Effect.thread_of_agree {e : Effect α} (h : ∀ thread, e.Agree (On thread)) (s : State) :
    (e s).2.thread = s.thread :=
  (h s.thread s s ⟨rfl, rfl⟩).2.2

theorem Effect.emit_on (line : String) : (Effect.emit line).Agree (On thread) :=
  agree_on fun s => (sends_emit line s).live.2

theorem Effect.log_on (event : Event) : (Effect.log event).Agree (On thread) :=
  agree_on fun _ => rfl

theorem Effect.panic_on (payload : Payload) : (Effect.panic payload : Effect α).Agree (On thread) :=
  agree_on fun _ => rfl

theorem Effect.read_on (f : Store → α) : (Effect.read f).Agree (On thread) :=
  agree_on fun _ => rfl

theorem Effect.change_on (f : Store → Store) : (Effect.change f).Agree (On thread) :=
  agree_on fun _ => rfl

theorem Effect.mention_on (sink : SinkRef) : (Effect.mention sink).Agree (On thread) :=
  agree_on (mention_thread sink)

theorem Effect.init_on (profile : Profile) : (Effect.init profile).Agree (On thread) := by
  refine .bind (read_on _) fun initialisation => ?_
  cases initialisation with
  | done => exact .pure ()
  | poisoned => exact panic_on _
  | «open» =>
      refine .bind (read_on _) fun environment => ?_
      cases profile.subscriber environment with
      | ok subscriber => exact change_on _
      | error place => exact .bind (change_on _) fun _ => panic_on _

theorem Query.askGlobal_on (question : Query) : question.askGlobal.Agree (On thread) := by
  refine .bind (Effect.change_on _) fun _ => .bind (Effect.read_on _) fun events => ?_
  dsimp only
  split
  · exact .bind (Effect.change_on _) fun _ => answer_agree Effect.panic_on events question
  · exact answer_agree Effect.panic_on events question

theorem Query.askScope_on (name : String) (question : Query) :
    (question.askScope name).Agree (On thread) := by
  refine .bind (Effect.read_on _) fun place? => ?_
  cases place? with
  | none => exact .halt _
  | some place =>
      refine .bind (Effect.read_on _) fun events => ?_
      dsimp only
      split
      · exact .bind (Effect.change_on _) fun _ => answer_agree Effect.panic_on events question
      · exact answer_agree Effect.panic_on events question

theorem Step.perform_on (st : Step) : st.perform.Agree (On thread) := by
  cases st with
  | malformed field => exact .halt _
  | check label assertion =>
      exact .bind (Effect.check_agree Effect.emit_on Effect.log_on Effect.panic_on label assertion)
        fun _ => .pure _
  | panic payload => exact Effect.panic_on payload
  | resume payload => exact .unwind payload
  | emit line => exact .bind (Effect.emit_on line) fun _ => .pure _
  | writeLine sink line =>
      have deliver : (Effect.deliver (.sink sink.id) line).Agree (On thread) := by
        refine Effect.agree_on fun s => ?_
        rw [Effect.deliver_apply]
        cases s.store.sink sink.id <;> rfl
      exact .bind (Effect.mention_on sink) fun _ => .bind deliver fun _ => .pure _
  | readSink sink =>
      exact .bind (Effect.mention_on sink) fun _ => .bind (Effect.read_on _) fun _ => .pure _
  | clearSink sink =>
      exact .bind (Effect.mention_on sink) fun _ => .bind (Effect.change_on _) fun _ => .pure _
  | init profile => exact .bind (Effect.init_on profile) fun _ => .pure _
  | initCapture =>
      exact .bind (Effect.change_on _) fun _ => .bind (Effect.read_on _) fun _ => .pure _
  | log event => exact .bind (Effect.log_on event) fun _ => .pure _
  | query capture question =>
      cases capture with
      | none => exact question.askGlobal_on
      | some name => exact question.askScope_on name

/-- The thread that entered a frame leaves it as it was before. -/
theorem Frame.thread_leave {frame : Frame} {s t : State} (ending : Ending Nat)
    (inner : t.thread = (frame.enter s).2.thread) :
    (frame.leave s.thread ending t).2.thread = s.thread := by
  have concludes (u : State) : (frame.conclude ending u).2.thread = u.thread :=
    Effect.thread_of_agree
      (fun _ => frame.conclude_agree Effect.log_on Effect.panic_on ending) u
  rw [leave, concludes]
  cases frame with
  | case _ _ | attempt => exact inner
  | thread => rfl
  | captured name => exact congrArg (fun thread => { thread with scope := s.thread.scope }) inner
  | routed sink =>
      have kept := Effect.mention_thread sink s
      rw [enter_routed] at inner
      generalize Effect.mention sink s = result at inner kept
      obtain ⟨ending, s'⟩ := result
      have route := congrArg (fun thread => { thread with route := s.thread.route }) inner
      cases ending <;>
        exact route.trans (congrArg (fun thread => { thread with route := s.thread.route }) kept)

theorem Script.thread_followed {ending : Ending Result} {trace : List Entry} {s : State}
    {next : State → Run} (rest : (next s).state.thread = s.thread) :
    (followed ending trace s next).state.thread = s.thread := by
  cases ending with
  | returned result => exact rest
  | unwound payload | halted cause => rfl

theorem Run.thread_released (run : Run) : run.released.state.thread = run.state.thread :=
  Effect.thread_of_agree
    (fun _ => Ending.released_agree Effect.emit_on run.guards run.ending) run.state

/-- However it ends, a list of steps leaves the thread as it was. -/
theorem Script.thread_run (script : Script) (path : List Nat) (index : Nat) (s : State) :
    (script.run path index s).state.thread = s.thread := by
  induction script generalizing path index s with
  | done => rfl
  | simple word st next ih =>
      have stays := Effect.thread_of_agree (fun _ => st.perform_on) s
      exact (thread_followed (ih path (index + 1) _)).trans stays
  | guarded word line next ih => exact ih path (index + 1) s
  | framed word frame body next ihBody ihNext =>
      have left (ending : Ending Nat) (t : State) := frame.thread_leave (s := s) (t := t) ending
      rw [run]
      cases entry : frame.enter s with
      | mk ending entered =>
          rw [entry] at left
          cases ending with
          | unwound payload => exact absurd entry (frame.enter_ne_unwound s entered payload)
          | halted cause => exact Frame.enter_thread_of_halted entry
          | returned _ =>
              have inner := (Run.thread_released _).trans (ihBody (path ++ [index]) 0 entered)
              exact (thread_followed (ihNext path (index + 1) _)).trans (left _ _ inner)

theorem Script.thread_released (script : Script) (path : List Nat) (index : Nat) (s : State) :
    (script.run path index s).released.state.thread = s.thread :=
  (Run.thread_released _).trans (script.thread_run path index s)

end Threads

theorem Script.run_agree {step : Step → Prop} {frame : Frame → Prop}
    (steps : ∀ st, step st → st.perform.Agree R) (line : ∀ text, (Effect.emit text).Agree R)
    (frames : ∀ fr, frame fr → fr.Agree R) (script : Script) (all : script.All step frame)
    (path : List Nat) (index : Nat) {s t : State} (related : R s t) :
    Run.Agree R (script.run path index s) (script.run path index t) := by
  induction script generalizing path index s t with
  | done => exact ⟨rfl, rfl, rfl, related⟩
  | simple word st next ih =>
      obtain ⟨same, related'⟩ := steps st all.1 s t related
      simp only [run, same]
      exact followed_agree related' (ih all.2 path (index + 1) related')
  | guarded word text next ih =>
      have rest := ih all path (index + 1) related
      refine ⟨rest.ending, ?_, ?_, rest.state⟩
      · simp only [run, rest.trace]
      · simp only [run, rest.guards]
  | framed word fr body next ihBody ihNext =>
      have agree := frames fr all.1
      obtain ⟨same, related'⟩ := agree.enter s t related
      have leaves := agree.leave s t related
      rw [run, run]
      generalize fr.enter s = left at same related' leaves ⊢
      generalize fr.enter t = right at same related' leaves ⊢
      obtain ⟨ending, entered⟩ := left
      obtain ⟨ending', entered'⟩ := right
      cases same
      cases ending with
      | returned _ =>
          have inner := (ihBody all.2.1 (path ++ [index]) 0 related').released line
          obtain ⟨same, left⟩ := leaves (body.run (path ++ [index]) 0 entered).released.ending _ _
            inner.state (body.thread_released _ 0 entered) (body.thread_released _ 0 entered')
          simp only [← inner.ending, ← inner.trace, same]
          exact followed_agree left (ihNext all.2.2 path (index + 1) left)
      | unwound payload | halted cause => exact ⟨rfl, rfl, rfl, related'⟩

end Agree

end Assertions
