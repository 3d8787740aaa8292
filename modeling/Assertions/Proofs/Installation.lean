import Assertions.Proofs.Ledger
import Assertions.Proofs.Reporting

/-!
Who receives the events of a process. The first call that installs a subscriber decides it: when the
capture was set up first, it keeps the whole ledger of what follows; when the logging was
initialised first, even for tests, the capture is handed out later all the same, and stays empty.
-/

namespace Assertions

/-- The calls that set the logging of a process up. -/
inductive Setup where
  | init (profile : Profile)
  | capture
  deriving DecidableEq, Repr

namespace Setup

def step : Setup → Step
  | .init profile => .init profile
  | .capture => .initCapture

def word : Setup → String
  | .init _ => "init"
  | .capture => "init_capture"

/-- The calls that a test makes. -/
def ForTests : Setup → Prop
  | .init profile => profile = .test
  | .capture => True

end Setup

/-- The calls, and then the steps of a script. -/
def Script.afterCalls (calls : List Setup) (script : Script) : Script :=
  calls.foldr (fun call next => .simple call.word call.step next) script

/-- No body has a capture of its own. -/
def Frame.Shared : Frame → Prop
  | .captured _ => False
  | _ => True

theorem Script.all_afterCalls (calls : List Setup) {body : Script}
    (retains : body.All Step.Retains Frame.Shared) :
    (body.afterCalls calls).All Step.Retains Frame.Shared := by
  induction calls with
  | nil => exact retains
  | cons call calls ih => cases call <;> exact ⟨trivial, ih⟩

/-- The process-wide capture receives the events of the thread. -/
structure State.Subscribed (s : State) : Prop where
  scope : s.thread.scope = none
  subscriber : s.store.subscriber = some .capture

/-- No capture can be subscribed any more. -/
structure Store.Deaf (store : Store) : Prop where
  subscriber : store.subscriber = some .bare
  captured : store.captured = []

/-- Nothing was set up so far. -/
structure State.Unset (s : State) : Prop where
  scope : s.thread.scope = none
  subscriber : s.store.subscriber = none
  initialisation : s.store.initialisation = .open
  captureMade : s.store.captureMade = false
  captured : s.store.captured = []

/-- All that the run of a script logs. -/
def Script.ledger (script : Script) (s : State) : List Event :=
  script.events (fun _ _ => true) [] 0 s

variable {s t : State}

theorem State.Subscribed.keeps (subscribed : s.Subscribed) : s.keeps .shared = fun _ => true := by
  funext event
  simp [State.keeps, State.listens, State.recorder?, Store.holds, subscribed.scope,
    subscribed.subscriber]

theorem Reaches.subscribed {can : Change → Prop} (reaches : Reaches can s t)
    (subscribed : s.Subscribed) : t.Subscribed := by
  refine ⟨?_, ?_⟩
  · rw [reaches.thread]
    exact subscribed.scope
  · exact reaches.store.invariant (fun store => store.subscriber = some .capture)
      (fun _ change _ => change.subscriber_apply) subscribed.subscriber

theorem Frame.Shared.enter {frame : Frame} (shared : frame.Shared) (subscribed : s.Subscribed)
    (entry : frame.enter s = (.returned (), t)) : t.Subscribed := by
  have subscriber : t.store.subscriber = some .capture :=
    (Frame.enter_becomes entry).invariant (fun store => store.subscriber = some .capture)
      (fun _ change _ => change.subscriber_apply) subscribed.subscriber
  refine ⟨?_, subscriber⟩
  cases frame with
  | captured name => exact shared.elim
  | case _ _ | attempt =>
      cases entry
      exact subscribed.scope
  | thread =>
      cases entry
      rfl
  | routed sink =>
      have kept := Effect.mention_thread sink s
      obtain ⟨u, mentioned, rfl⟩ := mention_of_enter entry
      rw [mentioned] at kept
      change u.thread.scope = none
      rw [kept]
      exact subscribed.scope

theorem State.Subscribed.closing {entered : State} (subscribed : entered.Subscribed) (frame : Frame)
    (body : Script) (path : List Nat) :
    (frame.closing (body.effect path entered).1).filter
        ((body.effect path entered).2.keeps .shared) =
      (frame.closing (body.effect path entered).1).filter fun _ => true := by
  have reaches := body.effect_becomes path entered
  generalize body.effect path entered = inner at reaches ⊢
  obtain ⟨ending, t⟩ := inner
  cases ending with
  | returned _ | unwound _ => rw [((reaches trivial).subscribed subscribed).keeps]
  | halted cause => cases frame <;> rfl

/-- Without captures of their own, all threads hand all events to the process-wide one. -/
theorem Script.events_shared {script : Script} (shared : script.All (fun _ => True) Frame.Shared)
    (path : List Nat) (index : Nat) {s : State} (subscribed : s.Subscribed) :
    script.events (State.keeps .shared) path index s =
      script.events (fun _ _ => true) path index s := by
  induction script generalizing path index s with
  | done => rfl
  | guarded word line next ih => exact ih shared path (index + 1) subscribed
  | simple word st next ih =>
      have reaches := st.perform_makes.reaches (fun _ _ => trivial) s
      rw [events, events, subscribed.keeps]
      generalize st.perform s = result at reaches ⊢
      obtain ⟨ending, t⟩ := result
      cases ending with
      | unwound _ | halted _ => rfl
      | returned value =>
          have later := ih shared.2 path (index + 1) ((reaches trivial).subscribed subscribed)
          simp only [Ending.behind, later]
  | framed word frame body next ihBody ihNext =>
      cases entry : frame.enter s with
      | mk entering entered =>
          cases entering with
          | unwound _ | halted _ => rw [events, events, entry]
          | returned _ =>
              have inside := shared.1.enter subscribed entry
              cases left : frame.leave s.thread (body.effect (path ++ [index]) entered).1
                  (body.effect (path ++ [index]) entered).2 with
              | mk ending t =>
                  rw [events_framed entry left, events_framed entry left, subscribed.keeps,
                    ihBody shared.2.1 (path ++ [index]) 0 inside,
                    inside.closing frame body (path ++ [index])]
                  cases ending with
                  | unwound _ | halted _ => rfl
                  | returned value =>
                      have behind := (Frame.left_reaches entry left trivial).subscribed subscribed
                      simp only [Ending.behind, ihNext shared.2.2 path (index + 1) behind]

theorem State.Unset.subscribed (unset : s.Unset) :
    State.Subscribed { s with store := s.store.makeCapture } := by
  refine ⟨unset.scope, ?_⟩
  change s.store.makeCapture.subscriber = _
  rw [Store.makeCapture, unset.captureMade]
  change s.store.subscriber.or _ = _
  rw [unset.subscriber]
  rfl

theorem State.Unset.deaf (unset : s.Unset) : (s.store.initialised .bare).Deaf := by
  refine ⟨?_, unset.captured⟩
  change s.store.subscriber.or _ = _
  rw [unset.subscriber]
  rfl

theorem Store.Deaf.apply (change : Change) (deaf : s.store.Deaf) : (change.apply s).store.Deaf := by
  obtain ⟨bare, empty⟩ := deaf
  cases change with
  | log event =>
      refine ⟨(s.logs_afterEvent event).subscriber.trans bare, ?_⟩
      have lost : s.keeps .shared event = false := by
        simp only [State.keeps, State.recorder?, bare]
        cases s.thread.scope <;> simp
      exact (State.untouched_afterEvent lost).trans empty
  | initialise subscriber =>
      refine ⟨?_, empty⟩
      change s.store.subscriber.or _ = _
      rw [bare]
      rfl
  | makeCapture =>
      change s.store.makeCapture.Deaf
      rw [Store.makeCapture]
      split
      · exact ⟨bare, empty⟩
      · refine ⟨?_, empty⟩
        change s.store.subscriber.or _ = _
        rw [bare]
        rfl
  | make id kind =>
      change (s.store.made id kind).Deaf
      rw [Store.made]
      split <;> exact ⟨bare, empty⟩
  | clearCaptured => exact ⟨bare, rfl⟩
  | keep _ _ | clearSink _ | errorLine _ | hook _ | poison | clearScope _ | openScope _
  | closeScope => exact ⟨bare, empty⟩

/-- A process that starts with its capture keeps all that is logged. -/
theorem Script.captured_after_capture {next : Script}
    (retains : next.All Step.Retains Frame.Shared) {s : State} (unset : s.Unset) (word : String)
    (live : ((simple word .initCapture next).runFrom s).ending.Live) :
    ((simple word .initCapture next).runFrom s).state.store.captured =
      ((simple word .initCapture next).ledger s).map .ofEvent := by
  have performed : Step.initCapture.perform s =
    (.returned (.count s.store.makeCapture.captured.length),
      { s with store := s.store.makeCapture }) := rfl
  have all : (simple word .initCapture next).All Step.Retains fun _ => True :=
    ⟨trivial, retains.mono (fun _ h => h) fun _ _ => trivial⟩
  have gains : Gains .shared _ s ((simple word .initCapture next).runFrom s).state :=
    runFrom_gains (.of_all (fun _ u retains => retains.spares .shared u) all [] 0 s) live
  have shared : next.All (fun _ => True) Frame.Shared :=
    retains.mono (fun _ _ => trivial) fun _ h => h
  rw [Gains, events_simple performed, Ending.behind, events_shared shared _ _ unset.subscribed]
    at gains
  rw [ledger, events_simple performed]
  change _ = s.store.captured ++ _ at gains
  rw [unset.captured] at gains
  exact gains

/-- A process that starts by initialising its logging keeps nothing, whatever is done to set its
capture up later. -/
theorem Script.captured_after_init {s : State} (unset : s.Unset) (word : String) (next : Script)
    (live : ((simple word (.init .test) next).runFrom s).ending.Live) :
    ((simple word (.init .test) next).runFrom s).state.store.captured = [] := by
  have performed : (Step.init .test).perform s =
      (.returned .ok, { s with store := s.store.initialised .bare }) := by
    have read : Effect.read (·.initialisation) s = (.returned .open, s) := by
      rw [← unset.initialisation]
      rfl
    exact Effect.bind_of_returned (Effect.bind_of_returned read)
  rw [runFrom, run_simple performed] at live ⊢
  have becomes := next.released_becomes [] 1 _ live
  have deaf : Store.Deaf _ := becomes.store.invariant Store.Deaf
    (fun _ change _ => Store.Deaf.apply change) unset.deaf
  exact deaf.captured

/-- Whichever calls follow in whatever order, the first one decides: the capture keeps the whole
ledger when it was made first, and nothing at all when the logging was initialised first. -/
theorem first_call_decides_capture (first : Setup) (others : List Setup)
    (tests : ∀ call ∈ first :: others, call.ForTests) (body : Script)
    (retains : body.All Step.Retains Frame.Shared) (s : State) (unset : s.Unset)
    (live : ((body.afterCalls (first :: others)).runFrom s).ending.Live) :
    ((body.afterCalls (first :: others)).runFrom s).state.store.captured =
      match first with
      | .capture => ((body.afterCalls (first :: others)).ledger s).map .ofEvent
      | .init _ => [] := by
  cases first with
  | capture =>
      exact Script.captured_after_capture (Script.all_afterCalls others retains) unset _ live
  | init profile =>
      obtain rfl : profile = .test := tests _ List.mem_cons_self
      exact Script.captured_after_init unset _ (body.afterCalls others) live

/-- A case that fails on a thread of its own, and an event of the script. -/
def logsOnThread : Script :=
  .framed "thread" .thread
    (.framed "case" (.case "c" .report) (.simple "int" (.check "sum" (.int 5 6)) .done) .done)
    (.simple "log_start" (.log (.start Component.script "x" none)) .done)

theorem first_call_decides_capture_logsOnThread :
    (logsOnThread.afterCalls [.capture, .init .test, .capture]).ledger (.fresh none) =
        [.caseStart "c", .mismatch Component.assertion ⟨"sum", "5", "6"⟩,
          .caseEnd "c" (.error (.mismatch ⟨"sum", "5", "6"⟩)),
          .start Component.script "x" none] ∧
      ((logsOnThread.afterCalls [.capture, .init .test, .capture]).runFrom
          (.fresh none)).state.store.captured =
        ((logsOnThread.afterCalls [.capture, .init .test, .capture]).ledger (.fresh none)).map
          .ofEvent := by
  refine ⟨by decide +kernel, ?_⟩
  have retains : logsOnThread.All Step.Retains Frame.Shared := by
    simp [logsOnThread, Script.All, Step.Retains, Frame.Shared]
  have unset : State.Unset (.fresh none) := ⟨rfl, rfl, rfl, rfl, rfl⟩
  have returned : ((logsOnThread.afterCalls [.capture, .init .test, .capture]).runFrom
      (.fresh none)).ending = .returned 5 := by decide +kernel
  refine first_call_decides_capture .capture [.init .test, .capture] ?_ logsOnThread retains
    (.fresh none) unset (by rw [returned]; trivial)
  simp [Setup.ForTests]

/-- After the logging was initialised for tests, the capture that tests are given stays empty. -/
theorem capture_empty_after_init :
    (logsOnThread.afterCalls [.init .test, .capture]).ledger (.fresh none) ≠ [] ∧
      ((logsOnThread.afterCalls [.init .test, .capture]).runFrom (.fresh none)).ending =
        .returned 4 ∧
      ((logsOnThread.afterCalls [.init .test, .capture]).runFrom
        (.fresh none)).state.store.captured = [] := by
  decide +kernel

end Assertions
