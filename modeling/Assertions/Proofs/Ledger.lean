import Assertions.Proofs.AssertionContract
import Assertions.Proofs.Captures
import Assertions.Proofs.Reach

/-!
The ledger of a run: the events that its steps and its cases log, in order, read off from how each
step and each body ended. An account says what becomes of the store when such events are logged and
nothing else that counts happens; when every step keeps to an account, so does the run. What a
capture gains in a run that does not clear it is the ledger, as far as the thread of each event
hands its events to that capture and is listened to.
-/

namespace Assertions

/-- What was logged before a payload came: an assertion logs its mismatch and unwinds with it. -/
def Payload.events : Payload → List Event
  | .mismatch m => [.mismatch Component.assertion m]
  | _ => []

def Ending.events {α : Type} : Ending α → List Event
  | .unwound payload => payload.events
  | _ => []

/-- What is logged behind a step counts when the step returned. -/
def Ending.behind (more : List Event) : Ending Result → List Event
  | .returned _ => more
  | _ => []

namespace Step

/-- What a step that ended so has logged. -/
def events : Step → Ending Result → List Event
  | .log event, _ => [event]
  | .check _ _, ending => ending.events
  | _, _ => []

/-- Steps that empty no capture. -/
def Retains : Step → Prop
  | .query _ .clear => False
  | _ => True

/-- The step does not empty this capture when it is performed in this state. -/
def Spares (r : Recorder) : Step → State → Prop
  | .query none .clear, _ => r ≠ .shared
  | .query (some name) .clear, s => ∀ place, s.store.placeOf? name = some place → r ≠ .own place
  | _, _ => True

theorem spares_of_ne_clear {st : Step} (keeps : ∀ capture, st ≠ .query capture .clear)
    (r : Recorder) (s : State) : st.Spares r s := by
  cases st with
  | query capture question =>
      cases question with
      | clear => exact absurd rfl (keeps capture)
      | events | mismatchesForLabel _ | eventsForCase _ | count _ _ | expect _ _ =>
          cases capture <;> trivial
  | malformed _ | check _ _ | panic _ | resume _ | emit _ | writeLine _ _ | readSink _ | clearSink _
  | init _ | initCapture | log _ => trivial

theorem Retains.spares {st : Step} (retains : st.Retains) (r : Recorder) (s : State) :
    st.Spares r s := by
  refine spares_of_ne_clear ?_ r s
  rintro capture rfl
  exact retains

/-- Only its own query empties the process-wide capture. -/
theorem spares_shared {st : Step} (keeps : st ≠ .query none .clear) (s : State) :
    st.Spares .shared s := by
  by_cases named : ∃ name, st = .query (some name) .clear
  · obtain ⟨name, rfl⟩ := named
    exact fun _ _ => Recorder.noConfusion
  · refine spares_of_ne_clear (fun capture same => ?_) .shared s
    cases capture with
    | none => exact keeps same
    | some name => exact named ⟨name, same⟩

end Step

namespace Frame

def opening : Frame → List Event
  | .case name _ => [.caseStart name]
  | _ => []

def closing : Frame → Ending Nat → List Event
  | .case name _, .returned _ => [.caseEnd name (.ok ())]
  | .case name _, .unwound payload => [.caseEnd name (.error (.ofPayload payload))]
  | _, _ => []

end Frame

namespace Script

/-- The events that a run logs, in order, as far as they count in the states in which they are
logged. -/
def events (counts : State → Event → Bool) (path : List Nat) (index : Nat) :
    Script → State → List Event
  | .done, _ => []
  | .guarded _ _ next, s => next.events counts path (index + 1) s
  | .simple _ st next, s =>
      let (ending, s') := st.perform s
      (st.events ending).filter (counts s) ++
        ending.behind (next.events counts path (index + 1) s')
  | .framed _ frame body next, s =>
      match frame.enter s with
      | (.returned _, entered) =>
          let inner := body.effect (path ++ [index]) entered
          let (ending, s') := frame.leave s.thread inner.1 inner.2
          frame.opening.filter (counts s) ++ body.events counts (path ++ [index]) 0 entered ++
            (frame.closing inner.1).filter (counts inner.2) ++
            ending.behind (next.events counts path (index + 1) s')
      | _ => []

end Script

/-- The capture gains these events behind what it held before. -/
def Gains (r : Recorder) (logged : List Event) (s t : State) : Prop :=
  t.store.events r = s.store.events r ++ logged.map .ofEvent

namespace State

variable {s t : State} {r : Recorder}

theorem gains_afterEvent (s : State) (event : Event) (r : Recorder) :
    Gains r ([event].filter (s.keeps r)) s (s.afterEvent event) := by
  rw [Gains, events_afterEvent]
  cases kept : s.keeps r event <;> simp [kept]

theorem untouched_afterEvent {event : Event} (lost : s.keeps r event = false) :
    Untouched r s (s.afterEvent event) := by
  have gains := s.gains_afterEvent event r
  rw [List.filter_cons_of_neg (by simp [lost]), List.filter_nil, Gains, List.map_nil,
    List.append_nil] at gains
  exact gains

theorem keeps_congr (thread : t.thread = s.thread)
    (subscriber : t.store.subscriber = s.store.subscriber)
    (scopes : t.store.scopes = s.store.scopes) (attention : t.store.attention = s.store.attention) :
    t.keeps r = s.keeps r := by
  funext event
  cases r <;>
    simp only [keeps, listens, recorder?, Store.holds, thread, subscriber, scopes, attention]

end State

theorem Sends.payload_events {line : String} {payload : Payload} {s t : State}
    (h : Sends line s (.unwound payload) t) : payload.events = [] := by
  cases h
  rfl

/-- Besides an assertion and a log, no step logs anything. -/
theorem Step.logs_or_checks (st : Step) :
    (∃ event, st = .log event) ∨ (∃ label assertion, st = .check label assertion) ∨
      (∀ ending, st.events ending = []) ∧ ∀ event, ¬ st.Can (.log event) := by
  cases st with
  | log event => exact .inl ⟨event, rfl⟩
  | check label assertion => exact .inr (.inl ⟨label, assertion, rfl⟩)
  | malformed _ | panic _ | resume _ | emit _ | writeLine _ _ | readSink _ | clearSink _ | init _
  | initCapture | query _ _ =>
      refine .inr (.inr ⟨fun _ => rfl, fun event able => ?_⟩)
      rcases able with same | ⟨_, _, _, same, _⟩ <;> exact nomatch same

/-- An account of what becomes of a store. Of the events that are logged, those that count tell it;
silent changes leave the store as good as it was, and threads do not matter. -/
structure Account (counts : State → Event → Bool) (becomes : List Event → State → State → Prop) :
    Prop where
  refl : ∀ s, becomes [] s s
  trans : ∀ {first next : List Event} {s t u : State},
    becomes first s t → becomes next t u → becomes (first ++ next) s u
  stores : ∀ {logged : List Event} {s t s' t' : State}, becomes logged s t →
    s'.store = s.store → t'.store = t.store → becomes logged s' t'
  log : ∀ s event, becomes ([event].filter (counts s)) s (s.afterEvent event)
  silent : ∀ s (change : Change), change.Silent → becomes [] s (change.apply s)
  congr : ∀ {s t : State}, t.thread = s.thread → t.store.subscriber = s.store.subscriber →
    t.store.scopes = s.store.scopes → t.store.attention = s.store.attention → counts t = counts s

section Account

variable {counts : State → Event → Bool} {becomes : List Event → State → State → Prop}

/-- What the step does is told by what it logs. -/
def Step.Told (counts : State → Event → Bool) (becomes : List Event → State → State → Prop)
    (st : Step) (s : State) : Prop :=
  (st.perform s).1.Live →
    becomes ((st.events (st.perform s).1).filter (counts s)) s (st.perform s).2

namespace Account

variable (account : Account counts becomes) {s t u : State} {line : String}
include account

theorem chain {can : Change → Prop}
    (quiet : ∀ change, can change → ∀ u, becomes [] u (Change.apply u change))
    (made : Chain can s t) : becomes [] s t := by
  induction made with
  | refl => exact account.refl s
  | tail _ step ih =>
      obtain ⟨change, able, rfl⟩ := step
      exact account.trans ih (quiet change able _)

theorem made {α : Type} {e : Effect α} {can : Change → Prop} (makes : e.Makes can)
    (silent : ∀ change, can change → change.Silent) (live : (e s).1.Live) :
    becomes [] s (e s).2 :=
  account.chain (fun change able u => account.silent u change (silent change able)) (makes s live)

theorem sent {ending : Ending Unit} (h : Sends line s ending t) : becomes [] s t := by
  obtain ⟨change, ofLine, rfl⟩ := h.change
  exact account.silent s change ofLine.silent

theorem logged_behind {ending : Ending Unit} (h : Sends line s ending t) (event : Event) :
    becomes ([event].filter (counts s)) s (t.afterEvent event) := by
  have same : counts t = counts s := by cases h <;> exact account.congr rfl rfl rfl rfl
  rw [← same]
  exact account.trans (account.sent h) (account.log t event)

theorem reported {m : Mismatch} {payload : Payload} (h : Reports m s payload t) :
    becomes (payload.events.filter (counts s)) s t := by
  cases h with
  | refused line =>
      rw [line.payload_events]
      exact account.sent line
  | reported line => exact account.logged_behind line _

theorem displayed {shown : Shown} {payload : Payload} (h : Displays shown s (.unwound payload) t) :
    becomes (payload.events.filter (counts s)) s t := by
  cases h with
  | panics message => exact account.silent s (.hook message) trivial
  | fails nested => exact account.reported nested

theorem ended {label : String} {assertion : Assertion} {stage : Stage} {ending : Ending Unit}
    (h : Ends label assertion s stage ending t) :
    becomes (ending.events.filter (counts s)) s t := by
  cases h with
  | @refused message _ => exact account.silent s (.hook message) trivial
  | held _ => exact account.refl s
  | expectedLost _ expected => exact account.displayed expected
  | actualLost _ expected actual =>
      obtain ⟨_, rfl⟩ := expected.eq_of_returned
      exact account.displayed actual
  | lineLost _ expected actual line =>
      obtain ⟨_, rfl⟩ := expected.eq_of_returned
      obtain ⟨_, rfl⟩ := actual.eq_of_returned
      rw [Ending.events, line.payload_events]
      exact account.sent line
  | reported _ expected actual line =>
      obtain ⟨_, rfl⟩ := expected.eq_of_returned
      obtain ⟨_, rfl⟩ := actual.eq_of_returned
      exact account.logged_behind line _

theorem check (label : String) (assertion : Assertion) (s : State) :
    (Step.check label assertion).Told counts becomes s := by
  intro _
  obtain ⟨stage, ends⟩ := Effect.check_ends label assertion s
  have ended := account.ended ends
  rw [Step.perform, Effect.bind_apply, Step.events]
  generalize Effect.check label assertion s = result at ended ⊢
  obtain ⟨ending, t⟩ := result
  cases ending <;> exact ended

/-- A step keeps to the account when, besides its log, it makes only changes that do. -/
theorem step {st : Step} (quiet : ∀ change, st.Can change → (∀ event, change ≠ .log event) →
      ∀ u, becomes [] u (Change.apply u change)) (s : State) :
    st.Told counts becomes s := by
  rcases st.logs_or_checks with ⟨event, rfl⟩ | ⟨label, assertion, rfl⟩ | ⟨nothing, unable⟩
  · exact fun _ => account.log s event
  · exact account.check label assertion s
  · intro live
    rw [nothing]
    refine account.chain (fun change able => ?_) (st.perform_makes s live)
    refine quiet change able ?_
    rintro event rfl
    exact unable event able

theorem enter {frame : Frame} (entry : frame.enter s = (.returned (), t)) :
    becomes (frame.opening.filter (counts s)) s t := by
  cases frame with
  | case name onFailure =>
      cases entry
      exact account.log s (.caseStart name)
  | attempt | thread =>
      cases entry
      exact account.stores (account.refl s) rfl rfl
  | captured name =>
      cases entry
      exact account.stores (account.silent s (.openScope name) trivial) rfl rfl
  | routed sink =>
      have makes : (Effect.mention sink).Makes Change.Silent :=
        Effect.mention_makes sink fun _ => trivial
      have made := account.made (s := s) makes fun _ silent => silent
      obtain ⟨u, mentioned, rfl⟩ := Frame.mention_of_enter entry
      rw [mentioned] at made
      exact account.stores (made trivial) rfl rfl

theorem leave {frame : Frame} {outer : Thread} {inner : Ending Nat} {ending : Ending Result}
    (left : frame.leave outer inner t = (ending, u)) (live : ending.Live) :
    becomes ((frame.closing inner).filter (counts t)) t u := by
  have left_live : (frame.leave outer inner t).1.Live := by
    rw [left]
    exact live
  obtain rfl : (frame.leave outer inner t).2 = u := congrArg Prod.snd left
  have same (v : State) (store : v.store = t.store) : becomes [] t v :=
    account.stores (account.refl t) rfl store
  have closed : becomes [] t (t.closeScope outer.scope) :=
    account.stores (account.silent t .closeScope trivial) rfl rfl
  cases inner with
  | halted cause => exact (Frame.leave_live left_live).elim
  | returned steps =>
      cases frame with
      | case name onFailure => exact account.log t (.caseEnd name (.ok ()))
      | captured _ => exact closed
      | routed _ | attempt | thread => exact same _ rfl
  | unwound payload =>
      cases frame with
      | case name onFailure =>
          have logged := account.log t (.caseEnd name (.error (.ofPayload payload)))
          have concludes : (onFailure.conclude (.ofPayload payload)).Makes Change.OfLine :=
            onFailure.conclude_makes _ fun _ => trivial
          have gained := account.trans logged
            (account.made concludes (fun _ => Change.OfLine.silent) left_live)
          rwa [List.append_nil] at gained
      | captured _ => exact closed
      | routed _ | attempt | thread => exact same _ rfl

end Account

end Account

namespace Script

variable {counts : State → Event → Bool}

theorem events_simple {word : String} {st : Step} {next : Script} {path : List Nat} {index : Nat}
    {s t : State} {ending : Ending Result} (performed : st.perform s = (ending, t)) :
    (simple word st next).events counts path index s =
      (st.events ending).filter (counts s) ++
        ending.behind (next.events counts path (index + 1) t) := by
  rw [events, performed]

theorem events_framed {word : String} {frame : Frame} {body next : Script} {path : List Nat}
    {index : Nat} {s entered t : State} {ending : Ending Result}
    (entry : frame.enter s = (.returned (), entered))
    (left : frame.leave s.thread (body.effect (path ++ [index]) entered).1
      (body.effect (path ++ [index]) entered).2 = (ending, t)) :
    (framed word frame body next).events counts path index s =
      frame.opening.filter (counts s) ++ body.events counts (path ++ [index]) 0 entered ++
        (frame.closing (body.effect (path ++ [index]) entered).1).filter
          (counts (body.effect (path ++ [index]) entered).2) ++
        ending.behind (next.events counts path (index + 1) t) := by
  rw [events, entry]
  dsimp only
  rw [left]

end Script

namespace Account

variable {counts : State → Event → Bool} {becomes : List Event → State → State → Prop}
  (account : Account counts becomes) {s t : State} {first more : List Event}
include account

theorem followed {ending : Ending Result} {trace : List Entry} {next : State → Run}
    (step : ending.Live → becomes first s t)
    (rest : ∀ result, ending = .returned result → (next t).ending.Live →
      becomes more t (next t).state)
    (live : (Script.followed ending trace t next).ending.Live) :
    becomes (first ++ ending.behind more) s (Script.followed ending trace t next).state := by
  cases ending with
  | returned result => exact account.trans (step trivial) (rest result rfl live)
  | unwound payload => exact account.trans (step trivial) (account.refl t)
  | halted cause => exact live.elim

theorem released {run : Run} (h : run.ending.Live → becomes first s run.state)
    (live : run.released.ending.Live) : becomes first s run.released.state := by
  have line (text : String) : (Effect.emit text).Moves (Chain Change.OfLine) :=
    (Effect.Does.emit text).makes
  have lines := account.chain (fun change ofLine u => account.silent u change ofLine.silent)
    (Ending.released_moves line run.guards run.ending run.state live)
  have told := account.trans (h (Ending.live_of_released live)) lines
  rwa [List.append_nil] at told

/-- When every step that is performed keeps to the account, the ledger tells what the whole run does
to the store. -/
theorem run {script : Script} {path : List Nat} {index : Nat}
    (steps : script.Meets (Step.Told counts becomes) path index s)
    (live : (script.run path index s).ending.Live) :
    becomes (script.events counts path index s) s (script.run path index s).state := by
  induction script generalizing path index s with
  | done => exact account.refl s
  | guarded word line next ih => exact ih steps live
  | simple word st next ih =>
      cases performed : st.perform s with
      | mk ending t =>
          have told := steps.1
          rw [Step.Told, performed] at told
          rw [Script.run_simple performed] at live ⊢
          rw [Script.events_simple performed]
          refine account.followed told (fun result returned => ?_) live
          exact ih (steps.2 result t (returned ▸ performed))
  | framed word frame body next ihBody ihNext =>
      obtain ⟨entered, ending, t, entry, left, finished, ended⟩ := Script.framed_of_live live
      obtain ⟨inside, behind⟩ := steps entered entry
      rw [Script.run_framed entry left] at live ⊢
      rw [Script.events_framed entry left]
      refine account.followed (fun _ => ?_) (fun result returned => ?_) live
      · have opened := account.enter entry
        have within := account.released (ihBody inside) finished
        exact account.trans (account.trans opened within) (account.leave left ended)
      · exact ihNext (behind result t (returned ▸ left))

theorem runFrom {script : Script} (steps : script.Meets (Step.Told counts becomes) [] 0 s)
    (live : (script.runFrom s).ending.Live) :
    becomes (script.events counts [] 0 s) s (script.runFrom s).state :=
  account.released (account.run steps) live

end Account

/-- What a capture gains is told by the events that reach it. -/
theorem account_gains (r : Recorder) : Account (State.keeps r) (Gains r) where
  refl _ := (List.append_nil _).symm
  trans := by
    intro first next s t u told later
    rw [Gains, later, told, List.map_append, List.append_assoc]
  stores := by
    intro logged s t s' t' told before after
    rw [Gains, before, after]
    exact told
  log s event := s.gains_afterEvent event r
  silent s change silent := (silent.untouched s).trans (List.append_nil _).symm
  congr := State.keeps_congr

theorem Step.told_clearScope {r : Recorder} {name : String} {s : State}
    (apart : ∀ place, s.store.placeOf? name = some place → r ≠ .own place) :
    (Step.query (some name) .clear).Told (State.keeps r) (Gains r) s := by
  intro live
  change (Query.askScope name .clear s).1.Live at live
  change (Query.askScope name .clear s).2.store.events r = s.store.events r ++ []
  rw [List.append_nil]
  cases found : s.store.placeOf? name with
  | none =>
      rw [Query.askScope_of_none found] at live
      exact live.elim
  | some place =>
      rw [Query.askScope_of_some found]
      cases r with
      | shared => rfl
      | own other =>
          have others : place ≠ other := fun same => apart place found (congrArg _ same.symm)
          exact (Store.eventsAt_clear s.store.scopes place other).trans (if_neg others)

/-- What a step adds to a capture that it does not empty is what it logs. -/
theorem Step.Spares.told {r : Recorder} {st : Step} {s : State} (spares : st.Spares r s) :
    st.Told (State.keeps r) (Gains r) s := by
  by_cases named : ∃ name, st = .query (some name) .clear
  · obtain ⟨name, rfl⟩ := named
    exact told_clearScope spares
  · refine (account_gains r).step (fun change able unlogged u => ?_) s
    cases change with
    | log event => exact absurd rfl (unlogged event)
    | clearScope place => exact absurd able named
    | clearCaptured =>
        obtain rfl := able
        cases r with
        | shared => exact absurd rfl spares
        | own place => exact (List.append_nil _).symm
    | openScope _ | closeScope => exact able.elim
    | keep _ _ | make _ _ | clearSink _ | errorLine _ | hook _ | initialise _ | poison
    | makeCapture => exact (account_gains r).silent u _ trivial

/-- A run adds to a capture that it does not empty the part of its ledger that reaches it. -/
theorem Script.runFrom_gains {r : Recorder} {script : Script} {s : State}
    (spares : script.Meets (Step.Spares r) [] 0 s) (live : (script.runFrom s).ending.Live) :
    Gains r (script.events (State.keeps r) [] 0 s) s (script.runFrom s).state :=
  (account_gains r).runFrom (spares.mono fun _ _ => Step.Spares.told) live

end Assertions
