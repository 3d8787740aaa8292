import Assertions.Proofs.Installation

/-!
The first installer stays. The calls that set the logging of a process up are made in any order, and
what one of them unwinds with is caught. Which subscriber receives the events behind them is decided
by the host, or else by the first of these calls; an initialisation that unwinds because of its
environment decides nothing, and then the first capture does. From there on no event is received
twice, and whoever asks for the process-wide capture sees the same events, and later on more of
them.
-/

namespace Assertions

namespace Subscriber

/-- What the process-wide capture receives when these events are handed to the subscriber. -/
def captures : Subscriber → List Event → List Captured
  | .capture, handed => handed.map .ofEvent
  | .bare, _ | .lines _, _ | .records _, _ => []

variable (x : Subscriber) (first next : List Event)

theorem captures_nil : x.captures [] = [] := by
  cases x <;> rfl

theorem prints_nil : x.prints [] = [] := by
  cases x <;> rfl

theorem captures_append : x.captures (first ++ next) = x.captures first ++ x.captures next := by
  cases x with
  | capture => exact List.map_append
  | bare | lines _ | records _ => rfl

theorem prints_append : x.prints (first ++ next) = x.prints first ++ x.prints next := by
  cases x with
  | capture | bare => rfl
  | lines _ | records _ => rw [prints, List.filter_append, List.map_append, prints, prints]

end Subscriber

theorem Store.publish_captures {store : Store} {x : Subscriber}
    (subscribed : store.subscriber = some x) (event : Event) :
    (store.publish event).captured = store.captured ++ x.captures [event] := by
  rw [publish_captured, subscribed]
  cases x <;> rfl

/-- A thread without a capture of its own hands its events to the subscriber. -/
def State.hands (s : State) (_ : Event) : Bool :=
  s.thread.scope.isNone

/-- Neither the process-wide capture nor what is printed has changed. -/
structure Idle (s t : State) : Prop where
  captured : t.store.captured = s.store.captured
  printed : t.store.printed = s.store.printed

instance : IsPreorder State Idle where
  refl _ := ⟨rfl, rfl⟩
  trans _ _ _ h k := ⟨k.captured.trans h.captured, k.printed.trans h.printed⟩

/-- The subscriber stays, and receives what it is handed, each event once and in order. -/
structure Received (x : Subscriber) (handed : List Event) (s t : State) : Prop where
  subscriber : t.store.subscriber = some x
  captured : t.store.captured = s.store.captured ++ x.captures handed
  printed : t.store.printed = s.store.printed ++ x.prints handed

def Serves (x : Subscriber) (handed : List Event) (s t : State) : Prop :=
  s.store.subscriber = some x → Received x handed s t

section Serves

variable {x : Subscriber} {s t : State}

theorem Change.Silent.idle {change : Change} (silent : change.Silent) (s : State) :
    Idle s (change.apply s) := by
  refine ⟨silent.untouched s (r := .shared), ?_⟩
  cases change with
  | log _ | clearCaptured | clearScope _ => exact silent.elim
  | make id kind =>
      change (s.store.made id kind).printed = _
      rw [Store.made]
      split <;> rfl
  | makeCapture =>
      change s.store.makeCapture.printed = _
      rw [Store.makeCapture]
      split <;> rfl
  | keep _ _ | clearSink _ | errorLine _ | hook _ | initialise _ | poison | openScope _
  | closeScope => rfl

theorem Idle.serves (idle : Idle s t)
    (kept : s.store.subscriber = some x → t.store.subscriber = some x) :
    Serves x [] s t := by
  intro subscribed
  refine ⟨kept subscribed, ?_, ?_⟩
  · rw [x.captures_nil, List.append_nil]
    exact idle.captured
  · rw [x.prints_nil, List.append_nil]
    exact idle.printed

theorem State.serves_afterEvent (s : State) (event : Event) :
    Serves x ([event].filter s.hands) s (s.afterEvent event) := by
  intro subscribed
  have received : (s.afterEvent event).store = s.receive event :=
    State.logged_of_installed (by rw [subscribed]; rfl) event
  have kept : (s.afterEvent event).store.subscriber = some x :=
    (s.logs_afterEvent event).subscriber.trans subscribed
  cases scope : s.thread.scope with
  | some place =>
      rw [List.filter_cons_of_neg (by simp [hands, scope]), List.filter_nil]
      refine Idle.serves ⟨?_, ?_⟩ (fun _ => kept) subscribed <;> rw [received, receive, scope]
  | none =>
      rw [List.filter_cons_of_pos (by simp [hands, scope]), List.filter_nil]
      refine ⟨kept, ?_, ?_⟩ <;> rw [received, receive, scope]
      · exact Store.publish_captures subscribed event
      · exact Store.publish_prints subscribed event

/-- What a subscriber receives is told by the events that it is handed. -/
theorem account_serves (x : Subscriber) : Account State.hands (Serves x) where
  refl s := Idle.serves ⟨rfl, rfl⟩ id
  trans := by
    intro first next s t u told later subscribed
    have before := told subscribed
    have behind := later before.subscriber
    refine ⟨behind.subscriber, ?_, ?_⟩
    · rw [behind.captured, before.captured, x.captures_append, List.append_assoc]
    · rw [behind.printed, before.printed, x.prints_append, List.append_assoc]
  stores := by
    intro logged s t s' t' told before after subscribed
    rw [before] at subscribed
    obtain ⟨subscriber, captured, printed⟩ := told subscribed
    rw [← after] at subscriber captured printed
    rw [← before] at captured printed
    exact ⟨subscriber, captured, printed⟩
  log s event := s.serves_afterEvent event
  silent s change silent := (silent.idle s).serves change.subscriber_apply
  congr := by
    intro s t thread _ _ _
    funext event
    rw [State.hands, State.hands, thread]

/-- Only clearing the process-wide capture undoes what a subscriber has received. -/
theorem Step.serves {st : Step} (keeps : st ≠ .query none .clear) (s : State) :
    st.Told State.hands (Serves x) s := by
  refine (account_serves x).step (fun change able unlogged u => ?_) s
  cases change with
  | log event => exact absurd rfl (unlogged event)
  | clearCaptured => exact absurd able keeps
  | clearScope place => exact Idle.serves ⟨rfl, rfl⟩ id
  | openScope _ | closeScope => exact able.elim
  | keep _ _ | make _ _ | clearSink _ | errorLine _ | hook _ | initialise _ | poison
  | makeCapture => exact (account_serves x).silent u _ trivial

end Serves

/-- What becomes of an initialisation is decided by whether there was one before, and by what the
environment says. -/
theorem Effect.init_apply (profile : Profile) (s : State) :
    Effect.init profile s =
      match s.store.initialisation with
      | .done => (.returned (), s)
      | .poisoned => (.unwound (.literal poisonedMessage), s.hooked poisonedMessage)
      | .open =>
          match profile.subscriber s.store.environment with
          | .ok subscriber => (.returned (), { s with store := s.store.initialised subscriber })
          | .error place =>
              (.unwound (.text place.message),
                State.hooked { s with store := { s.store with initialisation := .poisoned } }
                  place.message) := by
  have read : Effect.read (·.initialisation) s = (.returned s.store.initialisation, s) := rfl
  refine (bind_of_returned read).trans ?_
  cases s.store.initialisation with
  | done | poisoned => rfl
  | «open» =>
      have environment : Effect.read (·.environment) s = (.returned s.store.environment, s) := rfl
      refine (bind_of_returned environment).trans ?_
      cases profile.subscriber s.store.environment <;> rfl

namespace Setup

/-- What the call tries to install when it is the first one, unless it unwinds. -/
def subscriber? (environment : Option String) : Setup → Option Subscriber
  | .init profile => (profile.subscriber environment).toOption
  | .capture => some .capture

/-- The call that decides where events go. An initialisation that unwound is never made up for. -/
def decisive? (environment : Option String) : List Setup → Option Setup
  | [] => none
  | call :: calls =>
      if (call.subscriber? environment).isSome then some call else calls.find? (· = .capture)

/-- The state behind the call, whether it returned or unwound. -/
def after (call : Setup) (s : State) : State :=
  (call.step.perform s).2

def behind (calls : List Setup) (s : State) : State :=
  calls.foldl (fun t call => call.after t) s

end Setup

/-- None of the calls was made so far. The host may have installed a subscriber. -/
structure State.Unused (s : State) : Prop where
  initialisation : s.store.initialisation = .open
  captureMade : s.store.captureMade = false

/-- The calls, each of them caught when it unwinds, and then the steps of a script. -/
def Script.afterAttempts (calls : List Setup) (script : Script) : Script :=
  calls.foldr
    (fun call next => .framed "try" .attempt (.simple call.word call.step .done) next) script

namespace Setup

variable {s t : State} {x : Subscriber} {calls : List Setup}

theorem live (call : Setup) (s : State) : (call.step.perform s).1.Live := by
  cases call with
  | capture => trivial
  | init profile => exact Effect.Lives.bind (Effect.Does.init profile).lives (fun _ => .pure _) s

theorem makes (call : Setup) : call.step.perform.Makes Change.Silent :=
  call.step.perform_makes.mono fun change able => by
    cases change with
    | log _ =>
        cases call <;> rcases able with same | ⟨_, _, _, same, _⟩ <;> exact nomatch same
    | clearCaptured => cases call <;> exact nomatch able
    | clearScope _ =>
        obtain ⟨_, same⟩ := able
        cases call <;> exact nomatch same
    | keep _ _ | make _ _ | clearSink _ | errorLine _ | hook _ | initialise _ | poison | makeCapture
    | openScope _ | closeScope => trivial

theorem after_idle (call : Setup) (s : State) : Idle s (call.after s) :=
  (call.makes s (call.live s)).lift fun u _ silent => silent.idle u

theorem behind_idle (calls : List Setup) (s : State) : Idle s (behind calls s) := by
  induction calls generalizing s with
  | nil => exact refl_of Idle s
  | cons call calls ih => exact trans_of Idle (call.after_idle s) (ih (call.after s))

theorem after_subscribed (call : Setup) (subscribed : s.store.subscriber = some x) :
    (call.after s).store.subscriber = some x :=
  (call.makes s (call.live s)).reaches.store.invariant (fun store => store.subscriber = some x)
    (fun _ change _ => change.subscriber_apply) subscribed

theorem behind_subscribed (subscribed : s.store.subscriber = some x) :
    (behind calls s).store.subscriber = some x := by
  induction calls generalizing s with
  | nil => exact subscribed
  | cons call calls ih => exact ih (call.after_subscribed subscribed)

/-- Behind a call that has tried to install a subscriber, nothing changes any more. -/
theorem behind_installed (installed : t.store.subscriber = s.store.subscriber.or (some x)) :
    (behind calls t).store.subscriber = s.store.subscriber.or (some x) := by
  cases host : s.store.subscriber with
  | none | some _ =>
      rw [host] at installed
      exact behind_subscribed installed

theorem after_capture (unmade : s.store.captureMade = false) :
    (after .capture s).store.subscriber = s.store.subscriber.or (some .capture) := by
  change s.store.makeCapture.subscriber = _
  rw [Store.makeCapture, unmade]
  rfl

theorem after_init (profile : Profile) (s : State) :
    after (.init profile) s = (Effect.init profile s).2 := by
  rw [after, step, Step.perform, Effect.bind_apply]
  generalize Effect.init profile s = result
  obtain ⟨ending, t⟩ := result
  cases ending <;> rfl

/-- As the first call, an initialisation unwinds when the environment cannot be read. -/
theorem subscriber?_eq_none_iff (unused : s.Unused) (call : Setup) :
    call.subscriber? s.store.environment = none ↔
      ∃ payload, (call.step.perform s).1 = .unwound payload := by
  have returned_ne {result : Result} (payload : Payload) :
      Ending.returned result ≠ .unwound payload := by
    intro same
    cases same
  cases call with
  | capture =>
      refine iff_of_false (Option.some_ne_none _) ?_
      rintro ⟨payload, same⟩
      exact returned_ne payload same
  | init profile =>
      have applied := Effect.init_apply profile s
      rw [unused.initialisation] at applied
      rw [subscriber?, step, Step.perform, Effect.bind_apply, applied]
      dsimp only
      cases profile.subscriber s.store.environment with
      | ok x =>
          refine iff_of_false (Option.some_ne_none x) ?_
          rintro ⟨payload, same⟩
          exact returned_ne payload same
      | error place => exact iff_of_true rfl ⟨_, rfl⟩

/-- Once an initialisation has unwound, only the capture is installed. -/
theorem behind_poisoned (poisoned : s.store.initialisation = .poisoned)
    (unmade : s.store.captureMade = false) (environment : Option String) :
    (behind calls s).store.subscriber =
      s.store.subscriber.or
        ((calls.find? (· = .capture)).bind (subscriber? environment)) := by
  induction calls generalizing s with
  | nil => exact (Option.or_none).symm
  | cons call calls ih =>
      change (behind calls (call.after s)).store.subscriber = _
      cases call with
      | capture => exact behind_installed (after_capture unmade)
      | init profile =>
          have hooked : after (.init profile) s = s.hooked Effect.poisonedMessage := by
            rw [after_init, Effect.init_apply, poisoned]
          -- The panic of this call reaches the hook, and nothing else.
          rw [hooked]
          exact ih poisoned unmade

/-- Behind the calls there is the host's subscriber, or else that of the call that decides. -/
theorem behind_unused (unused : s.Unused) :
    (behind calls s).store.subscriber =
      s.store.subscriber.or
        ((decisive? s.store.environment calls).bind (subscriber? s.store.environment)) := by
  cases calls with
  | nil => exact (Option.or_none).symm
  | cons call calls =>
      change (behind calls (call.after s)).store.subscriber = _
      cases call with
      | capture => exact behind_installed (after_capture unused.captureMade)
      | init profile =>
          rw [after_init, Effect.init_apply, unused.initialisation]
          dsimp only
          cases reads : profile.subscriber s.store.environment with
          | ok x =>
              have own : subscriber? s.store.environment (.init profile) = some x := by
                rw [subscriber?, reads]
                rfl
              rw [decisive?, own, Option.isSome_some, if_pos rfl, Option.bind_some, own]
              exact behind_installed rfl
          | error place =>
              have own : subscriber? s.store.environment (.init profile) = none := by
                rw [subscriber?, reads]
                rfl
              rw [decisive?, own, Option.isSome_none, if_neg Bool.false_ne_true]
              let poisoned := { s with store := { s.store with initialisation := .poisoned } }
              exact behind_poisoned (s := poisoned.hooked place.message) rfl unused.captureMade
                s.store.environment

end Setup

namespace Script

variable {body : Script} {path : List Nat} {s : State}

theorem left_attempt (call : Setup) (s : State) (path : List Nat) :
    ∃ result, Frame.attempt.leave s.thread ((simple call.word call.step .done).effect path s).1
        ((simple call.word call.step .done).effect path s).2 =
      (.returned result, call.after s) := by
  have live := call.live s
  rw [effect, Setup.after]
  cases performed : call.step.perform s with
  | mk ending t =>
      rw [performed] at live
      rw [run_simple performed]
      cases ending with
      | returned _ => exact ⟨.returned 1, rfl⟩
      | unwound payload => exact ⟨.caught payload, rfl⟩
      | halted _ => exact live.elim

theorem afterAttempts_cons (call : Setup) (calls : List Setup) :
    body.afterAttempts (call :: calls) =
      framed "try" .attempt (simple call.word call.step .done) (body.afterAttempts calls) := rfl

/-- Calls leave nothing but the state behind them, and entries in the trace. -/
theorem run_afterAttempts (calls : List Setup) (index : Nat) (s : State) :
    ∃ trace, (body.afterAttempts calls).run path index s =
      { body.run path (index + calls.length) (Setup.behind calls s) with trace := trace } := by
  induction calls generalizing index s with
  | nil => exact ⟨_, rfl⟩
  | cons call calls ih =>
      obtain ⟨result, left⟩ := left_attempt call s (path ++ [index])
      obtain ⟨trace, rest⟩ := ih (index + 1) (call.after s)
      have entry : Frame.attempt.enter s = (.returned (), s) := rfl
      rw [Nat.add_right_comm] at rest
      rw [afterAttempts_cons, run_framed entry left, followed, rest]
      exact ⟨_, rfl⟩

theorem events_afterAttempts (counts : State → Event → Bool) (calls : List Setup) (index : Nat)
    (s : State) :
    (body.afterAttempts calls).events counts path index s =
      body.events counts path (index + calls.length) (Setup.behind calls s) := by
  induction calls generalizing index s with
  | nil => rfl
  | cons call calls ih =>
      obtain ⟨result, left⟩ := left_attempt call s (path ++ [index])
      have entry : Frame.attempt.enter s = (.returned (), s) := rfl
      have nothing :
          (simple call.word call.step .done).events counts (path ++ [index]) 0 s = [] := by
        rw [events]
        cases call.step.perform s with
        | mk ending t => cases call <;> cases ending <;> rfl
      have rest := ih (index + 1) (call.after s)
      rw [Nat.add_right_comm] at rest
      rw [afterAttempts_cons, events_framed entry left, nothing]
      exact rest

end Script

/-- What a handle on the process-wide capture shows when it is asked for the events. -/
def Step.shown : Step → Result → List (List Captured)
  | .query none .events, .events events => [events]
  | _, _ => []

/-- All that handles on the process-wide capture show in a run, in order. -/
def Script.views (path : List Nat) (index : Nat) : Script → State → List (List Captured)
  | .done, _ => []
  | .guarded _ _ next, s => next.views path (index + 1) s
  | .simple _ st next, s =>
      match st.perform s with
      | (.returned result, t) => st.shown result ++ next.views path (index + 1) t
      | _ => []
  | .framed _ frame body next, s =>
      match frame.enter s with
      | (.returned _, entered) =>
          let inner := body.effect (path ++ [index]) entered
          body.views (path ++ [index]) 0 entered ++
            match frame.leave s.thread inner.1 inner.2 with
            | (.returned _, t) => next.views path (index + 1) t
            | _ => []
      | _ => []

/-- While a capture grows from one content to another, it is seen to grow. -/
structure Grows (before : List Captured) (views : List (List Captured)) (behind : List Captured) :
    Prop where
  longer : before <+: behind
  between : ∀ view ∈ views, before <+: view ∧ view <+: behind
  ordered : views.Pairwise (· <+: ·)

namespace Grows

variable {a b c d : List Captured} {first next : List (List Captured)}

theorem unseen (longer : a <+: b) : Grows a [] b :=
  ⟨longer, nofun, .nil⟩

theorem append (early : Grows a first b) (late : Grows b next c) : Grows a (first ++ next) c := by
  refine ⟨early.longer.trans late.longer, fun view member => ?_, ?_⟩
  · rcases List.mem_append.mp member with member | member
    · obtain ⟨above, below⟩ := early.between view member
      exact ⟨above, below.trans late.longer⟩
    · obtain ⟨above, below⟩ := late.between view member
      exact ⟨early.longer.trans above, below⟩
  · refine List.pairwise_append.mpr ⟨early.ordered, late.ordered, fun one first other next => ?_⟩
    exact (early.between one first).2.trans (late.between other next).1

theorem widen (before : a <+: b) (inside : Grows b next c) (behind : c <+: d) : Grows a next d := by
  refine ⟨(before.trans inside.longer).trans behind, fun view member => ?_, inside.ordered⟩
  obtain ⟨above, below⟩ := inside.between view member
  exact ⟨before.trans above, below.trans behind⟩

end Grows

section Views

variable {s t : State}

theorem Gains.longer {logged : List Event} (gains : Gains .shared logged s t) :
    s.store.captured <+: t.store.captured :=
  ⟨logged.map .ofEvent, gains.symm⟩

/-- Whichever handle is asked, it shows the one buffer that all of them share. -/
theorem Step.eq_captured_of_shown {st : Step} {result : Result}
    (performed : st.perform s = (.returned result, t)) :
    ∀ view ∈ st.shown result, view = t.store.captured := by
  intro view member
  cases st with
  | query capture question =>
      cases capture with
      | some _ => exact nomatch member
      | none =>
          cases question with
          | events =>
              cases performed
              exact List.mem_singleton.mp member
          | mismatchesForLabel _ | eventsForCase _ | count _ _ | expect _ _ | clear =>
              exact nomatch member
  | malformed _ | check _ _ | panic _ | resume _ | emit _ | writeLine _ _ | readSink _ | clearSink _
  | init _ | initCapture | log _ => exact nomatch member

theorem Step.grows {st : Step} {result : Result} (longer : s.store.captured <+: t.store.captured)
    (performed : st.perform s = (.returned result, t)) :
    Grows s.store.captured (st.shown result) t.store.captured := by
  have same := eq_captured_of_shown performed
  refine ⟨longer, fun view member => ?_, ?_⟩
  · rw [same view member]
    exact ⟨longer, List.prefix_refl _⟩
  · refine List.pairwise_of_forall_mem_list fun one first other next => ?_
    obtain rfl := same one first
    obtain rfl := same other next
    exact List.prefix_refl _

end Views

namespace Script

/-- In a run that does not clear it, the process-wide capture is seen to grow. -/
theorem run_grows {script : Script}
    (keeps : script.All (· ≠ .query none .clear) fun _ => True) (path : List Nat) (index : Nat)
    (s : State) (live : (script.run path index s).ending.Live) :
    Grows s.store.captured (script.views path index s)
      (script.run path index s).state.store.captured := by
  have account := account_gains .shared
  induction script generalizing path index s with
  | done => exact .unseen (List.prefix_refl _)
  | guarded word line next ih => exact ih keeps path (index + 1) s live
  | simple word st next ih =>
      cases performed : st.perform s with
      | mk ending t =>
          have gains := (Step.spares_shared keeps.1 s).told
          rw [Step.Told, performed] at gains
          rw [run_simple performed] at live ⊢
          rw [views, performed]
          cases ending with
          | halted cause => exact live.elim
          | unwound payload => exact .unseen (gains trivial).longer
          | returned result =>
              have rest := ih keeps.2 path (index + 1) t live
              exact (Step.grows (gains trivial).longer performed).append rest
  | framed word frame body next ihBody ihNext =>
      obtain ⟨entered, ending, t, entry, left, finished, ended⟩ := framed_of_live live
      have inside := ihBody keeps.2.1 (path ++ [index]) 0 entered (Ending.live_of_released finished)
      -- Around the body the capture may grow as well: a case logs before and behind it.
      have released := account.released (fun _ => account.refl _) finished
      have around : Grows s.store.captured (body.views (path ++ [index]) 0 entered)
          t.store.captured :=
        inside.widen (account.enter entry).longer
          (released.longer.trans (account.leave left ended).longer)
      rw [run_framed entry left] at live ⊢
      rw [views, entry]
      dsimp only
      rw [left]
      cases ending with
      | halted cause => exact live.elim
      | unwound payload =>
          rw [List.append_nil]
          exact around
      | returned result => exact around.append (ihNext keeps.2.2 path (index + 1) t live)

theorem released_grows {script : Script}
    (keeps : script.All (· ≠ .query none .clear) fun _ => True) (path : List Nat) (index : Nat)
    (s : State) (live : (script.run path index s).released.ending.Live) :
    Grows s.store.captured (script.views path index s)
      (script.run path index s).released.state.store.captured := by
  have account := account_gains .shared
  have lines := account.released (fun _ => account.refl _) live
  have grown := script.run_grows keeps path index s (Ending.live_of_released live)
  exact grown.widen (List.prefix_refl _) lines.longer

theorem all_afterAttempts (calls : List Setup) {body : Script}
    (keeps : body.All (· ≠ .query none .clear) fun _ => True) :
    (body.afterAttempts calls).All (· ≠ .query none .clear) fun _ => True := by
  induction calls with
  | nil => exact keeps
  | cons call calls ih => cases call <;> exact ⟨trivial, ⟨nofun, trivial⟩, ih⟩

/-- A subscriber receives what a run hands to it, and nothing twice. -/
theorem released_received {script : Script}
    (keeps : script.All (· ≠ .query none .clear) fun _ => True) (path : List Nat) (index : Nat)
    {s : State} {x : Subscriber} (subscribed : s.store.subscriber = some x)
    (live : (script.run path index s).released.ending.Live) :
    Received x (script.events State.hands path index s) s
      (script.run path index s).released.state := by
  have told : script.Meets (Step.Told State.hands (Serves x)) path index s :=
    .of_all (fun _ u keep => Step.serves keep u) keeps path index s
  exact (account_serves x).released ((account_serves x).run told) live subscribed

theorem runFrom_afterAttempts (body : Script) (calls : List Setup) (s : State) :
    ((body.afterAttempts calls).runFrom s).ending =
        (body.run [] calls.length (Setup.behind calls s)).released.ending ∧
      ((body.afterAttempts calls).runFrom s).state =
        (body.run [] calls.length (Setup.behind calls s)).released.state := by
  obtain ⟨trace, same⟩ := run_afterAttempts calls 0 s
  rw [runFrom, same, Nat.zero_add]
  exact ⟨rfl, rfl⟩

end Script

/-- Where events go behind calls that set the logging up is decided by the host's subscriber, or
else by the first call, or, when this is an initialisation that unwinds, by the first capture behind
it; no later call changes it. All handles on the process-wide capture show one buffer. Until it is
cleared, every event that is handed to the subscriber is received once, and later handles show what
earlier ones have shown. -/
theorem first_installer_decides (calls : List Setup) (body : Script) (s : State) (unused : s.Unused)
    (live : ((body.afterAttempts calls).runFrom s).ending.Live) :
    let script := body.afterAttempts calls
    let decided := s.store.subscriber.or
      ((Setup.decisive? s.store.environment calls).bind (Setup.subscriber? s.store.environment))
    let final := (script.runFrom s).state.store
    (∀ call : Setup, call.subscriber? s.store.environment = none ↔
      ∃ payload, (call.step.perform s).1 = .unwound payload) ∧
    (Setup.behind calls s).store.subscriber = decided ∧
    (∀ x, decided = some x → final.subscriber = some x) ∧
    (∀ st u result t, Step.perform st u = (.returned result, t) →
      ∀ view ∈ st.shown result, view = t.store.captured) ∧
    (body.All (· ≠ .query none .clear) (fun _ => True) →
      (∀ x, decided = some x →
        final.captured = s.store.captured ++ x.captures (script.events State.hands [] 0 s) ∧
        final.printed = s.store.printed ++ x.prints (script.events State.hands [] 0 s)) ∧
      (script.views [] 0 s).Pairwise (· <+: ·) ∧
      ∀ view ∈ script.views [] 0 s, view <+: final.captured) := by
  intro script decided final
  have installed : (Setup.behind calls s).store.subscriber = decided := Setup.behind_unused unused
  obtain ⟨ending, state⟩ := body.runFrom_afterAttempts calls s
  rw [ending] at live
  refine ⟨Setup.subscriber?_eq_none_iff unused, installed, fun x decides => ?_,
    fun _ _ _ _ => Step.eq_captured_of_shown,
    fun keeps => ⟨fun x decides => ?_, ?_⟩⟩
  · have becomes := body.released_becomes [] calls.length (Setup.behind calls s) live
    change (script.runFrom s).state.store.subscriber = _
    rw [state]
    exact becomes.store.invariant (fun store => store.subscriber = some x)
      (fun _ change _ => change.subscriber_apply) (installed.trans decides)
  · obtain ⟨_, captured, printed⟩ := Script.released_received keeps [] calls.length
      (installed.trans decides) live
    have idle := Setup.behind_idle calls s
    have ledger : script.events State.hands [] 0 s =
        body.events State.hands [] calls.length (Setup.behind calls s) := by
      rw [Script.events_afterAttempts, Nat.zero_add]
    rw [← state, idle.captured, ← ledger] at captured
    rw [← state, idle.printed, ← ledger] at printed
    exact ⟨captured, printed⟩
  · rw [← ending] at live
    obtain ⟨_, between, ordered⟩ :=
      Script.released_grows (Script.all_afterAttempts calls keeps) [] 0 s live
    exact ⟨ordered, fun view member => (between view member).2⟩

/-- A directive behind a blank; its target would be cut inside its letter. -/
def cutFilter : String := " é=info"

/-- An event, then another one behind an initialisation on a thread, and two looks at the events. -/
def asksTwice : Script :=
  .simple "log_start" (.log (.start Component.script "x" none))
    (.simple "events" (.query none .events)
      (.framed "thread" .thread (.simple "init" (.init .production) .done)
        (.simple "log_start" (.log (.start Component.script "y" none))
          (.simple "events" (.query none .events) .done))))

theorem first_installer_decides_asksTwice :
    let script := asksTwice.afterAttempts [.init .development, .capture, .init .test]
    let x := Captured.ofEvent (.start Component.script "x" none)
    let y := Captured.ofEvent (.start Component.script "y" none)
    script.views [] 0 (.fresh (some cutFilter)) = [[x], [x, y]] ∧
      (script.runFrom (.fresh (some cutFilter))).state.store.captured = [x, y] := by
  intro script x y
  have keeps : asksTwice.All (· ≠ .query none .clear) fun _ => True := by
    simp [asksTwice, Script.All]
  have returned : (script.runFrom (.fresh (some cutFilter))).ending = .returned 8 := by
    decide +kernel
  obtain ⟨_, _, _, _, received⟩ :=
    first_installer_decides [.init .development, .capture, .init .test]
    asksTwice (.fresh (some cutFilter)) ⟨rfl, rfl⟩ (by rw [returned]; trivial)
  obtain ⟨captured, _⟩ := (received keeps).1 .capture (by decide +kernel)
  have ledger : script.events State.hands [] 0 (.fresh (some cutFilter)) =
      [.start Component.script "x" none, .start Component.script "y" none] := by decide +kernel
  refine ⟨by decide +kernel, ?_⟩
  rw [captured, ledger]
  rfl

/-- An initialisation that unwinds because of its environment installs nothing, so that the capture,
which is made later, decides. -/
theorem capture_decides_after_unwound_init :
    (Setup.behind [.init .development] (.fresh (some cutFilter))).store.subscriber = none ∧
      (Setup.behind [.init .development, .capture] (.fresh (some cutFilter))).store.subscriber =
        some .capture ∧
      ((asksTwice.afterAttempts [.init .development, .capture]).runFrom
        (.fresh (some cutFilter))).state.store.captured =
          [.start Component.script "x" none, .start Component.script "y" none].map .ofEvent := by
  decide +kernel

end Assertions
