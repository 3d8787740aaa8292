import Assertions.Proofs.Changes

/-!
Where events are kept. A recorder is a capture that was opened for a body, or the process-wide
one. On every thread at most one recorder is active. An event that is logged there is appended to
this recorder and leaves every other one as it was, provided that the thread listens: a subscriber
is installed, or all sites that were reached are listened to. Besides, a subscriber may print the
event, and nothing else changes.
-/

namespace Assertions

inductive Recorder where
  | own (place : Nat)
  | shared
  deriving DecidableEq, Repr

/-- What the capture at a place holds; nothing before it was opened. -/
def eventsAt (scopes : List Scope) (place : Nat) : List Captured :=
  (scopes[place]?.map Scope.events).getD []

def Store.events (store : Store) : Recorder → List Captured
  | .own place => eventsAt store.scopes place
  | .shared => store.captured

/-- The capture was opened. -/
def Store.holds (store : Store) : Recorder → Bool
  | .own place => place < store.scopes.length
  | .shared => true

/-- What is printed when these events are handed to the subscriber. -/
def Subscriber.prints : Subscriber → List Event → List Printed
  | .capture, _ | .bare, _ => []
  | .lines filter, handed => (handed.filter filter.passes).map fun event => .line event.line
  | .records filter, handed => (handed.filter filter.passes).map Event.record

/-- All sites that were reached are listened to. -/
def Attention.Whole (a : Attention) : Prop :=
  ∀ site ∈ a.settled, site.2 = true

namespace State

/-- The innermost capture of the thread, or else the process-wide one when it is subscribed. -/
def recorder? (s : State) : Option Recorder :=
  match s.thread.scope with
  | some place => some (.own place)
  | none => if s.store.subscriber = some .capture then some .shared else none

/-- Some capture or subscriber receives the event. -/
def listens (s : State) (event : Event) : Bool :=
  s.store.subscriber.isSome ||
    (!s.store.scopes.isEmpty && s.store.attention.hears s.thread event.site)

/-- What is listened to after the event was logged: without a subscriber and once a capture was
opened, the site of the event is settled. -/
def settled (s : State) (event : Event) : Attention :=
  if s.store.subscriber.isSome || s.store.scopes.isEmpty then s.store.attention
  else s.store.attention.settle s.thread event.site

/-- An event that is logged in this state reaches the capture. -/
def keeps (r : Recorder) (s : State) (event : Event) : Bool :=
  s.listens event && s.recorder? == some r && s.store.holds r

/-- What is printed of an event that is logged in this state. -/
def prints (s : State) (event : Event) : List Printed :=
  match s.thread.scope, s.store.subscriber with
  | none, some subscriber => subscriber.prints [event]
  | _, _ => []

/-- The capture of the thread was opened, and no event on its way there is lost. -/
structure Listening (s : State) : Prop where
  heard : s.store.subscriber.isSome ∨ (s.thread.scope.isSome → s.store.attention.Whole)
  scope : ∀ place, s.thread.scope = some place → place < s.store.scopes.length

/-- What decides which events the thread hears is in `t` as it is in `s`. -/
structure HearsAs (s t : State) : Prop where
  scope : t.thread.scope = s.thread.scope
  subscriber : t.store.subscriber = s.store.subscriber
  attention : t.store.attention = s.store.attention
  opened : t.store.scopes.length = s.store.scopes.length

theorem Listening.congr {s t : State} (h : s.Listening) (same : s.HearsAs t) : t.Listening := by
  constructor
  · rw [same.subscriber, same.scope, same.attention]
    exact h.heard
  · rw [same.scope, same.opened]
    exact h.scope

/-- What a recorder receives of an event. -/
def heard (s : State) (event : Event) (r : Recorder) : List Captured :=
  if s.recorder? = some r then [.ofEvent event] else []

theorem heard_congr {s t : State} (scope : t.thread.scope = s.thread.scope)
    (subscriber : t.store.subscriber = s.store.subscriber) : t.heard = s.heard := by
  unfold heard recorder?
  rw [scope, subscriber]

end State

namespace Attention

variable {a : Attention}

theorem Whole.hears (whole : a.Whole) {thread : Thread} (scope : thread.scope.isSome)
    (site : Site) : a.hears thread site = true := by
  rw [Attention.hears]
  cases found : a.settled.lookup site with
  | none => simp [scope]
  | some heard =>
      obtain ⟨before, rest, same, _⟩ := List.lookup_eq_some_iff.mp found
      exact whole (site, heard) (by simp [same])

theorem Whole.settle (whole : a.Whole) {thread : Thread} (scope : thread.scope.isSome)
    (site : Site) : (a.settle thread site).Whole := by
  rw [Attention.settle]
  split
  · exact whole
  · intro other member
    rcases List.mem_append.mp member with old | new
    · exact whole other old
    · rw [List.mem_singleton.mp new]
      exact whole.hears scope site

theorem whole_opened (a : Attention) : a.opened.Whole := by
  intro site member
  obtain ⟨_, _, rfl⟩ := List.mem_map.mp member
  rfl

end Attention

namespace Store

theorem length_record (scopes : List Scope) (place : Nat) (event : Captured) :
    (record scopes place event).length = scopes.length :=
  List.length_modify _ _ _

theorem names_record (scopes : List Scope) (place : Nat) (event : Captured) :
    (record scopes place event).map Scope.name = scopes.map Scope.name := by
  induction scopes generalizing place with
  | nil => cases place <;> rfl
  | cons scope scopes ih =>
      cases place with
      | zero => rfl
      | succ place => exact congrArg (scope.name :: ·) (ih place)

theorem events_record {scopes : List Scope} {place : Nat} (opened : place < scopes.length)
    (event : Captured) (other : Nat) :
    eventsAt (record scopes place event) other =
      eventsAt scopes other ++ if place = other then [event] else [] := by
  simp only [record, eventsAt]
  rw [List.getElem?_modify]
  by_cases h : place = other
  · subst h
    simp [List.getElem?_eq_getElem opened]
  · cases scopes[other]? <;> simp [h]

theorem record_of_unopened {scopes : List Scope} {place : Nat} (unopened : scopes.length ≤ place)
    (event : Captured) : record scopes place event = scopes :=
  List.modify_eq_self unopened

theorem eventsAt_clear (scopes : List Scope) (cleared place : Nat) :
    eventsAt (scopes.modify cleared Scope.clear) place =
      if cleared = place then [] else eventsAt scopes place := by
  simp only [eventsAt, List.getElem?_modify]
  by_cases same : cleared = place
  · cases scopes[place]? <;> simp [same, Scope.clear]
  · simp [same]

/-- A subscriber stays, whatever is done to install another one. -/
theorem subscriber_install {store : Store} {x : Subscriber} (subscribed : store.subscriber = some x)
    (other : Subscriber) : (store.install other).subscriber = some x :=
  congrArg (Option.or · (some other)) subscribed

theorem subscriber_makeCapture {store : Store} {x : Subscriber}
    (subscribed : store.subscriber = some x) : store.makeCapture.subscriber = some x := by
  rw [makeCapture]
  split
  · exact subscribed
  · exact subscriber_install subscribed .capture

theorem publish_subscriber (store : Store) (event : Event) :
    (store.publish event).subscriber = store.subscriber := by
  rw [publish]
  repeat' split
  all_goals rfl

theorem publish_scopes (store : Store) (event : Event) :
    (store.publish event).scopes = store.scopes := by
  rw [publish]
  repeat' split
  all_goals rfl

theorem publish_captured (store : Store) (event : Event) :
    (store.publish event).captured =
      store.captured ++ if store.subscriber = some .capture then [.ofEvent event] else [] := by
  cases sub : store.subscriber with
  | none => simp [publish, sub]
  | some subscriber =>
      cases subscriber with
      | capture | bare => simp [publish, sub]
      | lines filter | records filter =>
          simp only [publish, sub]
          split <;> simp

theorem publish_of_none {store : Store} (missing : store.subscriber = none) (event : Event) :
    store.publish event = store := by
  rw [publish, missing]

theorem publish_prints {store : Store} {subscriber : Subscriber}
    (subscribed : store.subscriber = some subscriber) (event : Event) :
    (store.publish event).printed = store.printed ++ subscriber.prints [event] := by
  rw [publish, subscribed]
  cases subscriber with
  | capture | bare => exact (List.append_nil _).symm
  | lines filter | records filter =>
      cases passes : filter.passes event <;> simp [Subscriber.prints, passes]

end Store

namespace State

theorem receive_names (s : State) (event : Event) :
    (s.receive event).scopes.map Scope.name = s.store.scopes.map Scope.name := by
  rw [receive]
  split
  · exact Store.names_record _ _ _
  · rw [Store.publish_scopes]

/-- What a thread receives is appended to its capture, if that was opened. -/
theorem receive_events (s : State) (event : Event) (r : Recorder) :
    (s.receive event).events r =
      s.store.events r ++
        if s.recorder? = some r ∧ s.store.holds r = true then [.ofEvent event] else [] := by
  rw [receive, recorder?]
  cases active : s.thread.scope with
  | some place =>
      cases r with
      | shared => simp [Store.events]
      | own other =>
          by_cases opened : place < s.store.scopes.length
          · simp only [Store.events, Store.events_record opened]
            by_cases same : place = other
            · subst same
              simp [Store.holds, opened]
            · simp [same]
          · have stays := Store.record_of_unopened (Nat.not_lt.mp opened) (.ofEvent event)
            simp only [Store.events, stays]
            by_cases same : place = other
            · subst same
              simp [Store.holds, opened]
            · simp [same]
  | none =>
      cases r with
      | own other =>
          simp only [Store.events, Store.publish_scopes]
          split <;> simp
      | shared =>
          simp only [Store.events, Store.publish_captured]
          split <;> simp [Store.holds]

theorem receive_attention (s : State) (event : Event) :
    (s.receive event).attention = s.store.attention := by
  rw [receive, Store.publish]
  repeat' split
  all_goals rfl

/-- All that logging does: an event that is listened to is received, and its site is settled. -/
theorem logged_eq (s : State) (event : Event) :
    s.logged event =
      { (if s.listens event then s.receive event else s.store) with
        attention := s.settled event } := by
  have stays := s.receive_attention event
  rw [logged, listens, settled]
  cases s.store.subscriber.isSome with
  | true =>
      change s.receive event = { s.receive event with attention := s.store.attention }
      rw [← stays]
  | false =>
      cases s.store.scopes.isEmpty with
      | true => rfl
      | false => cases s.store.attention.hears s.thread event.site <;> rfl

theorem logged_of_installed {s : State} (installed : s.store.subscriber.isSome) (event : Event) :
    s.logged event = s.receive event :=
  if_pos installed

theorem receive_printed (s : State) (event : Event) :
    (s.receive event).printed = s.store.printed ++ s.prints event := by
  rw [receive, prints]
  cases s.thread.scope with
  | some place => exact (List.append_nil _).symm
  | none =>
      cases subscribed : s.store.subscriber with
      | some subscriber => exact Store.publish_prints subscribed event
      | none =>
          dsimp only
          rw [Store.publish_of_none subscribed]
          exact (List.append_nil _).symm

theorem logged_events (s : State) (event : Event) (r : Recorder) :
    (s.logged event).events r =
      if s.listens event then (s.receive event).events r else s.store.events r := by
  rw [logged_eq]
  cases s.listens event <;> cases r <;> rfl

/-- A logged event is appended to the capture that it reaches, and to no other one. -/
theorem events_afterEvent (s : State) (event : Event) (r : Recorder) :
    (s.afterEvent event).store.events r =
      s.store.events r ++ if s.keeps r event then [.ofEvent event] else [] := by
  change (s.logged event).events r = _
  rw [logged_events, receive_events]
  cases listens : s.listens event <;> by_cases active : s.recorder? = some r <;>
    cases holds : s.store.holds r <;> simp [keeps, listens, active, holds]

/-- A subscriber listens to every event. -/
theorem subscriber_of_unheard {s : State} {event : Event} (unheard : s.listens event = false) :
    s.store.subscriber = none :=
  Option.isNone_iff_eq_none.mp
    (Option.isSome_eq_false_iff.mp (Bool.or_eq_false_iff.mp unheard).1)

/-- An event that is not listened to would not be printed either. -/
theorem logged_printed (s : State) (event : Event) :
    (s.logged event).printed = s.store.printed ++ s.prints event := by
  rw [logged_eq]
  cases listens : s.listens event with
  | true => exact s.receive_printed event
  | false =>
      have silent : s.prints event = [] := by
        rw [prints, subscriber_of_unheard listens]
        cases s.thread.scope <;> rfl
      rw [silent, List.append_nil]
      rfl

theorem openScope_events (s : State) (name : String) (r : Recorder) :
    (s.openScope name).store.events r = s.store.events r := by
  cases r with
  | shared => rfl
  | own place =>
      simp only [Store.events, eventsAt, State.openScope]
      rcases Nat.lt_trichotomy place s.store.scopes.length with h | h | h
      · rw [List.getElem?_append_left h]
      · subst h
        simp
      · rw [List.getElem?_eq_none (Nat.le_of_lt h), List.getElem?_eq_none]
        rw [List.length_append]
        exact h

theorem receive_frame (s : State) (event : Event) :
    ∃ scopes captured printed,
      s.receive event =
        { s.store with scopes := scopes, captured := captured, printed := printed } ∧
      scopes.map Scope.name = s.store.scopes.map Scope.name := by
  refine ⟨(s.receive event).scopes, (s.receive event).captured, (s.receive event).printed, ?_,
    s.receive_names event⟩
  rw [receive, Store.publish]
  repeat' split
  all_goals rfl

/-- Logging an event changes only what keeps or hears events. -/
theorem logged_frame (s : State) (event : Event) :
    ∃ scopes attention captured printed,
      s.logged event = { s.store with
        scopes := scopes, attention := attention, captured := captured, printed := printed } ∧
      scopes.map Scope.name = s.store.scopes.map Scope.name := by
  obtain ⟨scopes, captured, printed, same, names⟩ := s.receive_frame event
  rw [logged_eq]
  split
  · rw [same]
    exact ⟨scopes, _, captured, printed, rfl, names⟩
  · exact ⟨_, _, _, _, rfl, rfl⟩

/-- Without a subscriber only the capture of the thread can be the active one. -/
theorem scope_of_active {s : State} (active : s.recorder?.isSome)
    (installed : ¬ s.store.subscriber.isSome) : s.thread.scope.isSome := by
  cases scope : s.thread.scope with
  | some place => rfl
  | none =>
      rw [recorder?, scope] at active
      simp [Option.not_isSome_iff_eq_none.mp installed] at active

/-- Where a capture is active, an event is listened to if a subscriber is installed or its site is
listened to on the thread. -/
theorem listens_of_active {s : State} {event : Event} (active : s.recorder?.isSome)
    (scope : ∀ place, s.thread.scope = some place → place < s.store.scopes.length)
    (heard : s.store.subscriber.isSome ∨
      (s.thread.scope.isSome → s.store.attention.hears s.thread event.site = true)) :
    s.listens event = true := by
  rw [State.listens]
  by_cases installed : s.store.subscriber.isSome
  · rw [installed, Bool.true_or]
  · have inside := scope_of_active active installed
    obtain ⟨place, same⟩ := Option.isSome_iff_exists.mp inside
    have opened : s.store.scopes.isEmpty = false := List.isEmpty_eq_false_iff.mpr
      (List.ne_nil_of_length_pos (Nat.zero_lt_of_lt (scope place same)))
    rw [opened, heard.resolve_left installed inside]
    exact Bool.or_true _

namespace Listening

variable {s : State}

theorem listens (h : s.Listening) (active : s.recorder?.isSome) (event : Event) :
    s.listens event = true :=
  listens_of_active active h.scope
    (h.heard.imp_right fun whole inside => (whole inside).hears inside event.site)

/-- Whatever is not listened to would be received by nobody. -/
theorem logged_eq (h : s.Listening) (event : Event) :
    s.logged event = { s.receive event with attention := s.settled event } := by
  rw [State.logged_eq]
  cases listens : s.listens event with
  | true => rfl
  | false =>
      have silent : s.receive event = s.store := by
        rw [receive]
        cases scope : s.thread.scope with
        | some place =>
            have active : s.recorder?.isSome := by rw [recorder?, scope]; rfl
            rw [h.listens active event] at listens
            cases listens
        | none => exact Store.publish_of_none (subscriber_of_unheard listens) event
      rw [silent]
      rfl

theorem holds (h : s.Listening) {r : Recorder} (active : s.recorder? = some r) :
    s.store.holds r = true := by
  rw [recorder?] at active
  cases scope : s.thread.scope with
  | some place =>
      rw [scope] at active
      cases active
      exact decide_eq_true (h.scope place scope)
  | none =>
      rw [scope] at active
      dsimp only at active
      split at active <;> cases active
      rfl

theorem keeps_eq (h : s.Listening) (r : Recorder) (event : Event) :
    s.keeps r event = (s.recorder? == some r) := by
  rw [keeps]
  by_cases active : s.recorder? = some r
  · rw [h.listens (by rw [active]; rfl) event, h.holds active, Bool.true_and, Bool.and_true]
  · rw [beq_eq_false_iff_ne.mpr active, Bool.and_false, Bool.false_and]

/-- An event goes to the active recorder, and to no other one. -/
theorem events (h : s.Listening) (event : Event) (r : Recorder) :
    (s.afterEvent event).store.events r = s.store.events r ++ s.heard event r := by
  rw [events_afterEvent, h.keeps_eq, State.heard]
  simp only [beq_iff_eq]

end Listening

end State

/-- What becomes of an event that is logged. The recorder that it reaches gains it, and no other one
gains anything; where the thread listens, that is the active recorder. A subscriber that prints
prints it, and whatever else can be seen stays. -/
structure Logs (event : Event) (s t : State) : Prop where
  thread : t.thread = s.thread
  sinks : t.store.sinks = s.store.sinks
  errorStream : t.store.errorStream = s.store.errorStream
  hook : t.store.hook = s.store.hook
  subscriber : t.store.subscriber = s.store.subscriber
  initialisation : t.store.initialisation = s.store.initialisation
  captureMade : t.store.captureMade = s.store.captureMade
  environment : t.store.environment = s.store.environment
  names : t.store.scopes.map Scope.name = s.store.scopes.map Scope.name
  printed : t.store.printed = s.store.printed ++ s.prints event
  events : ∀ r, t.store.events r =
    s.store.events r ++ if s.keeps r event then [.ofEvent event] else []
  listening : s.Listening → ∀ r, t.store.events r =
    s.store.events r ++ if s.recorder? = some r then [.ofEvent event] else []

theorem Logs.opened {event : Event} {s t : State} (h : Logs event s t) :
    t.store.scopes.length = s.store.scopes.length := by
  have names := congrArg List.length h.names
  rwa [List.length_map, List.length_map] at names

namespace State

theorem logs_afterEvent (s : State) (event : Event) : Logs event s (s.afterEvent event) := by
  obtain ⟨scopes, attention, captured, printed, same, names⟩ := s.logged_frame event
  have store : (s.afterEvent event).store = _ := same
  refine ⟨rfl, ?_, ?_, ?_, ?_, ?_, ?_, ?_, ?_, s.logged_printed event, s.events_afterEvent event,
    fun hears r => hears.events event r⟩
  all_goals rw [store]
  exact names

theorem Listening.afterEvent {s : State} (h : s.Listening) (event : Event) :
    (s.afterEvent event).Listening := by
  have logs := s.logs_afterEvent event
  constructor
  · rw [logs.subscriber]
    refine h.heard.imp_right fun whole scope => ?_
    change (s.logged event).attention.Whole
    rw [State.logged_eq]
    change (s.settled event).Whole
    rw [settled]
    split
    · exact whole scope
    · exact (whole scope).settle scope event.site
  · rw [logs.opened]
    exact h.scope

/-- The capture is active on the thread, and no event on its way there is lost. -/
structure Records (s : State) (r : Recorder) : Prop where
  listening : s.Listening
  active : s.recorder? = some r

/-- Only the capture of the thread, the subscriber and what is listened to count. -/
theorem Records.congr {s t : State} {r : Recorder} (records : s.Records r)
    (scope : t.thread.scope = s.thread.scope) (subscriber : t.store.subscriber = s.store.subscriber)
    (attention : t.store.attention = s.store.attention)
    (scopes : t.store.scopes = s.store.scopes) : t.Records r := by
  obtain ⟨⟨heard, opened⟩, active⟩ := records
  rw [recorder?, ← scope, ← subscriber] at active
  rw [← scope, ← subscriber, ← attention] at heard
  rw [← scope, ← scopes] at opened
  exact ⟨⟨heard, opened⟩, active⟩

/-- A capture is active from when it is opened, whatever happened before. -/
theorem records_openScope (s : State) (name : String) :
    (s.openScope name).Records (.own s.store.scopes.length) := by
  refine ⟨⟨.inr fun _ => s.store.attention.whole_opened, ?_⟩, rfl⟩
  rintro place ⟨⟩
  simp [State.openScope]

/-- The process-wide capture is active on every thread without one of its own. -/
theorem records_shared {s : State} (scope : s.thread.scope = none)
    (subscriber : s.store.subscriber = some .capture) : s.Records .shared := by
  refine ⟨⟨.inl (by rw [subscriber]; rfl), ?_⟩, ?_⟩
  · rw [scope]
    exact fun _ active => nomatch active
  · rw [recorder?, scope, subscriber]
    rfl

end State

/-- The capture holds what it held before. -/
def Untouched (r : Recorder) (s t : State) : Prop :=
  t.store.events r = s.store.events r

/-- Changes that no capture notices. -/
def Change.Silent : Change → Prop
  | .log _ | .clearCaptured | .clearScope _ => False
  | _ => True

theorem Change.OfLine.silent {change : Change} (h : change.OfLine) : change.Silent := by
  cases change <;> trivial

theorem Change.Silent.untouched {change : Change} (silent : change.Silent) (s : State)
    {r : Recorder} : Untouched r s (change.apply s) := by
  cases change with
  | log _ | clearCaptured | clearScope _ => exact silent.elim
  | openScope name => exact s.openScope_events name r
  | make id kind =>
      change (s.store.made id kind).events r = _
      rw [Store.made]
      split <;> cases r <;> rfl
  | makeCapture =>
      change s.store.makeCapture.events r = _
      rw [Store.makeCapture]
      split <;> cases r <;> rfl
  | keep _ _ | clearSink _ | errorLine _ | hook _ | initialise _ | poison | closeScope =>
      cases r <;> rfl

theorem Query.askScope_of_none {name : String} {s : State} (unknown : s.store.placeOf? name = none)
    (question : Query) :
    question.askScope name s = (.halted (.malformed "capture"), s) := by
  have read : Effect.read (·.placeOf? name) s = (.returned none, s) := by
    rw [← unknown]
    rfl
  exact Effect.bind_of_returned read

theorem Query.askScope_of_some {name : String} {s : State} {place : Nat}
    (found : s.store.placeOf? name = some place) (question : Query) :
    question.askScope name s =
      question.answer (eventsAt s.store.scopes place)
        (if question.clears then
          { s with store := { s.store with scopes := s.store.scopes.modify place Scope.clear } }
        else s) := by
  have read : Effect.read (·.placeOf? name) s = (.returned (some place), s) := by
    rw [← found]
    rfl
  refine (Effect.bind_of_returned read).trans ?_
  cases question <;> rfl

end Assertions
