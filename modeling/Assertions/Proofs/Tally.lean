import Assertions.Proofs.AssertionContract
import Assertions.Proofs.Captures

/-!
Accounts of failures. A failure leaves a line with a sink or on the standard error stream, and an
event with a capture from which the line can be read again; a panic leaves a call of the hook. Each
single change is booked here once, as the lines that it wrote, the lines that its event tells of and
the calls of the hook that it made, and the books of two changes in a row are added up.
-/

namespace Assertions

namespace Sink

def lines : Sink → List String
  | .memory lines | .forwarding lines => lines
  | .counting _ | .panicking | .stderr => []

/-- Every line is kept as it is, here or on the standard error stream. -/
def Plain : Sink → Prop
  | .memory _ | .stderr => True
  | .forwarding _ | .counting _ | .panicking => False

end Sink

/-- The line of the failure that a mismatch event tells of. -/
def Captured.line? (c : Captured) : Option String :=
  if c.isMismatch then
    match c.label, c.field? FieldName.expected, c.field? FieldName.actual with
    | some label, some expected, some actual => some (Mismatch.line ⟨label, expected, actual⟩)
    | _, _, _ => none
  else none

/-- The place in the program that logs failed assertions. -/
def Event.mismatchSite : Site :=
  (Event.mismatch Component.assertion ⟨"", "", ""⟩).site

namespace Store

/-- All lines that are kept by sinks or were sent to the standard error stream. -/
def lines (store : Store) : List String :=
  store.sinks.flatMap (fun sink => sink.2.lines) ++ store.errorStream

/-- The lines that the mismatch events of all captures tell of. -/
def mismatchLines (store : Store) : List String :=
  (store.scopes.flatMap Scope.events ++ store.captured).filterMap Captured.line?

/-- No sink changes or refuses a line, and failed assertions are listened to: by a subscriber, which
hears of every site, or without one by the threads that have a capture. -/
structure Sound (store : Store) : Prop where
  plain : ∀ id, (store.sink id).Plain
  heard : store.subscriber.isSome ∨
    store.attention.settled.lookup Event.mismatchSite ≠ some false

/-- From one store to the next, lines were written, events were kept that tell of lines, and the
hook was called; sinks and captures stay. -/
structure Accounts (written told : List String) (calls : Nat) (a b : Store) : Prop where
  sound : b.Sound
  made : ∀ id, (a.sinks.lookup id).isSome → (b.sinks.lookup id).isSome
  opened : a.scopes.length ≤ b.scopes.length
  lines : b.lines.Perm (a.lines ++ written)
  mismatchLines : b.mismatchLines.Perm (a.mismatchLines ++ told)
  hook : ∃ messages, b.hook = a.hook ++ messages ∧ messages.length = calls

end Store

structure Thread.Fits (thread : Thread) (store : Store) : Prop where
  route : ∀ target, thread.route = some target →
    ∃ id, target = .sink id ∧ (store.sinks.lookup id).isSome
  scope : ∀ place, thread.scope = some place → place < store.scopes.length

namespace State

structure Ready (s : State) : Prop where
  sound : s.store.Sound
  fits : s.thread.Fits s.store

/-- The lines where the thread writes its own. -/
def written (s : State) : List String :=
  match s.thread.route with
  | some (.sink id) =>
      match s.store.sink id with
      | .stderr => s.store.errorStream
      | sink => sink.lines
  | _ => s.store.errorStream

/-- The lines that the events tell of where the thread keeps its own. -/
def told (s : State) : List String :=
  (s.store.events (s.thread.scope.elim .shared .own)).filterMap Captured.line?

end State

/-- The same between two states of one thread; what is written and kept in one place only is in the
order of time. -/
structure Tallies (still : Prop) (written told : List String) (calls : Nat) (s t : State) :
    Prop where
  thread : t.thread = s.thread
  store : s.store.Accounts written told calls t.store
  order : still → t.written = s.written ++ written ∧ t.told = s.told ++ told

theorem Thread.Fits.mono {thread : Thread} {a b : Store} {written told : List String} {calls : Nat}
    (fits : thread.Fits a) (h : a.Accounts written told calls b) : thread.Fits b := by
  constructor
  · intro target route
    obtain ⟨id, same, made⟩ := fits.route target route
    exact ⟨id, same, h.made id made⟩
  · exact fun place scope => Nat.lt_of_lt_of_le (fits.scope place scope) h.opened

theorem Captured.line?_of_not_isMismatch {c : Captured} (h : c.isMismatch = false) :
    c.line? = none := by
  rw [line?, h]
  rfl

namespace Store

variable {a b c : Store} {written told written' told' : List String} {calls calls' : Nat}

theorem Accounts.trans (h : a.Accounts written told calls b)
    (k : b.Accounts written' told' calls' c) :
    a.Accounts (written ++ written') (told ++ told') (calls + calls') c := by
  refine ⟨k.sound, fun id made => k.made id (h.made id made), Nat.le_trans h.opened k.opened,
    ?_, ?_, ?_⟩
  · rw [← List.append_assoc]
    exact k.lines.trans (h.lines.append_right written')
  · rw [← List.append_assoc]
    exact k.mismatchLines.trans (h.mismatchLines.append_right told')
  · obtain ⟨first, hook, length⟩ := h.hook
    obtain ⟨second, hook', length'⟩ := k.hook
    refine ⟨first ++ second, ?_, ?_⟩
    · rw [hook', hook, List.append_assoc]
    · rw [List.length_append, length, length']

theorem Accounts.of_kept (sound : a.Sound) (messages : List String) (sinks : b.sinks = a.sinks)
    (errorStream : b.errorStream = a.errorStream) (scopes : b.scopes = a.scopes)
    (captured : b.captured = a.captured)
    (subscriber : ∀ x, a.subscriber = some x → b.subscriber = some x)
    (attention : b.attention = a.attention)
    (hook : b.hook = a.hook ++ messages) : a.Accounts [] [] messages.length b := by
  refine ⟨⟨?_, ?_⟩, ?_, ?_, ?_, ?_, messages, hook, rfl⟩
  · simpa only [Store.sink, sinks] using sound.plain
  · rw [attention]
    refine sound.heard.imp_left fun subscribed => ?_
    obtain ⟨x, subscribed⟩ := Option.isSome_iff_exists.mp subscribed
    rw [subscriber x subscribed]
    rfl
  · rw [sinks]
    exact fun _ => id
  · exact Nat.le_of_eq (congrArg List.length scopes.symm)
  · rw [List.append_nil, Store.lines, Store.lines, sinks, errorStream]
  · rw [List.append_nil, Store.mismatchLines, Store.mismatchLines, scopes, captured]

theorem lines_put (sinks : List (String × Sink)) (id : String) {sink : Sink} {more : List String}
    (grown : sink.lines = ((sinks.lookup id).getD (.memory [])).lines ++ more) :
    ((Table.put sinks id sink).flatMap fun sink => sink.2.lines).Perm
      (sinks.flatMap (fun sink => sink.2.lines) ++ more) := by
  induction sinks with
  | nil =>
      have now : sink.lines = more := grown
      simp [Table.put, now]
  | cons entry rest ih =>
      obtain ⟨name, kept⟩ := entry
      by_cases same : name = id
      · subst same
        have now : sink.lines = kept.lines ++ more := by simpa using grown
        simp only [Table.put, if_pos, List.flatMap_cons, now, List.append_assoc]
        exact List.perm_append_comm.append_left kept.lines
      · have found : ((name, kept) :: rest).lookup id = rest.lookup id := by
          rw [List.lookup_cons, beq_eq_false_iff_ne.mpr (Ne.symm same)]
        rw [found] at grown
        simp only [Table.put, if_neg same, List.flatMap_cons, List.append_assoc]
        exact (ih grown).append_left kept.lines

theorem sink_changeSink_of_ne (store : Store) {id other : String} (f : Sink → Sink)
    (apart : other ≠ id) : (store.changeSink id f).sink other = store.sink other := by
  rw [sink, lookup_changeSink, if_neg apart, sink]

theorem Accounts.changeSink (sound : a.Sound) (id : String) {f : Sink → Sink}
    (plain : (f (a.sink id)).Plain) (grown : (f (a.sink id)).lines = (a.sink id).lines ++ written) :
    a.Accounts written [] 0 (a.changeSink id f) := by
  refine ⟨⟨?_, sound.heard⟩, ?_, Nat.le_refl _, ?_, ?_, [], ?_, rfl⟩
  · intro other
    by_cases same : other = id
    · rw [same, sink_changeSink]
      exact plain
    · rw [sink_changeSink_of_ne a f same]
      exact sound.plain other
  · intro other made
    rw [lookup_changeSink]
    split
    · rfl
    · exact made
  · have grows := lines_put a.sinks id grown
    change (List.flatMap _ (Table.put a.sinks id (f (a.sink id))) ++ a.errorStream).Perm _
    refine (grows.append_right a.errorStream).trans ?_
    rw [Store.lines, List.append_assoc, List.append_assoc]
    exact List.perm_append_comm.append_left _
  · rw [List.append_nil]
    exact .refl _
  · rw [List.append_nil]
    rfl

theorem Accounts.errorLine (sound : a.Sound) (line : String) :
    a.Accounts [line] [] 0 { a with errorStream := a.errorStream ++ [line] } := by
  refine ⟨⟨sound.plain, sound.heard⟩, fun _ => id, Nat.le_refl _, ?_, ?_, [], ?_, rfl⟩
  · rw [Store.lines, Store.lines, List.append_assoc]
  · rw [List.append_nil]
    exact .refl _
  · rw [List.append_nil]

end Store

/-- What a capture or the subscriber kept of an event that was logged in a state. -/
inductive Keeps (s : State) : List Captured → Store → Prop
  | nothing {store} (scopes : store.scopes = s.store.scopes)
      (captured : store.captured = s.store.captured) : Keeps s [] store
  | own {place c store} (scope : s.thread.scope = some place)
      (scopes : store.scopes = Store.record s.store.scopes place c)
      (captured : store.captured = s.store.captured) : Keeps s [c] store
  | shared {c store} (scope : s.thread.scope = none) (scopes : store.scopes = s.store.scopes)
      (captured : store.captured = s.store.captured ++ [c]) : Keeps s [c] store

theorem Keeps.withAttention {s : State} {word : List Captured} {store : Store}
    (h : Keeps s word store) (attention : Attention) :
    Keeps s word { store with attention := attention } := by
  cases h with
  | nothing scopes captured => exact .nothing scopes captured
  | own scope scopes captured => exact .own scope scopes captured
  | shared scope scopes captured => exact .shared scope scopes captured

namespace Attention

variable {a : Attention} {site : Site} {thread : Thread}

theorem hears_of_heard (heard : a.settled.lookup site ≠ some false) (scope : thread.scope.isSome) :
    a.hears thread site = true := by
  rw [hears]
  cases found : a.settled.lookup site with
  | none => simp [scope]
  | some listens =>
      rw [found] at heard
      simpa using heard

theorem heard_settle (heard : a.settled.lookup site ≠ some false) {other : Site}
    (here : other ≠ site ∨ thread.scope.isSome) :
    (a.settle thread other).settled.lookup site ≠ some false := by
  rw [settle]
  split
  · exact heard
  · simp only [List.lookup_append]
    cases found : a.settled.lookup site with
    | some listens =>
        rw [found] at heard
        exact heard
    | none =>
        by_cases same : other = site
        · subst same
          have scope := here.resolve_left fun apart => apart rfl
          simp [hears_of_heard heard scope]
        · have apart : (site == other) = false := beq_eq_false_iff_ne.mpr (Ne.symm same)
          simp [List.lookup_cons, apart]

theorem lookup_opened (a : Attention) (site : Site) :
    a.opened.settled.lookup site ≠ some false := by
  intro found
  obtain ⟨before, rest, same, _⟩ := List.lookup_eq_some_iff.mp found
  exact Bool.false_ne_true (a.whole_opened (site, false) (by simp [same]))

end Attention

namespace State

variable {s : State}

theorem receive_keeps (s : State) (event : Event) :
    Keeps s [.ofEvent event] (s.receive event) ∨
      s.recorder? = none ∧ Keeps s [] (s.receive event) := by
  rw [receive, recorder?]
  cases scope : s.thread.scope with
  | some place => exact .inl (.own scope rfl rfl)
  | none =>
      have scopes := s.store.publish_scopes event
      have captured := s.store.publish_captured event
      by_cases subscribed : s.store.subscriber = some .capture
      · rw [if_pos subscribed] at captured
        exact .inl (.shared scope scopes captured)
      · rw [if_neg subscribed, List.append_nil] at captured
        exact .inr ⟨if_neg subscribed, .nothing scopes captured⟩

theorem logged_keeps (s : State) (event : Event) :
    Keeps s [.ofEvent event] (s.logged event) ∨ Keeps s [] (s.logged event) := by
  rw [logged_eq]
  split
  · exact (s.receive_keeps event).imp (·.withAttention _) fun missed => missed.2.withAttention _
  · exact .inr (.nothing rfl rfl)

theorem Ready.logged_keeps (ready : s.Ready) (active : s.recorder?.isSome) {event : Event}
    (site : event.site = Event.mismatchSite) : Keeps s [.ofEvent event] (s.logged event) := by
  have received : Keeps s [.ofEvent event] (s.receive event) := by
    refine (s.receive_keeps event).resolve_right fun missed => ?_
    rw [missed.1] at active
    exact Bool.false_ne_true active
  have listens : s.listens event = true := by
    refine listens_of_active active ready.fits.scope (ready.sound.heard.imp_right fun heard => ?_)
    rw [site]
    exact Attention.hears_of_heard heard
  rw [logged_eq, if_pos listens]
  exact received.withAttention _

theorem heard_logged (ready : s.Ready) {event : Event}
    (here : event.site ≠ Event.mismatchSite ∨ s.recorder?.isSome) :
    (s.logged event).subscriber.isSome ∨
      (s.logged event).attention.settled.lookup Event.mismatchSite ≠ some false := by
  have subscriber : (s.logged event).subscriber = s.store.subscriber :=
    (s.logs_afterEvent event).subscriber
  rw [subscriber]
  refine ready.sound.heard.imp_right fun heard => ?_
  rw [logged_eq]
  change (s.settled event).settled.lookup Event.mismatchSite ≠ some false
  rw [settled]
  split
  · exact heard
  · rename_i installed
    exact Attention.heard_settle heard (here.imp_right fun active =>
      scope_of_active active fun subscribed => installed (by rw [subscribed, Bool.true_or]))

end State

theorem Store.Accounts.openScope {s : State} (sound : s.store.Sound) (name : String) :
    s.store.Accounts [] [] 0 (s.openScope name).store := by
  refine ⟨⟨sound.plain, .inr (s.store.attention.lookup_opened _)⟩, fun _ => id, ?_, ?_, ?_, [], ?_,
    rfl⟩
  · simp [State.openScope]
  · rw [List.append_nil]
    exact .refl _
  · simp [State.openScope, Store.mismatchLines]
  · exact (List.append_nil _).symm

theorem Store.Accounts.closeScope {s : State} (sound : s.store.Sound) (earlier : Option Nat) :
    s.store.Accounts [] [] 0 (s.closeScope earlier).store := by
  refine ⟨⟨sound.plain, sound.heard⟩, fun _ => id, Nat.le_refl _, ?_, ?_, [], ?_, rfl⟩
  · rw [List.append_nil]
    exact .refl _
  · rw [List.append_nil]
    exact .refl _
  · exact (List.append_nil _).symm

theorem Store.events_flatMap_record {scopes : List Scope} {place : Nat}
    (opened : place < scopes.length) (c : Captured) :
    ((record scopes place c).flatMap Scope.events).Perm (scopes.flatMap Scope.events ++ [c]) := by
  induction scopes generalizing place with
  | nil => exact absurd opened (Nat.not_lt_zero place)
  | cons scope scopes ih =>
      cases place with
      | zero =>
          simp only [record, List.modify_zero_cons, List.flatMap_cons, List.append_assoc]
          exact List.perm_append_comm.append_left scope.events
      | succ place =>
          have rest := ih (Nat.lt_of_succ_lt_succ opened)
          simp only [record, List.modify_succ_cons, List.flatMap_cons, List.append_assoc] at rest ⊢
          exact rest.append_left scope.events

namespace Keeps

variable {s : State} {word : List Captured} {store : Store}

theorem length (h : Keeps s word store) : store.scopes.length = s.store.scopes.length := by
  cases h with
  | nothing scopes captured | shared scope scopes captured => rw [scopes]
  | own scope scopes captured => rw [scopes, Store.length_record]

theorem mismatchLines (h : Keeps s word store) (fits : s.thread.Fits s.store) :
    store.mismatchLines.Perm (s.store.mismatchLines ++ word.filterMap Captured.line?) := by
  rw [Store.mismatchLines, Store.mismatchLines, ← List.filterMap_append]
  refine List.Perm.filterMap _ ?_
  cases h with
  | nothing scopes captured => rw [scopes, captured, List.append_nil]
  | own scope scopes captured =>
      rw [scopes, captured, List.append_assoc]
      refine ((Store.events_flatMap_record (fits.scope _ scope) _).append_right _).trans ?_
      rw [List.append_assoc]
      exact List.perm_append_comm.append_left _
  | shared scope scopes captured => rw [scopes, captured, List.append_assoc]

theorem told (h : Keeps s word store) (fits : s.thread.Fits s.store) :
    (State.mk s.thread store).told = s.told ++ word.filterMap Captured.line? := by
  rw [State.told, State.told, ← List.filterMap_append]
  congr 1
  cases h with
  | nothing scopes captured =>
      rw [List.append_nil]
      cases s.thread.scope <;> simp [Store.events, scopes, captured]
  | own scope scopes captured =>
      rw [scope]
      simp [Store.events, scopes, Store.events_record (fits.scope _ scope)]
  | shared scope scopes captured =>
      rw [scope]
      exact captured

end Keeps

namespace Tallies

variable {still : Prop} {s t u : State} {written told written' told' : List String}
  {calls calls' : Nat}

theorem ready (h : Tallies still written told calls s t) (ready : s.Ready) : t.Ready := by
  refine ⟨h.store.sound, ?_⟩
  rw [h.thread]
  exact ready.fits.mono h.store

theorem trans (h : Tallies still written told calls s t)
    (k : Tallies still written' told' calls' t u) :
    Tallies still (written ++ written') (told ++ told') (calls + calls') s u := by
  refine ⟨k.thread.trans h.thread, h.store.trans k.store, fun quiet => ?_⟩
  obtain ⟨lines, events⟩ := h.order quiet
  obtain ⟨lines', events'⟩ := k.order quiet
  constructor
  · rw [lines', lines, List.append_assoc]
  · rw [events', events, List.append_assoc]

theorem of_kept (ready : s.Ready) (messages : List String) (thread : t.thread = s.thread)
    (sinks : t.store.sinks = s.store.sinks)
    (errorStream : t.store.errorStream = s.store.errorStream)
    (scopes : t.store.scopes = s.store.scopes) (captured : t.store.captured = s.store.captured)
    (subscriber : ∀ x, s.store.subscriber = some x → t.store.subscriber = some x)
    (attention : t.store.attention = s.store.attention)
    (hook : t.store.hook = s.store.hook ++ messages) :
    Tallies still [] [] messages.length s t := by
  refine ⟨thread, .of_kept ready.sound messages sinks errorStream scopes captured subscriber
    attention hook, fun _ => ⟨?_, ?_⟩⟩
  · simp only [State.written, Store.sink, thread, sinks, errorStream, List.append_nil]
  · rw [List.append_nil, State.told, State.told, thread]
    cases s.thread.scope <;> simp [Store.events, scopes, captured]

theorem refl (ready : s.Ready) : Tallies still [] [] 0 s s :=
  of_kept ready [] rfl rfl rfl rfl rfl (fun _ => id) rfl (List.append_nil _).symm

theorem hooked (ready : s.Ready) (message : String) :
    Tallies still [] [] 1 s (s.hooked message) :=
  of_kept ready [message] rfl rfl rfl rfl rfl (fun _ => id) rfl rfl

theorem of_keeps (ready : s.Ready) {event : Event} {word : List Captured}
    (here : event.site ≠ Event.mismatchSite ∨ s.recorder?.isSome)
    (keeps : Keeps s word (s.logged event)) :
    Tallies still [] (word.filterMap Captured.line?) 0 s (s.afterEvent event) := by
  have fits := ready.fits
  obtain ⟨_, sinks, errorStream, hook⟩ := s.logs_afterEvent event
  refine ⟨rfl, ⟨⟨?_, State.heard_logged ready here⟩, ?_, ?_, ?_, ?_, [], ?_, rfl⟩,
    fun _ => ⟨?_, keeps.told fits⟩⟩
  · simpa only [Store.sink, sinks] using ready.sound.plain
  · rw [sinks]
    exact fun _ => id
  · exact Nat.le_of_eq keeps.length.symm
  · rw [List.append_nil, Store.lines, Store.lines, sinks, errorStream]
  · exact keeps.mismatchLines fits
  · rw [hook, List.append_nil]
  · have thread : (s.afterEvent event).thread = s.thread := rfl
    simp only [State.written, Store.sink, thread, sinks, errorStream, List.append_nil]

theorem silent (ready : s.Ready) {event : Event}
    (other : (Captured.ofEvent event).isMismatch = false) (site : event.site ≠ Event.mismatchSite) :
    Tallies still [] [] 0 s (s.afterEvent event) := by
  -- Wherever the event is kept, no line can be read from it.
  rcases s.logged_keeps event with keeps | keeps
  · have booked : Tallies still [] _ 0 s _ := of_keeps ready (.inl site) keeps
    rwa [List.filterMap_cons_none (Captured.line?_of_not_isMismatch other)] at booked
  · exact of_keeps ready (.inl site) keeps

theorem sent (ready : s.Ready) {line : String} (sends : Sends line s (.returned ()) t) :
    Tallies still [line] [] 0 s t := by
  have nothing (told : List String) : told = told ++ [] := (List.append_nil told).symm
  cases sends with
  | unrouted route =>
      refine ⟨rfl, .errorLine ready.sound line, fun _ => ⟨?_, nothing _⟩⟩
      simp only [State.written, State.onErrorStream, route]
  | stderr route kind =>
      refine ⟨rfl, .errorLine ready.sound line, fun _ => ⟨?_, nothing _⟩⟩
      have kind' : (s.onErrorStream line).store.sink _ = .stderr := kind
      simp only [State.written, State.onErrorStream, route, kind] at kind' ⊢
      rw [kind']
  | memory route kind =>
      refine ⟨rfl, .changeSink ready.sound _ ?_ ?_, fun _ => ⟨?_, nothing _⟩⟩
      · rw [kind]
        trivial
      · rw [kind]
        rfl
      · simp only [State.written, State.kept, route, Store.sink_changeSink, kind]
        rfl
  | inside route =>
      obtain ⟨id, same, _⟩ := ready.fits.route _ route
      cases same
  | @counting id _ route kind | @forwarding id _ route kind =>
      have plain := ready.sound.plain id
      rw [kind] at plain
      exact plain.elim

theorem reported (ready : s.Ready) (active : s.recorder?.isSome) {m : Mismatch}
    (sends : Sends m.line s (.returned ()) t) :
    Tallies still [m.line] [m.line] 0 s (t.afterEvent (.mismatch Component.assertion m)) := by
  have written : Tallies still [m.line] [] 0 s t := sent ready sends
  have active' : t.recorder?.isSome := by
    rw [State.recorder?, written.thread]
    cases sends <;> exact active
  have ready' := written.ready ready
  have keeps : Keeps t [.ofEvent (.mismatch Component.assertion m)] _ :=
    ready'.logged_keeps active' rfl
  exact written.trans (of_keeps ready' (.inr active') keeps)

theorem made (ready : s.Ready) (id : String) {kind : SinkKind} (plain : kind.sink.Plain) :
    Tallies still [] [] 0 s { s with store := s.store.made id kind } := by
  rw [Store.made]
  split
  · exact refl ready
  · rename_i unmade
    have absent : s.store.sink id = .memory [] := by
      rw [Store.sink, Option.not_isSome_iff_eq_none.mp unmade]
      rfl
    have grown : kind.sink.lines = (s.store.sink id).lines ++ [] := by
      rw [absent]
      cases kind with
      | memory | stderr => rfl
      | forwarding | counting | panicking => exact plain.elim
    have booked : s.store.Accounts [] [] 0 (s.store.changeSink id fun _ => kind.sink) :=
      .changeSink ready.sound id plain grown
    refine ⟨rfl, booked, fun _ => ⟨?_, ?_⟩⟩
    · rw [List.append_nil, State.written, State.written]
      cases route : s.thread.route with
      | none => rfl
      | some target =>
          -- The sink that the thread routes to was made before, so it is another one.
          obtain ⟨routed, rfl, made⟩ := ready.fits.route target route
          have apart : routed ≠ id := by
            rintro rfl
            exact unmade made
          dsimp only
          rw [Store.sink_changeSink_of_ne _ _ apart]
          rfl
    · rw [List.append_nil]
      rfl

end Tallies

end Assertions
