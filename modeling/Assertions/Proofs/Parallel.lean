import Assertions.Proofs.Growth
import Assertions.Proofs.Listening

/-!
Two runs of one script side by side. They start in states that may hold different contents, and
the second one may hold captures that the first does not. No step consults any of this, so both
runs take the same course, and the stores grow alike. Which events are heard must not differ either:
a subscriber hears all of them, or the same sites are settled in both runs, or both threads listen
and no other thread is started.
-/

namespace Assertions

variable {α β : Type} {asks listen : Prop} {a b : Store}

def Target.id : Target → String
  | .sink id | .inside id => id

/-- The same route, to a sink of one kind, and the same capture. -/
structure ThreadsAlike (a b : Store) (x y : Thread) : Prop where
  route : y.route = x.route
  known : ∀ target, x.route = some target → SameKind a b target.id
  scope : y.scope = x.scope.map (shift a.scopes b.scopes)

/-- The same events are heard on both threads. -/
structure HeardAlike (listen : Prop) (s t : State) : Prop where
  listening : listen → s.Listening ∧ t.Listening
  otherwise : listen ∨ s.store.subscriber.isSome ∨
    t.store.attention = s.store.attention ∧ t.store.scopes.length = s.store.scopes.length

theorem HeardAlike.congr {s t s' t' : State} (h : HeardAlike listen s t) (first : s.HearsAs s')
    (second : t.HearsAs t') : HeardAlike listen s' t' := by
  refine ⟨fun both => ?_, ?_⟩
  · exact ⟨(h.listening both).1.congr first, (h.listening both).2.congr second⟩
  · rw [first.subscriber, first.attention, first.opened, second.attention, second.opened]
    exact h.otherwise

/-- States that two runs have reached side by side, from the stores `a` and `b`. -/
structure Parallel (asks listen : Prop) (a b : Store) (s t : State) : Prop where
  thread : ThreadsAlike a b s.thread t.thread
  store : StoresAlike asks a b s.store t.store
  heard : HeardAlike listen s t

/-- Steps that neither read back nor clear a sink or a capture. -/
def Step.Blind : Step → Prop
  | .readSink _ | .clearSink _ | .initCapture | .query _ _ => False
  | _ => True

/-- The sinks that a step names. -/
def Step.sinks : Step → List String
  | .writeLine sink _ | .readSink sink | .clearSink sink => [sink.id]
  | _ => []

def Frame.sinks : Frame → List String
  | .routed sink => [sink.id]
  | _ => []

def Script.sinks : Script → List String
  | .done => []
  | .simple _ st next => st.sinks ++ next.sinks
  | .guarded _ _ next => next.sinks
  | .framed _ frame body next => frame.sinks ++ body.sinks ++ next.sinks

theorem Script.All.with_sinks {step : Step → Prop} {frame : Frame → Prop} {script : Script}
    (all : script.All step frame) {p : String → Prop} (known : ∀ id ∈ script.sinks, p id) :
    script.All (fun st => step st ∧ ∀ id ∈ st.sinks, p id)
      (fun fr => frame fr ∧ ∀ id ∈ fr.sinks, p id) := by
  induction script with
  | done => trivial
  | simple word st next ih =>
      simp only [sinks, List.mem_append] at known
      exact ⟨⟨all.1, fun id h => known id (.inl h)⟩, ih all.2 fun id h => known id (.inr h)⟩
  | guarded word line next ih => exact ih all known
  | framed word fr body next ihBody ihNext =>
      simp only [sinks, List.mem_append] at known
      exact ⟨⟨all.1, fun id h => known id (.inl (.inl h))⟩,
        ihBody all.2.1 fun id h => known id (.inl (.inr h)),
        ihNext all.2.2 fun id h => known id (.inr h)⟩

theorem StoresAlike.kind {a' b' : Store} (h : StoresAlike asks a b a' b') {id : String}
    (known : SameKind a b id) : (b'.sink id).kind = (a'.sink id).kind := by
  have kinds := (h.growth.sinks id known).kinds known
  simp only [Store.sink]
  cases left : a'.sinks.lookup id <;> cases right : b'.sinks.lookup id <;>
    simp [left, right] at kinds ⊢
  exact kinds.symm

theorem StoresAlike.unmade {a' b' : Store} (h : StoresAlike asks a b a' b') {id : String}
    (known : SameKind a b id) :
    (b'.sinks.lookup id).isSome = (a'.sinks.lookup id).isSome := by
  have kinds := (h.growth.sinks id known).kinds known
  have same := congrArg Option.isSome kinds
  rw [Option.isSome_map, Option.isSome_map] at same
  exact same.symm

namespace Parallel

variable {s t : State}

/-- Changes that have nothing to do with what is heard. -/
theorem withStores (h : Parallel asks listen a b s t) {x y : Store}
    (store : StoresAlike asks a b x y) (first : s.HearsAs ⟨s.thread, x⟩)
    (second : t.HearsAs ⟨t.thread, y⟩) :
    Parallel asks listen a b ⟨s.thread, x⟩ ⟨t.thread, y⟩ :=
  ⟨h.thread, store, h.heard.congr first second⟩

theorem receive (h : Parallel asks listen a b s t) (earlier : a.scopes.length ≤ b.scopes.length)
    (event : Event) : StoresAlike asks a b (s.receive event) (t.receive event) := by
  simp only [State.receive]
  rw [h.thread.scope]
  cases s.thread.scope with
  | none => exact h.store.publish event
  | some place => exact h.store.record earlier place _

theorem isEmpty_eq (length : t.store.scopes.length = s.store.scopes.length) :
    t.store.scopes.isEmpty = s.store.scopes.isEmpty := by
  rw [Bool.eq_iff_iff, List.isEmpty_iff_length_eq_zero, List.isEmpty_iff_length_eq_zero, length]

section Unshared

variable (h : Parallel asks listen a b s t) (attention : t.store.attention = s.store.attention)
  (length : t.store.scopes.length = s.store.scopes.length)
include h attention

theorem hears (site : Site) :
    t.store.attention.hears t.thread site = s.store.attention.hears s.thread site := by
  simp only [Attention.hears]
  rw [attention, h.thread.scope, Option.isSome_map]

include length

theorem listens (event : Event) : t.listens event = s.listens event := by
  rw [State.listens, h.store.subscriber, isEmpty_eq length, h.hears attention]
  rfl

theorem settled (event : Event) : t.settled event = s.settled event := by
  rw [State.settled, h.store.subscriber, isEmpty_eq length, Attention.settle, h.hears attention,
    attention]
  rfl

end Unshared

theorem logged (h : Parallel asks listen a b s t) (earlier : a.scopes.length ≤ b.scopes.length)
    (event : Event) : StoresAlike asks a b (s.logged event) (t.logged event) := by
  have received := h.receive earlier event
  rcases h.heard.otherwise with both | installed | ⟨attention, length⟩
  · obtain ⟨first, second⟩ := h.heard.listening both
    rw [first.logged_eq, second.logged_eq]
    exact received.withAttention _ _
  · have installed' : t.store.subscriber.isSome := by rwa [h.store.subscriber]
    rw [State.logged_of_installed installed, State.logged_of_installed installed']
    exact received
  · rw [State.logged_eq, State.logged_eq, h.listens attention length]
    split
    · exact received.withAttention _ _
    · exact h.store.withAttention _ _

theorem heard_logged (h : Parallel asks listen a b s t) (event : Event) :
    HeardAlike listen (s.afterEvent event) (t.afterEvent event) := by
  have first := s.logs_afterEvent event
  have second := t.logs_afterEvent event
  refine ⟨fun both => ?_, ?_⟩
  · obtain ⟨left, right⟩ := h.heard.listening both
    exact ⟨left.afterEvent event, right.afterEvent event⟩
  · rw [first.subscriber, first.opened, second.opened]
    refine h.heard.otherwise.imp_right fun alike => alike.imp_right ?_
    rintro ⟨attention, length⟩
    refine ⟨?_, length⟩
    change (t.logged event).attention = (s.logged event).attention
    rw [State.logged_eq, State.logged_eq]
    exact h.settled attention length event

theorem keepLine {id : String} (known : SameKind a b id) (line : String) :
    (Effect.keepLine id line).Agree (Parallel asks listen a b) :=
  .change fun _ _ h => h.withStores (h.store.keep known line) ⟨rfl, rfl, rfl, rfl⟩
    ⟨rfl, rfl, rfl, rfl⟩

theorem errorLine (line : String) : (Effect.errorLine line).Agree (Parallel asks listen a b) :=
  .change fun _ _ h => h.withStores (h.store.errorLine line) ⟨rfl, rfl, rfl, rfl⟩
    ⟨rfl, rfl, rfl, rfl⟩

theorem panic (payload : Payload) :
    (Effect.panic payload : Effect α).Agree (Parallel asks listen a b) :=
  .panic fun _ _ message h => h.withStores (h.store.hook message) ⟨rfl, rfl, rfl, rfl⟩
    ⟨rfl, rfl, rfl, rfl⟩

theorem deliver {id : String} (known : SameKind a b id) (line : String) :
    (Effect.deliver (.sink id) line).Agree (Parallel asks listen a b) := by
  intro s t h
  have kind := h.store.kind known
  rw [Effect.deliver_apply, Effect.deliver_apply]
  -- The kinds are the same, whatever the two sinks hold.
  cases left : s.store.sink id <;> cases right : t.store.sink id <;>
    rw [left, right] at kind <;> try cases kind
  · exact keepLine known line s t h
  · exact keepLine known _ s t h
  · exact keepLine known line s t h
  · exact panic _ s t h
  · exact errorLine line s t h

theorem emit (line : String) : (Effect.emit line).Agree (Parallel asks listen a b) := by
  intro s t h
  simp only [Effect.emit]
  rw [h.thread.route]
  cases route : s.thread.route with
  | none => exact errorLine line s t h
  | some target =>
      have known := h.thread.known target route
      cases target with
      | inside id => exact keepLine known line s t h
      | sink id => exact deliver known line s t h

theorem mention {sink : SinkRef} (known : SameKind a b sink.id) :
    (Effect.mention sink).Agree (Parallel asks listen a b) := by
  intro s t h
  have made (u : State) : Effect.read (fun store => store.sinks.lookup sink.id) u =
    (.returned (u.store.sinks.lookup sink.id), u) := rfl
  rw [Effect.mention]
  rw [Effect.bind_of_returned (made s), Effect.bind_of_returned (made t), h.store.unmade known]
  cases found : s.store.sinks.lookup sink.id with
  | some _ => exact ⟨rfl, h⟩
  | none =>
      cases sink.kind with
      | none => exact ⟨rfl, h⟩
      | some kind =>
          exact ⟨rfl, h.withStores (h.store.make known kind.sink found) ⟨rfl, rfl, rfl, rfl⟩
            ⟨rfl, rfl, rfl, rfl⟩⟩

theorem log (earlier : a.scopes.length ≤ b.scopes.length) (event : Event) :
    (Effect.log event).Agree (Parallel asks listen a b) :=
  fun _ _ h => ⟨rfl, h.thread, h.logged earlier event, h.heard_logged event⟩

/-- Once a subscriber is installed all events are heard. -/
theorem initialise (h : Parallel asks listen a b s t) (subscriber : Subscriber) :
    Parallel asks listen a b ⟨s.thread, s.store.initialised subscriber⟩
      ⟨t.thread, t.store.initialised subscriber⟩ := by
  have installed (store : Store) : (store.initialised subscriber).subscriber.isSome := by
    simp [Store.initialised, Store.install]
  refine ⟨h.thread, h.store.initialise subscriber, fun both => ?_, .inr (.inl (installed _))⟩
  obtain ⟨left, right⟩ := h.heard.listening both
  exact ⟨⟨.inl (installed _), left.scope⟩, ⟨.inl (installed _), right.scope⟩⟩

theorem init (asked : asks) (profile : Profile) :
    (Effect.init profile).Agree (Parallel asks listen a b) := by
  refine .bind (.read fun _ _ h => (h.store.initialisation asked).symm) fun initialisation => ?_
  cases initialisation with
  | done => exact .pure ()
  | poisoned => exact panic _
  | «open» =>
      refine .bind (.read fun _ _ h => h.store.environment.symm) fun environment => ?_
      cases profile.subscriber environment with
      | ok subscriber => exact .change fun _ _ h => h.initialise subscriber
      | error place =>
          refine .bind (.change fun _ _ h => ?_) fun _ => panic _
          exact h.withStores h.store.poison ⟨rfl, rfl, rfl, rfl⟩ ⟨rfl, rfl, rfl, rfl⟩

theorem perform (earlier : a.scopes.length ≤ b.scopes.length) {st : Step} (blind : st.Blind)
    (asked : asks ∨ st.Passing) (known : ∀ id ∈ st.sinks, SameKind a b id) :
    st.perform.Agree (Parallel asks listen a b) := by
  cases st with
  | malformed field => exact .halt _
  | check label assertion =>
      exact .bind (Effect.check_agree emit (log earlier) panic label assertion) fun _ => .pure _
  | panic payload => exact panic payload
  | resume payload => exact .unwind payload
  | emit line => exact .bind (emit line) fun _ => .pure _
  | writeLine sink line =>
      have same := known sink.id (List.mem_singleton.mpr rfl)
      exact .bind (mention same) fun _ => .bind (deliver same line) fun _ => .pure _
  | init profile => exact .bind (init (asked.resolve_right id) profile) fun _ => .pure _
  | log event => exact .bind (log earlier event) fun _ => .pure _
  | readSink _ | clearSink _ | initCapture | query _ _ => exact blind.elim

theorem openScope (h : Parallel asks listen a b s t) (earlier : a.scopes.length ≤ b.scopes.length)
    (name : String) : Parallel asks listen a b (s.openScope name) (t.openScope name) := by
  refine ⟨⟨h.thread.route, h.thread.known, ?_⟩, ?_, fun _ => ?_, ?_⟩
  · obtain ⟨n, left, right⟩ := h.store.growth.scopes.opened
    change some t.store.scopes.length = some (shift a.scopes b.scopes s.store.scopes.length)
    rw [shift, left, right, if_neg (by omega), Nat.add_sub_cancel_left]
  · exact (h.store.openScope earlier ⟨name, []⟩).withAttention _ _
  · exact ⟨(s.records_openScope name).listening, (t.records_openScope name).listening⟩
  · refine h.heard.otherwise.imp_right fun alike => alike.imp_right ?_
    rintro ⟨attention, length⟩
    exact ⟨congrArg Attention.opened attention, by simp [State.openScope, length]⟩

theorem enter (earlier : a.scopes.length ≤ b.scopes.length) {frame : Frame}
    (here : listen → frame.Local) (known : ∀ id ∈ frame.sinks, SameKind a b id) :
    frame.enter.Agree (Parallel asks listen a b) := by
  cases frame with
  | routed sink =>
      have same := known sink.id (List.mem_singleton.mpr rfl)
      refine .bind (mention same) fun _ s t h => ⟨rfl, ?_, h.store, ?_⟩
      · refine ⟨rfl, ?_, h.thread.scope⟩
        rintro target ⟨⟩
        exact same
      · exact h.heard.congr ⟨rfl, rfl, rfl, rfl⟩ ⟨rfl, rfl, rfl, rfl⟩
  | case name onFailure => exact log earlier _
  | attempt => exact .pure ()
  | thread =>
      refine fun s t h => ⟨rfl, ⟨rfl, fun _ route => (nomatch route), rfl⟩, h.store, ?_, ?_⟩
      · exact fun both => (here both).elim
      · exact h.heard.otherwise
  | captured name => exact fun s t h => ⟨rfl, h.openScope earlier name⟩

/-- Putting back the threads of related states keeps related states related. -/
theorem restore {s t s' t' : State} (outer : Parallel asks listen a b s t)
    (inner : Parallel asks listen a b s' t') {frame : Frame} (here : listen → frame.Local)
    (first : s'.thread = (frame.enter s).2.thread) (second : t'.thread = (frame.enter t).2.thread) :
    Parallel asks listen a b (frame.restore s.thread s') (frame.restore t.thread t') := by
  cases frame with
  | routed sink =>
      exact ⟨⟨outer.thread.route, outer.thread.known, inner.thread.scope⟩, inner.store,
        inner.heard.congr ⟨rfl, rfl, rfl, rfl⟩ ⟨rfl, rfl, rfl, rfl⟩⟩
  | case _ _ | attempt => exact inner
  | thread =>
      exact ⟨outer.thread, inner.store, fun both => (here both).elim, inner.heard.otherwise⟩
  | captured name =>
      refine ⟨⟨inner.thread.route, inner.thread.known, outer.thread.scope⟩,
        inner.store.withAttention _ _, fun both => ?_, ?_⟩
      · -- Both captures were opened by the threads that close them.
        obtain ⟨left, right⟩ := outer.heard.listening both
        obtain ⟨left', right'⟩ := inner.heard.listening both
        exact ⟨left.closed left' (congrArg Thread.scope first),
          right.closed right' (congrArg Thread.scope second)⟩
      · refine inner.heard.otherwise.imp_right fun alike => alike.imp_right ?_
        exact fun same => ⟨congrArg Attention.closed same.1, same.2⟩

theorem frame (earlier : a.scopes.length ≤ b.scopes.length) {fr : Frame}
    (here : listen → fr.Local) (known : ∀ id ∈ fr.sinks, SameKind a b id) :
    fr.Agree (Parallel asks listen a b) where
  enter := enter earlier here known
  leave _ _ outer ending _ _ inner first second :=
    Frame.conclude_agree (log earlier) panic fr ending _ _ (outer.restore inner here first second)

end Parallel

/-- A list of blind steps that names sinks of one kind only takes the same course in both runs. -/
theorem Script.run_parallel (earlier : a.scopes.length ≤ b.scopes.length) (script : Script)
    (blind : script.All Step.Blind fun _ => True)
    (asked : asks ∨ script.All Step.Passing fun _ => True)
    (here : listen → script.All (fun _ => True) Frame.Local)
    (known : ∀ id ∈ script.sinks, SameKind a b id) (path : List Nat) (index : Nat) {s t : State}
    (related : Parallel asks listen a b s t) :
    Run.Agree (Parallel asks listen a b) (script.run path index s).released
      (script.run path index t).released := by
  have passing : script.All (fun st => asks ∨ st.Passing) fun _ => True := by
    rcases asked with asked | passing
    · exact blind.mono (fun _ _ => .inl asked) fun _ _ => trivial
    · exact passing.mono (fun _ => .inr) fun _ _ => trivial
  have stays : script.All (fun _ => True) fun fr => listen → fr.Local := by
    by_cases both : listen
    · exact (here both).mono (fun _ _ => trivial) fun _ h _ => h
    · exact .of_forall (fun _ => trivial) (fun _ h => absurd h both) script
  have all := ((blind.and passing).and stays).with_sinks known
  exact (script.run_agree (fun _ h => Parallel.perform earlier h.1.1.1 h.1.1.2 h.2) Parallel.emit
    (fun _ h => Parallel.frame earlier h.1.2 h.2) all path index related).released Parallel.emit

end Assertions
