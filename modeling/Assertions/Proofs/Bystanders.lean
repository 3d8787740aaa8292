import Assertions.Proofs.Captures
import Assertions.Proofs.Runs

/-!
Captures that stand by. Two runs of one script may start where different captures have been opened
before, and where different sites are listened to. As long as no step asks for a capture, both runs
do the same to everything else. Where they listen alike and ask only for captures that they opened
themselves, these are the same too: they come behind the captures that stand by, which stay as they
are.
-/

namespace Assertions

variable {α β : Type} {whole : Prop} {a b : List Scope}

/-- The same store with other captures, and with other sites listened to. -/
def Store.hosting (store : Store) (scopes : List Scope) (attention : Attention) : Store :=
  { store with scopes := scopes, attention := attention }

/-- The stores differ in their captures and in what is listened to, and in nothing else. -/
def Store.DiffersInScopes (a b : Store) : Prop :=
  b = a.hosting b.scopes b.attention

/-- What was opened since the captures `a` and `b` is the same, and what is listened to is the same
or does not matter. -/
structure OpensAlike (a b : List Scope) (s t : State) : Prop where
  scope : ∃ place? : Option Nat, s.thread.scope = place?.map (a.length + ·) ∧
    t.thread.scope = place?.map (b.length + ·)
  own : ∃ own, s.store.scopes = a ++ own ∧ t.store.scopes = b ++ own
  heard : s.store.subscriber.isSome ∨
    t.store.attention = s.store.attention ∧ a.isEmpty = b.isEmpty

/-- Two states of runs that started beside the captures `a` and the captures `b`: they differ in
their captures, and where the whole is compared only in the ones that stand by. -/
structure Beside (whole : Prop) (a b : List Scope) (s t : State) : Prop where
  route : t.thread.route = s.thread.route
  active : t.thread.scope.isSome = s.thread.scope.isSome
  store : s.store.DiffersInScopes t.store
  opens : whole → OpensAlike a b s t

/-- A change that neither looks at captures nor at what is listened to. -/
structure Store.Unaware (f : Store → Store) : Prop where
  hosting : ∀ store scopes attention,
    f (store.hosting scopes attention) = (f store).hosting scopes attention
  subscriber : ∀ store, store.subscriber.isSome → (f store).subscriber.isSome

namespace Store.Unaware

theorem scopes {f : Store → Store} (unaware : Unaware f) (store : Store) :
    (f store).scopes = store.scopes := by
  have hosted : f store = (f store).hosting store.scopes store.attention := unaware.hosting ..
  rw [hosted]
  rfl

theorem attention {f : Store → Store} (unaware : Unaware f) (store : Store) :
    (f store).attention = store.attention := by
  have hosted : f store = (f store).hosting store.scopes store.attention := unaware.hosting ..
  rw [hosted]
  rfl

theorem install (subscriber : Subscriber) : Unaware (·.install subscriber) where
  hosting _ _ _ := rfl
  subscriber store installed := by
    change (store.subscriber.or _).isSome
    rw [Option.or_of_isSome installed]
    exact installed

theorem makeCapture : Unaware Store.makeCapture where
  hosting store scopes attention := by
    rw [Store.makeCapture, Store.makeCapture]
    change (if store.captureMade = true then _ else _) = _
    split <;> rfl
  subscriber store installed := by
    rw [Store.makeCapture]
    split
    · exact installed
    · exact (install .capture).subscriber store installed

theorem publish (event : Event) : Unaware (·.publish event) where
  hosting store scopes attention := by
    cases subscribed : store.subscriber with
    | none => simp [Store.publish, Store.hosting, subscribed]
    | some subscriber =>
        cases subscriber with
        | capture | bare => simp [Store.publish, Store.hosting, subscribed]
        | lines filter | records filter =>
            simp only [Store.publish, Store.hosting, subscribed]
            split <;> simp [subscribed]
  subscriber store installed := by
    rw [Store.publish_subscriber]
    exact installed

end Store.Unaware

namespace OpensAlike

variable {s t : State}

theorem apply {f : Store → Store} (unaware : Store.Unaware f) (h : OpensAlike a b s t) :
    OpensAlike a b { s with store := f s.store } { t with store := f t.store } := by
  obtain ⟨own, left, right⟩ := h.own
  refine ⟨h.scope, ⟨own, ?_, ?_⟩, ?_⟩
  · exact (unaware.scopes s.store).trans left
  · exact (unaware.scopes t.store).trans right
  · refine h.heard.imp (unaware.subscriber s.store) ?_
    rintro ⟨attention, empty⟩
    dsimp only
    rw [unaware.attention, unaware.attention]
    exact ⟨attention, empty⟩

theorem withAttention (h : OpensAlike a b s t) {x y : Attention}
    (alike : t.store.attention = s.store.attention → y = x) :
    OpensAlike a b { s with store := { s.store with attention := x } }
      { t with store := { t.store with attention := y } } :=
  ⟨h.scope, h.own, h.heard.imp_right fun heard => ⟨alike heard.1, heard.2⟩⟩

/-- What was opened since the start may change in the same way on both sides. -/
theorem changeOwn (h : OpensAlike a b s t) {x y : List Scope} (f : List Scope → List Scope)
    (left : ∀ own, s.store.scopes = a ++ own → x = a ++ f own)
    (right : ∀ own, t.store.scopes = b ++ own → y = b ++ f own) :
    OpensAlike a b { s with store := { s.store with scopes := x } }
      { t with store := { t.store with scopes := y } } := by
  obtain ⟨own, opened, opened'⟩ := h.own
  exact ⟨h.scope, ⟨f own, left own opened, right own opened'⟩, h.heard⟩

/-- What a thread receives goes behind the captures that stand by. -/
theorem receive (h : OpensAlike a b s t) (event : Event) :
    OpensAlike a b { s with store := s.receive event } { t with store := t.receive event } := by
  obtain ⟨place?, left, right⟩ := h.scope
  rw [State.receive, State.receive, left, right]
  cases place? with
  | none => exact h.apply (.publish event)
  | some place =>
      have records {c own scopes : List Scope} (opened : scopes = c ++ own) :
          Store.record scopes (c.length + place) (.ofEvent event) =
            c ++ Store.record own place (.ofEvent event) := by
        rw [opened]
        exact List.modifyTailIdx_add _ place c own
      exact h.changeOwn (Store.record · place (.ofEvent event)) (fun _ => records) fun _ => records

theorem hears (h : OpensAlike a b s t) (alike : t.store.attention = s.store.attention)
    (site : Site) :
    t.store.attention.hears t.thread site = s.store.attention.hears s.thread site := by
  obtain ⟨place?, left, right⟩ := h.scope
  simp only [Attention.hears]
  rw [alike, left, right, Option.isSome_map, Option.isSome_map]

theorem isEmpty_eq (h : OpensAlike a b s t) (empty : a.isEmpty = b.isEmpty) :
    t.store.scopes.isEmpty = s.store.scopes.isEmpty := by
  obtain ⟨own, left, right⟩ := h.own
  rw [left, right]
  cases own with
  | nil => rw [List.append_nil, List.append_nil, empty]
  | cons _ _ => cases a <;> cases b <;> rfl

section Subscribed

variable (h : OpensAlike a b s t) (subscriber : t.store.subscriber = s.store.subscriber)
include h subscriber

theorem listens (event : Event) : t.listens event = s.listens event := by
  rw [State.listens, State.listens, subscriber]
  rcases h.heard with installed | ⟨alike, empty⟩
  · rw [installed, Bool.true_or, Bool.true_or]
  · rw [h.isEmpty_eq empty, h.hears alike]

theorem settled (alike : t.store.attention = s.store.attention) (event : Event) :
    t.settled event = s.settled event := by
  rw [State.settled, State.settled, subscriber]
  rcases h.heard with installed | ⟨_, empty⟩
  · rw [installed, Bool.true_or, Bool.true_or, if_pos rfl, if_pos rfl]
    exact alike
  · rw [h.isEmpty_eq empty, Attention.settle, Attention.settle, h.hears alike, alike]

theorem logged (event : Event) : OpensAlike a b (s.afterEvent event) (t.afterEvent event) := by
  simp only [State.afterEvent]
  rw [State.logged_eq, State.logged_eq, h.listens subscriber]
  split
  · refine (h.receive event).withAttention fun alike => ?_
    dsimp only at alike
    rw [State.receive_attention, State.receive_attention] at alike
    exact h.settled subscriber alike event
  · exact h.withAttention fun alike => h.settled subscriber alike event

end Subscribed

end OpensAlike

/-- Without a subscriber an event reaches captures only. -/
theorem State.logged_unsubscribed {s : State} (unsubscribed : ¬ s.store.subscriber.isSome)
    (event : Event) :
    s.store.DiffersInScopes (s.logged event) := by
  have received : s.store.DiffersInScopes (s.receive event) := by
    rw [receive]
    cases s.thread.scope with
    | some place => rfl
    | none =>
        have missing : s.store.subscriber = none := Option.not_isSome_iff_eq_none.mp unsubscribed
        dsimp only
        rw [Store.publish_of_none missing]
        rfl
  rw [logged_eq]
  split
  · exact congrArg (fun store : Store => { store with attention := s.settled event }) received
  · rfl

namespace Store.DiffersInScopes

variable {x y x' y' : Store}

theorem apply {f : Store → Store} (unaware : Unaware f) (h : x.DiffersInScopes y) :
    (f x).DiffersInScopes (f y) := by
  have hosted : f y = (f x).hosting y.scopes y.attention := by
    rw [← unaware.hosting, ← h]
  rw [DiffersInScopes, unaware.scopes, unaware.attention]
  exact hosted

theorem congr (left : x.DiffersInScopes x') (right : y.DiffersInScopes y')
    (h : x.DiffersInScopes y) : x'.DiffersInScopes y' := by
  rw [DiffersInScopes] at *
  rw [right, h, left]
  rfl

end Store.DiffersInScopes

namespace Beside

variable {s t : State}

theorem same {γ : Type} (h : Beside whole a b s t) (f : Store → γ)
    (unaware : ∀ store scopes attention, f (store.hosting scopes attention) = f store) :
    f t.store = f s.store := by
  have stores : t.store = _ := h.store
  rw [stores, unaware]

theorem apply {f : Store → Store} (unaware : Store.Unaware f) (h : Beside whole a b s t) :
    Beside whole a b { s with store := f s.store } { t with store := f t.store } :=
  ⟨h.route, h.active, h.store.apply unaware, fun compared => (h.opens compared).apply unaware⟩

theorem change {f : Store → Store} (unaware : Store.Unaware f) :
    (Effect.change f).Agree (Beside whole a b) :=
  .change fun _ _ h => h.apply unaware

theorem read {f : Store → α} (unaware : ∀ store scopes attention,
    f (store.hosting scopes attention) = f store) : (Effect.read f).Agree (Beside whole a b) :=
  .read fun _ _ h => (h.same f unaware).symm

theorem changeSink (id : String) (f : Sink → Sink) :
    (Effect.change (·.changeSink id f)).Agree (Beside whole a b) :=
  change ⟨fun _ _ _ => rfl, fun _ installed => installed⟩

theorem errorLine (line : String) : (Effect.errorLine line).Agree (Beside whole a b) :=
  change ⟨fun _ _ _ => rfl, fun _ installed => installed⟩

theorem panic (payload : Payload) : (Effect.panic payload : Effect α).Agree (Beside whole a b) :=
  .panic fun _ _ message h =>
    h.apply (f := fun store => { store with hook := store.hook ++ [message] })
      ⟨fun _ _ _ => rfl, fun _ installed => installed⟩

theorem deliver (id line : String) :
    (Effect.deliver (.sink id) line).Agree (Beside whole a b) := by
  intro s t h
  have sink : t.store.sink id = s.store.sink id := h.same (·.sink id) fun _ _ _ => rfl
  rw [Effect.deliver_apply, Effect.deliver_apply, sink]
  cases s.store.sink id with
  | memory _ | counting _ => exact changeSink id _ s t h
  | forwarding _ => exact changeSink id _ s t h
  | panicking => exact panic _ s t h
  | stderr => exact errorLine line s t h

theorem emit (line : String) : (Effect.emit line).Agree (Beside whole a b) := by
  intro s t h
  simp only [Effect.emit]
  rw [h.route]
  cases s.thread.route with
  | none => exact errorLine line s t h
  | some target =>
      cases target with
      | inside id => exact changeSink id _ s t h
      | sink id => exact deliver id line s t h

theorem mention (sink : SinkRef) : (Effect.mention sink).Agree (Beside whole a b) := by
  refine .bind (read fun _ _ _ => rfl) fun made => ?_
  split
  · exact .pure ()
  · split
    · exact .halt _
    · exact changeSink _ _

theorem receive (h : Beside whole a b s t) (event : Event) :
    (s.receive event).DiffersInScopes (t.receive event) := by
  have active := h.active
  rw [State.receive, State.receive]
  cases left : s.thread.scope <;> cases right : t.thread.scope
  · exact h.store.apply (.publish event)
  · simp [left, right] at active
  · simp [left, right] at active
  · exact .congr rfl rfl h.store

theorem logged (h : Beside whole a b s t) (event : Event) :
    Beside whole a b (s.afterEvent event) (t.afterEvent event) := by
  have subscriber : t.store.subscriber = s.store.subscriber :=
    h.same Store.subscriber fun _ _ _ => rfl
  refine ⟨h.route, h.active, ?_, fun compared => (h.opens compared).logged subscriber event⟩
  by_cases installed : s.store.subscriber.isSome
  · have installed' : t.store.subscriber.isSome := by rwa [subscriber]
    simp only [State.afterEvent]
    rw [State.logged_of_installed installed, State.logged_of_installed installed']
    exact h.receive event
  · -- The two may listen to different sites, which only captures notice.
    have installed' : ¬ t.store.subscriber.isSome := by rwa [subscriber]
    exact .congr (State.logged_unsubscribed installed event)
      (State.logged_unsubscribed installed' event) h.store

theorem log (event : Event) : (Effect.log event).Agree (Beside whole a b) :=
  fun _ _ h => ⟨rfl, h.logged event⟩

theorem init (profile : Profile) : (Effect.init profile).Agree (Beside whole a b) := by
  refine .bind (read fun _ _ _ => rfl) fun initialisation => ?_
  cases initialisation with
  | done => exact .pure ()
  | poisoned => exact panic _
  | «open» =>
      refine .bind (read fun _ _ _ => rfl) fun environment => ?_
      cases profile.subscriber environment with
      | ok subscriber =>
          exact change ⟨fun _ _ _ => rfl, (Store.Unaware.install subscriber).subscriber⟩
      | error place =>
          exact .bind (change ⟨fun _ _ _ => rfl, fun _ installed => installed⟩) fun _ => panic _

theorem askGlobal (question : Query) : question.askGlobal.Agree (Beside whole a b) := by
  refine .bind (change .makeCapture) fun _ => .bind (read fun _ _ _ => rfl) fun events => ?_
  dsimp only
  split
  · exact .bind (change ⟨fun _ _ _ => rfl, fun _ installed => installed⟩) fun _ =>
      Query.answer_agree panic events question
  · exact Query.answer_agree panic events question

end Beside

/-- Behind captures without the name, the capture of a name is found as it would be without them. -/
theorem Store.placeOf?_append {store : Store} {name : String} {own : List Scope}
    (opened : store.scopes = a ++ own) (apart : ∀ scope ∈ a, scope.name ≠ name) :
    store.placeOf? name =
      ((own.zipIdx.filter fun capture => capture.1.name == name).getLast?).map
        fun capture => a.length + capture.2 := by
  have before : a.zipIdx.filter (fun capture => capture.1.name == name) = [] := by
    rw [List.filter_eq_nil_iff]
    intro capture member
    have opened := apart capture.1 (List.fst_mem_of_mem_zipIdx member)
    simpa using opened
  rw [Store.placeOf?, opened, List.zipIdx_append, List.filter_append, before, List.nil_append,
    List.zipIdx_eq_map_add, List.filter_map, List.getLast?_map, Option.map_map, Nat.zero_add]
  rfl

/-- The names of the captures that stand by in one of the two runs. -/
def bystanders (a b : List Scope) : List String :=
  (a ++ b).map Scope.name

/-- Steps that ask for no capture that was opened for a body. -/
def Step.AsksNoScope : Step → Prop
  | .query (some _) _ => False
  | _ => True

/-- Steps that ask for no capture with one of these names. -/
def Step.Avoids (names : List String) : Step → Prop
  | .query (some name) _ => name ∉ names
  | _ => True

namespace OpensAlike

variable {s t : State}

theorem placeOf? (h : OpensAlike a b s t) {name : String} (apart : name ∉ bystanders a b) :
    ∃ place? : Option Nat, s.store.placeOf? name = place?.map (a.length + ·) ∧
      t.store.placeOf? name = place?.map (b.length + ·) := by
  obtain ⟨own, left, right⟩ := h.own
  have apart_left : ∀ scope ∈ a, scope.name ≠ name := by
    rintro scope member rfl
    exact apart (List.mem_map_of_mem (List.mem_append_left b member))
  have apart_right : ∀ scope ∈ b, scope.name ≠ name := by
    rintro scope member rfl
    exact apart (List.mem_map_of_mem (List.mem_append_right a member))
  refine ⟨((own.zipIdx.filter fun capture => capture.1.name == name).getLast?).map (·.2), ?_, ?_⟩
  · rw [Store.placeOf?_append left apart_left, Option.map_map]
    rfl
  · rw [Store.placeOf?_append right apart_right, Option.map_map]
    rfl

theorem clearScope (h : OpensAlike a b s t) (place : Nat) :
    OpensAlike a b
      { s with store := { s.store with
        scopes := s.store.scopes.modify (a.length + place) Scope.clear } }
      { t with store := { t.store with
        scopes := t.store.scopes.modify (b.length + place) Scope.clear } } := by
  have clears {c own scopes : List Scope} (opened : scopes = c ++ own) :
      scopes.modify (c.length + place) Scope.clear = c ++ own.modify place Scope.clear := by
    rw [opened]
    exact List.modifyTailIdx_add _ place c own
  exact h.changeOwn (·.modify place Scope.clear) (fun _ => clears) fun _ => clears

theorem eventsAt (h : OpensAlike a b s t) (place : Nat) :
    eventsAt t.store.scopes (b.length + place) = eventsAt s.store.scopes (a.length + place) := by
  obtain ⟨own, left, right⟩ := h.own
  rw [Assertions.eventsAt, Assertions.eventsAt, left, right,
    List.getElem?_append_right (Nat.le_add_right _ _),
    List.getElem?_append_right (Nat.le_add_right _ _), Nat.add_sub_cancel_left,
    Nat.add_sub_cancel_left]

theorem openScope (h : OpensAlike a b s t) (name : String) :
    OpensAlike a b (s.openScope name) (t.openScope name) := by
  obtain ⟨own, left, right⟩ := h.own
  have opens {c own scopes : List Scope} (same : scopes = c ++ own) :
      scopes ++ [⟨name, []⟩] = c ++ (own ++ [⟨name, []⟩]) := by
    rw [same, List.append_assoc]
  have opened := h.changeOwn (· ++ [⟨name, []⟩]) (fun _ => opens) fun _ => opens
  have attended := opened.withAttention (x := s.store.attention.opened)
    (y := t.store.attention.opened) fun alike => congrArg Attention.opened alike
  refine ⟨⟨some own.length, ?_, ?_⟩, attended.own, attended.heard⟩
  · change some s.store.scopes.length = _
    rw [left, List.length_append]
    rfl
  · change some t.store.scopes.length = _
    rw [right, List.length_append]
    rfl

end OpensAlike

namespace Beside

variable {s t : State}

theorem askScope (compared : whole) {name : String} (apart : name ∉ bystanders a b)
    (question : Query) : (Query.askScope name question).Agree (Beside whole a b) := by
  intro s t h
  have opens := h.opens compared
  obtain ⟨place?, left, right⟩ := opens.placeOf? apart
  cases place? with
  | none =>
      rw [Query.askScope_of_none left, Query.askScope_of_none right]
      exact ⟨rfl, h⟩
  | some place =>
      rw [Query.askScope_of_some left, Query.askScope_of_some right, opens.eventsAt]
      refine Query.answer_agree panic _ question _ _ ?_
      split
      · exact ⟨h.route, h.active, .congr rfl rfl h.store, fun _ => opens.clearScope place⟩
      · exact h

theorem perform {st : Step} (asks : st.AsksNoScope ∨ whole ∧ st.Avoids (bystanders a b)) :
    st.perform.Agree (Beside whole a b) := by
  cases st with
  | malformed field => exact .halt _
  | check label assertion =>
      exact .bind (Effect.check_agree emit log panic label assertion) fun _ => .pure _
  | panic payload => exact panic payload
  | resume payload => exact .unwind payload
  | emit line => exact .bind (emit line) fun _ => .pure _
  | writeLine sink line =>
      exact .bind (mention sink) fun _ => .bind (deliver sink.id line) fun _ => .pure _
  | readSink sink =>
      exact .bind (mention sink) fun _ => .bind (read fun _ _ _ => rfl) fun _ => .pure _
  | clearSink sink =>
      exact .bind (mention sink) fun _ => .bind (changeSink _ _) fun _ => .pure _
  | init profile => exact .bind (init profile) fun _ => .pure _
  | initCapture =>
      exact .bind (change .makeCapture) fun _ => .bind (read fun _ _ _ => rfl) fun _ => .pure _
  | log event => exact .bind (log event) fun _ => .pure _
  | query capture question =>
      cases capture with
      | none => exact askGlobal question
      | some name =>
          obtain ⟨compared, apart⟩ := asks.resolve_left id
          exact askScope compared apart question

theorem withRoute (h : Beside whole a b s t) (route : Option Target) :
    Beside whole a b (s.withRoute route) (t.withRoute route) :=
  ⟨rfl, h.active, h.store, fun compared => ⟨(h.opens compared).scope, (h.opens compared).own,
    (h.opens compared).heard⟩⟩

/-- A fresh thread beside a fresh thread. -/
theorem onThread (h : Beside whole a b s t) :
    Beside whole a b { s with thread := .fresh } { t with thread := .fresh } :=
  ⟨rfl, rfl, h.store, fun compared => ⟨⟨none, rfl, rfl⟩, (h.opens compared).own,
    (h.opens compared).heard⟩⟩

theorem enter (frame : Frame) : frame.enter.Agree (Beside whole a b) := by
  cases frame with
  | routed sink => exact .bind (mention sink) fun _ s t h => ⟨rfl, h.withRoute _⟩
  | case name onFailure => exact log _
  | attempt => exact .pure ()
  | thread => exact fun s t h => ⟨rfl, h.onThread⟩
  | captured name =>
      exact fun s t h => ⟨rfl, h.route, rfl, .congr rfl rfl h.store,
        fun compared => (h.opens compared).openScope name⟩

/-- Putting back the threads of such states gives such states again. -/
theorem restore {s t s' t' : State} (outer : Beside whole a b s t)
    (inner : Beside whole a b s' t') (frame : Frame) :
    Beside whole a b (frame.restore s.thread s') (frame.restore t.thread t') := by
  cases frame with
  | routed sink =>
      refine ⟨outer.route, inner.active, inner.store, fun compared => ?_⟩
      have opens := inner.opens compared
      exact ⟨opens.scope, opens.own, opens.heard⟩
  | case _ _ | attempt => exact inner
  | thread =>
      refine ⟨outer.route, outer.active, inner.store, fun compared => ?_⟩
      have opens := inner.opens compared
      exact ⟨(outer.opens compared).scope, opens.own, opens.heard⟩
  | captured name =>
      refine ⟨inner.route, outer.active, .congr rfl rfl inner.store, fun compared => ?_⟩
      have attended := (inner.opens compared).withAttention (x := s'.store.attention.closed)
        (y := t'.store.attention.closed) fun alike => congrArg Attention.closed alike
      exact ⟨(outer.opens compared).scope, attended.own, attended.heard⟩

theorem frame (fr : Frame) : fr.Agree (Beside whole a b) where
  enter := enter fr
  leave _ _ outer ending _ _ inner _ _ :=
    Frame.conclude_agree log panic fr ending _ _ (outer.restore inner fr)

end Beside

/-- Captures that stand by change nothing for a run that asks for none of them. -/
theorem Script.run_beside {script : Script}
    (asks :
      script.All (fun st => st.AsksNoScope ∨ whole ∧ st.Avoids (bystanders a b)) fun _ => True)
    (path : List Nat) (index : Nat) {s t : State} (beside : Beside whole a b s t) :
    Run.Agree (Beside whole a b) (script.run path index s).released
      (script.run path index t).released :=
  (script.run_agree (fun _ h => Beside.perform h) Beside.emit (fun fr _ => Beside.frame fr) asks
    path index beside).released Beside.emit

end Assertions
