import Assertions.Proofs.Bystanders
import Assertions.Proofs.History
import Assertions.Proofs.Ledger
import Assertions.Proofs.Lexical
import Assertions.Proofs.Payloads

/-!
Threads are isolated from the thread that starts them. A thread does the same wherever the lines and
the events of its spawner go, leaves its spawner's own slot and capture as they are, records nothing
in a capture that was opened before it started, and writes the lines outside its own routes to the
standard error stream. All of this holds again of the threads that it starts itself.
-/

namespace Assertions

/-- The run of a list of steps comes to the state `u`, where its next step is performed or the line
of its next guard is written; the frames that were entered on the way are `frames`, the innermost
first. -/
inductive Script.Comes (u : State) : Script → List Nat → Nat → State → List Frame → Prop
  | here {script path index} : Comes u script path index u []
  | later {word st next path index s result t frames}
      (performed : st.perform s = (.returned result, t))
      (rest : Comes u next path (index + 1) t frames) :
      Comes u (.simple word st next) path index s frames
  | guarded {word line next path index s frames} (rest : Comes u next path (index + 1) s frames) :
      Comes u (.guarded word line next) path index s frames
  | within {word frame body next path index s entered frames}
      (entry : frame.enter s = (.returned (), entered))
      (inner : Comes u body (path ++ [index]) 0 entered frames) :
      Comes u (.framed word frame body next) path index s (frames ++ [frame])
  | behind {word frame body next path index s entered result t frames}
      (entry : frame.enter s = (.returned (), entered))
      (left : frame.leave s.thread (body.effect (path ++ [index]) entered).1
        (body.effect (path ++ [index]) entered).2 = (.returned result, t))
      (rest : Comes u next path (index + 1) t frames) :
      Comes u (.framed word frame body next) path index s frames
  | released {script path index s lines} (live : (script.run path index s).ending.Live)
      (written : lines <+: (script.run path index s).guards)
      (now : u = (script.run path index s).state.emitted lines) :
      Comes u script path index s []

/-- No frame between the place and the thread that it is on routes lines. -/
def Unrouted : List Frame → Prop
  | [] | .thread :: _ => True
  | .routed _ :: _ => False
  | _ :: frames => Unrouted frames

/-- The target that frames leave to what is inside all of them. -/
def routeUnder (outer : Option Target) (frames : List Frame) : Option Target :=
  frames.foldr (fun frame route => Lexical.inner route frame) outer

theorem Unrouted.routeUnder {frames : List Frame} (unrouted : Unrouted frames) :
    routeUnder none frames = none := by
  induction frames with
  | nil => rfl
  | cons frame frames ih =>
      cases frame with
      | routed sink => exact unrouted.elim
      | thread => rfl
      | case _ _ | attempt | captured _ => exact ih unrouted

theorem Frame.enter_route {frame : Frame} {s entered : State}
    (entry : frame.enter s = (.returned (), entered)) :
    entered.thread.route = Lexical.inner s.thread.route frame := by
  cases frame with
  | case _ _ | attempt | thread | captured _ =>
      cases entry
      rfl
  | routed sink =>
      obtain ⟨t, _, rfl⟩ := mention_of_enter entry
      rfl

theorem State.emitted_thread (s : State) (lines : List String) :
    (s.emitted lines).thread = s.thread := by
  induction lines generalizing s with
  | nil => rfl
  | cons line lines ih => exact (ih _).trans (sends_emit line s).live.2

/-- Wherever a run is, the slot holds what the frames around say. -/
theorem Script.Comes.route {u s : State} {script : Script} {path : List Nat} {index : Nat}
    {frames : List Frame} (comes : script.Comes u path index s frames) :
    u.thread.route = routeUnder s.thread.route frames := by
  induction comes with
  | here => rfl
  | @later _ st _ _ _ s _ t _ performed _ ih =>
      have moves : st.perform.Moves (Reaches fun _ => True) :=
        st.perform_makes.reaches fun _ _ => trivial
      have reaches := moves s
      rw [performed] at reaches
      rw [ih, (reaches trivial).thread]
  | guarded _ ih => exact ih
  | within entry _ ih =>
      rw [ih, Frame.enter_route entry, routeUnder, routeUnder, List.foldr_append]
      rfl
  | behind entry left _ ih => rw [ih, (Frame.left_reaches entry left trivial).thread]
  | released live _ now =>
      rw [now, State.emitted_thread, (Script.run_becomes _ _ _ _ live).thread]
      rfl

/-- Steps that empty a capture that was opened for a body. -/
def Step.ClearsScope : Step → Prop
  | .query (some _) .clear => True
  | _ => False

/-- The thread has none of the first `n` captures, and they hold what they held, or are empty where
`clears` allows it. -/
structure Spared (n : Nat) (clears : Prop) (s t : State) : Prop where
  scope : t.thread.scope = s.thread.scope
  opened : n ≤ t.store.scopes.length
  events : ∀ place < n, eventsAt t.store.scopes place = eventsAt s.store.scopes place ∨
    clears ∧ eventsAt t.store.scopes place = []

/-- From a thread that has none of the first `n` captures a run spares them. -/
def Spares (n : Nat) (clears : Prop) (s t : State) : Prop :=
  n ≤ s.store.scopes.length → (∀ place, s.thread.scope = some place → n ≤ place) →
    Spared n clears s t

section Spares

variable {n : Nat} {clears : Prop} {s t : State}

theorem Spared.of_events (scope : t.thread.scope = s.thread.scope)
    (opened : n ≤ t.store.scopes.length)
    (events : ∀ place < n, t.store.events (.own place) = s.store.events (.own place)) :
    Spared n clears s t :=
  ⟨scope, opened, fun place before => .inl (events place before)⟩

theorem Spared.trans {u : State} (h : Spared n clears s t) (k : Spared n clears t u) :
    Spared n clears s u := by
  refine ⟨k.scope.trans h.scope, k.opened, fun place before => ?_⟩
  rcases k.events place before with same | empty
  · rw [same]
    exact h.events place before
  · exact .inr empty

instance : IsPreorder State (Spares n clears) where
  refl _ opened _ := .of_events rfl opened fun _ _ => rfl
  trans _ _ _ h k opened apart := by
    have first := h opened apart
    rw [← first.scope] at apart
    exact first.trans (k first.opened apart)

/-- An event goes to the capture of its thread, if it goes to one. -/
theorem State.not_keeps {s : State} {place : Nat} (apart : s.thread.scope ≠ some place)
    (event : Event) : s.keeps (.own place) event = false := by
  have inactive : s.recorder? ≠ some (.own place) := by
    intro active
    rw [recorder?] at active
    cases scope : s.thread.scope with
    | none =>
        rw [scope] at active
        dsimp only at active
        split at active <;> cases active
    | some other =>
        rw [scope] at active
        cases active
        exact apart scope
  simp [keeps, inactive]

theorem Change.spares (change : Change) (able : ∀ place, change = .clearScope place → clears)
    (s : State) : Spares n clears s (change.apply s) := by
  intro opened apart
  have longer := Nat.le_trans opened (change.keeps s).scopes
  have thread : (change.apply s).thread.scope = s.thread.scope := by rw [change.apply_thread]
  by_cases silent : change.Silent
  · exact .of_events thread longer fun place _ => silent.untouched s
  · cases change with
    | log event =>
        refine .of_events thread longer fun place before => ?_
        -- If the thread has a capture, it is none of the first `n`.
        have lost : s.keeps (.own place) event = false :=
          State.not_keeps (fun active => Nat.not_le_of_lt before (apart place active)) event
        exact State.untouched_afterEvent lost
    | clearCaptured => exact .of_events thread longer fun place _ => rfl
    | clearScope cleared =>
        refine ⟨thread, longer, fun place _ => ?_⟩
        have events := Store.eventsAt_clear s.store.scopes cleared place
        by_cases same : cleared = place
        · rw [if_pos same] at events
          exact .inr ⟨able cleared rfl, events⟩
        · rw [if_neg same] at events
          exact .inl events
    | keep _ _ | make _ _ | clearSink _ | errorLine _ | hook _ | initialise _ | poison | makeCapture
    | openScope _ | closeScope => exact absurd trivial silent

theorem Effect.Makes.spares {α : Type} {e : Effect α} {can : Change → Prop} (makes : e.Makes can)
    (able : ∀ place, can (.clearScope place) → clears) : e.Moves (Spares n clears) :=
  fun s live => (makes s live).lift fun s change can =>
    change.spares (fun place same => able place (same ▸ can)) s

theorem Effect.emit_spares (line : String) : (Effect.emit line).Moves (Spares n clears) :=
  (Effect.Does.emit line).makes.spares fun _ => False.elim

theorem Frame.spares (frame : Frame) : frame.Moves (Spares n clears) := by
  refine Frame.Undone.moves ?_
  cases frame with
  | attempt => trivial
  | routed sink =>
      have makes : (Effect.mention sink).Makes Change.Silent :=
        Effect.mention_makes sink fun _ => trivial
      refine ⟨makes.spares fun _ => False.elim, fun s t body opened apart => ?_⟩
      have spared := body opened apart
      exact ⟨spared.scope, spared.opened, spared.events⟩
  | case name onFailure =>
      exact Frame.case_moves (fun s => Change.spares (.log (.caseStart name)) nofun s)
        (fun s result => Change.spares (.log (.caseEnd name result)) nofun s)
        (fun s message => Change.spares (.hook message) nofun s) onFailure
  | thread =>
      intro s t body opened _
      have spared := body opened nofun
      exact ⟨rfl, spared.opened, spared.events⟩
  | captured name =>
      intro s t body opened _
      have longer : n ≤ (s.openScope name).store.scopes.length := by
        simp only [State.openScope, List.length_append]
        omega
      have own : ∀ place, (s.openScope name).thread.scope = some place → n ≤ place := by
        rintro place ⟨⟩
        exact opened
      have spared := body longer own
      refine ⟨rfl, spared.opened, fun place before => ?_⟩
      have earlier :
          eventsAt (s.openScope name).store.scopes place = eventsAt s.store.scopes place :=
        s.openScope_events name (.own place)
      rw [← earlier]
      exact spared.events place before

/-- A run empties an earlier capture only where one of its steps does. -/
theorem Script.effect_spares (script : Script) (path : List Nat) :
    (script.effect path).Moves
      (Spares n (¬ script.All (fun st => ¬ st.ClearsScope) fun _ => True)) := by
  have steps : script.All
      (fun st => st.ClearsScope → ¬ script.All (fun st => ¬ st.ClearsScope) fun _ => True)
      fun _ => True := by
    -- Either no step empties a capture, or every step may.
    by_cases never : script.All (fun st => ¬ st.ClearsScope) fun _ => True
    · exact never.mono (fun st not clears => absurd clears not) fun _ _ => trivial
    · exact .of_forall (fun _ _ => never) (fun _ => trivial) script
  refine script.effect_moves (fun st allowed => ?_) Effect.emit_spares (fun fr _ => fr.spares) steps
    path
  refine st.perform_makes.spares fun place able => allowed ?_
  obtain ⟨name, rfl⟩ := able
  trivial

end Spares

/-- What the spawner sees of how a thread ended. -/
def Ending.joined : Ending Nat → Ending Result
  | .returned steps => .returned (.returned steps)
  | .unwound payload => .returned (.joined (.ofPayload payload))
  | .halted cause => .halted cause

theorem Script.run_thread (word : String) (body next : Script) (path : List Nat) (index : Nat)
    (s : State) :
    (framed word .thread body next).run path index s =
      followed (body.effect (path ++ [index]) ⟨.fresh, s.store⟩).1.joined
        (⟨path ++ [index], word,
            resultOf (body.effect (path ++ [index]) ⟨.fresh, s.store⟩).1.joined⟩ ::
          (body.run (path ++ [index]) 0 ⟨.fresh, s.store⟩).released.trace)
        ⟨s.thread, (body.effect (path ++ [index]) ⟨.fresh, s.store⟩).2.store⟩
        (next.run path (index + 1)) := by
  refine run_framed rfl ?_
  generalize body.effect (path ++ [index]) ⟨.fresh, s.store⟩ = inner
  obtain ⟨ending, t⟩ := inner
  cases ending <;> rfl

/-- The run of one step that starts a thread with the body and joins it. -/
def Script.spawned (word : String) (body : Script) (path : List Nat) (index : Nat) : State → Run :=
  (framed word .thread body .done).run path index

/-- Two stores after runs that started beside the captures `a` and `b`: what was opened since then
is the same, and so is all the rest but what is listened to. -/
structure Alongside (a b : List Scope) (first second : Store) : Prop where
  own : ∃ own, first.scopes = a ++ own ∧ second.scopes = b ++ own
  rest : first.DiffersInScopes second

/-- Every site is listened to, or the same sites are. -/
def Store.ListensLike (a b : Store) : Prop :=
  a.subscriber.isSome ∨ b.attention = a.attention ∧ a.scopes.isEmpty = b.scopes.isEmpty

theorem Store.DiffersInScopes.beside {whole : Prop} {a b : Store} (differs : a.DiffersInScopes b)
    (listens : whole → a.ListensLike b) :
    Beside whole a.scopes b.scopes ⟨.fresh, a⟩ ⟨.fresh, b⟩ := by
  refine ⟨rfl, rfl, differs, fun compared => ⟨⟨none, rfl, rfl⟩, ⟨[], ?_, ?_⟩, listens compared⟩⟩
  · exact (List.append_nil _).symm
  · exact (List.append_nil _).symm

namespace Script

variable {word : String} {body : Script} {path : List Nat} {index : Nat} {s t : State}

/-- The thread of the spawner is handed through to what comes behind the join, and nowhere else. -/
theorem spawned_withThread (thread : Thread) :
    body.spawned word path index { s with thread := thread } =
      { body.spawned word path index s with
        state := { (body.spawned word path index s).state with thread := thread } } := by
  simp only [spawned, run_thread]
  cases (body.effect (path ++ [index]) ⟨.fresh, s.store⟩).1 <;> rfl

theorem spawned_thread : (body.spawned word path index s).state.thread = s.thread := by
  have handed : body.spawned word path index s = _ := spawned_withThread s.thread
  exact congrArg (fun run => run.state.thread) handed

theorem spawned_store :
    (body.spawned word path index s).state.store =
      (body.effect (path ++ [index]) ⟨.fresh, s.store⟩).2.store := by
  rw [spawned, run_thread]
  cases (body.effect (path ++ [index]) ⟨.fresh, s.store⟩).1 <;> rfl

theorem live_of_spawned (live : (body.spawned word path index s).ending.Live) :
    (body.effect (path ++ [index]) ⟨.fresh, s.store⟩).1.Live := by
  rw [spawned, run_thread] at live
  generalize body.effect (path ++ [index]) ⟨.fresh, s.store⟩ = inner at live ⊢
  obtain ⟨ending, t⟩ := inner
  cases ending with
  | returned _ | unwound _ => trivial
  | halted cause => exact live

/-- Of the related states after two threads only the stores come behind the joins. -/
theorem spawned_agree {R : State → State → Prop} {Q : Store → Store → Prop}
    (inner : Run.Agree R (body.run (path ++ [index]) 0 ⟨.fresh, s.store⟩).released
      (body.run (path ++ [index]) 0 ⟨.fresh, t.store⟩).released)
    (stores : ∀ u v, R u v → Q u.store v.store) :
    Run.Agree (fun u v => Q u.store v.store) (body.spawned word path index s)
      (body.spawned word path index t) := by
  have related := stores _ _ inner.state
  simp only [spawned, run_thread, effect, ← inner.ending, ← inner.trace]
  exact followed_agree related ⟨rfl, rfl, rfl, related⟩

theorem spawned_differsInScopes (differs : s.store.DiffersInScopes t.store)
    (asks : body.All Step.AsksNoScope fun _ => True) :
    Run.Agree (fun u v => u.store.DiffersInScopes v.store) (body.spawned word path index s)
      (body.spawned word path index t) := by
  have inner := body.run_beside (asks.mono (fun _ => .inl) fun _ _ => trivial) (path ++ [index]) 0
    (differs.beside False.elim)
  exact spawned_agree inner fun _ _ beside => beside.store

theorem spawned_alongside (differs : s.store.DiffersInScopes t.store)
    (listens : s.store.ListensLike t.store)
    (avoids : body.All (Step.Avoids (bystanders s.store.scopes t.store.scopes)) fun _ => True) :
    Run.Agree (fun u v => Alongside s.store.scopes t.store.scopes u.store v.store)
      (body.spawned word path index s) (body.spawned word path index t) := by
  have inner := body.run_beside
    (avoids.mono (fun _ avoids => .inr ⟨trivial, avoids⟩) fun _ _ => trivial) (path ++ [index]) 0
    (differs.beside fun _ : True => listens)
  exact spawned_agree inner fun _ _ beside => ⟨(beside.opens trivial).own, beside.store⟩

/-- A capture of the spawner gains nothing; a thread that asks for it by its name may empty it. -/
theorem spawned_events (live : (body.spawned word path index s).ending.Live) {place : Nat}
    (opened : place < s.store.scopes.length) :
    eventsAt (body.spawned word path index s).state.store.scopes place =
        eventsAt s.store.scopes place ∨
      ¬ body.All (fun st => ¬ st.ClearsScope) (fun _ => True) ∧
        eventsAt (body.spawned word path index s).state.store.scopes place = [] := by
  rw [spawned_store]
  have spared := body.effect_spares (n := s.store.scopes.length) (path ++ [index])
    ⟨.fresh, s.store⟩ (live_of_spawned live)
  exact (spared (Nat.le_refl _) nofun).events place opened

end Script

theorem Effect.emit_of_unrouted {s : State} (unrouted : s.thread.route = none) (line : String) :
    Effect.emit line s = (.returned (), s.onErrorStream line) :=
  (Sends.unrouted unrouted).emit_eq

theorem Effect.fail_of_unrouted {α : Type} {s : State} (unrouted : s.thread.route = none)
    (m : Mismatch) :
    (Effect.fail m : Effect α) s =
      (.unwound (.mismatch m),
        (s.onErrorStream m.line).afterEvent (.mismatch Component.assertion m)) :=
  Effect.bind_of_returned (Effect.emit_of_unrouted unrouted m.line)

/-- A thread is isolated from its spawner, however deep the threads are that it starts itself. The
spawner's own slot and capture have no influence on it and are handed through to the state behind
the join. Nor have the captures that were opened before, by whomever: a body that asks for no
capture does the same beside any of them, and a body that asks only for its own captures does so
wherever the same sites are listened to, and then finds the same in them. Behind the join the
spawner has the slot and the capture that it had, and no capture opened before has gained an event.
Inside, wherever no frame of the thread itself routes lines, they go to the standard error stream
alone.

What is listened to while no subscriber is installed belongs to the process and not to the spawner:
opening a capture changes it for the captures of all threads. -/
theorem thread_isolated (word : String) (body : Script) (path : List Nat) (index : Nat)
    (s : State) :
    (∀ thread : Thread,
      body.spawned word path index { s with thread := thread } =
        { body.spawned word path index s with
          state := { (body.spawned word path index s).state with thread := thread } }) ∧
    (∀ t : State, s.store.DiffersInScopes t.store → body.All Step.AsksNoScope (fun _ => True) →
      Run.Agree (fun u v => u.store.DiffersInScopes v.store) (body.spawned word path index s)
        (body.spawned word path index t)) ∧
    (∀ t : State, s.store.DiffersInScopes t.store → s.store.ListensLike t.store →
      body.All (Step.Avoids (bystanders s.store.scopes t.store.scopes)) (fun _ => True) →
        Run.Agree (fun u v => Alongside s.store.scopes t.store.scopes u.store v.store)
          (body.spawned word path index s) (body.spawned word path index t)) ∧
    (body.spawned word path index s).state.thread = s.thread ∧
    ((body.spawned word path index s).ending.Live → ∀ place < s.store.scopes.length,
      eventsAt (body.spawned word path index s).state.store.scopes place =
          eventsAt s.store.scopes place ∨
        ¬ body.All (fun st => ¬ st.ClearsScope) (fun _ => True) ∧
          eventsAt (body.spawned word path index s).state.store.scopes place = []) ∧
    ∀ u frames, body.Comes u (path ++ [index]) 0 { s with thread := .fresh } frames →
      Unrouted frames →
        (∀ line, Effect.emit line u = (.returned (), u.onErrorStream line)) ∧
        ∀ m, (Effect.fail m : Effect Unit) u =
          (.unwound (.mismatch m),
            (u.onErrorStream m.line).afterEvent (.mismatch Component.assertion m)) := by
  refine ⟨Script.spawned_withThread, fun t => Script.spawned_differsInScopes,
    fun t => Script.spawned_alongside, Script.spawned_thread,
    fun live place opened => Script.spawned_events live opened, fun u frames comes unrouted => ?_⟩
  have route : u.thread.route = none := comes.route.trans unrouted.routeUnder
  exact ⟨Effect.emit_of_unrouted route, Effect.fail_of_unrouted route⟩

/-- A line on a thread of the thread, and a check that fails under a route of the thread. -/
def failsUnderRoute : Script :=
  .framed "thread" .thread (.simple "emit" (.emit "nested") .done)
    (.framed "with_sink" (.routed ⟨"inner", some .memory⟩)
      (.simple "int" (.check "sum" (.int 5 6)) .done) .done)

/-- A spawner that routes its lines to a memory and has a capture. -/
def routedSpawner : State where
  thread := ⟨some (.sink "outer"), some 0⟩
  store :=
    { (State.fresh none).store with
      sinks := [("outer", .memory [])]
      scopes := [⟨"own", []⟩]
      attention := ⟨1, true, []⟩ }

theorem thread_isolated_failsUnderRoute :
    (failsUnderRoute.spawned "thread" [] 0 routedSpawner).state =
        { routedSpawner with store := { routedSpawner.store with
          sinks := [("outer", .memory []), ("inner", .memory ["sum: expected [5] actual [6]"])]
          errorStream := ["nested"]
          attention :=
            (failsUnderRoute.spawned "thread" [] 0 routedSpawner).state.store.attention } } ∧
      failsUnderRoute.spawned "thread" [] 0 { routedSpawner with thread := .fresh } =
        { failsUnderRoute.spawned "thread" [] 0 routedSpawner with
          state := { (failsUnderRoute.spawned "thread" [] 0 routedSpawner).state with
            thread := .fresh } } ∧
      Effect.emit "nested" { routedSpawner with thread := .fresh } =
        (.returned (), State.onErrorStream { routedSpawner with thread := .fresh } "nested") := by
  obtain ⟨withThread, _, _, _, _, unrouted⟩ :=
    thread_isolated "thread" failsUnderRoute [] 0 routedSpawner
  refine ⟨by decide +kernel, withThread .fresh, ?_⟩
  have comes : failsUnderRoute.Comes { routedSpawner with thread := .fresh } ([] ++ [0]) 0
      { routedSpawner with thread := .fresh } [.thread] := .within rfl .here
  exact (unrouted _ _ comes trivial).1 "nested"

end Assertions
