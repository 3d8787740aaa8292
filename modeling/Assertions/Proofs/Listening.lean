import Assertions.Proofs.Captures
import Assertions.Proofs.Reach

/-!
Threads that listen go on listening. What a thread logs itself is listened to from then on, and when
a capture is opened all sites are listened to again, so that the thread still listens when the
capture is closed. Without a subscriber two things can disturb a thread: a subscriber that is
installed takes part of the events, and a thread that is started reaches sites where it is not
heard.
-/

namespace Assertions

variable {s t u : State} {installed : Prop}

/-- The thread has its capture again and listens, and the subscriber and the captures are still
there. -/
structure Attentive (s t : State) : Prop where
  scope : t.thread.scope = s.thread.scope
  subscriber : t.store.subscriber = s.store.subscriber
  opened : s.store.scopes.length ≤ t.store.scopes.length
  listening : t.Listening

/-- In the capture of a body, which was opened last, all sites are listened to, and still are when
it is closed. -/
theorem State.Listening.closed (hears : s.Listening) (inner : t.Listening)
    (scope : t.thread.scope = some s.store.scopes.length) :
    (t.closeScope s.thread.scope).Listening := by
  have active : t.thread.scope.isSome := by
    rw [scope]
    rfl
  constructor
  · exact inner.heard.imp_right fun whole _ => whole active
  · exact fun place outer => Nat.lt_trans (hears.scope place outer) (inner.scope _ scope)

namespace Attentive

theorem of_hearsAs (hears : s.Listening) (same : s.HearsAs t) : Attentive s t :=
  ⟨same.scope, same.subscriber, Nat.le_of_eq same.opened.symm, hears.congr same⟩

theorem trans (h : Attentive s t) (k : Attentive t u) : Attentive s u :=
  ⟨k.scope.trans h.scope, k.subscriber.trans h.subscriber, Nat.le_trans h.opened k.opened,
    k.listening⟩

theorem log (hears : s.Listening) (event : Event) : Attentive s (s.afterEvent event) :=
  ⟨rfl, (s.logs_afterEvent event).subscriber, Nat.le_of_eq (s.logs_afterEvent event).opened.symm,
    hears.afterEvent event⟩

/-- The thread has another route while the body runs. -/
theorem rerouted {route outer : Option Target} (inner : Attentive (s.withRoute route) t) :
    Attentive s (t.withRoute outer) :=
  ⟨inner.scope, inner.subscriber, inner.opened, inner.listening.heard, inner.listening.scope⟩

/-- A new thread has no capture: only a subscriber keeps all sites listened to. -/
theorem joined (hears : s.Listening) (subscribed : s.store.subscriber.isSome)
    (inner : Attentive { s with thread := .fresh } t) :
    Attentive s { t with thread := s.thread } := by
  refine ⟨rfl, inner.subscriber, inner.opened, .inl ?_, ?_⟩
  · rw [inner.subscriber]
    exact subscribed
  · exact fun place active => Nat.lt_of_lt_of_le (hears.scope place active) inner.opened

theorem closed {name : String} (hears : s.Listening) (inner : Attentive (s.openScope name) t) :
    Attentive s (t.closeScope s.thread.scope) := by
  refine ⟨rfl, inner.subscriber, Nat.le_trans ?_ inner.opened,
    hears.closed inner.listening inner.scope⟩
  simp [State.openScope]

end Attentive

/-- From a state that listens, a run leads to one that still does. Some runs do so only while a
subscriber is installed. -/
def Heeds (installed : Prop) (s t : State) : Prop :=
  (installed → s.store.subscriber.isSome) → s.Listening → Attentive s t

instance : IsPreorder State (Heeds installed) where
  refl _ _ hears := .of_hearsAs hears ⟨rfl, rfl, rfl, rfl⟩
  trans _ _ _ h k present hears := by
    have first := h present hears
    rw [← first.subscriber] at present
    exact first.trans (k present first.listening)

/-- Changes that neither open nor close a capture, and install a subscriber only where there is one
already. -/
def Change.Unheard (installed : Prop) : Change → Prop
  | .initialise _ | .makeCapture => installed
  | .openScope _ | .closeScope => False
  | _ => True

/-- Frames that stay on the thread. -/
def Frame.Local : Frame → Prop
  | .thread => False
  | _ => True

theorem Step.Local.can {st : Step} (here : installed ∨ st.Local) {change : Change}
    (able : st.Can change) : change.Unheard installed := by
  cases change with
  | initialise _ =>
      obtain ⟨profile, rfl⟩ := able
      exact here.resolve_right id
  | makeCapture =>
      rcases able with rfl | ⟨question, rfl⟩
      · exact here.resolve_right id
      · exact here.resolve_right id
  | openScope _ | closeScope => exact able
  | keep _ _ | make _ _ | clearSink _ | errorLine _ | hook _ | log _ | poison | clearCaptured
  | clearScope _ => trivial

theorem Change.OfLine.unheard {change : Change} (h : change.OfLine) :
    change.Unheard installed := by
  cases change <;> trivial

theorem Change.heeds {change : Change} (unheard : change.Unheard installed) (s : State) :
    Heeds installed s (change.apply s) := by
  intro present hears
  cases change with
  | log event => exact .log hears event
  | openScope _ | closeScope => exact unheard.elim
  | keep _ _ | clearSink _ | errorLine _ | hook _ | poison | clearCaptured =>
      exact .of_hearsAs hears ⟨rfl, rfl, rfl, rfl⟩
  | clearScope place => exact .of_hearsAs hears ⟨rfl, rfl, rfl, List.length_modify _ _ _⟩
  | make id kind =>
      change Attentive s { s with store := s.store.made id kind }
      rw [Store.made]
      split <;> exact .of_hearsAs hears ⟨rfl, rfl, rfl, rfl⟩
  | initialise subscriber =>
      exact .of_hearsAs hears ⟨rfl, Option.or_of_isSome (present unheard), rfl, rfl⟩
  | makeCapture =>
      change Attentive s { s with store := s.store.makeCapture }
      rw [Store.makeCapture]
      split
      · exact .of_hearsAs hears ⟨rfl, rfl, rfl, rfl⟩
      · exact .of_hearsAs hears ⟨rfl, Option.or_of_isSome (present unheard), rfl, rfl⟩

theorem Effect.Makes.heeds {α : Type} {e : Effect α} {can : Change → Prop} (makes : e.Makes can)
    (unheard : ∀ change, can change → change.Unheard installed) : e.Moves (Heeds installed) :=
  fun s live => (makes s live).lift fun s _ able => Change.heeds (unheard _ able) s

theorem Frame.heeds {frame : Frame} (here : installed ∨ frame.Local) :
    frame.Moves (Heeds installed) := by
  refine Frame.Undone.moves ?_
  cases frame with
  | routed sink =>
      have makes : (Effect.mention sink).Makes (Change.Unheard installed) :=
        Effect.mention_makes sink fun _ => trivial
      refine ⟨makes.heeds fun _ unheard => unheard, fun s t body present hears => ?_⟩
      exact (body present ⟨hears.heard, hears.scope⟩).rerouted
  | case name onFailure =>
      refine Frame.case_moves (fun s => ?_) (fun s result => ?_) (fun s message => ?_) onFailure
      · exact fun _ hears => .log hears _
      · exact fun _ hears => .log hears _
      · exact fun _ hears => .of_hearsAs hears ⟨rfl, rfl, rfl, rfl⟩
  | attempt => trivial
  | thread =>
      intro s t body present hears
      have subscribed := present (here.resolve_right id)
      exact .joined hears subscribed
        (body present ⟨.inl subscribed, fun _ active => nomatch active⟩)
  | captured name =>
      exact fun s t body present hears =>
        .closed hears (body present (s.records_openScope name).listening)

/-- The thread listens, and without a subscriber the script neither installs one nor starts
threads. -/
structure State.Attends (s : State) (script : Script) : Prop where
  listening : s.Listening
  here : s.store.subscriber.isSome ∨ script.All Step.Local Frame.Local

theorem State.Attends.all {script : Script} (attends : s.Attends script) :
    script.All (fun st => s.store.subscriber.isSome ∨ st.Local)
      (fun fr => s.store.subscriber.isSome ∨ fr.Local) := by
  rcases attends.here with installed | here
  · exact .of_forall (fun _ => .inl installed) (fun _ => .inl installed) script
  · exact here.mono (fun _ => .inr) fun _ => .inr

/-- A thread that attends to a script listens when the script has been run. -/
theorem State.Attends.attentive {script : Script} (attends : s.Attends script) (path : List Nat)
    (live : (script.effect path s).1.Live) : Attentive s (script.effect path s).2 := by
  have moves : (script.effect path).Moves (Heeds s.store.subscriber.isSome) :=
    script.effect_moves
      (fun st here => st.perform_makes.heeds fun _ able => Step.Local.can here able)
      (fun line => (Effect.Does.emit line).makes.heeds fun _ ofLine => ofLine.unheard)
      (fun _ here => Frame.heeds here) attends.all path
  exact moves s live id attends.listening

end Assertions
