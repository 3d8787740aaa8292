import Assertions.Proofs.Parallel
import Assertions.Proofs.Reach

/-!
Independence of the past. Steps that read nothing back do not depend on what the sinks, the
captures and the hook have received before, and add to it what they would have added without it.
What came before can be any script: it leaves the thread and the sinks as they were, up to their
contents, and where it disturbs no later event it leaves all that later steps consult. Events can be
disturbed only without a subscriber, by threads or by an installation.
-/

namespace Assertions

/-- The store without what sinks, captures and the hook have received. -/
def Store.emptied (store : Store) : Store :=
  { store with
    sinks := store.sinks.map fun entry => (entry.1, entry.2.clear)
    scopes := store.scopes.map Scope.clear
    errorStream := []
    hook := []
    captured := []
    printed := [] }

/-- The states differ only in what was received before. -/
structure Alike (s t : State) : Prop where
  thread : t.thread = s.thread
  store : t.store.emptied = s.store.emptied

/-- Both runs end in the same way with the same steps, and the stores have grown alike. -/
structure SameCourse (a b : Store) (first second : Run) : Prop where
  ending : second.ending = first.ending
  trace : second.trace = first.trace
  growth : a.GrowAlike b first.state.store second.state.store

theorem Store.GrowAlike.refl (a b : Store) : a.GrowAlike b a b :=
  ⟨fun _ kinds => .refl kinds, .refl _ _, .refl _ _, .refl _ _, .refl _ _, .refl _ _⟩

theorem Script.run_sameCourse {asks listen : Prop} {s t : State} (script : Script)
    (blind : script.All Step.Blind fun _ => True)
    (asked : asks ∨ script.All Step.Passing fun _ => True)
    (here : listen → script.All (fun _ => True) Frame.Local) (path : List Nat) (index : Nat)
    (earlier : s.store.scopes.length ≤ t.store.scopes.length)
    (known : ∀ id ∈ script.sinks, SameKind s.store t.store id)
    (related : Parallel asks listen s.store t.store s t) :
    SameCourse s.store t.store (script.run path index s).released
      (script.run path index t).released := by
  have agree := script.run_parallel earlier blind asked here known path index related
  exact ⟨agree.ending.symm, agree.trace.symm, agree.state.store.growth⟩

theorem lookup_emptied (sinks : List (String × Sink)) (id : String) :
    (sinks.map fun entry => (entry.1, entry.2.clear)).lookup id =
      (sinks.lookup id).map Sink.clear := by
  induction sinks with
  | nil => rfl
  | cons entry rest ih =>
      obtain ⟨name, sink⟩ := entry
      simp only [List.map_cons, List.lookup_cons, ih]
      split <;> rfl

namespace Alike

variable {s t : State}

theorem sameKind (h : Alike s t) (id : String) : SameKind s.store t.store id := by
  have cleared : (s.store.sinks.lookup id).map Sink.clear =
      (t.store.sinks.lookup id).map Sink.clear := by
    rw [← lookup_emptied, ← lookup_emptied]
    exact congrArg (fun store => store.sinks.lookup id) h.store.symm
  have kinds := congrArg (Option.map Sink.kind) cleared
  rw [SameKind]
  simpa [Function.comp_def, Sink.kind_clear] using kinds

theorem length (h : Alike s t) : t.store.scopes.length = s.store.scopes.length := by
  have cleared := congrArg (fun store => store.scopes.length) h.store
  simpa [Store.emptied] using cleared

theorem parallel (h : Alike s t) : Parallel True False s.store t.store s t := by
  have same {α : Type} (f : Store → α) : f t.store.emptied = f s.store.emptied :=
    congrArg f h.store
  refine ⟨⟨congrArg Thread.route h.thread, fun target _ => h.sameKind target.id, ?_⟩, ?_,
    fun both => both.elim, ?_⟩
  · have unmoved (place : Nat) : shift s.store.scopes t.store.scopes place = place := by
      rw [shift, h.length]
      split <;> omega
    rw [h.thread]
    cases s.thread.scope with
    | none => rfl
    | some place => exact congrArg some (unmoved place).symm
  · exact ⟨.refl _ _, same Store.environment, fun _ => same Store.initialisation,
      same Store.subscriber⟩
  · exact .inr (.inr ⟨same Store.attention, h.length⟩)

end Alike

/-- What stays, whatever is done to a store: the sinks up to their contents, and the subscriber. -/
structure Store.Keeps (a b : Store) : Prop where
  environment : b.environment = a.environment
  subscriber : a.subscriber.isSome → b.subscriber = a.subscriber
  scopes : a.scopes.length ≤ b.scopes.length
  sinks : ∀ id sink, a.sinks.lookup id = some sink →
    (b.sinks.lookup id).map Sink.kind = some sink.kind

namespace Store.Keeps

variable {a b c : Store}

theorem of_same_sinks (environment : b.environment = a.environment)
    (subscriber : a.subscriber.isSome → b.subscriber = a.subscriber)
    (scopes : a.scopes.length ≤ b.scopes.length) (sinks : b.sinks = a.sinks) : a.Keeps b := by
  refine ⟨environment, subscriber, scopes, ?_⟩
  intro id sink found
  rw [sinks, found, Option.map_some]

theorem refl (a : Store) : a.Keeps a :=
  of_same_sinks rfl (fun _ => rfl) (Nat.le_refl _) rfl

theorem trans (h : a.Keeps b) (k : b.Keeps c) : a.Keeps c := by
  refine ⟨k.environment.trans h.environment, ?_, Nat.le_trans h.scopes k.scopes, ?_⟩
  · intro installed
    have first := h.subscriber installed
    rw [← first] at installed
    exact (k.subscriber installed).trans first
  · intro id sink found
    obtain ⟨middle, found', kind⟩ := Option.map_eq_some_iff.mp (h.sinks id sink found)
    rw [k.sinks id middle found', kind]

theorem changeSink (a : Store) (id : String) {f : Sink → Sink}
    (kind : ∀ sink, a.sinks.lookup id = some sink → (f sink).kind = sink.kind) :
    a.Keeps (a.changeSink id f) := by
  refine ⟨rfl, fun _ => rfl, Nat.le_refl _, ?_⟩
  intro other sink found
  rw [Store.lookup_changeSink]
  by_cases same : other = id
  · subst same
    have held : a.sink other = sink := by
      rw [Store.sink, found, Option.getD_some]
    rw [if_pos rfl, held, Option.map_some, kind sink found]
  · rw [if_neg same, found, Option.map_some]

theorem install (a : Store) (subscriber : Subscriber) : a.Keeps (a.install subscriber) :=
  of_same_sinks rfl Option.or_of_isSome (Nat.le_refl _) rfl

end Store.Keeps

theorem Change.keeps (s : State) (change : Change) : s.store.Keeps (change.apply s).store := by
  cases change with
  | keep id line => exact .changeSink s.store id fun sink _ => sink.kind_keep line
  | clearSink id => exact .changeSink s.store id fun sink _ => sink.kind_clear
  | make id kind =>
      change s.store.Keeps (s.store.made id kind)
      rw [Store.made]
      split
      · exact .refl _
      · rename_i unmade
        refine .changeSink s.store id fun sink found => ?_
        exact absurd (Option.isSome_of_eq_some found) unmade
  | log event =>
      have logs := s.logs_afterEvent event
      exact .of_same_sinks logs.environment (fun _ => logs.subscriber)
        (Nat.le_of_eq logs.opened.symm) logs.sinks
  | initialise subscriber =>
      have installed := Store.Keeps.install s.store subscriber
      exact ⟨installed.environment, installed.subscriber, installed.scopes, installed.sinks⟩
  | makeCapture =>
      have installed := Store.Keeps.install s.store .capture
      change s.store.Keeps s.store.makeCapture
      rw [Store.makeCapture]
      split
      · exact .refl _
      · exact ⟨installed.environment, installed.subscriber, installed.scopes, installed.sinks⟩
  | errorLine _ | hook _ | poison | clearCaptured | closeScope =>
      exact .of_same_sinks rfl (fun _ => rfl) (Nat.le_refl _) rfl
  | clearScope place =>
      exact .of_same_sinks rfl (fun _ => rfl) (Nat.le_of_eq (List.length_modify _ _ _).symm) rfl
  | openScope name =>
      refine .of_same_sinks rfl (fun _ => rfl) ?_ rfl
      simp [apply, State.openScope]

def Change.Passing : Change → Prop
  | .initialise _ | .poison => False
  | _ => True

theorem Step.Passing.can {st : Step} (passing : st.Passing) {change : Change}
    (able : st.Can change) : change.Passing := by
  cases change with
  | initialise _ | poison =>
      obtain ⟨profile, rfl⟩ := able
      exact passing
  | keep _ _ | make _ _ | clearSink _ | errorLine _ | hook _ | log _ | makeCapture
  | clearCaptured | clearScope _ | openScope _ | closeScope => trivial

theorem Frame.passing_of_can {frame : Frame} {change : Change} (able : frame.Can change) :
    change.Passing := by
  cases change <;> first | exact able | trivial

theorem Change.OfLine.passing {change : Change} (h : change.OfLine) : change.Passing := by
  cases change <;> trivial

theorem Change.initialisation_eq {change : Change} (passing : change.Passing) (s : State) :
    (change.apply s).store.initialisation = s.store.initialisation := by
  cases change with
  | initialise _ | poison => exact passing.elim
  | log event => exact (s.logs_afterEvent event).initialisation
  | make id kind =>
      change (s.store.made id kind).initialisation = _
      rw [Store.made]
      split <;> rfl
  | makeCapture =>
      change s.store.makeCapture.initialisation = _
      rw [Store.makeCapture]
      split <;> rfl
  | keep _ _ | clearSink _ | errorLine _ | hook _ | clearCaptured | clearScope _ | openScope _
  | closeScope => rfl

def Frame.Unheard : Frame → Prop
  | .captured _ => False
  | _ => True

theorem Frame.Unheard.can {frame : Frame} (unheard : frame.Unheard) {change : Change}
    (able : frame.Can change) : change.Unheard False := by
  cases change with
  | openScope name =>
      obtain rfl := able
      exact unheard
  | closeScope =>
      obtain ⟨name, rfl⟩ := able
      exact unheard
  | initialise _ | makeCapture => exact able
  | keep _ _ | make _ _ | clearSink _ | errorLine _ | hook _ | log _ | poison | clearCaptured
  | clearScope _ => trivial

/-- No subscriber is installed and no capture was ever opened. -/
structure Store.Deserted (store : Store) (attention : Attention) : Prop where
  subscriber : store.subscriber = none
  scopes : store.scopes = []
  attention : store.attention = attention

theorem Change.deserted {change : Change} (unheard : change.Unheard False) {attention : Attention}
    (s : State) (deserted : s.store.Deserted attention) :
    (change.apply s).store.Deserted attention := by
  obtain ⟨subscriber, scopes, same⟩ := deserted
  cases change with
  | initialise _ | makeCapture | openScope _ | closeScope => exact unheard.elim
  | log event =>
      -- Without a subscriber and without a capture no site is even settled.
      have silent : s.logged event = s.store := by
        rw [State.logged, subscriber, scopes]
        rfl
      change (s.logged event).Deserted attention
      rw [silent]
      exact ⟨subscriber, scopes, same⟩
  | make id kind =>
      change (s.store.made id kind).Deserted attention
      rw [Store.made]
      split <;> exact ⟨subscriber, scopes, same⟩
  | clearScope place =>
      refine ⟨subscriber, ?_, same⟩
      change s.store.scopes.modify place Scope.clear = []
      rw [scopes]
      exact List.modify_nil _ _
  | keep _ _ | clearSink _ | errorLine _ | hook _ | poison | clearCaptured =>
      exact ⟨subscriber, scopes, same⟩

/-- A script that came before the body, and led from `s` to `t`, left all that the body consults: it
lost no event that the body can log, and spent neither the initialisation nor a name of a sink. -/
structure Harmless (before body : Script) (s t : State) : Prop where
  scope : ∀ place, s.thread.scope = some place → place < s.store.scopes.length
  heard : s.store.subscriber.isSome ∨
    s.store.scopes = [] ∧ before.All Step.Local Frame.Unheard ∨
    s.Attends before ∧ body.All (fun _ => True) Frame.Local
  asked : (before.All Step.Passing fun _ => True) ∨ body.All Step.Passing fun _ => True
  sinks : ∀ id, id ∈ body.sinks ∨ s.thread.route.map Target.id = some id →
    s.store.sinks.lookup id = none → t.store.sinks.lookup id = none

theorem Script.effect_keeps (script : Script) (place : List Nat) {s : State}
    (live : (script.effect place s).1.Live) :
    (script.effect place s).2.thread = s.thread ∧
      s.store.Keeps (script.effect place s).2.store := by
  have able : script.All (fun st => ∀ change, st.Can change → True)
      fun fr => ∀ change, fr.Can change → True :=
    .of_forall (fun _ _ _ => trivial) (fun _ _ _ => trivial) script
  have reached := Script.effect_reaches able (fun _ _ => trivial) place s live
  refine ⟨reached.thread, reached.store.invariant s.store.Keeps ?_ (.refl _)⟩
  intro t change _ kept
  exact kept.trans (change.keeps t)

theorem Script.effect_initialisation {script : Script}
    (passing : script.All Step.Passing fun _ => True) (place : List Nat) {s : State}
    (live : (script.effect place s).1.Live) :
    (script.effect place s).2.store.initialisation = s.store.initialisation := by
  have able : script.All (fun st => ∀ change, st.Can change → change.Passing)
      fun fr => ∀ change, fr.Can change → change.Passing := by
    refine passing.mono ?_ ?_
    · exact fun st h change able => h.can able
    · exact fun fr _ change able => Frame.passing_of_can able
  have reached := Script.effect_reaches able (fun _ ofLine => ofLine.passing) place s live
  refine reached.store.invariant (·.initialisation = s.store.initialisation) ?_ rfl
  intro t change h same
  rw [change.initialisation_eq h, same]

theorem Script.effect_deserted {script : Script} (unheard : script.All Step.Local Frame.Unheard)
    (place : List Nat) {s : State} (live : (script.effect place s).1.Live)
    (deserted : s.store.Deserted s.store.attention) :
    (script.effect place s).2.store.Deserted s.store.attention := by
  have able : script.All (fun st => ∀ change, st.Can change → change.Unheard False)
      fun fr => ∀ change, fr.Can change → change.Unheard False := by
    refine unheard.mono ?_ ?_
    · exact fun st h change able => Step.Local.can (.inr h) able
    · exact fun fr h change able => h.can able
  have reached := Script.effect_reaches able (fun _ ofLine => ofLine.unheard) place s live
  exact reached.store.invariant (Store.Deserted · s.store.attention)
    (fun t change h => change.deserted h t) deserted

theorem Store.Keeps.sameKind {a b : Store} (h : a.Keeps b) {id : String}
    (unmade : a.sinks.lookup id = none → b.sinks.lookup id = none) : SameKind a b id := by
  rw [SameKind]
  cases found : a.sinks.lookup id with
  | none => rw [unmade found]
  | some sink => rw [h.sinks id sink found, Option.map_some]

/-- After a harmless script the same subscriber is installed, and the same events are heard as
before it, as far as the body can log them. -/
theorem Harmless.hears {before body : Script} {place : List Nat} {s : State}
    (live : (before.effect place s).1.Live)
    (harmless : Harmless before body s (before.effect place s).2) :
    (before.effect place s).2.store.subscriber = s.store.subscriber ∧
      ∃ listen, HeardAlike listen s (before.effect place s).2 ∧
        (listen → body.All (fun _ => True) Frame.Local) := by
  by_cases installed : s.store.subscriber.isSome
  · exact ⟨(before.effect_keeps place live).2.subscriber installed, False,
      ⟨False.elim, .inr (.inl installed)⟩, False.elim⟩
  · rcases harmless.heard.resolve_left installed with ⟨scopes, unheard⟩ | ⟨attends, here⟩
    · have none := Option.not_isSome_iff_eq_none.mp installed
      have left := Script.effect_deserted unheard place live ⟨none, scopes, rfl⟩
      refine ⟨left.subscriber.trans none.symm, False,
        ⟨False.elim, .inr (.inr ⟨left.attention, ?_⟩)⟩,
        False.elim⟩
      rw [left.scopes, scopes]
    · have attentive := attends.attentive place live
      exact ⟨attentive.subscriber, True,
        ⟨fun _ => ⟨attends.listening, attentive.listening⟩, .inl trivial⟩, fun _ => here⟩

/-- After a harmless script the body runs beside the run that it would have had before. -/
theorem Harmless.parallel {before body : Script} {place : List Nat} {s : State}
    (live : (before.effect place s).1.Live)
    (harmless : Harmless before body s (before.effect place s).2) :
    ∃ listen, (listen → body.All (fun _ => True) Frame.Local) ∧
      Parallel (before.All Step.Passing fun _ => True) listen s.store
        (before.effect place s).2.store s (before.effect place s).2 := by
  obtain ⟨thread, keeps⟩ := before.effect_keeps place live
  obtain ⟨subscriber, listen, heard, here⟩ := harmless.hears live
  have route (target : Target) (h : s.thread.route = some target) :
      SameKind s.store (before.effect place s).2.store target.id :=
    keeps.sameKind (harmless.sinks target.id (.inr (by rw [h, Option.map_some])))
  have scope : (before.effect place s).2.thread.scope =
      s.thread.scope.map (shift s.store.scopes (before.effect place s).2.store.scopes) := by
    rw [thread]
    cases active : s.thread.scope with
    | none => rfl
    | some place => exact congrArg some (if_pos (harmless.scope place active)).symm
  exact ⟨listen, here, ⟨congrArg Thread.route thread, route, scope⟩,
    ⟨.refl _ _, keeps.environment,
      fun passing => Script.effect_initialisation passing place live, subscriber⟩, heard⟩

/-- What was received before has no influence on a list of blind steps, and neither has a harmless
script that came before, whatever failed, panicked or was unwound in it. -/
theorem run_independent_of_past (body : Script) (blind : body.All Step.Blind fun _ => True)
    (path : List Nat) (index : Nat) (s : State) :
    (∀ t, Alike s t →
      SameCourse s.store t.store (body.run path index s).released
        (body.run path index t).released) ∧
    (∀ before place, (before.effect place s).1.Live →
      Harmless before body s (before.effect place s).2 →
      SameCourse s.store (before.effect place s).2.store (body.run path index s).released
        (body.run path index (before.effect place s).2).released) := by
  constructor
  · intro t alike
    exact body.run_sameCourse blind (.inl trivial) False.elim path index
      (Nat.le_of_eq alike.length.symm) (fun id _ => alike.sameKind id) alike.parallel
  · intro before place live harmless
    have keeps := (before.effect_keeps place live).2
    obtain ⟨listen, here, parallel⟩ := harmless.parallel live
    exact body.run_sameCourse blind harmless.asked here path index keeps.scopes
      (fun id named => keeps.sameKind (harmless.sinks id (.inl named))) parallel

def panickingCase : Script :=
  .framed "case" (.case "a" .report) (.simple "panic" (.panic (.text "left")) .done) .done

def failingCase : Script :=
  .framed "thread" .thread
    (.framed "case" (.case "b" .report) (.simple "int" (.check "sum" (.int 5 6)) .done) .done) .done

theorem failingCase_independent_of_panickingCase :
    SameCourse State.capturing.store (panickingCase.effect [] .capturing).2.store
      (failingCase.run [] 1 .capturing).released
      (failingCase.run [] 1 (panickingCase.effect [] .capturing).2).released := by
  have blind : failingCase.All Step.Blind fun _ => True := by
    simp [failingCase, Script.All, Step.Blind]
  have passing : failingCase.All Step.Passing fun _ => True := by
    simp [failingCase, Script.All, Step.Passing]
  have live : (panickingCase.effect [] .capturing).1.Live := trivial
  refine (run_independent_of_past failingCase blind [] 1 .capturing).2 panickingCase [] live ?_
  refine ⟨fun _ active => (nomatch active), .inl rfl, .inr passing, ?_⟩
  rintro id (named | routed)
  · simp [failingCase, Script.sinks, Step.sinks, Frame.sinks] at named
  · cases routed

/-- A case on a thread of its own, and what unwinds from the thread is caught. -/
def caughtThread : Script :=
  .framed "try" .attempt
    (.framed "thread" .thread (.framed "case" (.case "a" .report) .done .done) .done) .done

def plainCase : Script :=
  .framed "case" (.case "b" .report) .done .done

/-- Without a subscriber, a thread that was started while a capture was open can have the events of
a later case lost. -/
theorem plainCase_depends_on_caughtThread :
    (plainCase.All Step.Blind fun _ => True) ∧
      (caughtThread.effect [0] ((State.fresh none).openScope "k")).1.Live ∧
      ¬ SameCourse ((State.fresh none).openScope "k").store
          (caughtThread.effect [0] ((State.fresh none).openScope "k")).2.store
          (plainCase.run [0] 1 ((State.fresh none).openScope "k")).released
          (plainCase.run [0] 1
            (caughtThread.effect [0] ((State.fresh none).openScope "k")).2).released := by
  refine ⟨?_, trivial, ?_⟩
  · simp [plainCase, Script.All]
  · intro same
    obtain ⟨more, left, right⟩ := same.growth.scopes.kept 0 (by decide)
    have kept : eventsAt (plainCase.run [0] 1
        ((State.fresh none).openScope "k")).released.state.store.scopes 0 =
          [.ofEvent (.caseStart "b"), .ofEvent (.caseEnd "b" (.ok ()))] := by decide +kernel
    have lost : eventsAt (plainCase.run [0] 1
        (caughtThread.effect [0] ((State.fresh none).openScope "k")).2).released.state.store.scopes
          0 = [] := by decide +kernel
    have started : eventsAt ((State.fresh none).openScope "k").store.scopes 0 = [] := rfl
    rw [kept, started] at left
    rw [lost] at right
    obtain ⟨_, rfl⟩ := List.append_eq_nil_iff.mp right.symm
    cases left

end Assertions
