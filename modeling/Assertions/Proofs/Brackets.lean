import Assertions.Proofs.Listening
import Assertions.Proofs.Liveness

/-!
Boundary events are brackets. What a run appends to a recorder is a word in which every start of a
case is closed by one end of the same case, with whole cases between them; single steps append no
boundary events, and the frame of a case puts one pair around what its body appended. So no way of
leaving a body, and no capture or thread in it, can separate the two ends of a pair.
-/

namespace Assertions

namespace Captured

/-- The event that a case logs before its body. -/
def Starts (name : String) (c : Captured) : Prop :=
  c.op = some OpName.runCase ∧ c.event = some EventName.start ∧ c.case = some name

/-- The event that a case with such a result logs after its body. -/
def Finishes (name : String) : Except CaseError Unit → Captured → Prop
  | .ok (), c =>
      c.op = some OpName.runCase ∧ c.event = some EventName.finish ∧ c.case = some name
  | .error error, c =>
      c.op = some OpName.runCase ∧ c.event = some EventName.failure ∧ c.case = some name ∧
        c.field? FieldName.errKind = some error.kind.name ∧
        c.field? FieldName.errCode = some error.kind.code

end Captured

/-- The boundary events of the word are balanced. -/
inductive Bracketed : List Captured → Prop
  | nil : Bracketed []
  | other {c : Captured} {word} (op : c.op ≠ some OpName.runCase) (rest : Bracketed word) :
      Bracketed (c :: word)
  | case {name first inner last result word} (start : Captured.Starts name first)
      (body : Bracketed inner) (finish : Captured.Finishes name result last)
      (rest : Bracketed word) : Bracketed (first :: inner ++ last :: word)

theorem Bracketed.append {first second : List Captured} (h : Bracketed first)
    (k : Bracketed second) : Bracketed (first ++ second) := by
  induction h with
  | nil => exact k
  | other op _ ih => exact .other op ih
  | case start body finish _ _ ih =>
      rw [List.append_assoc, List.cons_append]
      exact .case start body finish ih

theorem Captured.starts_caseStart (name : String) :
    Captured.Starts name (.ofEvent (.caseStart name)) :=
  ⟨rfl, rfl, rfl⟩

theorem Captured.finishes_caseEnd (name : String) (result : Except CaseError Unit) :
    Captured.Finishes name result (.ofEvent (.caseEnd name result)) := by
  cases result with
  | ok value => exact ⟨rfl, rfl, rfl⟩
  | error error => exact ⟨rfl, rfl, rfl, rfl, rfl⟩

/-- Each recorder holds what it held before, and behind it a balanced word. -/
def Store.Extends (a b : Store) : Prop :=
  ∀ r, ∃ word, Bracketed word ∧ b.events r = a.events r ++ word

/-- The thread listens again, and each recorder has received a balanced word. -/
structure Follows (s t : State) : Prop where
  attentive : Attentive s t
  store : s.store.Extends t.store

/-- From a state that listens, a run leads to one that follows it. Some runs do so only while a
subscriber is installed. -/
def Brackets (installed : Prop) (s t : State) : Prop :=
  (installed → s.store.subscriber.isSome) → s.Listening → Follows s t

theorem Store.Extends.of_events {a b : Store} (events : ∀ r, b.events r = a.events r) :
    a.Extends b :=
  fun r => ⟨[], .nil, by rw [List.append_nil, events]⟩

theorem Store.Extends.trans {a b c : Store} (h : a.Extends b) (k : b.Extends c) : a.Extends c := by
  intro r
  obtain ⟨first, bracketed, same⟩ := h r
  obtain ⟨second, bracketed', same'⟩ := k r
  refine ⟨first ++ second, bracketed.append bracketed', ?_⟩
  rw [same', same, List.append_assoc]

theorem Follows.trans {s t u : State} (h : Follows s t) (k : Follows t u) : Follows s u :=
  ⟨h.attentive.trans k.attentive, h.store.trans k.store⟩

variable {installed : Prop}

instance : IsPreorder State (Brackets installed) where
  refl _ _ hears := ⟨.of_hearsAs hears ⟨rfl, rfl, rfl, rfl⟩, .of_events fun _ => rfl⟩
  trans _ _ _ h k present hears := by
    have first := h present hears
    rw [← first.attentive.subscriber] at present
    exact first.trans (k present first.attentive.listening)

/-- Changes that append no boundary event and take nothing from a recorder. -/
def Change.Quiet (installed : Prop) : Change → Prop
  | .log event => (Captured.ofEvent event).op ≠ some OpName.runCase
  | .initialise _ | .makeCapture => installed
  | .clearCaptured | .clearScope _ | .openScope _ | .closeScope => False
  | .keep _ _ | .make _ _ | .clearSink _ | .errorLine _ | .hook _ | .poison => True

/-- Steps that neither log boundary events themselves nor clear a capture. -/
def Step.Quiet : Step → Prop
  | .log event => (Captured.ofEvent event).op ≠ some OpName.runCase
  | .query _ .clear => False
  | _ => True

theorem Captured.op_mismatch (m : Mismatch) :
    (Captured.ofEvent (.mismatch Component.assertion m)).op ≠ some OpName.runCase := by
  change some "assert_equals" ≠ some "run_case"
  decide

theorem Step.Quiet.can {st : Step} (quiet : st.Quiet) (here : installed ∨ st.Local)
    {change : Change} (able : st.Can change) : change.Quiet installed := by
  cases change with
  | log event =>
      rcases able with rfl | ⟨label, assertion, m, rfl, rfl⟩
      · exact quiet
      · exact Captured.op_mismatch m
  | initialise subscriber =>
      obtain ⟨profile, rfl⟩ := able
      exact here.resolve_right id
  | makeCapture =>
      rcases able with rfl | ⟨question, rfl⟩
      · exact here.resolve_right id
      · exact here.resolve_right id
  | clearCaptured =>
      obtain rfl := able
      exact quiet
  | clearScope place =>
      obtain ⟨name, rfl⟩ := able
      exact quiet
  | openScope _ | closeScope => exact able
  | keep _ _ | make _ _ | clearSink _ | errorLine _ | hook _ | poison => trivial

theorem Change.Quiet.unheard {change : Change} (quiet : change.Quiet installed) :
    change.Unheard installed := by
  cases change <;> first | exact quiet | trivial

/-- The changes that log nothing are silent. -/
theorem Change.Quiet.logs_or_silent {change : Change} (quiet : change.Quiet installed) :
    (∃ event, change = .log event ∧ (Captured.ofEvent event).op ≠ some OpName.runCase) ∨
      change.Silent := by
  cases change <;> first | exact .inl ⟨_, rfl, quiet⟩ | exact quiet.elim | exact .inr trivial

theorem Change.brackets (change : Change) (quiet : change.Quiet installed) (s : State) :
    Brackets installed s (change.apply s) := by
  intro present hears
  refine ⟨change.heeds quiet.unheard s present hears, ?_⟩
  rcases quiet.logs_or_silent with ⟨event, rfl, op⟩ | silent
  · intro r
    refine ⟨s.heard event r, ?_, hears.events event r⟩
    rw [State.heard]
    split
    · exact .other op .nil
    · exact .nil
  · exact .of_events fun _ => silent.untouched s

theorem Effect.Makes.brackets {α : Type} {e : Effect α} {can : Change → Prop} (makes : e.Makes can)
    (quiet : ∀ change, can change → change.Quiet installed) : e.Moves (Brackets installed) :=
  fun s live => (makes s live).lift fun s change able => change.brackets (quiet change able) s

theorem Change.OfLine.quiet {change : Change} (h : change.OfLine) : change.Quiet installed := by
  cases change <;> trivial

theorem Effect.emit_brackets (line : String) : (Effect.emit line).Moves (Brackets installed) :=
  (Effect.Does.emit line).makes.brackets fun _ ofLine => ofLine.quiet

theorem Effect.mention_brackets (sink : SinkRef) :
    (Effect.mention sink).Moves (Brackets installed) := by
  have makes : (Effect.mention sink).Makes (Change.Quiet installed) :=
    mention_makes sink fun _ => trivial
  exact makes.brackets fun _ quiet => quiet

theorem OnFailure.conclude_brackets (onFailure : OnFailure) (error : CaseError) :
    (onFailure.conclude error).Moves (Brackets installed) := by
  have makes : (onFailure.conclude error).Makes Change.OfLine :=
    onFailure.conclude_makes error fun _ => trivial
  exact makes.brackets fun _ ofLine => ofLine.quiet

namespace Follows

variable {s t : State} {name : String}

/-- The brackets of a case go where its thread logs, around what its body appended there. -/
theorem events_case (hears : s.Listening) (result : Except CaseError Unit)
    (body : Follows (s.afterEvent (.caseStart name)) t) (r : Recorder) :
    ∃ word, Bracketed word ∧
      t.store.events r = (s.afterEvent (.caseStart name)).store.events r ++ word ∧
      (t.afterEvent (.caseEnd name result)).store.events r =
        s.store.events r ++
          if s.recorder? = some r then
            .ofEvent (.caseStart name) :: word ++ [.ofEvent (.caseEnd name result)]
          else word := by
  have active : t.heard = s.heard :=
    State.heard_congr body.attentive.scope
      (body.attentive.subscriber.trans (s.logs_afterEvent _).subscriber)
  obtain ⟨word, bracketed, same⟩ := body.store r
  refine ⟨word, bracketed, same, ?_⟩
  rw [body.attentive.listening.events, same, hears.events, active]
  simp only [State.heard]
  split <;> simp

theorem case (hears : s.Listening) (result : Except CaseError Unit)
    (body : Follows (s.afterEvent (.caseStart name)) t) :
    Follows s (t.afterEvent (.caseEnd name result)) := by
  have started := Attentive.log hears (.caseStart name)
  have ended := Attentive.log body.attentive.listening (.caseEnd name result)
  refine ⟨(started.trans body.attentive).trans ended, fun r => ?_⟩
  obtain ⟨word, bracketed, _, same⟩ := events_case hears result body r
  refine ⟨_, ?_, same⟩
  split
  · exact .case (Captured.starts_caseStart name) bracketed (Captured.finishes_caseEnd name result)
      .nil
  · exact bracketed

end Follows

theorem Frame.case_brackets (name : String) (onFailure : OnFailure) :
    (Frame.case name onFailure).Moves (Brackets installed) := by
  intro s ending t ended body left present hears
  have entered : installed → (s.afterEvent (.caseStart name)).store.subscriber.isSome := by
    rw [(s.logs_afterEvent _).subscriber]
    exact present
  have inner := body entered (hears.afterEvent (.caseStart name))
  cases ending with
  | halted cause => exact ended.elim
  | returned value => exact inner.case hears (.ok ())
  | unwound payload =>
      -- The case is closed by now, and a panic about its error reaches no recorder.
      have closed := inner.case hears (.error (.ofPayload payload))
      rw [← closed.attentive.subscriber] at present
      exact closed.trans (onFailure.conclude_brackets (.ofPayload payload) _ left present
        closed.attentive.listening)

theorem Frame.brackets {frame : Frame} (here : installed ∨ frame.Local) :
    frame.Moves (Brackets installed) := by
  refine Frame.Undone.moves ?_
  cases frame with
  | routed sink =>
      refine ⟨Effect.mention_brackets sink, fun s t body present hears => ?_⟩
      have inner := body present ⟨hears.heard, hears.scope⟩
      exact ⟨inner.attentive.rerouted, inner.store⟩
  | case name onFailure => exact Frame.case_brackets name onFailure
  | attempt => trivial
  | thread =>
      intro s t body present hears
      have subscribed := present (here.resolve_right id)
      have inner := body present ⟨.inl subscribed, fun _ active => nomatch active⟩
      exact ⟨inner.attentive.joined hears subscribed, inner.store⟩
  | captured name =>
      intro s t body present hears
      have inner := body present (s.records_openScope name).listening
      have opened : s.store.Extends (s.openScope name).store :=
        .of_events (s.openScope_events name)
      have closed : t.store.Extends (t.closeScope s.thread.scope).store :=
        .of_events fun r => by cases r <;> rfl
      exact ⟨inner.attentive.closed hears, (opened.trans inner.store).trans closed⟩

/-- The result of a case whose body ended so. -/
structure Ending.Gives (ending : Ending Nat) (result : Except CaseError Unit) : Prop where
  ok : result = .ok () ↔ ∃ steps, ending = .returned steps
  error : ∀ error, result = .error error ↔
    ∃ payload, ending = .unwound payload ∧ error = .ofPayload payload

/-- A case that was begun in `s`, whose body left `inner`, leaves `after`: the recorder of its
thread received its brackets around what the body appended, and every other recorder received only
what the body appended. -/
def Encloses (name : String) (s inner : State) (result : Except CaseError Unit)
    (after : State) : Prop :=
  ∃ first last, Captured.Starts name first ∧ Captured.Finishes name result last ∧
    ∀ r, ∃ word, Bracketed word ∧
      inner.store.events r = (s.afterEvent (.caseStart name)).store.events r ++ word ∧
      after.store.events r =
        s.store.events r ++ if s.recorder? = some r then first :: word ++ [last] else word

/-- A case returns whatever its body did, unless the body was halted. -/
theorem Effect.runCase_returns (name : String) {body : Effect Nat} {s : State}
    (live : (body (s.afterEvent (.caseStart name))).1.Live) :
    ∃ result, (body (s.afterEvent (.caseStart name))).1.Gives result ∧
      Effect.runCase name body s =
        (.returned result,
          (body (s.afterEvent (.caseStart name))).2.afterEvent (.caseEnd name result)) := by
  cases ran : body (s.afterEvent (.caseStart name)) with
  | mk ending t =>
      rw [ran] at live
      cases ending with
      | halted cause => exact live.elim
      | returned steps =>
          exact ⟨.ok (), ⟨by simp, by simp⟩, runCase_of_returned ran⟩
      | unwound payload =>
          exact ⟨.error (.ofPayload payload), ⟨by simp, by simp [eq_comm]⟩, runCase_of_unwound ran⟩

theorem Script.effect_brackets {body : Script} {s : State} (attends : s.Attends body)
    (quiet : body.All Step.Quiet fun _ => True) (path : List Nat) :
    (body.effect path).Moves (Brackets s.store.subscriber.isSome) :=
  body.effect_moves
    (fun st h => st.perform_makes.brackets fun _ able => h.1.can h.2 able)
    Effect.emit_brackets (fun _ h => Frame.brackets h.2) (quiet.and attends.all) path

/-- No payload escapes a case. Where no event is lost, its brackets stand around what its body
appended, and every run appends balanced words. -/
theorem run_case_brackets (name : String) (body : Script)
    (quiet : body.All Step.Quiet fun _ => True) (path : List Nat) (s : State) :
    (body.All Step.Readable Frame.Readable → body.Unguarded →
      ∀ t, (body.effect path t).1.Live) ∧
    ((body.effect path (s.afterEvent (.caseStart name))).1.Live →
      ∃ result after, Effect.runCase name (body.effect path) s = (.returned result, after) ∧
        (body.effect path (s.afterEvent (.caseStart name))).1.Gives result ∧
        (s.Attends body →
          Encloses name s (body.effect path (s.afterEvent (.caseStart name))).2 result after)) ∧
    (s.Attends body → (body.effect path s).1.Live →
      ∀ r, ∃ word, Bracketed word ∧
        (body.effect path s).2.store.events r = s.store.events r ++ word) := by
  refine ⟨fun readable unguarded => body.effect_lives readable unguarded path, ?_, ?_⟩
  · intro live
    obtain ⟨result, gives, returned⟩ := Effect.runCase_returns name live
    refine ⟨result, _, returned, gives, fun attends => ?_⟩
    have hears := attends.listening
    have entered : s.store.subscriber.isSome →
        (s.afterEvent (.caseStart name)).store.subscriber.isSome := by
      rw [(s.logs_afterEvent _).subscriber]
      exact id
    have inner := Script.effect_brackets attends quiet path _ live entered (hears.afterEvent _)
    exact ⟨_, _, Captured.starts_caseStart name, Captured.finishes_caseEnd name result,
      inner.events_case hears result⟩
  · intro attends live
    exact (Script.effect_brackets attends quiet path s live id attends.listening).store

def failsInThread : Script :=
  .framed "thread" .thread
    (.framed "case" (.case "inner" .unwrap) (.simple "int" (.check "sum" (.int 5 6)) .done) .done)
    (.simple "panic" (.panic (.text "left")) .done)

theorem run_case_brackets_failsInThread :
    ∃ result after,
      Effect.runCase "outer" (failsInThread.effect []) .capturing = (.returned result, after) ∧
        Encloses "outer" .capturing
          (failsInThread.effect [] (State.capturing.afterEvent (.caseStart "outer"))).2
          result after := by
  have attends : State.capturing.Attends failsInThread :=
    ⟨⟨.inl rfl, fun _ active => nomatch active⟩, .inl rfl⟩
  have quiet : failsInThread.All Step.Quiet fun _ => True := by
    simp [failsInThread, Script.All, Step.Quiet]
  have readable : failsInThread.All Step.Readable Frame.Readable := by
    simp [failsInThread, Script.All, Step.Readable, Frame.Readable]
  have unguarded : failsInThread.Unguarded := by
    simp [failsInThread, Script.Unguarded]
  obtain ⟨lives, returns, _⟩ := run_case_brackets "outer" failsInThread quiet [] .capturing
  obtain ⟨result, after, returned, _, encloses⟩ := returns (lives readable unguarded _)
  exact ⟨result, after, returned, encloses attends⟩

/-- A case in a capture, and another one on a thread that the first one waits for. -/
def casesInCapture : Script :=
  .framed "scoped_capture" (.captured "k")
    (.framed "case" (.case "outer" .report)
      (.framed "thread" .thread (.framed "case" (.case "inner" .report) .done .done) .done) .done)
    .done

theorem Bracketed.not_singleton {name : String} {c : Captured} (start : c.Starts name) :
    ¬ Bracketed [c] := by
  intro bracketed
  generalize same : [c] = word at bracketed
  cases bracketed with
  | nil => cases same
  | other op _ =>
      obtain ⟨rfl, _⟩ := List.cons.inj same
      exact op start.1
  | case _ _ _ _ =>
      have length := congrArg List.length same
      simp at length

/-- Without a subscriber the end of a case can be lost: its site is first reached on a thread where
it is not listened to. -/
theorem casesInCapture_not_bracketed :
    (casesInCapture.All Step.Quiet fun _ => True) ∧
      casesInCapture.All Step.Readable Frame.Readable ∧ casesInCapture.Unguarded ∧
      ¬ Bracketed ((casesInCapture.effect [] (.fresh none)).2.store.events (.own 0)) := by
  refine ⟨?_, ?_, ?_, ?_⟩
  · simp [casesInCapture, Script.All]
  · simp [casesInCapture, Script.All, Frame.Readable]
  · simp [casesInCapture, Script.Unguarded]
  · have kept : (casesInCapture.effect [] (.fresh none)).2.store.events (.own 0) =
        [.ofEvent (.caseStart "outer")] := by decide +kernel
    rw [kept]
    exact Bracketed.not_singleton (Captured.starts_caseStart "outer")

end Assertions
