import Assertions.Event.Assortment
import Assertions.Proofs.Ledger

/-!
What was logged is found again. A capture keeps every field of an event as a text under its name, so
the queries see what was recorded: those for a label find the mismatches with this label and no
operation, each of them can be put together again from its fields, and those for a case find the
events that were logged with it. Of a field that was recorded twice they see the last value.
-/

namespace Assertions

namespace Event

/-- What was recorded for a field, the last time if more than once. -/
def value? (event : Event) (name : String) : Option FieldValue :=
  event.fields.reverse.lookup name

def text? (event : Event) (name : String) : Option String :=
  (event.value? name).map FieldValue.toText

/-- By what was recorded last as its event, an operation starts, ends, or ends with an error. The
event may have any further fields, a label among them. -/
def OfOperation (event : Event) : Prop :=
  ∃ kind ∈ [EventName.start, EventName.finish, EventName.failure],
    event.value? FieldName.event = some (.text kind)

/-- What the four ways of logging log, unless an operation records its event again. -/
def Canonical (event : Event) : Prop :=
  event.OfOperation ∨ ∃ component m, event = .mismatch component m

/-- The mismatch that the event was logged for. -/
def mismatch? (event : Event) : Option Mismatch :=
  match event.text? FieldName.label, event.text? FieldName.expected,
    event.text? FieldName.actual with
  | some label, some expected, some actual =>
      if event = .mismatch event.target ⟨label, expected, actual⟩ then
        some ⟨label, expected, actual⟩
      else none
  | _, _, _ => none

/-- The event says that it is a mismatch with this label. -/
def bears (label : String) (event : Event) : Bool :=
  event.text? FieldName.event == some EventName.mismatch &&
    event.text? FieldName.label == some label

/-- The event was logged for a mismatch with this label. -/
def tellsOf (label : String) (event : Event) : Bool :=
  event.mismatch?.any (·.label == label)

section Operations

variable (component op : String) (duration : FieldValue) (case? : Option String)

/-- Whatever is recorded behind it, an operation stays one unless its event is recorded again. -/
theorem opening_ofOperation (level : Level) {kind : String} {more : List (String × FieldValue)}
    (silent : List String)
    (member : kind ∈ [EventName.start, EventName.finish, EventName.failure])
    (last : ∀ field ∈ more, field.1 ≠ FieldName.event) :
    OfOperation ⟨level, component, opening component op kind ++ more, silent⟩ := by
  refine ⟨kind, member, ?_⟩
  have behind : more.reverse.lookup FieldName.event = none := by
    refine List.lookup_eq_none_iff.mpr fun field recorded => ?_
    exact bne_iff_ne.mpr (last field (List.mem_reverse.mp recorded)).symm
  rw [value?, List.reverse_append, List.lookup_append, behind, Option.none_or]
  rfl

theorem caseField_ne_event : ∀ field ∈ caseField case?, field.1 ≠ FieldName.event := by
  have apart : FieldName.case ≠ FieldName.event := by decide
  cases case? <;> simp [caseField, apart]

theorem start_ofOperation : (start component op case?).OfOperation :=
  opening_ofOperation component op .info [] (by decide) (caseField_ne_event case?)

theorem finish_ofOperation : (finish component op duration case?).OfOperation := by
  have apart : FieldName.durationMs ≠ FieldName.event := by decide
  exact opening_ofOperation component op .info [] (by decide)
    (List.forall_mem_cons.mpr ⟨apart, caseField_ne_event case?⟩)

theorem failure_ofOperation (error : CaseError) :
    (failure component op error duration case?).OfOperation := by
  have duration : FieldName.durationMs ≠ FieldName.event := by decide
  have kind : FieldName.errKind ≠ FieldName.event := by decide
  have code : FieldName.errCode ≠ FieldName.event := by decide
  refine opening_ofOperation component op .error [] (by decide) ?_
  simp only [List.forall_mem_cons]
  exact ⟨duration, kind, code, caseField_ne_event case?⟩

theorem assortment_ofOperation (a : Assortment) : (a.event component op).OfOperation := by
  obtain ⟨_, _, _, _, _, _, _, _, _, _, label⟩ := a
  cases label <;> exact ⟨EventName.start, by decide, rfl⟩

end Operations

theorem mismatch?_mismatch (component : String) (m : Mismatch) :
    (mismatch component m).mismatch? = some m := by
  have label : (mismatch component m).text? FieldName.label = some m.label := rfl
  have expected : (mismatch component m).text? FieldName.expected = some m.expected := rfl
  have actual : (mismatch component m).text? FieldName.actual = some m.actual := rfl
  rw [mismatch?, label, expected, actual]
  exact if_pos rfl

theorem mismatch?_eq_some_iff {event : Event} {m : Mismatch} :
    event.mismatch? = some m ↔ ∃ component, event = .mismatch component m := by
  constructor
  · intro told
    rw [mismatch?] at told
    split at told
    · split at told
      · obtain rfl := Option.some.inj told
        exact ⟨_, ‹_›⟩
      · exact nomatch told
    · exact nomatch told
  · rintro ⟨component, rfl⟩
    exact mismatch?_mismatch component m

theorem OfOperation.ne_mismatch {event : Event} (operation : event.OfOperation) :
    event.text? FieldName.event ≠ some EventName.mismatch := by
  obtain ⟨kind, member, recorded⟩ := operation
  rw [text?, recorded]
  intro same
  obtain rfl : kind = EventName.mismatch := Option.some.inj same
  exact absurd member (by decide)

theorem OfOperation.mismatch? {event : Event} (operation : event.OfOperation) :
    event.mismatch? = none := by
  cases told : event.mismatch? with
  | none => rfl
  | some m =>
      obtain ⟨component, rfl⟩ := mismatch?_eq_some_iff.mp told
      exact absurd rfl operation.ne_mismatch

/-- Among the canonical events, those say that they are a mismatch with a label that were logged for
one. -/
theorem Canonical.bears_eq {event : Event} (canonical : event.Canonical) (label : String) :
    event.bears label = event.tellsOf label := by
  rcases canonical with operation | ⟨component, m, rfl⟩
  · rw [bears, beq_eq_false_iff_ne.mpr operation.ne_mismatch, tellsOf, operation.mismatch?]
    rfl
  · rw [tellsOf, mismatch?_mismatch]
    rfl

end Event

namespace Captured

/-- The mismatch that is put together from the fields of an event that was found for a label. -/
def mismatch? (label : String) (c : Captured) : Option Mismatch :=
  match c.field? FieldName.expected, c.field? FieldName.actual with
  | some expected, some actual => some ⟨label, expected, actual⟩
  | _, _ => none

/-- The fields are those that were recorded with a value, each name once, texts as they were and
numbers in decimal, and the five that stand for themselves are the same again. -/
structure Keeps (c : Captured) (logged : Event) : Prop where
  level : c.level = logged.level
  distinct : (c.fields.map (·.1)).Nodup
  component : c.component = c.field? FieldName.component
  op : c.op = c.field? FieldName.op
  event : c.event = c.field? FieldName.event
  label : c.label = c.field? FieldName.label
  case : c.case = c.field? FieldName.case
  present : ∀ name, (c.field? name).isSome ↔ ∃ value, (name, value) ∈ logged.fields
  text : ∀ name value, logged.value? name = some (.text value) → c.field? name = some value
  integer : ∀ name value, logged.value? name = some (.integer value) →
    c.field? name = some (toString value)

theorem field?_ofEvent (event : Event) (name : String) :
    (ofEvent event).field? name = event.text? name := by
  have found := Table.lookup_ofList (event.fields.map fun field => (field.1, field.2.toText)) name
  rw [← List.map_reverse, Table.lookup_map] at found
  exact found

theorem keeps_ofEvent (event : Event) : (ofEvent event).Keeps event := by
  refine ⟨rfl, Table.nodup_ofList _, rfl, rfl, rfl, rfl, rfl, fun name => ?_,
    fun name value recorded => ?_, fun name value recorded => ?_⟩
  · rw [field?_ofEvent, Event.text?, Event.value?, Option.isSome_map, List.lookup_isSome_iff]
    constructor
    · rintro ⟨⟨_, value⟩, member, same⟩
      obtain rfl := eq_of_beq same
      exact ⟨value, List.mem_reverse.mp member⟩
    · rintro ⟨value, member⟩
      exact ⟨(name, value), List.mem_reverse.mpr member, BEq.rfl⟩
  · rw [field?_ofEvent, Event.text?, recorded]
    rfl
  · rw [field?_ofEvent, Event.text?, recorded]
    rfl

/-- Whatever their width, numbers are kept in decimal. -/
theorem integers_ofEvent (component op : String) (a : Assortment) :
    (ofEvent (a.event component op)).field? "i64" = some (toString a.signed) ∧
      (ofEvent (a.event component op)).field? "u64" = some (toString a.unsigned) ∧
      (ofEvent (a.event component op)).field? "i128" = some (toString a.wideSigned) ∧
      (ofEvent (a.event component op)).field? "u128" = some (toString a.wideUnsigned) := by
  simp only [field?_ofEvent]
  obtain ⟨_, _, _, _, _, _, _, _, _, _, label⟩ := a
  cases label <;> exact ⟨rfl, rfl, rfl, rfl⟩

theorem isMismatch_ofEvent (event : Event) :
    (ofEvent event).isMismatch = (event.text? FieldName.event == some EventName.mismatch) :=
  congrArg (· == some EventName.mismatch) (field?_ofEvent event FieldName.event)

/-- An operation that records its event again can say of itself that it is a mismatch. -/
example : (ofEvent ⟨.info, "m", Event.opening "m" "x" EventName.start ++
    [(FieldName.event, .text EventName.mismatch)], []⟩).isMismatch = true := rfl

theorem mismatch?_ofEvent (component : String) (m : Mismatch) :
    (ofEvent (.mismatch component m)).mismatch? m.label = some m := rfl

section Queries

variable {logged : List Event} (before : List Captured)

theorem mismatchesForLabel_append (label : String) :
    mismatchesForLabel label (before ++ logged.map ofEvent) =
      mismatchesForLabel label before ++ (logged.filter (Event.bears label)).map ofEvent := by
  rw [mismatchesForLabel, List.filter_append, List.filter_map]
  congr 2
  refine List.filter_congr fun event _ => ?_
  exact congrArg₂ (· && · == some label) (isMismatch_ofEvent event)
    (field?_ofEvent event FieldName.label)

theorem eventsForCase_append (case : String) :
    eventsForCase case (before ++ logged.map ofEvent) =
      eventsForCase case before ++
        (logged.filter fun event => event.text? FieldName.case == some case).map ofEvent := by
  rw [eventsForCase, List.filter_append, List.filter_map]
  congr 2
  exact List.filter_congr fun event _ =>
    congrArg (· == some case) (field?_ofEvent event FieldName.case)

theorem hasEvent_append (op event : String) :
    hasEvent op event (before ++ logged.map ofEvent) =
      (hasEvent op event before || logged.any fun e =>
        e.text? FieldName.op == some op && e.text? FieldName.event == some event) := by
  rw [hasEvent, List.any_append, List.any_map]
  refine congrArg (hasEvent op event before || logged.any ·) (funext fun e => ?_)
  exact congrArg₂ (fun op? event? => op? == some op && event? == some event)
    (field?_ofEvent e FieldName.op) (field?_ofEvent e FieldName.event)

/-- The mismatches that are put together from what is found for a label. -/
theorem map_mismatch? (label : String) :
    ((logged.filter (Event.tellsOf label)).map ofEvent).map (mismatch? label) =
      ((logged.filterMap Event.mismatch?).filter (·.label == label)).map some := by
  induction logged with
  | nil => rfl
  | cons event logged ih =>
      cases told : event.mismatch? with
      | none =>
          have other : event.tellsOf label = false := by rw [Event.tellsOf, told]; rfl
          rw [List.filterMap_cons_none told, List.filter_cons_of_neg (by simp [other]), ih]
      | some m =>
          have tells : event.tellsOf label = (m.label == label) := by rw [Event.tellsOf, told]; rfl
          rw [List.filterMap_cons_some told, List.filter_cons, List.filter_cons, tells]
          split
          · rename_i same
            obtain ⟨component, rfl⟩ := Event.mismatch?_eq_some_iff.mp told
            obtain rfl := eq_of_beq same
            rw [List.map_cons, List.map_cons, List.map_cons, ih, mismatch?_ofEvent]
          · exact ih

end Queries

end Captured

/-- A step logs an operation or a mismatch, if it logs at all. -/
def Step.Canonical : Step → Prop
  | .log event => event.Canonical
  | _ => True

section Canonical

variable {event : Event}

theorem Payload.canonical {payload : Payload} (member : event ∈ payload.events) :
    event.Canonical := by
  cases payload with
  | mismatch m => exact .inr ⟨Component.assertion, m, List.mem_singleton.mp member⟩
  | literal _ | text _ | number _ | wrapped _ => exact nomatch member

theorem Step.Canonical.events {st : Step} (canonical : st.Canonical) {ending : Ending Result}
    (member : event ∈ st.events ending) : event.Canonical := by
  cases st with
  | log _ =>
      obtain rfl := List.mem_singleton.mp member
      exact canonical
  | check _ _ =>
      cases ending with
      | unwound payload => exact Payload.canonical member
      | returned _ | halted _ => exact nomatch member
  | malformed _ | panic _ | resume _ | emit _ | writeLine _ _ | readSink _ | clearSink _ | init _
  | initCapture | query _ _ => exact nomatch member

theorem Frame.canonical_opening {frame : Frame} (member : event ∈ frame.opening) :
    event.Canonical := by
  cases frame with
  | case name _ =>
      obtain rfl := List.mem_singleton.mp member
      exact .inl (Event.start_ofOperation _ _ _)
  | routed _ | attempt | thread | captured _ => exact nomatch member

theorem Frame.canonical_closing {frame : Frame} {ending : Ending Nat}
    (member : event ∈ frame.closing ending) : event.Canonical := by
  cases frame with
  | case name _ =>
      cases ending with
      | returned _ =>
          obtain rfl := List.mem_singleton.mp member
          exact .inl (Event.finish_ofOperation _ _ _ _)
      | unwound _ =>
          obtain rfl := List.mem_singleton.mp member
          exact .inl (Event.failure_ofOperation _ _ _ _ _)
      | halted _ => exact nomatch member
  | routed _ | attempt | thread | captured _ => cases ending <;> exact nomatch member

theorem Script.canonical_of_mem_events {script : Script} {counts : State → Event → Bool}
    (canonical : script.All Step.Canonical fun _ => True) {path : List Nat} {index : Nat}
    {s : State} (member : event ∈ script.events counts path index s) : event.Canonical := by
  induction script generalizing path index s with
  | done => exact absurd member List.not_mem_nil
  | guarded word line next ih => exact ih canonical member
  | simple word st next ih =>
      cases performed : st.perform s with
      | mk ending t =>
          rw [events_simple performed] at member
          rcases List.mem_append.mp member with here | behind
          · exact canonical.1.events (List.mem_filter.mp here).1
          · cases ending with
            | returned _ => exact ih canonical.2 behind
            | unwound _ | halted _ => exact absurd behind List.not_mem_nil
  | framed word frame body next ihBody ihNext =>
      cases entry : frame.enter s with
      | mk entering entered =>
          cases entering with
          | unwound _ | halted _ =>
              rw [events, entry] at member
              exact absurd member List.not_mem_nil
          | returned _ =>
              cases left : frame.leave s.thread (body.effect (path ++ [index]) entered).1
                  (body.effect (path ++ [index]) entered).2 with
              | mk ending t =>
                  rw [events_framed entry left] at member
                  simp only [List.mem_append, List.mem_filter] at member
                  rcases member with ((opening | inside) | closing) | behind
                  · exact Frame.canonical_opening opening.1
                  · exact ihBody canonical.2.1 inside
                  · exact Frame.canonical_closing closing.1
                  · cases ending with
                    | returned _ => exact ihNext canonical.2.2 behind
                    | unwound _ | halted _ => exact absurd behind List.not_mem_nil

end Canonical

theorem Query.answer_expect (op event : String) (before : List Captured) (logged : List Event)
    (u : State) :
    (Query.expect op event).answer (before ++ logged.map .ofEvent) u =
      if Captured.hasEvent op event before || logged.any fun e =>
          e.text? FieldName.op == some op && e.text? FieldName.event == some event then
        (.returned .ok, u)
      else
        Effect.panicWith ("Expected event op=" ++ op ++ " event=" ++ event ++ " not found in " ++
          toString (before.length + logged.length) ++ " captured events") u := by
  have length : (before ++ logged.map Captured.ofEvent).length = before.length + logged.length := by
    rw [List.length_append, List.length_map]
  rw [answer, Captured.hasEvent_append, ← length]
  split <;> rfl

/-- What a run logs to a capture. -/
def Script.loggedTo (script : Script) (r : Recorder) (s : State) : List Event :=
  script.events (State.keeps r) [] 0 s

/-- Whatever a run logs to a capture that it does not empty is found there again. What the query for
a label gains are the events that say they are a mismatch with this label. Where operations do not
say so, that is one event for each mismatch with this label, in the order of logging, from which the
mismatch is put together. What the query for a case gains are the events that were logged with it;
and the search for an event misses it exactly when it was neither there before nor logged. -/
theorem logged_events_retrieved (script : Script) (r : Recorder) (s : State)
    (spares : script.Meets (Step.Spares r) [] 0 s) (live : (script.runFrom s).ending.Live) :
    let logged := script.loggedTo r s
    let before := s.store.events r
    let after := (script.runFrom s).state.store.events r
    after = before ++ logged.map .ofEvent ∧
    (∀ event, (Captured.ofEvent event).Keeps event) ∧
    (∀ label, ∃ gained,
      Captured.mismatchesForLabel label after = Captured.mismatchesForLabel label before ++ gained ∧
      gained = (logged.filter (Event.bears label)).map .ofEvent ∧
      ((script.All Step.Canonical fun _ => True) →
        gained = (logged.filter (Event.tellsOf label)).map .ofEvent ∧
        gained.map (Captured.mismatch? label) =
          ((logged.filterMap Event.mismatch?).filter (·.label == label)).map some)) ∧
    (∀ case, Captured.eventsForCase case after =
      Captured.eventsForCase case before ++
        (logged.filter fun event => event.text? FieldName.case == some case).map .ofEvent) ∧
    (∀ component op (a : Assortment),
      (Captured.ofEvent (a.event component op)).field? "i64" = some (toString a.signed) ∧
      (Captured.ofEvent (a.event component op)).field? "u64" = some (toString a.unsigned) ∧
      (Captured.ofEvent (a.event component op)).field? "i128" = some (toString a.wideSigned) ∧
      (Captured.ofEvent (a.event component op)).field? "u128" = some (toString a.wideUnsigned)) ∧
    ∀ op event u,
      (Query.expect op event).answer after u =
        if Captured.hasEvent op event before || logged.any fun e =>
            e.text? FieldName.op == some op && e.text? FieldName.event == some event then
          (.returned .ok, u)
        else
          Effect.panicWith ("Expected event op=" ++ op ++ " event=" ++ event ++ " not found in " ++
            toString (before.length + logged.length) ++ " captured events") u := by
  intro logged before after
  have gains : after = before ++ logged.map .ofEvent := Script.runFrom_gains spares live
  refine ⟨gains, Captured.keeps_ofEvent, fun label => ?_, fun case => ?_,
    Captured.integers_ofEvent, fun op event u => ?_⟩
  · refine ⟨(logged.filter (Event.bears label)).map .ofEvent, ?_, rfl, fun canonical => ?_⟩
    · rw [gains]
      exact Captured.mismatchesForLabel_append before label
    · have told : logged.filter (Event.bears label) = logged.filter (Event.tellsOf label) :=
        List.filter_congr fun event member =>
          (Script.canonical_of_mem_events canonical member).bears_eq label
      rw [told]
      exact ⟨rfl, Captured.map_mismatch? label⟩
  · rw [gains]
    exact Captured.eventsForCase_append before case
  · rw [gains]
    exact Query.answer_expect op event before logged u

/-- Quotes, brackets, a line break and a letter that is no ASCII character. -/
def trickyLabel : String := "[\"é\"]\n: expected ["

/-- Fields of every kind, the numbers at the ends of their ranges, and a label among them. -/
def labelledFields : Assortment where
  signed := -9223372036854775808
  unsigned := 18446744073709551615
  wideSigned := -170141183460469231731687303715884105728
  wideUnsigned := 340282366920938463463374607431768211455
  float := .ofNat .binary64 1
  flag := true
  debug := "d"
  display := "]"
  error := "e"
  message := "m"
  label := some trickyLabel

/-- An operation starts, and its event carries a label all the same. -/
def labelledStart : Event :=
  labelledFields.event Component.script "x"

/-- A case with a failing assertion, an emptied capture, and two events with the same label. -/
def logsUnderOneLabel : Script :=
  .framed "case" (.case "c" .report)
    (.simple "int" (.check trickyLabel (.int 5 6)) .done)
    (.framed "scoped_capture" (.captured "k")
      (.simple "log_mismatch" (.log (.mismatch "k" ⟨trickyLabel, "1", "2"⟩))
        (.simple "clear" (.query (some "k") .clear) .done))
      (.simple "log_start" (.log labelledStart)
        (.simple "log_mismatch" (.log (.mismatch Component.script ⟨trickyLabel, "] actual [", ""⟩))
          .done)))

theorem logged_events_retrieved_logsUnderOneLabel :
    (Captured.mismatchesForLabel trickyLabel
        ((logsUnderOneLabel.runFrom .capturing).state.store.events .shared)).map
          (Captured.mismatch? trickyLabel) =
      [some ⟨trickyLabel, "5", "6"⟩, some ⟨trickyLabel, "] actual [", ""⟩] := by
  have canonical : logsUnderOneLabel.All Step.Canonical fun _ => True := by
    have starts : labelledStart.OfOperation := Event.assortment_ofOperation _ _ labelledFields
    simp only [logsUnderOneLabel, Script.All, Step.Canonical, and_true, true_and]
    exact ⟨.inr ⟨_, _, rfl⟩, .inl starts, .inr ⟨_, _, rfl⟩⟩
  have unemptied : logsUnderOneLabel.All (· ≠ .query none .clear) fun _ => True := by
    simp [logsUnderOneLabel, Script.All]
  have spares : logsUnderOneLabel.Meets (Step.Spares .shared) [] 0 .capturing :=
    .of_all (fun _ u keeps => Step.spares_shared keeps u) unemptied [] 0 .capturing
  have returned : (logsUnderOneLabel.runFrom .capturing).ending = .returned 4 := by decide +kernel
  have logged : logsUnderOneLabel.loggedTo .shared .capturing =
      [.caseStart "c", .mismatch Component.assertion ⟨trickyLabel, "5", "6"⟩,
        .caseEnd "c" (.error (.mismatch ⟨trickyLabel, "5", "6"⟩)), labelledStart,
        .mismatch Component.script ⟨trickyLabel, "] actual [", ""⟩] := by decide +kernel
  obtain ⟨_, _, labels, _⟩ := logged_events_retrieved logsUnderOneLabel .shared .capturing spares
    (by rw [returned]; trivial)
  obtain ⟨gained, found, _, puts⟩ := labels trickyLabel
  obtain ⟨_, told⟩ := puts canonical
  rw [found, List.map_append, told, logged]
  decide +kernel

end Assertions
