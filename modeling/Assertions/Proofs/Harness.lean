import Assertions.Demo
import Assertions.Proofs.AssertionContract
import Assertions.Proofs.Captures

/-!
A harness runs its cases one after the other. What becomes of a case is decided by the first of its
checks whose rule fails, and by nothing else: a failed case leaves one line, one mismatch between
its brackets and one error, a passed one leaves its brackets only, and the next case starts as if it
were the first.
-/

namespace Assertions

instance (assertion : Assertion) : Decidable assertion.Holds :=
  decidable_of_iff _ assertion.verdict_eq_equal

structure Assertion.Plain (assertion : Assertion) : Prop where
  compares : ∀ message, ¬ assertion.Refuses message
  expected : ∃ text, assertion.expected = .text text
  actual : ∃ text, assertion.actual = .text text

structure Check where
  label : String
  assertion : Assertion
  deriving DecidableEq, Repr

structure NamedCase where
  name : String
  checks : List Check
  deriving DecidableEq, Repr

def Shown.words : Shown → String
  | .text words => words
  | .panics _ | .fails _ => ""

namespace Check

def mismatch (check : Check) : Mismatch :=
  ⟨check.label, check.assertion.expected.words, check.assertion.actual.words⟩

def runAll : List Check → Effect Unit
  | [] => return ()
  | check :: checks => do
      Effect.check check.label check.assertion
      runAll checks

/-- The mismatch of the first check whose rule fails. -/
def failure? (checks : List Check) : Option Mismatch :=
  (checks.find? fun check => ¬ check.assertion.Holds).map mismatch

end Check

namespace NamedCase

def result (c : NamedCase) : Except CaseError Unit :=
  (Check.failure? c.checks).elim (.ok ()) fun m => .error (.mismatch m)

def lines (c : NamedCase) : List String :=
  (Check.failure? c.checks).toList.map Mismatch.line

def events (c : NamedCase) : List Event :=
  .caseStart c.name :: (Check.failure? c.checks).toList.map (.mismatch Component.assertion) ++
    [.caseEnd c.name c.result]

/-- What a case comes to: it passes when all its rules hold, and otherwise its error carries the
label and the shown sides of the first check whose rule fails. -/
inductive Concludes (c : NamedCase) : Except CaseError Unit → Prop
  | passed (holds : ∀ check ∈ c.checks, check.assertion.Holds) : Concludes c (.ok ())
  | failed {before after check expected actual} (split : c.checks = before ++ check :: after)
      (holds : ∀ earlier ∈ before, earlier.assertion.Holds) (fails : ¬ check.assertion.Holds)
      (left : check.assertion.expected = .text expected)
      (right : check.assertion.actual = .text actual) :
      Concludes c (.error (.mismatch ⟨check.label, expected, actual⟩))

end NamedCase

namespace Assertion.Plain

variable {assertion : Assertion}

theorem check_of_not_holds (plain : assertion.Plain) (fails : ¬ assertion.Holds) (label : String) :
    Effect.check label assertion = Effect.fail (Check.mismatch ⟨label, assertion⟩) := by
  obtain ⟨e, expected⟩ := plain.expected
  obtain ⟨a, actual⟩ := plain.actual
  have verdict := assertion.verdict_eq_different.mpr ⟨fails, plain.compares⟩
  rw [Effect.check, Effect.compare_of_different label verdict, assertion.comparison_expected,
    assertion.comparison_actual, expected, actual, Check.mismatch]
  simp only [expected, actual]
  rfl

end Assertion.Plain

theorem Assertion.check_of_holds {assertion : Assertion} (holds : assertion.Holds)
    (label : String) : Effect.check label assertion = pure () :=
  Effect.compare_of_equal label (assertion.verdict_eq_equal.mpr holds)

/-- The checks before the first failing one do nothing, and the ones behind it are not reached. -/
theorem Check.runAll_apply {checks : List Check} (plain : ∀ check ∈ checks, check.assertion.Plain)
    (s : State) :
    runAll checks s = ((failure? checks).elim (pure ()) Effect.fail : Effect Unit) s := by
  induction checks with
  | nil => rfl
  | cons check checks ih =>
      rw [runAll]
      by_cases holds : check.assertion.Holds
      · have rest := ih fun other member => plain other (List.mem_cons_of_mem check member)
        rw [Assertion.check_of_holds holds, failure?, List.find?_cons_of_neg (by simpa using holds)]
        exact rest
      · have fails := (plain check List.mem_cons_self).check_of_not_holds holds check.label
        obtain ⟨payload, t, failed, _⟩ := Effect.fail_reports (α := Unit) check.mismatch s
        rw [fails, failure?, List.find?_cons_of_pos (by simpa using holds)]
        exact (Effect.bind_of_unwound failed).trans failed.symm

structure State.Remembers (s : State) (id : String) : Prop where
  route : s.thread.route = some (.sink id)
  memory : ∃ lines, s.store.sink id = .memory lines

/-- A memory received these lines and a capture these events, and nothing else received anything. -/
structure Receives (id : String) (r : Recorder) (lines : List String) (events : List Event)
    (s t : State) : Prop where
  thread : t.thread = s.thread
  records : t.Records r
  memory : ∀ kept, s.store.sink id = .memory kept → t.store.sink id = .memory (kept ++ lines)
  sinks : ∀ other, other ≠ id → t.store.sinks.lookup other = s.store.sinks.lookup other
  errorStream : t.store.errorStream = s.store.errorStream
  hook : t.store.hook = s.store.hook
  events : t.store.events r = s.store.events r ++ events.map Captured.ofEvent
  captures : ∀ other, other ≠ r → t.store.events other = s.store.events other

namespace Receives

variable {id : String} {r : Recorder} {s t u : State} {lines more : List String}
  {events later : List Event}

theorem refl (records : s.Records r) : Receives id r [] [] s s := by
  refine ⟨rfl, records, ?_, fun _ _ => rfl, rfl, rfl, ?_, fun _ _ => rfl⟩
  · intro kept memory
    rw [memory, List.append_nil]
  · rw [List.map_nil, List.append_nil]

theorem trans (h : Receives id r lines events s t) (k : Receives id r more later t u) :
    Receives id r (lines ++ more) (events ++ later) s u := by
  refine ⟨k.thread.trans h.thread, k.records, ?_, ?_, k.errorStream.trans h.errorStream,
    k.hook.trans h.hook, ?_, ?_⟩
  · intro kept memory
    rw [k.memory _ (h.memory kept memory), List.append_assoc]
  · intro other apart
    rw [k.sinks other apart, h.sinks other apart]
  · rw [k.events, h.events, List.map_append, List.append_assoc]
  · intro other apart
    rw [k.captures other apart, h.captures other apart]

theorem log (records : s.Records r) (event : Event) :
    Receives id r [] [event] s (s.afterEvent event) := by
  obtain ⟨hears, active⟩ := records
  obtain ⟨_, sinks, errorStream, hook, subscriber⟩ := s.logs_afterEvent event
  refine ⟨rfl, ⟨hears.afterEvent event, ?_⟩, ?_, ?_, errorStream, hook, ?_, ?_⟩
  · rw [← active, State.recorder?, subscriber]
    rfl
  · intro kept memory
    rw [Store.sink, sinks, List.append_nil]
    exact memory
  · intro other _
    rw [sinks]
  · rw [hears.events, State.heard, if_pos active]
    rfl
  · intro other apart
    have elsewhere : s.recorder? ≠ some other := by
      rw [active]
      exact fun h => apart (Option.some.inj h).symm
    rw [hears.events, State.heard, if_neg elsewhere, List.append_nil]

theorem keep (records : s.Records r) (line : String) :
    Receives id r [line] [] s (s.kept id line) := by
  refine ⟨rfl, records.congr rfl rfl rfl rfl, ?_, ?_, rfl, rfl, ?_, fun other _ => ?_⟩
  · intro kept memory
    change (s.store.changeSink id (Sink.keep line)).sink id = _
    rw [Store.sink_changeSink, memory]
    rfl
  · intro other apart
    change (s.store.changeSink id (Sink.keep line)).sinks.lookup other = _
    rw [Store.lookup_changeSink, if_neg apart]
  · rw [List.map_nil, List.append_nil]
    cases r <;> rfl
  · cases other <;> rfl

theorem remembers (h : Receives id r lines events s t) (routed : s.Remembers id) :
    t.Remembers id := by
  obtain ⟨kept, memory⟩ := routed.memory
  exact ⟨by rw [h.thread, routed.route], _, h.memory kept memory⟩

theorem say (h : Receives id r lines events s t) (line : String) :
    Receives id r lines events s
      { t with store := { t.store with printed := t.store.printed ++ [.line line] } } := by
  refine ⟨h.thread, h.records.congr rfl rfl rfl rfl, h.memory, h.sinks, h.errorStream, h.hook, ?_,
    fun other apart => ?_⟩
  · rw [← h.events]
    cases r <;> rfl
  · rw [← h.captures other apart]
    cases other <;> rfl

theorem unrouted {route : Option Target} (h : Receives id r lines events (s.withRoute route) t) :
    Receives id r lines events s (t.withRoute s.thread.route) := by
  have thread := h.thread
  refine ⟨?_, h.records.congr rfl rfl rfl rfl, h.memory, h.sinks, h.errorStream, h.hook, h.events,
    h.captures⟩
  change { t.thread with route := s.thread.route } = s.thread
  rw [h.thread]
  rfl

end Receives

namespace NamedCase

theorem concludes_result (c : NamedCase) (plain : ∀ check ∈ c.checks, check.assertion.Plain) :
    c.Concludes c.result := by
  rw [result, Check.failure?]
  cases found : c.checks.find? fun check => ¬ check.assertion.Holds with
  | none =>
      refine .passed fun check member => ?_
      have none := List.find?_eq_none.mp found check member
      simpa using none
  | some check =>
      obtain ⟨fails, before, after, split, holds⟩ := List.find?_eq_some_iff_append.mp found
      obtain ⟨left, expected⟩ := (plain check (by simp [split])).expected
      obtain ⟨right, actual⟩ := (plain check (by simp [split])).actual
      have concludes : c.Concludes (.error (.mismatch ⟨check.label, left, right⟩)) :=
        .failed split (by simpa using holds) (by simpa using fails) expected actual
      simpa [Check.mismatch, expected, actual, Shown.words] using concludes

variable {id : String} {r : Recorder} {s : State}

theorem runCase_receives {c : NamedCase} (plain : ∀ check ∈ c.checks, check.assertion.Plain)
    (records : s.Records r) (routed : s.Remembers id) :
    ∃ t, Effect.runCase c.name (Check.runAll c.checks) s = (.returned c.result, t) ∧
      Receives id r c.lines c.events s t := by
  have start : Receives id r [] [.caseStart c.name] s _ := .log records _
  have ran := Check.runAll_apply plain (s.afterEvent (.caseStart c.name))
  rw [result, lines, events, result]
  cases found : (Check.failure? c.checks) with
  | none =>
      rw [found] at ran
      exact ⟨_, Effect.runCase_of_returned (ran.trans (Effect.pure_apply () _)),
        start.trans (.log start.records _)⟩
  | some m =>
      obtain ⟨kept, memory⟩ := (start.remembers routed).memory
      have line : Sends m.line _ (.returned ()) _ :=
        .memory (start.remembers routed).route memory (State.puts_kept (by rw [memory]; rfl))
      have failed : (Effect.fail m : Effect Unit) _ = (.unwound (.mismatch m), _) :=
        (Reports.reported line (State.logs_afterEvent _ _)).fail_eq
      have written : Receives id r [m.line] [] _ _ := .keep start.records m.line
      have logged : Receives id r [] [.mismatch Component.assertion m] _ _ :=
        .log written.records _
      rw [found] at ran
      exact ⟨_, Effect.runCase_of_unwound (ran.trans failed),
        ((start.trans written).trans logged).trans
          (.log logged.records (.caseEnd c.name (.error (.mismatch m))))⟩

def runEach : List NamedCase → Effect (List (Except CaseError Unit))
  | [] => return []
  | c :: cases => do
      let result ← Effect.runCase c.name (Check.runAll c.checks)
      let results ← runEach cases
      return result :: results

def entry (c : NamedCase) : String × Effect Unit :=
  (c.name, Check.runAll c.checks)

def Fails (c : NamedCase) : Prop :=
  ∃ check ∈ c.checks, ¬ check.assertion.Holds

instance (c : NamedCase) : Decidable c.Fails :=
  inferInstanceAs (Decidable (∃ check ∈ c.checks, ¬ check.assertion.Holds))

theorem runEach_receives {cases : List NamedCase}
    (plain : ∀ c ∈ cases, ∀ check ∈ c.checks, check.assertion.Plain) (records : s.Records r)
    (routed : s.Remembers id) :
    ∃ t, runEach cases s = (.returned (cases.map result), t) ∧
      Receives id r (cases.flatMap lines) (cases.flatMap events) s t := by
  induction cases generalizing s with
  | nil => exact ⟨s, rfl, .refl records⟩
  | cons c cases ih =>
      obtain ⟨t, ran, received⟩ := runCase_receives (plain c List.mem_cons_self) records routed
      obtain ⟨u, rest, later⟩ :=
        ih (fun other member => plain other (List.mem_cons_of_mem c member))
        received.records (received.remembers routed)
      exact ⟨u, (Effect.bind_of_returned ran).trans (Effect.bind_of_returned rest),
        received.trans later⟩

theorem fails_iff (c : NamedCase) : c.Fails ↔ (Check.failure? c.checks).isSome := by
  rw [Check.failure?, Option.isSome_map, List.find?_isSome, Fails]
  simp

theorem runOne_receives {c : NamedCase} (plain : ∀ check ∈ c.checks, check.assertion.Plain)
    (records : s.Records r) (routed : s.Remembers id) :
    ∃ t, Demo.runOne c.name (Check.runAll c.checks) s = (.returned (decide c.Fails), t) ∧
      Receives id r c.lines c.events s t := by
  obtain ⟨t, ran, received⟩ := runCase_receives plain records routed
  have fails := c.fails_iff
  rw [Demo.runOne, Effect.bind_of_returned ran, result]
  cases found : Check.failure? c.checks with
  | none =>
      rw [found] at fails
      rw [decide_eq_false (by simpa using fails)]
      exact ⟨_, rfl, received.say _⟩
  | some m =>
      rw [found] at fails
      rw [decide_eq_true (fails.mpr rfl)]
      exact ⟨_, rfl, received.say _⟩

theorem runAll_receives {cases : List NamedCase}
    (plain : ∀ c ∈ cases, ∀ check ∈ c.checks, check.assertion.Plain) (records : s.Records r)
    (routed : s.Remembers id) :
    ∃ t, Demo.runAll (cases.map entry) s = (.returned (cases.countP fun c => c.Fails), t) ∧
      Receives id r (cases.flatMap lines) (cases.flatMap events) s t := by
  induction cases generalizing s with
  | nil => exact ⟨s, rfl, .refl records⟩
  | cons c cases ih =>
      obtain ⟨t, ran, received⟩ := runOne_receives (plain c List.mem_cons_self) records routed
      obtain ⟨u, rest, later⟩ :=
        ih (fun other member => plain other (List.mem_cons_of_mem c member))
        received.records (received.remembers routed)
      refine ⟨u, (Effect.bind_of_returned ran).trans ?_, received.trans later⟩
      refine (Effect.bind_of_returned rest).trans ?_
      rw [List.countP_cons, Nat.add_comm]
      rfl

end NamedCase

/-- Every case is run, its result, the one line and the events that it leaves are those of its first
check whose rule fails, and the harness counts the cases with such a check; no other sink or capture
receives anything, and the panic hook is never called. -/
theorem harness_reports_first_failures (cases : List NamedCase)
    (plain : ∀ c ∈ cases, ∀ check ∈ c.checks, check.assertion.Plain) (id : String) (r : Recorder)
    (s : State) (memory : ∃ kept, s.store.sink id = .memory kept) (records : s.Records r) :
    (∀ c ∈ cases, c.Concludes c.result) ∧
    (∃ t, Effect.routed (.sink id) (NamedCase.runEach cases) s =
        (.returned (cases.map NamedCase.result), t) ∧
      Receives id r (cases.flatMap NamedCase.lines) (cases.flatMap NamedCase.events) s t) ∧
    ∃ t, Effect.routed (.sink id) (Demo.runAll (cases.map NamedCase.entry)) s =
        (.returned (cases.countP fun c => c.Fails), t) ∧
      Receives id r (cases.flatMap NamedCase.lines) (cases.flatMap NamedCase.events) s t := by
  have inside : (s.withRoute (some (.sink id))).Records r := records.congr rfl rfl rfl rfl
  have routed : (s.withRoute (some (.sink id))).Remembers id := ⟨rfl, memory⟩
  refine ⟨fun c member => c.concludes_result (plain c member), ?_, ?_⟩
  · obtain ⟨t, ran, received⟩ := NamedCase.runEach_receives plain inside routed
    refine ⟨t.withRoute s.thread.route, ?_, received.unrouted⟩
    rw [Effect.routed, ran]
  · obtain ⟨t, ran, received⟩ := NamedCase.runAll_receives plain inside routed
    refine ⟨t.withRoute s.thread.route, ?_, received.unrouted⟩
    rw [Effect.routed, ran]

/-- The second case fails at its second check, before it reaches the third. -/
def lookupCases : List NamedCase :=
  [⟨"sum", [⟨"1 + 2", .int 3 3⟩]⟩,
    ⟨"lookup", [⟨"size", .long 1 1⟩, ⟨"name", .text (some "x") none⟩, ⟨"age", .int 1 2⟩]⟩,
    ⟨"none", []⟩]

theorem harness_reports_first_failures_lookupCases :
    ∃ t, Effect.routed (.sink "m") (NamedCase.runEach lookupCases) .capturing =
        (.returned [.ok (), .error (.mismatch ⟨"name", "x", "null"⟩), .ok ()], t) ∧
      Receives "m" .shared ["name: expected [x] actual [null]"]
        (lookupCases.flatMap NamedCase.events) .capturing t := by
  have plain : ∀ c ∈ lookupCases, ∀ check ∈ c.checks, check.assertion.Plain := by
    simp only [lookupCases, List.forall_mem_cons, List.not_mem_nil, false_implies, implies_true,
      and_true]
    exact ⟨⟨fun _ => id, ⟨_, rfl⟩, _, rfl⟩,
      ⟨fun _ => id, ⟨_, rfl⟩, _, rfl⟩, ⟨fun _ => id, ⟨_, rfl⟩, _, rfl⟩,
      ⟨fun _ => id, ⟨_, rfl⟩, _, rfl⟩⟩
  have records : State.capturing.Records .shared := State.records_shared rfl rfl
  obtain ⟨_, ⟨t, ran, received⟩, _⟩ :=
    harness_reports_first_failures lookupCases plain "m" .shared .capturing ⟨[], rfl⟩ records
  have results : lookupCases.map NamedCase.result =
      [.ok (), .error (.mismatch ⟨"name", "x", "null"⟩), .ok ()] := rfl
  have lines : lookupCases.flatMap NamedCase.lines = ["name: expected [x] actual [null]"] := by
    decide +kernel
  rw [results] at ran
  rw [lines] at received
  exact ⟨t, ran, received⟩

end Assertions
