import Assertions.Proofs.Captures
import Mathlib.Logic.ExistsUnique

/-!
The contract of an assertion. Its rule is stated here for each entry point in the terms of the
values that are compared; a check then goes through stages, and each of them can be the last one.
The contract says of every stage how the check ends there and which state it leaves, for every
label, every pair of operands and every state: what the sink of its line holds then, which recorder
has gained its event, and that all the rest is as it was.
-/

namespace Assertions

/-- The bytes of a text and its terminator. -/
def CString.terminated (s : CString) : List UInt8 :=
  s.contents ++ [0]

namespace Assertion

/-- The two sides agree by the rule of the assertion, each side in its place. -/
def Holds : Assertion → Prop
  | .int expected actual | .long expected actual => expected = actual
  | .generic expected actual | .short expected actual => expected.compare actual = .equal
  | .text none none => True
  | .text (some expected) (some actual) => actual.compare (.text false expected) = .equal
  | .text _ _ => False
  | .cstring expected actual =>
      expected.map CString.terminated = actual.map CString.terminated
  | .pointer expected actual =>
      expected.target?.map CString.terminated = actual.target?.map CString.terminated
  | .tolerance expected actual margin | .shortTolerance expected actual margin =>
      (Floating.sub .binary64 expected.value margin.value).le actual.value ∧
        actual.value.le (Floating.add .binary64 expected.value margin.value)

/-- The equality that the rule asks panics with `message`. -/
def Refuses (message : String) : Assertion → Prop
  | .generic expected actual | .short expected actual =>
      expected.compare actual = .panics message
  | .text (some expected) (some actual) =>
      actual.compare (.text false expected) = .panics message
  | _ => False

/-- The sides can be compared, and do not agree. -/
def Differs (assertion : Assertion) : Prop :=
  ¬ assertion.Holds ∧ ∀ message, ¬ assertion.Refuses message

def expected : Assertion → Shown
  | .int expected _ | .long expected _ => .text (toString expected)
  | .generic expected _ | .short expected _ => expected.shown
  | .text expected _ => .text (expected.getD "null")
  | .cstring expected _ => .text (expected.elim "null" CString.text)
  | .pointer expected _ => .text (expected.target?.elim "null" CString.text)
  | .tolerance expected _ _ | .shortTolerance expected _ _ =>
      .text (Floating.display .binary64 expected.value)

def actual : Assertion → Shown
  | .int _ actual | .long _ actual => .text (toString actual)
  | .generic _ actual | .short _ actual => actual.shown
  | .text _ actual => actual.elim (.text "null") Operand.shown
  | .cstring _ actual => .text (actual.elim "null" CString.text)
  | .pointer _ actual => .text (actual.target?.elim "null" CString.text)
  | .tolerance _ actual _ | .shortTolerance _ actual _ =>
      .text (Floating.display .binary64 actual.value)

end Assertion

theorem Verdict.ofBool_eq_equal (b : Bool) : Verdict.ofBool b = .equal ↔ b = true := by
  cases b <;> simp [Verdict.ofBool]

theorem Verdict.ofBool_ne_panics (b : Bool) (message : String) :
    Verdict.ofBool b ≠ .panics message := by
  cases b <;> simp [Verdict.ofBool]

/-- The terminators are the same, so they decide nothing. -/
theorem contentsEqual_iff (expected actual : Option CString) :
    Comparison.contentsEqual expected actual = true ↔
      expected.map CString.terminated = actual.map CString.terminated := by
  cases expected <;> cases actual <;> simp [Comparison.contentsEqual, CString.terminated]

theorem Assertion.verdict_eq_equal (assertion : Assertion) :
    assertion.comparison.verdict = .equal ↔ assertion.Holds := by
  cases assertion with
  | int expected actual | long expected actual =>
      simp [comparison, Comparison.exact, Comparison.exactEqual, Verdict.ofBool_eq_equal, Holds]
  | generic expected actual | short expected actual => exact Iff.rfl
  | text expected actual =>
      cases expected <;> cases actual <;>
        simp [comparison, Comparison.text, Comparison.textEqual, Holds]
  | cstring expected actual | pointer expected actual =>
      simp only [comparison, Comparison.contents, Verdict.ofBool_eq_equal, contentsEqual_iff, Holds]
  | tolerance expected actual margin | shortTolerance expected actual margin =>
      simp [comparison, Comparison.tolerance, Comparison.withinTolerance, Verdict.ofBool_eq_equal,
        Holds]

theorem Assertion.verdict_eq_panics (assertion : Assertion) (message : String) :
    assertion.comparison.verdict = .panics message ↔ assertion.Refuses message := by
  cases assertion with
  | generic expected actual | short expected actual => exact Iff.rfl
  | text expected actual =>
      cases expected <;> cases actual <;>
        simp [comparison, Comparison.text, Comparison.textEqual, Refuses]
  | int _ _ | long _ _ | cstring _ _ | pointer _ _ | tolerance _ _ _ | shortTolerance _ _ _ =>
      exact iff_of_false (Verdict.ofBool_ne_panics _ message) id

theorem Assertion.verdict_eq_different (assertion : Assertion) :
    assertion.comparison.verdict = .different ↔ assertion.Differs := by
  rw [Differs]
  simp only [← verdict_eq_equal, ← verdict_eq_panics]
  cases assertion.comparison.verdict <;> simp

theorem Assertion.comparison_expected (assertion : Assertion) :
    assertion.comparison.expected = assertion.expected := by
  cases assertion with
  | text expected actual => cases expected <;> rfl
  | int _ _ | long _ _ | generic _ _ | short _ _ | cstring _ _ | pointer _ _ | tolerance _ _ _
  | shortTolerance _ _ _ => rfl

theorem Assertion.comparison_actual (assertion : Assertion) :
    assertion.comparison.actual = assertion.actual := by
  cases assertion <;> rfl

/-- How a mismatch is reported: its line comes first, then its event, then the unwinding, and a
sink that refuses the line keeps the event from being logged. -/
inductive Reports (m : Mismatch) (s : State) : Payload → State → Prop
  | refused {payload s'} (line : Sends m.line s (.unwound payload) s') : Reports m s payload s'
  | reported {s'} (line : Sends m.line s (.returned ()) s')
      (event : Logs (.mismatch Component.assertion m) s'
        (s'.afterEvent (.mismatch Component.assertion m))) :
      Reports m s (.mismatch m) (s'.afterEvent (.mismatch Component.assertion m))

/-- How a side is displayed: as a text, without any effect, or it panics, or an assertion of its
own fails. -/
inductive Displays : Shown → State → Ending String → State → Prop
  | text (text : String) (s : State) : Displays (.text text) s (.returned text) s
  | panics (message : String) (s : State) :
      Displays (.panics message) s (.unwound (.text message)) (s.hooked message)
  | fails {label s payload s'} (nested : Reports ⟨label, "1", "2"⟩ s payload s') :
      Displays (.fails label) s (.unwound payload) s'

theorem Displays.live {shown : Shown} {s s' : State} {ending : Ending String}
    (h : Displays shown s ending s') : ending.Live := by
  cases h <;> trivial

theorem Displays.eq_of_returned {shown : Shown} {s t : State} {text : String}
    (h : Displays shown s (.returned text) t) : shown = .text text ∧ t = s := by
  cases h
  exact ⟨rfl, rfl⟩

/-- The places where a check can end. -/
inductive Stage where
  | refused
  | held
  | expectedLost
  | actualLost
  | lineLost
  | reported
  deriving DecidableEq, Repr

/-- How a check that ends at a stage ends there, and the state that it leaves. -/
inductive Ends (label : String) (assertion : Assertion) (s : State) :
    Stage → Ending Unit → State → Prop
  | refused {message} (refuses : assertion.Refuses message) :
      Ends label assertion s .refused (.unwound (.text message)) (s.hooked message)
  | held (holds : assertion.Holds) : Ends label assertion s .held (.returned ()) s
  | expectedLost {payload s'} (differs : assertion.Differs)
      (expected : Displays assertion.expected s (.unwound payload) s') :
      Ends label assertion s .expectedLost (.unwound payload) s'
  | actualLost {e s₁ payload s'} (differs : assertion.Differs)
      (expected : Displays assertion.expected s (.returned e) s₁)
      (actual : Displays assertion.actual s₁ (.unwound payload) s') :
      Ends label assertion s .actualLost (.unwound payload) s'
  | lineLost {e s₁ a s₂ payload s'} (differs : assertion.Differs)
      (expected : Displays assertion.expected s (.returned e) s₁)
      (actual : Displays assertion.actual s₁ (.returned a) s₂)
      (line : Sends (label ++ ": expected [" ++ e ++ "] actual [" ++ a ++ "]") s₂
        (.unwound payload) s') :
      Ends label assertion s .lineLost (.unwound payload) s'
  | reported {e s₁ a s₂ s₃} (differs : assertion.Differs)
      (expected : Displays assertion.expected s (.returned e) s₁)
      (actual : Displays assertion.actual s₁ (.returned a) s₂)
      (line : Sends (label ++ ": expected [" ++ e ++ "] actual [" ++ a ++ "]") s₂
        (.returned ()) s₃)
      (event : Logs (.mismatch Component.assertion ⟨label, e, a⟩) s₃
        (s₃.afterEvent (.mismatch Component.assertion ⟨label, e, a⟩))) :
      Ends label assertion s .reported (.unwound (.mismatch ⟨label, e, a⟩))
        (s₃.afterEvent (.mismatch Component.assertion ⟨label, e, a⟩))

namespace Effect

theorem fail_reports {α : Type} (m : Mismatch) (s : State) :
    ∃ payload s', (fail m : Effect α) s = (.unwound payload, s') ∧ Reports m s payload s' := by
  have sent := sends_emit m.line s
  cases emitted : emit m.line s with
  | mk ending s₁ =>
      rw [emitted] at sent
      cases ending with
      | returned value =>
          exact ⟨_, _, bind_of_returned emitted, .reported sent (s₁.logs_afterEvent _)⟩
      | unwound payload => exact ⟨_, _, bind_of_unwound emitted, .refused sent⟩
      | halted cause => exact sent.live.1.elim

theorem render_displays (shown : Shown) (s : State) :
    Displays shown s (render shown s).1 (render shown s).2 := by
  cases shown with
  | text text => exact .text text s
  | panics message => exact .panics message s
  | fails label =>
      obtain ⟨payload, s', failed, reports⟩ := fail_reports (α := String) ⟨label, "1", "2"⟩ s
      have rendered : render (.fails label) s = (.unwound payload, s') := failed
      rw [rendered]
      exact .fails reports

/-- The sides are displayed only when the rule fails, the expected one first. -/
theorem compare_of_different (label : String) {c : Comparison} (h : c.verdict = .different) :
    compare label c =
      render c.expected >>= fun expected =>
        render c.actual >>= fun actual => fail ⟨label, expected, actual⟩ := by
  rw [compare, h]
  rfl

theorem compare_of_equal (label : String) {c : Comparison} (h : c.verdict = .equal) :
    compare label c = pure () := by
  rw [compare, h]
  rfl

theorem compare_of_panics (label : String) {c : Comparison} {message : String}
    (h : c.verdict = .panics message) : compare label c = panicWith message := by
  rw [compare, h]
  rfl

/-- A check whose sides differ displays them, reports the mismatch and unwinds. -/
theorem check_of_differs (label : String) {assertion : Assertion} (h : assertion.Differs)
    (s : State) :
    ∃ stage, Ends label assertion s stage (check label assertion s).1
      (check label assertion s).2 := by
  have checked := compare_of_different label (assertion.verdict_eq_different.mpr h)
  rw [assertion.comparison_expected, assertion.comparison_actual] at checked
  change ∃ stage, Ends label assertion s stage (compare label assertion.comparison s).1
    (compare label assertion.comparison s).2
  rw [checked]
  -- The actual side is displayed only in the state that the expected one left.
  have first := render_displays assertion.expected s
  cases shown : render assertion.expected s with
  | mk ending s₁ =>
      rw [shown] at first
      cases ending with
      | halted cause => exact first.live.elim
      | unwound payload =>
          rw [bind_of_unwound shown]
          exact ⟨_, .expectedLost h first⟩
      | returned e =>
          rw [bind_of_returned shown]
          have second := render_displays assertion.actual s₁
          cases shown' : render assertion.actual s₁ with
          | mk ending s₂ =>
              rw [shown'] at second
              cases ending with
              | halted cause => exact second.live.elim
              | unwound payload =>
                  rw [bind_of_unwound shown']
                  exact ⟨_, .actualLost h first second⟩
              | returned a =>
                  rw [bind_of_returned shown']
                  obtain ⟨payload, s', failed, reports⟩ := fail_reports (α := Unit) ⟨label, e, a⟩ s₂
                  rw [failed]
                  cases reports with
                  | refused line => exact ⟨_, .lineLost h first second line⟩
                  | reported line event => exact ⟨_, .reported h first second line event⟩

theorem check_ends (label : String) (assertion : Assertion) (s : State) :
    ∃ stage, Ends label assertion s stage (check label assertion s).1
      (check label assertion s).2 := by
  cases verdict : assertion.comparison.verdict with
  | equal =>
      have checked : check label assertion s = (.returned (), s) :=
        congrFun (compare_of_equal label verdict) s
      rw [checked]
      exact ⟨_, .held (assertion.verdict_eq_equal.mp verdict)⟩
  | different => exact check_of_differs label (assertion.verdict_eq_different.mp verdict) s
  | panics message =>
      have checked : check label assertion s = (.unwound (.text message), s.hooked message) :=
        congrFun (compare_of_panics label verdict) s
      rw [checked]
      exact ⟨_, .refused ((assertion.verdict_eq_panics message).mp verdict)⟩

end Effect

theorem Reports.fail_eq {α : Type} {m : Mismatch} {s s' : State} {payload : Payload}
    (h : Reports m s payload s') : (Effect.fail m : Effect α) s = (.unwound payload, s') := by
  cases h with
  | refused line => exact Effect.bind_of_unwound line.emit_eq
  | reported line => exact Effect.bind_of_returned line.emit_eq

/-- The stage that the parts of a check decide. -/
def Stage.decided (label : String) (assertion : Assertion) (s : State) : Stage :=
  match assertion.comparison.verdict with
  | .panics _ => .refused
  | .equal => .held
  | .different =>
      match Effect.render assertion.expected s with
      | (.returned e, s₁) =>
          match Effect.render assertion.actual s₁ with
          | (.returned a, s₂) =>
              match Effect.emit (label ++ ": expected [" ++ e ++ "] actual [" ++ a ++ "]") s₂ with
              | (.returned _, _) => .reported
              | _ => .lineLost
          | _ => .actualLost
      | _ => .expectedLost

end Assertions
