import Assertions.Proofs.AssertionContract
import Mathlib.Data.List.Infix

/-!
The line of a failure, read back. The label ends at the first place of a mark, the expected text
behind it at the first place of another one, and the last character closes the actual text. Each
mark begins with a character that it has only once, so a piece of a mark at the end of a field joins
with nothing behind it to a whole one. A line has a reading exactly when it is the line of a
mismatch whose label and expected text do not hold the mark that ends them, and the reading is this
mismatch.
-/

namespace Assertions

namespace Text

variable {first : Char} {rest text before behind : List Char}

/-- A text that does not hold the mark ends at its first place, whatever follows. -/
theorem dropInfix?_eq_some (once : first ∉ rest) :
    text.dropInfix? (first :: rest) = some (before, behind) ↔
      text = before ++ first :: rest ++ behind ∧ ¬ first :: rest <:+: before := by
  rw [List.dropInfix?_eq_some_iff]
  constructor
  · rintro ⟨⟨mark, rfl, same⟩, least⟩
    obtain rfl := eq_of_beq same
    refine ⟨rfl, ?_⟩
    rintro ⟨left, right, rfl⟩
    have shorter := least left (first :: rest) (right ++ first :: rest ++ behind) (by simp) BEq.rfl
    simp only [List.length_append, List.length_cons] at shorter
    omega
  · rintro ⟨rfl, free⟩
    refine ⟨⟨_, rfl, BEq.rfl⟩, fun left mark right same found => ?_⟩
    obtain rfl := eq_of_beq found
    by_contra longer
    rw [List.append_assoc, List.append_assoc] at same
    -- An earlier place begins inside `before`, and with it ends there or reaches into the mark.
    obtain ⟨_, rfl, _⟩ | ⟨inside, rfl, overlap⟩ := List.append_eq_append_iff.mp same
    · simp at longer
    · obtain ⟨right', rfl, _⟩ | ⟨beyond, split, again⟩ := List.append_eq_append_iff.mp overlap
      · exact free ⟨left, right', by simp⟩
      · cases inside with
        | nil => simp at longer
        | cons _ inside =>
            obtain ⟨rfl, rfl⟩ := List.cons.inj split
            cases beyond with
            | nil => exact free ⟨left, [], by simp⟩
            | cons c beyond =>
                obtain ⟨rfl, _⟩ := List.cons.inj again
                exact once (by simp)

end Text

namespace Mismatch

/-- Ends the label in a line. -/
def labelEnd : String := ": expected ["

/-- Ends the expected text in a line. -/
def expectedEnd : String := "] actual ["

def actualEnd : String := "]"

/-- The label and the expected text do not hold the marks that end them. -/
structure Legible (m : Mismatch) : Prop where
  label : ¬ labelEnd.toList <:+: m.label.toList
  expected : ¬ expectedEnd.toList <:+: m.expected.toList

instance (m : Mismatch) : Decidable m.Legible :=
  decidable_of_iff (¬ labelEnd.toList <:+: m.label.toList ∧
    ¬ expectedEnd.toList <:+: m.expected.toList) ⟨fun h => ⟨h.1, h.2⟩, fun h => ⟨h.1, h.2⟩⟩

/-- Cuts at the first place of each mark and drops the last character. -/
def ofLine? (line : String) : Option Mismatch := do
  let (label, rest) ← line.toList.dropInfix? labelEnd.toList
  let (expected, rest) ← rest.dropInfix? expectedEnd.toList
  let actual ← rest.dropSuffix? actualEnd.toList
  return ⟨String.ofList label, String.ofList expected, String.ofList actual⟩

theorem toList_line (m : Mismatch) :
    m.line.toList = m.label.toList ++ labelEnd.toList ++
      (m.expected.toList ++ expectedEnd.toList ++ (m.actual.toList ++ actualEnd.toList)) := by
  simp [line, labelEnd, expectedEnd, actualEnd]

theorem ofLine?_eq_some_iff {m : Mismatch} {line : String} :
    ofLine? line = some m ↔ m.Legible ∧ m.line = line := by
  have label : ∀ {text before behind : List Char},
      text.dropInfix? labelEnd.toList = some (before, behind) ↔
        text = before ++ labelEnd.toList ++ behind ∧ ¬ labelEnd.toList <:+: before :=
    Text.dropInfix?_eq_some (by decide)
  have expected : ∀ {text before behind : List Char},
      text.dropInfix? expectedEnd.toList = some (before, behind) ↔
        text = before ++ expectedEnd.toList ++ behind ∧ ¬ expectedEnd.toList <:+: before :=
    Text.dropInfix?_eq_some (by decide)
  simp only [ofLine?, Option.bind_eq_bind, Option.bind_eq_some_iff, Prod.exists, label, expected,
    List.dropSuffix?_eq_some_iff]
  constructor
  · rintro ⟨label, _, ⟨whole, free⟩, expected, _, ⟨rfl, free'⟩, actual, ⟨last, rfl, closing⟩, read⟩
    obtain rfl := eq_of_beq closing
    obtain rfl := Option.some.inj read
    refine ⟨⟨?_, ?_⟩, String.ext ?_⟩
    · rwa [String.toList_ofList]
    · rwa [String.toList_ofList]
    · rw [toList_line, whole, String.toList_ofList, String.toList_ofList, String.toList_ofList]
  · rintro ⟨legible, rfl⟩
    refine ⟨_, _, ⟨m.toList_line, legible.label⟩, _, _, ⟨rfl, legible.expected⟩, _,
      ⟨_, rfl, BEq.rfl⟩, ?_⟩
    rw [String.ofList_toList, String.ofList_toList, String.ofList_toList]
    rfl

/-- A label that holds the mark is read as if it ended there. -/
example : ofLine? (line ⟨"a: expected [b", "c", "d"⟩) = some ⟨"a", "b: expected [c", "d"⟩ := by
  decide +kernel

end Mismatch

section Sends

variable {m : Mismatch} {s t : State}

/-- A sink unwinds with texts only. -/
theorem Sends.not_mismatch {line : String} : ¬ Sends line s (.unwound (.mismatch m)) t :=
  nofun

theorem Reports.sends {m' : Mismatch} (h : Reports m' s (.mismatch m) t) :
    ∃ u, Sends m.line s (.returned ()) u ∧ t = u.afterEvent (.mismatch Component.assertion m) := by
  cases h with
  | refused line => exact absurd line Sends.not_mismatch
  | reported line => exact ⟨_, line, rfl⟩

theorem Displays.sends {shown : Shown} (h : Displays shown s (.unwound (.mismatch m)) t) :
    ∃ u, Sends m.line s (.returned ()) u ∧ t = u.afterEvent (.mismatch Component.assertion m) := by
  cases h with
  | fails nested => exact nested.sends

/-- A check that unwinds with a mismatch has sent the line of this mismatch and nothing else, be it
its own mismatch or that of a side that could not be displayed. -/
theorem Ends.sends {label : String} {assertion : Assertion} {stage : Stage}
    (h : Ends label assertion s stage (.unwound (.mismatch m)) t) :
    ∃ u, Sends m.line s (.returned ()) u ∧ t = u.afterEvent (.mismatch Component.assertion m) := by
  cases h with
  | expectedLost _ expected => exact expected.sends
  | actualLost _ expected actual =>
      obtain ⟨_, rfl⟩ := expected.eq_of_returned
      exact actual.sends
  | lineLost _ _ _ line => exact absurd line Sends.not_mismatch
  | reported _ expected actual line =>
      obtain ⟨_, rfl⟩ := expected.eq_of_returned
      obtain ⟨_, rfl⟩ := actual.eq_of_returned
      exact ⟨_, line, rfl⟩

end Sends

/-- A line identifies its failure: reading it gives the mismatch back, no other legible mismatch has
this line, a failed case shows it as its message, and it is what an assertion sends that unwinds
with the mismatch. -/
theorem line_identifies_failure (m : Mismatch) (legible : m.Legible) :
    Mismatch.ofLine? m.line = some m ∧
      (∀ m' : Mismatch, m'.Legible → m'.line = m.line → m' = m) ∧
      Mismatch.ofLine? (CaseError.mismatch m).message = some m ∧
      ∀ label assertion s t, Effect.check label assertion s = (.unwound (.mismatch m), t) →
        ∃ line u, Sends line s (.returned ()) u ∧ Mismatch.ofLine? line = some m ∧
          t = u.afterEvent (.mismatch Component.assertion m) := by
  have read : Mismatch.ofLine? m.line = some m := Mismatch.ofLine?_eq_some_iff.mpr ⟨legible, rfl⟩
  refine ⟨read, fun m' legible' same => ?_, read, fun label assertion s t checked => ?_⟩
  · have read' : Mismatch.ofLine? m.line = some m' :=
      Mismatch.ofLine?_eq_some_iff.mpr ⟨legible', same⟩
    exact Option.some.inj (read'.symm.trans read)
  · obtain ⟨stage, ends⟩ := Effect.check_ends label assertion s
    rw [checked] at ends
    obtain ⟨u, sent, left⟩ := ends.sends
    exact ⟨m.line, u, sent, read, left⟩

/-- Each field ends with a piece of the mark behind it, and the actual text holds both marks. -/
def piecesOfMarks : Mismatch :=
  ⟨"x: expected", "] actual", ": expected [y] actual []"⟩

/-- Texts that differ so. -/
def comparesPieces : Assertion :=
  .generic (.text true piecesOfMarks.expected) (.text true piecesOfMarks.actual)

theorem line_identifies_failure_piecesOfMarks :
    piecesOfMarks.Legible ∧
      Mismatch.ofLine? "x: expected: expected [] actual] actual [: expected [y] actual []]" =
        some piecesOfMarks ∧
      ∃ line,
        (Effect.check piecesOfMarks.label comparesPieces (.fresh none)).2.store.errorStream =
          [line] ∧
        Mismatch.ofLine? line = some piecesOfMarks := by
  have legible : piecesOfMarks.Legible := by decide +kernel
  obtain ⟨read, _, _, sends⟩ := line_identifies_failure piecesOfMarks legible
  obtain ⟨line, u, sent, again, left⟩ :=
    sends piecesOfMarks.label comparesPieces (.fresh none) _ rfl
  refine ⟨legible, read, line, ?_, again⟩
  have reported : (Effect.check piecesOfMarks.label comparesPieces (.fresh none)).2 =
    u.afterEvent (.mismatch Component.assertion piecesOfMarks) := left
  have unrouted : Sends line (.fresh none) (.returned ()) ((State.fresh none).onErrorStream line) :=
    .unrouted rfl
  obtain rfl : u = (State.fresh none).onErrorStream line :=
    congrArg Prod.snd (sent.emit_eq.symm.trans unrouted.emit_eq)
  rw [reported]
  rfl

end Assertions
