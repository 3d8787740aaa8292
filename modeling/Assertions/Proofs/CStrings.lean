import Assertions.Proofs.AssertionContract
import Assertions.Proofs.Lossy

/-!
Nullable texts that end at their first NUL. Which side is null and which bytes stand before the
first NUL decide the verdict and everything that a check does; the same bytes decide how a side is
shown, and where two different sides are both well-formed they are shown differently.
-/

namespace Assertions

namespace CString

/-- These bytes stand before the first NUL of the buffer and its terminator. -/
def Spells (s : CString) (content : List UInt8) : Prop :=
  0 ∉ content ∧ ∃ trailing, s.buffer ++ [0] = content ++ 0 :: trailing

theorem contents_eq (s : CString) : s.contents = (s.buffer ++ [0]).takeWhile (· ≠ 0) := by
  rw [contents, List.takeWhile_append]
  split
  · rename_i whole
    rw [List.Sublist.eq_of_length (List.takeWhile_sublist _) whole]
    exact (List.append_nil _).symm
  · rfl

theorem Spells.contents {s : CString} {content : List UInt8} (h : s.Spells content) :
    s.contents = content := by
  obtain ⟨free, trailing, memory⟩ := h
  have before : ∀ byte ∈ content, decide (byte ≠ 0) = true := by
    intro byte member
    exact decide_eq_true fun zero => free (zero ▸ member)
  rw [contents_eq, memory, List.takeWhile_append_of_pos before]
  exact List.append_nil content

/-- How a side with such contents is shown. -/
def shown (content : Option (List UInt8)) : String :=
  content.elim "null" Text.ofBytesLossy

/-- How bytes and the text that they are shown as, which is their only reading, belong together. -/
structure Renders (content : List UInt8) (text : String) : Prop where
  reads : ∀ chars, Text.Reads content chars ↔ text.toList = chars
  wellFormed : ∀ s, content = Text.bytes s → text = s
  resumes : ∀ s rest, content = Text.bytes s ++ rest → text = s ++ Text.ofBytesLossy rest
  illFormed : (∀ s, content ≠ Text.bytes s) → Text.replacement ∈ text.toList

theorem renders (content : List UInt8) : Renders content (Text.ofBytesLossy content) := by
  refine ⟨?_, ?_, ?_, ?_⟩
  · intro chars
    rw [Text.ofBytesLossy, String.toList_ofList]
    exact Text.reads_iff
  · rintro s rfl
    exact Text.ofBytesLossy_bytes s
  · rintro s rest rfl
    exact Text.ofBytesLossy_append s rest
  · intro none
    exact Text.replacement_mem_of_illFormed fun s same => none s same.symm

end CString

namespace Comparison

open CString

variable {p q : Option CString} {x y : Option (List UInt8)}

theorem map_contents (h : Option.Rel Spells p x) : p.map CString.contents = x := by
  cases h with
  | none => rfl
  | some spells => exact congrArg some spells.contents

theorem textOrNull_eq (h : Option.Rel Spells p x) : textOrNull p = shown x := by
  cases h with
  | none => rfl
  | some spells =>
      change CString.text _ = _
      rw [CString.text, spells.contents]
      rfl

theorem contentsEqual_eq (left : Option.Rel Spells p x) (right : Option.Rel Spells q y) :
    contentsEqual p q = decide (x = y) := by
  rw [← map_contents left, ← map_contents right]
  cases p <;> cases q <;> simp [contentsEqual, Bool.beq_eq_decide_eq]

/-- The contents are all that the rule looks at. -/
theorem contents_eq_of_spells (left : Option.Rel Spells p x) (right : Option.Rel Spells q y) :
    contents p q = ⟨.ofBool (decide (x = y)), .text (shown x), .text (shown y)⟩ := by
  rw [contents, contentsEqual_eq left right, textOrNull_eq left, textOrNull_eq right]

/-- Null or not, and the bytes before the first NUL: these decide a check of two nullable texts, and
they decide how each side is shown. -/
theorem contents_decide_check {p q : Pointer} {x y : Option (List UInt8)}
    (left : Option.Rel Spells p.target? x) (right : Option.Rel Spells q.target? y) :
    (contentsEqual p.target? q.target? = true ↔ x = y) ∧
      (∀ label, Effect.check label (.pointer p q) =
        if x = y then pure () else Effect.fail ⟨label, shown x, shown y⟩) ∧
      (∀ label, Effect.check label (.cstring p.target? q.target?) =
        if x = y then pure () else Effect.fail ⟨label, shown x, shown y⟩) ∧
      textOrNull p.target? = shown x ∧ textOrNull q.target? = shown y ∧
      (∀ content, x = some content → Renders content (textOrNull p.target?)) ∧
      ∀ s t, x = some (Text.bytes s) → y = some (Text.bytes t) → x ≠ y →
        textOrNull p.target? ≠ textOrNull q.target? := by
  have checked label : Effect.compare label (contents p.target? q.target?) =
      if x = y then pure () else Effect.fail ⟨label, shown x, shown y⟩ := by
    rw [contents_eq_of_spells left right]
    by_cases same : x = y
    · rw [if_pos same, decide_eq_true same]
      exact Effect.compare_of_equal label rfl
    · rw [if_neg same, decide_eq_false same]
      exact Effect.compare_of_different label rfl
  refine ⟨?_, checked, checked, textOrNull_eq left, textOrNull_eq right, ?_, ?_⟩
  · rw [contentsEqual_eq left right, decide_eq_true_iff]
  · rintro content rfl
    rw [textOrNull_eq left]
    exact renders content
  · rintro s t rfl rfl apart same
    rw [textOrNull_eq left, textOrNull_eq right] at same
    change Text.ofBytesLossy _ = Text.ofBytesLossy _ at same
    rw [Text.ofBytesLossy_bytes, Text.ofBytesLossy_bytes] at same
    exact apart (congrArg (some ∘ Text.bytes) same)

/-- A buffer with bytes behind its terminator, and one that ends inside a character. -/
theorem contents_decide_check_truncated :
    let p : Pointer := .to 1 ⟨[0x61, 0xC3, 0xA9, 0, 0xFF]⟩
    let q : Pointer := .to 2 ⟨[0x61, 0xC3]⟩
    contentsEqual p.target? q.target? = false ∧
      ∀ label, Effect.check label (.pointer p q) = Effect.fail ⟨label, "aé", "a\uFFFD"⟩ := by
  intro p q
  have left : Option.Rel Spells p.target? (some [0x61, 0xC3, 0xA9]) :=
    .some ⟨by decide, [0xFF, 0], rfl⟩
  have right : Option.Rel Spells q.target? (some [0x61, 0xC3]) := .some ⟨by decide, [], rfl⟩
  obtain ⟨equal, checked, _⟩ := contents_decide_check left right
  constructor
  · rw [Bool.eq_false_iff, ne_eq, equal]
    decide
  · intro label
    rw [checked, if_neg (by decide)]
    have shown_left : shown (some [0x61, 0xC3, 0xA9]) = "aé" := by decide +kernel
    have shown_right : shown (some [0x61, 0xC3]) = "a\uFFFD" := by decide +kernel
    rw [shown_left, shown_right]

end Comparison

end Assertions
