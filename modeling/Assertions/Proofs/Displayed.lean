import Assertions.Floating.Notation
import Assertions.Proofs.Shortest
import Mathlib.Data.List.Induction
import Mathlib.Data.List.TakeWhile

/-!
What a displayed number says. A numeral stands for the decimal number of its digits, and a text
spells one numeral at most, so it says at most one value of a format. A displayed value says
itself, with the fewest figures of all the numerals that do; two values are never displayed alike.
-/

namespace Assertions

attribute [local instance (high)] instPowNat

variable {f : Format}

namespace Floating

section Zeros

theorem trimZeros_zero (digits : List Char) : trimZeros (digits ++ ['0']) = trimZeros digits := by
  simp [trimZeros]

theorem trimZeros_of_ne {last : Char} (h : last ≠ '0') (digits : List Char) :
    trimZeros (digits ++ [last]) = digits ++ [last] := by
  simp [trimZeros, h]

theorem exists_trimZeros (digits : List Char) :
    ∃ zeros, digits = trimZeros digits ++ List.replicate zeros '0' := by
  induction digits using List.reverseRecOn with
  | nil => exact ⟨0, rfl⟩
  | append_singleton digits last ih =>
      by_cases zero : last = '0'
      · obtain ⟨zeros, split⟩ := ih
        refine ⟨zeros + 1, ?_⟩
        rw [zero, trimZeros_zero, List.replicate_succ', ← List.append_assoc, ← split]
      · exact ⟨0, by rw [trimZeros_of_ne zero, List.replicate_zero, List.append_nil]⟩

theorem getLast_trimZeros (digits : List Char) : (trimZeros digits).getLast? ≠ some '0' := by
  induction digits using List.reverseRecOn with
  | nil => exact nofun
  | append_singleton digits last ih =>
      by_cases zero : last = '0'
      · rwa [zero, trimZeros_zero]
      · rw [trimZeros_of_ne zero, List.getLast?_concat]
        exact fun same => zero (Option.some.inj same)

theorem digitChar_ne_zero : ∀ d < 10, d ≠ 0 → Nat.digitChar d ≠ '0' := by
  decide

theorem head_toDigits {number : Nat} (pos : 0 < number) :
    (Nat.toDigits 10 number).head? ≠ some '0' := by
  induction number using Nat.strongRecOn with
  | ind number ih =>
      obtain short | long := Nat.lt_or_ge number 10
      · rw [Nat.toDigits_of_lt_base short, List.head?_cons]
        exact fun same => digitChar_ne_zero number short pos.ne' (Option.some.inj same)
      · have leads := ih (number / 10) (by omega) (by omega)
        obtain ⟨first, rest, split⟩ := List.exists_cons_of_ne_nil
          (Nat.toDigits_ne_nil : Nat.toDigits 10 (number / 10) ≠ [])
        rw [split] at leads
        rwa [Nat.toDigits_of_base_le (by decide) long, split]

/-- The digits of a number without the zeros at their end. -/
def figures (number : Nat) : Nat :=
  (trimZeros (Nat.toDigits 10 number)).length

/-- Zeros at the end are no figures. -/
theorem Figures.of_mul {count number zeros : Nat} (h : Figures count (number * 10 ^ zeros)) :
    Figures count number := by
  obtain ⟨digits, more, equal, short⟩ := h
  obtain few | many := Nat.le_total more zeros
  · refine ⟨number, 0, (Nat.mul_one _).symm, short.trans_le' ?_⟩
    rw [← Nat.sub_add_cancel few, Nat.pow_add, ← Nat.mul_assoc] at equal
    rw [← Nat.eq_of_mul_eq_mul_right (Nat.pow_pos (by decide)) equal]
    exact Nat.le_mul_of_pos_right _ (Nat.pow_pos (by decide))
  · rw [← Nat.sub_add_cancel many, Nat.pow_add, ← Nat.mul_assoc] at equal
    exact ⟨digits, more - zeros, Nat.eq_of_mul_eq_mul_right (Nat.pow_pos (by decide)) equal, short⟩

theorem figures_mul_ten {number : Nat} (pos : 0 < number) :
    figures (number * 10) = figures number := by
  rw [figures, Nat.toDigits_of_base_le (by decide) (by omega), Nat.mul_div_cancel _ (by decide),
    Nat.mul_mod_left, show Nat.digitChar 0 = '0' from rfl, trimZeros_zero, figures]

theorem figures_of_last {number : Nat} (last : number % 10 ≠ 0) :
    figures number = (Nat.toDigits 10 number).length := by
  have some := digitChar_ne_zero (number % 10) (Nat.mod_lt _ (by decide)) last
  obtain short | long := Nat.lt_or_ge number 10
  · rw [Nat.mod_eq_of_lt short] at some
    rw [figures, Nat.toDigits_of_lt_base short]
    exact congrArg List.length (trimZeros_of_ne some [])
  · rw [figures, Nat.toDigits_of_base_le (by decide) long, trimZeros_of_ne some]

theorem figures_iff_lt {count number : Nat} (last : number % 10 ≠ 0) :
    Figures count number ↔ number < 10 ^ count := by
  constructor
  · rintro ⟨digits, zeros, rfl, short⟩
    cases zeros with
    | zero => rwa [Nat.pow_zero, Nat.mul_one]
    | succ zeros =>
        rw [Nat.pow_succ, ← Nat.mul_assoc, Nat.mul_mod_left] at last
        exact absurd rfl last
  · exact fun short => ⟨number, 0, (Nat.mul_one _).symm, short⟩

theorem figures_le_iff (count number : Nat) : figures number ≤ count ↔ Figures count number := by
  induction number using Nat.strongRecOn with
  | ind number ih =>
      obtain rfl | pos := Nat.eq_zero_or_pos number
      · exact iff_of_true (Nat.zero_le _) ⟨0, 0, rfl, Nat.pow_pos (by decide)⟩
      · by_cases last : number % 10 = 0
        · obtain ⟨tens, rfl⟩ := Nat.dvd_of_mod_eq_zero last
          rw [Nat.mul_comm, figures_mul_ten (by omega), ih tens (by omega)]
          constructor
          · rintro ⟨digits, zeros, rfl, short⟩
            exact ⟨digits, zeros + 1, by rw [Nat.pow_succ, Nat.mul_assoc], short⟩
          · exact fun few => @Figures.of_mul count tens 1 few
        · rw [figures_of_last last, length_toDigits_le pos, figures_iff_lt last]

end Zeros

end Floating

/-- A decimal number: the digits in front of its point and those behind it, and no zero that could
be left out. -/
@[ext]
structure Numeral where
  whole : List Char
  behind : List Char
  digits : ∀ c ∈ whole ++ behind, c.isDigit = true
  leads : whole ≠ []
  first : whole = ['0'] ∨ whole.head? ≠ some '0'
  last : behind.getLast? ≠ some '0'

namespace Numeral

/-- A whole number has no point. -/
def text (n : Numeral) : List Char :=
  match n.behind with
  | [] => n.whole
  | digits => n.whole ++ '.' :: digits

/-- Counted in the place of the last digit. -/
def number (n : Numeral) : Nat :=
  Nat.ofDigitChars 10 (n.whole ++ n.behind) 0

/-- The value of a format nearest to the number. -/
def value (f : Format) (negative : Bool) (n : Numeral) : Floating :=
  f.round negative (n.number * 2 ^ f.scale) (10 ^ n.behind.length)

theorem takeWhile_text (n : Numeral) : n.text.takeWhile Char.isDigit = n.whole := by
  have whole : ∀ c ∈ n.whole, c.isDigit = true := fun c h => n.digits c (List.mem_append_left _ h)
  rw [text]
  split
  · exact List.takeWhile_eq_self_iff.mpr whole
  · rw [List.takeWhile_append_of_pos whole, List.takeWhile_cons_of_neg (by decide), List.append_nil]

theorem dropWhile_text (n : Numeral) : (n.text.dropWhile Char.isDigit).tail = n.behind := by
  have whole : ∀ c ∈ n.whole, c.isDigit = true := fun c h => n.digits c (List.mem_append_left _ h)
  rw [text]
  split
  · rename_i none
    rw [none, List.dropWhile_eq_nil_iff.mpr whole]
    rfl
  · rw [List.dropWhile_append_of_pos whole, List.dropWhile_cons_of_neg (by decide)]
    rfl

theorem text_inj {n m : Numeral} (h : n.text = m.text) : n = m := by
  ext1
  · rw [← n.takeWhile_text, h, m.takeWhile_text]
  · rw [← n.dropWhile_text, h, m.dropWhile_text]

theorem text_ne_cons (n : Numeral) {letter : Char} (h : letter.isDigit = false)
    (rest : List Char) : n.text ≠ letter :: rest := by
  intro equal
  obtain ⟨first, more, leads⟩ := List.exists_cons_of_ne_nil n.leads
  have whole := n.takeWhile_text
  rw [equal, List.takeWhile_cons_of_neg (by rw [h]; exact Bool.false_ne_true), leads] at whole
  cases whole

end Numeral

namespace Floating

open Numeral

/-- What a text says as a number of a format: a finite value is written without an exponent, and
no numeral with fewer figures says it. -/
inductive Shows (f : Format) : Floating → String → Prop
  | nan : Shows f .nan "NaN"
  | infinite (negative : Bool) : Shows f (.infinite negative) (withSign negative "inf".toList)
  | finite {negative units} {n : Numeral} (back : n.value f negative = .finite negative units)
      (least : ∀ other : Numeral, other.value f negative = .finite negative units →
        figures n.number ≤ figures other.number) :
      Shows f (.finite negative units) (withSign negative n.text)

theorem withSign_inj {s t : Bool} {digits digits' : List Char}
    (left : ∀ rest, digits ≠ '-' :: rest) (right : ∀ rest, digits' ≠ '-' :: rest)
    (h : withSign s digits = withSign t digits') : s = t ∧ digits = digits' := by
  cases s <;> cases t
  · exact ⟨rfl, String.ofList_injective h⟩
  · exact absurd (String.ofList_injective h) (left _)
  · exact absurd (String.ofList_injective h).symm (right _)
  · exact ⟨rfl, List.tail_eq_of_cons_eq (String.ofList_injective h)⟩

theorem withSign_text_ne (n : Numeral) {s t : Bool} {letter : Char} {rest : List Char}
    (name : letter.isDigit = false) (unsigned : letter ≠ '-') :
    withSign s n.text ≠ withSign t (letter :: rest) := by
  intro equal
  have bodies := (withSign_inj (n.text_ne_cons (by decide))
    (fun _ h => unsigned (List.head_eq_of_cons_eq h)) equal).2
  exact n.text_ne_cons name rest bodies

/-- A text says one value at most. -/
theorem Shows.unique {x y : Floating} {text text' : String} (left : Shows f x text)
    (right : Shows f y text') (same : text = text') : x = y := by
  have undefined (n : Numeral) (s : Bool) : withSign s n.text ≠ "NaN" :=
    @withSign_text_ne n s false 'N' _ rfl (by decide)
  have unbounded (n : Numeral) (s t : Bool) : withSign s n.text ≠ withSign t "inf".toList :=
    withSign_text_ne n rfl (by decide)
  have names : ∀ s, withSign s "inf".toList ≠ "NaN" := by decide
  cases left with
  | nan =>
      cases right with
      | nan => rfl
      | infinite t => exact absurd same.symm (names t)
      | finite back => exact absurd same.symm (undefined _ _)
  | infinite s =>
      cases right with
      | nan => exact absurd same (names s)
      | infinite t =>
          have signs : ∀ s t, withSign s "inf".toList = withSign t "inf".toList → s = t := by decide
          rw [signs s t same]
      | finite back => exact absurd same.symm (unbounded _ _ _)
  | finite back =>
      cases right with
      | nan => exact absurd same (undefined _ _)
      | infinite t => exact absurd same (unbounded _ _ _)
      | finite back' =>
          obtain ⟨rfl, texts⟩ := withSign_inj (Numeral.text_ne_cons _ rfl)
            (Numeral.text_ne_cons _ rfl) same
          rw [Numeral.text_inj texts] at back
          exact back.symm.trans back'

section Display

variable (f) (decimal : Nat)

theorem length_padLeft {width : Nat} {digits : List Char} (h : digits.length ≤ width) :
    (padLeft width digits).length = width := by
  rw [padLeft, List.length_append, List.length_replicate, Nat.sub_add_cancel h]

theorem ofDigitChars_padLeft (width number init : Nat) :
    Nat.ofDigitChars 10 (padLeft width (Nat.toDigits 10 number)) init =
      10 ^ (padLeft width (Nat.toDigits 10 number)).length * init + number := by
  rw [Nat.ofDigitChars_eq_ofDigitChars_zero, padLeft, Nat.ofDigitChars_append,
    Nat.ofDigitChars_replicate_zero, Nat.mul_zero, Nat.ofDigitChars_ten_toDigits]

/-- The digits that `positional` writes. -/
def numeral : Numeral where
  whole := wholeDigits f decimal
  behind := fractionDigits f decimal
  leads := Nat.toDigits_ne_nil
  first := by
    obtain zero | pos := Nat.eq_zero_or_pos (decimal / 10 ^ f.scale)
    · exact .inl (by rw [wholeDigits, zero]; rfl)
    · exact .inr (head_toDigits pos)
  last := getLast_trimZeros _
  digits := by
    have digit (number : Nat) : ∀ c ∈ Nat.toDigits 10 number, c.isDigit = true :=
      fun c => Nat.isDigit_of_mem_toDigits (by decide) (by decide)
    intro c member
    obtain whole | fraction := List.mem_append.mp member
    · exact digit _ c whole
    · have padded : c ∈ padLeft f.scale (Nat.toDigits 10 (decimal % 10 ^ f.scale)) := by
        obtain ⟨zeros, split⟩ :=
          exists_trimZeros (padLeft f.scale (Nat.toDigits 10 (decimal % 10 ^ f.scale)))
        rw [split]
        exact List.mem_append_left _ fraction
      obtain zero | tail := List.mem_append.mp padded
      · rw [List.eq_of_mem_replicate zero]
        rfl
      · exact digit _ c tail

theorem positional_eq : positional f decimal = (numeral f decimal).text := rfl

theorem number_numeral (deep : 0 < f.scale) :
    ∃ zeros, (numeral f decimal).number * 10 ^ zeros = decimal ∧
      (numeral f decimal).behind.length + zeros = f.scale := by
  have fits : (Nat.toDigits 10 (decimal % 10 ^ f.scale)).length ≤ f.scale :=
    (Nat.length_toDigits_le_iff (by decide) deep).mpr (Nat.mod_lt _ (Nat.pow_pos (by decide)))
  have width := length_padLeft fits
  have reads := ofDigitChars_padLeft f.scale (decimal % 10 ^ f.scale) (decimal / 10 ^ f.scale)
  obtain ⟨zeros, split⟩ :=
    exists_trimZeros (padLeft f.scale (Nat.toDigits 10 (decimal % 10 ^ f.scale)))
  rw [width, Nat.div_add_mod, split, Nat.ofDigitChars_append,
    Nat.ofDigitChars_replicate_zero] at reads
  rw [split, List.length_append, List.length_replicate] at width
  refine ⟨zeros, ?_, width⟩
  rw [Numeral.number, Nat.ofDigitChars_append, Nat.mul_comm]
  change 10 ^ zeros * Nat.ofDigitChars 10 _ (Nat.ofDigitChars 10 (Nat.toDigits 10 _) 0) = decimal
  rw [Nat.ofDigitChars_ten_toDigits]
  exact reads

theorem value_numeral (deep : 0 < f.scale) (negative : Bool) :
    (numeral f decimal).value f negative = f.round negative decimal (5 ^ f.scale) := by
  obtain ⟨zeros, number, width⟩ := number_numeral f decimal deep
  have ratio : f.nearest ((numeral f decimal).number * 2 ^ f.scale)
      (10 ^ (numeral f decimal).behind.length) = f.nearest decimal (5 ^ f.scale) :=
    calc f.nearest ((numeral f decimal).number * 2 ^ f.scale)
          (10 ^ (numeral f decimal).behind.length)
        = f.nearest (10 ^ zeros * ((numeral f decimal).number * 2 ^ f.scale))
            (10 ^ zeros * 10 ^ (numeral f decimal).behind.length) :=
          (f.nearest_mul_left (Nat.pow_pos (by decide)) _ _).symm
      _ = f.nearest (2 ^ f.scale * decimal) (2 ^ f.scale * 5 ^ f.scale) := by
          rw [← Nat.pow_add, Nat.add_comm zeros, width, ← Nat.mul_assoc, Nat.mul_comm (10 ^ zeros),
            number, Nat.mul_comm decimal, ← Nat.mul_pow]
      _ = f.nearest decimal (5 ^ f.scale) := f.nearest_mul_left (Nat.two_pow_pos _) _ _
  rw [Numeral.value, Format.round, ratio, Format.round]

end Display

theorem nearest_of_value {n : Numeral} {negative : Bool} {units : Nat}
    (h : n.value f negative = .finite negative units) :
    f.nearest (n.number * 2 ^ f.scale) (10 ^ n.behind.length) = units := by
  rw [Numeral.value, Format.round] at h
  split at h
  · exact (Floating.finite.inj h).2
  · cases h

/-- A displayed value says itself, as shortly as a numeral can. -/
theorem display_shows (precise : 1 < f.precision) (deep : 0 < f.scale) {x : Floating}
    (holds : ∀ negative units, x = .finite negative units → f.Holds units) :
    Shows f x (display f x) := by
  cases x with
  | nan => exact .nan
  | infinite negative => exact .infinite negative
  | finite negative units =>
      have held := holds negative units rfl
      have back : (numeral f (shortest f units)).value f negative = .finite negative units := by
        rw [value_numeral f _ deep, Format.round, nearest_shortest precise held.dvd,
          if_pos held.lt]
      rw [display, positional_eq]
      refine .finite back ?_
      intro other same
      obtain ⟨digits, ends, number, short⟩ := (figures_le_iff _ other.number).mp le_rfl
      have rounds := nearest_of_value same
      rw [number] at rounds
      obtain ⟨zeros, exact, -⟩ := number_numeral f (shortest f units) deep
      refine (figures_le_iff _ _).mpr (@Figures.of_mul _ _ zeros ?_)
      rw [exact]
      exact figures_shortest precise held.dvd short rounds

end Floating

namespace Binary

open Floating

/-- What a word stands for is displayed as itself. -/
theorem shows_display (precise : 1 < f.precision) (wide : 1 < f.exponentWidth) (x : Binary f) :
    Shows f x.value (display f x.value) := by
  have deep : 0 < f.scale := by
    have range : 2 ^ 1 ≤ 2 ^ (f.exponentWidth - 1) := Nat.pow_le_pow_right (by decide) (by omega)
    rw [Format.scale]
    omega
  exact Floating.display_shows precise deep fun _ _ value => x.holds_value (by omega) wide value

example : display .binary32 (Binary.ofNat .binary32 0x3dcccccd).value = "0.1" := by
  decide +kernel

end Binary

end Assertions
