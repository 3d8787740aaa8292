import Assertions.Event.Basic
import Assertions.Integer
import Assertions.Pattern.Usable
import Assertions.Text.Number
import Assertions.Text.Slice

/-!
Directives: rules about which events are printed. A directive names the components it speaks of by
the beginning of their names, may ask for a field or a span, and says how severe an event has to
be. Nothing opens a span here, so a directive that asks for one says nothing about an event, and
neither does one that asks for the value of a field.
-/

namespace Assertions

/-- That there is a field of this name, or that it has a certain value. -/
structure FieldCondition where
  name : String
  withValue : Bool
  deriving DecidableEq, Repr

/-- The empty target is the beginning of every name. `ceiling` is the least severe rank that
passes; zero lets nothing pass. -/
structure Directive where
  target : String
  span : Option String
  field : Option FieldCondition
  ceiling : Nat
  deriving DecidableEq, Repr

/-- Why a directive is not read: it is not built like one, or a piece of it would begin or end
inside a character. -/
inductive Refusal where
  | unreadable
  | cut (place : Text.Cut)
  deriving DecidableEq, Repr

namespace FieldCondition

/-- A value is a number or a pattern. -/
def isValue (text : List Char) : Bool :=
  Text.isNumber text || Pattern.isUsable text

/-- Reads `name` or `name=value`; what stands behind a second sign does not matter. -/
def read? (text : List Char) : Option FieldCondition :=
  let name := String.ofList (text.takeWhile (· ≠ '='))
  match text.dropWhile (· ≠ '=') with
  | [] => if text.isEmpty then none else some ⟨name, false⟩
  | _ :: rest => if isValue (rest.takeWhile (· ≠ '=')) then some ⟨name, true⟩ else none

end FieldCondition

namespace Directive

/-- The rank of every event passes. -/
def everything : Nat := Level.trace.rank

/-- A rank as a number, or the name of a severity in any letter case. -/
def ceiling? (text : String) : Option Nat :=
  match IntKind.u64.read? text with
  | some number => if number ≤ everything then some number.toNat else none
  | none =>
      match String.ofList (text.toList.map Char.toLower) with
      | "off" => some 0
      | "error" => some Level.error.rank
      | "warn" => some Level.warn.rank
      | "info" => some Level.info.rank
      | "debug" => some Level.debug.rank
      | "trace" => some Level.trace.rank
      | _ => none

/-- What a target may begin with. -/
def opens (c : Char) : Bool :=
  Text.isAlphanumeric c || c = '-' || c = ':' || c = '_'

/-! A directive is read along its characters without the blanks around it, each with its offset
among them. Its pieces are cut at these offsets out of the text with the blanks, so that behind
leading blanks a piece begins and ends too early, perhaps inside a character. -/

def piece (text : List Char) (start stop : Nat) : Except Refusal (List Char) :=
  (Text.slice text start stop).mapError .cut

/-- The piece up to the end of the text, its blanks included. -/
def lastPiece (text : List Char) (start : Nat) : Except Refusal (List Char) :=
  (Text.sliceFrom text start).mapError .cut

def orRefuse {α : Type} : Option α → Except Refusal α
  | some value => .ok value
  | none => .error .unreadable

/-- An empty level stands for all of them. -/
def withLevel? (d : Directive) (level : String) : Option Directive :=
  if level = "" then some d
  else (ceiling? level).map fun ceiling => { d with ceiling := ceiling }

/-- Reads what follows the target and the condition: nothing, or the sign and a level. -/
def leveled (text : List Char) (d : Directive) : List (Nat × Char) → Except Refusal Directive
  | [] => .ok d
  | (offset, '=') :: _ => do
      let level ← lastPiece text (offset + 1)
      orRefuse (d.withLevel? (String.ofList level))
  | _ => .error .unreadable

/-- Reads `name]` or `name{field}]`, where the name begins at `start`. Only in front of a field an
empty name asks for no span, and the field is never empty. -/
def conditioned (text target : List Char) (start : Nat) (marks : List (Nat × Char)) :
    Except Refusal Directive :=
  match marks.dropWhile fun mark => mark.2 ≠ ']' && mark.2 ≠ '\x7b' with
  | [] => .error .unreadable
  | (offset, mark) :: rest => do
      let name ← piece text start offset
      if mark = ']' then
        leveled text ⟨String.ofList target, some (String.ofList name), none, everything⟩ rest
      else
        match rest.dropWhile fun mark => mark.2 ≠ '\x7d' with
        | [] => .error .unreadable
        | (behind, _) :: rest =>
            let field ← orRefuse (FieldCondition.read? (← piece text (offset + 1) behind))
            match rest with
            | (_, ']') :: rest =>
                leveled text
                  ⟨String.ofList target,
                    if name.isEmpty then none else some (String.ofList name), some field,
                    everything⟩
                  rest
            | _ => .error .unreadable

/-- A level alone, or else a target with all levels. -/
def plain (text : List Char) : Directive :=
  match ceiling? (String.ofList text) with
  | some ceiling => ⟨"", none, none, ceiling⟩
  | none => ⟨String.ofList text, none, none, everything⟩

/-- Reads `level`, `target`, `target=level`, `[condition]=level` or `target[condition]=level`. -/
def read (text : List Char) : Except Refusal Directive :=
  let marks := Text.withOffsets 0 (Text.trimBlanks text)
  match marks with
  | [] => .error .unreadable
  | (_, '[') :: rest => conditioned text [] 1 rest
  | (_, first) :: _ =>
      if !opens first then .error .unreadable
      else
        match marks.dropWhile fun mark => mark.2 ≠ '=' && mark.2 ≠ '[' with
        | [] => .ok (plain text)
        | (offset, mark) :: rest => do
            let target ← piece text 0 offset
            if mark = '[' then conditioned text target (offset + 1) rest
            else
              leveled text ⟨String.ofList target, none, none, everything⟩ ((offset, mark) :: rest)

def covers (d : Directive) (event : Event) : Bool :=
  d.span.isNone && d.target.toList.isPrefixOf event.target.toList &&
    d.field.all fun field => !field.withValue && event.names.contains field.name

/-- Whether `d` is at least as specific as `b`: the longer target comes first, then a field, then
the greater name of a field. -/
def atLeast (b d : Directive) : Bool :=
  if b.target.length = d.target.length then
    match b.field, d.field with
    | none, _ => true
    | some _, none => false
    | some x, some y => x.name ≤ y.name
  else b.target.length < d.target.length

end Directive

end Assertions
