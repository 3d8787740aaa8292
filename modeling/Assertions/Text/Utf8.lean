/-!
Reading bytes as UTF-8 when some of them may not be. A well-formed sequence gives its character;
where none starts, the longest run of bytes that could have begun one gives a single replacement
character, and reading goes on behind that run.
-/

namespace Assertions.Text

/-- Stands for bytes that are no UTF-8. -/
def replacement : Char := '\uFFFD'

namespace Utf8

def inRange (low high : Nat) (byte : UInt8) : Bool :=
  low ≤ byte.toNat && byte.toNat ≤ high

/-- The six low bits of a continuation byte. -/
def payload (byte : UInt8) : Nat :=
  byte.toNat - 0x80

def isContinuation : UInt8 → Bool :=
  inRange 0x80 0xBF

/-- What may follow the first byte of a three-byte sequence: overlong forms and surrogates are
left out. -/
def isSecondOfThree (lead second : UInt8) : Bool :=
  if lead.toNat = 0xE0 then inRange 0xA0 0xBF second
  else if lead.toNat = 0xED then inRange 0x80 0x9F second
  else isContinuation second

/-- What may follow the first byte of a four-byte sequence: overlong forms and code points above
U+10FFFF are left out. -/
def isSecondOfFour (lead second : UInt8) : Bool :=
  if lead.toNat = 0xF0 then inRange 0x90 0xBF second
  else if lead.toNat = 0xF4 then inRange 0x80 0x8F second
  else isContinuation second

def two (lead second : UInt8) : Char :=
  Char.ofNat ((lead.toNat - 0xC0) * 0x40 + payload second)

def three (lead second third : UInt8) : Char :=
  Char.ofNat ((lead.toNat - 0xE0) * 0x1000 + payload second * 0x40 + payload third)

def four (lead second third fourth : UInt8) : Char :=
  Char.ofNat
    ((lead.toNat - 0xF0) * 0x40000 + payload second * 0x1000 + payload third * 0x40
      + payload fourth)

/-- How many bytes the sequence that `lead` opens has; nothing when no sequence opens so. -/
def lengthOf (lead : UInt8) : Nat :=
  if inRange 0x00 0x7F lead then 1
  else if inRange 0xC2 0xDF lead then 2
  else if inRange 0xE0 0xEF lead then 3
  else if inRange 0xF0 0xF4 lead then 4
  else 0

/-- Every ill-formed run becomes one replacement character. -/
def decodeLossy : List UInt8 → List Char
  | [] => []
  | lead :: rest =>
      match lengthOf lead with
      | 1 => Char.ofNat lead.toNat :: decodeLossy rest
      | 2 =>
          match rest with
          | second :: after =>
              if isContinuation second then two lead second :: decodeLossy after
              else replacement :: decodeLossy (second :: after)
          | [] => [replacement]
      | 3 =>
          match rest with
          | second :: after =>
              if isSecondOfThree lead second then
                match after with
                | third :: beyond =>
                    if isContinuation third then
                      three lead second third :: decodeLossy beyond
                    else replacement :: decodeLossy (third :: beyond)
                | [] => [replacement]
              else replacement :: decodeLossy (second :: after)
          | [] => [replacement]
      | 4 =>
          match rest with
          | second :: after =>
              if isSecondOfFour lead second then
                match after with
                | third :: beyond =>
                    if isContinuation third then
                      match beyond with
                      | fourth :: tail =>
                          if isContinuation fourth then
                            four lead second third fourth :: decodeLossy tail
                          else replacement :: decodeLossy (fourth :: tail)
                      | [] => [replacement]
                    else replacement :: decodeLossy (third :: beyond)
                | [] => [replacement]
              else replacement :: decodeLossy (second :: after)
          | [] => [replacement]
      | _ => replacement :: decodeLossy rest

end Utf8

def ofBytesLossy (bytes : List UInt8) : String :=
  String.ofList (Utf8.decodeLossy bytes)

end Assertions.Text
