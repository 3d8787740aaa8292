/-!
Texts that are numbers: a sign, and then decimal digits with a point and an exponent, or the name
of a number that has no digits.
-/

namespace Assertions.Text

def withoutSign : List Char → List Char
  | '+' :: rest | '-' :: rest => rest
  | digits => digits

def isDigits (digits : List Char) : Bool :=
  !digits.isEmpty && digits.all Char.isDigit

/-- Nothing at all, or the mark of an exponent and a whole number. -/
def isExponent : List Char → Bool
  | [] => true
  | mark :: exponent => (mark = 'e' || mark = 'E') && isDigits (withoutSign exponent)

/-- There is a digit on one side of the point at least. -/
def isDecimal (text : List Char) : Bool :=
  let whole := text.takeWhile Char.isDigit
  match text.dropWhile Char.isDigit with
  | '.' :: rest =>
      !(whole.isEmpty && (rest.takeWhile Char.isDigit).isEmpty) &&
        isExponent (rest.dropWhile Char.isDigit)
  | rest => !whole.isEmpty && isExponent rest

/-- Letter case does not matter. -/
def isNumber (text : List Char) : Bool :=
  let unsigned := withoutSign text
  let name := String.ofList (unsigned.map Char.toLower)
  isDecimal unsigned || name = "inf" || name = "infinity" || name = "nan"

end Assertions.Text
