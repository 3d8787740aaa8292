import Assertions.Assertion
import Assertions.Case

/-!
A small harness: every case runs on its own, a failed one leaves its line on the standard error
stream, and the harness counts the failures and carries on.
-/

namespace Assertions.Demo

open Effect

def say (line : String) : Effect Unit :=
  change fun store => { store with printed := store.printed ++ [.line line] }

def decimal (numerator denominator : Nat) : Floating :=
  Format.binary64.ofRatio numerator denominator

/-- The sum from the left, divided by the number of terms. -/
def average (terms : List Floating) : Floating :=
  (terms.foldl (Floating.add .binary64) (.finite true 0)).divideBy .binary64 terms.length

def upperCased (text : String) : String :=
  String.ofList (text.toList.map Char.toUpper)

def cases : List (String × Effect Unit) :=
  [("integer sum", check "1 + 2" (.int 3 (1 + 2))),
    ("average within tolerance",
      check "average"
        (.tolerance (.ofValue _ (decimal 2 1))
          (.ofValue _ (average [decimal 1 1, decimal 2 1, decimal 305 100]))
          (.ofValue _ (decimal 5 100)))),
    ("upper-cased name",
      check "to_uppercase" (.generic (.text false "ADA") (.text true (upperCased "ada")))),
    ("missing lookup (fails)", check "lookup" (.text (some "present") none))]

/-- Whether the case failed. -/
def runOne (name : String) (body : Effect Unit) : Effect Bool := do
  match ← runCase name body with
  | .ok () =>
      say ("✓ " ++ name)
      return false
  | .error (.mismatch _) =>
      say ("✗ " ++ name)
      return true
  | .error error =>
      say ("✗ " ++ name ++ " (" ++ error.message ++ ")")
      return true

/-- The number of failed cases. -/
def runAll : List (String × Effect Unit) → Effect Nat
  | [] => return 0
  | (name, body) :: rest => do
      let failed ← runOne name body
      let others ← runAll rest
      return (if failed then 1 else 0) + others

def program : Effect Unit := do
  init .development
  say "=== comtest Case Runner Demo ==="
  say ""
  let failed ← runAll cases
  say ""
  say (toString failed ++ " failed")

/-- How the demonstration ends and the store that it leaves, in a process with this filter text. -/
def run (environment : Option String) : Ending Unit × Store :=
  let (ending, s) := program (State.fresh environment)
  (ending, s.store)

/-- The exit status of a program that ended so. -/
def status : Ending Unit → Nat
  | .returned _ => 0
  | _ => 101

end Assertions.Demo
