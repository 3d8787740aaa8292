import Assertions.Demo

/-!
The demonstration as a program: what it prints goes to standard output, and its diagnostic lines
and the texts of panics that nothing caught go to standard error.
-/

def main : IO UInt32 := do
  let (ending, store) := Assertions.Demo.run (← IO.getEnv "RUST_LOG")
  for line in store.printed.filterMap Assertions.Printed.line? do
    IO.println line
  for line in store.errorStream do
    IO.eprintln line
  if let .unwound payload := ending then
    IO.eprintln (payload.text?.getD Assertions.CaseError.textless)
  return UInt32.ofNat (Assertions.Demo.status ending)
