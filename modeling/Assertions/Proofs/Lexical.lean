import Assertions.Script.Run

/-!
Scripts without a slot. Here the target of lines is handed to a computation and cannot be changed
by it: a body that is routed to a sink is evaluated under that sink, with the guards of the body,
and what follows is evaluated under the target from before. A thread is evaluated under none.
-/

namespace Assertions

/-- A state without the slot. -/
structure Scene where
  scope : Option Nat
  store : Store
  deriving DecidableEq, Repr

def Scene.under (scene : Scene) (route : Option Target) : State :=
  ⟨⟨route, scene.scope⟩, scene.store⟩

def State.scene (s : State) : Scene :=
  ⟨s.thread.scope, s.store⟩

/-- A computation that is told where its lines go. -/
def Lexical (α : Type) : Type :=
  Option Target → Scene → Ending α × Scene

namespace Lexical

variable {α β : Type}

def returning (value : α) : Lexical α :=
  fun _ scene => (.returned value, scene)

/-- Both parts are told the same. -/
def andThen (first : Lexical α) (next : α → Lexical β) : Lexical β :=
  fun route scene =>
    match first route scene with
    | (.returned value, scene') => next value route scene'
    | (.unwound payload, scene') => (.unwound payload, scene')
    | (.halted cause, scene') => (.halted cause, scene')

instance : Monad Lexical where
  pure := returning
  bind := andThen

def catching (body : Lexical α) : Lexical (Ending α) :=
  fun route scene =>
    match body route scene with
    | (.halted cause, scene') => (.halted cause, scene')
    | (ending, scene') => (.returned ending, scene')

/-- A computation that writes no lines, in a thread whose slot is empty. -/
def silent (effect : Effect α) : Lexical α :=
  fun _ scene =>
    let (ending, s) := effect (scene.under none)
    (ending, s.scene)

def within (target : Target) (body : Lexical α) : Lexical α :=
  fun _ scene => body (some target) scene

def deliver : Target → String → Lexical Unit
  | .inside id, line => silent (Effect.keepLine id line)
  | .sink id, line => do
      match ← silent (Effect.read (·.sink id)) with
      | .memory _ | .counting _ => silent (Effect.keepLine id line)
      | .forwarding _ => within (.inside id) (silent (Effect.keepLine id (forwardMark ++ line)))
      | .panicking => silent (Effect.panicWith ("sink refused: " ++ line))
      | .stderr => silent (Effect.errorLine line)

/-- Writes to the target that was handed in, or to the standard error stream. -/
def emit (line : String) : Lexical Unit :=
  fun route scene =>
    match route with
    | none => silent (Effect.errorLine line) route scene
    | some target => deliver target line route scene

def fail (m : Mismatch) : Lexical α := do
  emit m.line
  silent (Effect.log (.mismatch Component.assertion m))
  silent (Effect.unwind (.mismatch m))

def render : Shown → Lexical String
  | .text text => return text
  | .panics message => silent (Effect.panicWith message)
  | .fails label => fail ⟨label, "1", "2"⟩

def compare (label : String) (c : Comparison) : Lexical Unit := do
  if ← silent (Effect.judge c.verdict) then return ()
  let expected ← render c.expected
  let actual ← render c.actual
  fail ⟨label, expected, actual⟩

def check (label : String) (assertion : Assertion) : Lexical Unit :=
  compare label assertion.comparison

/-- Only three kinds of steps write lines. -/
def perform : Step → Lexical Result
  | .check label assertion => do
      check label assertion
      return .ok
  | .emit line => do
      emit line
      return .ok
  | .writeLine sink line => do
      silent (Effect.mention sink)
      deliver (.sink sink.id) line
      return .ok
  | step => silent step.perform

/-- What is told to the body of a frame. -/
def inner (route : Option Target) : Frame → Option Target
  | .routed sink => some (.sink sink.id)
  | .thread => none
  | _ => route

def enter : Frame → Lexical Unit
  | .routed sink => silent (Effect.mention sink)
  | .case name _ => silent (Effect.openCase name)
  | .attempt => return ()
  | .thread => fun _ scene => (.returned (), { scene with scope := none })
  | .captured name => silent fun s => (.returned (), s.openScope name)

def restore (outer : Option Nat) (scene : Scene) : Frame → Scene
  | .thread => { scene with scope := outer }
  | .captured _ =>
      { scope := outer
        store := { scene.store with attention := scene.store.attention.closed } }
  | _ => scene

def leave (outer : Option Nat) (frame : Frame) (ending : Ending Nat) : Lexical Result :=
  fun route scene => silent (frame.conclude ending) route (restore outer scene frame)

/-- The lines of guards go where the lines of their steps go. -/
def released : List String → Ending α → Lexical α
  | [], ending => fun _ scene => (ending, scene)
  | _, .halted cause => silent (Effect.halt cause)
  | line :: lines, .returned value => do
      emit line
      released lines (.returned value)
  | line :: lines, .unwound payload => do
      match ← catching (emit line) with
      | .returned _ => released lines (.unwound payload)
      | _ => silent (Effect.halt .aborted)

structure Course where
  ending : Ending Nat
  trace : List Entry
  scene : Scene
  guards : List String
  deriving DecidableEq, Repr

namespace Course

def under (course : Course) (route : Option Target) : Run :=
  ⟨course.ending, course.trace, course.scene.under route, course.guards⟩

def released (course : Course) (route : Option Target) : Course :=
  let (ending, scene) := Lexical.released course.guards course.ending route course.scene
  ⟨ending, course.trace, scene, []⟩

end Course

def followed (ending : Ending Result) (trace : List Entry) (scene : Scene)
    (next : Scene → Course) : Course :=
  match ending with
  | .returned _ =>
      let rest := next scene
      { rest with trace := trace ++ rest.trace }
  | .unwound payload => ⟨.unwound payload, trace, scene, []⟩
  | .halted cause => ⟨.halted cause, trace, scene, []⟩

def run (route : Option Target) (path : List Nat) (index : Nat) : Script → Scene → Course
  | .done, scene => ⟨.returned index, [], scene, []⟩
  | .simple word step next, scene =>
      let (ending, scene') := perform step route scene
      followed ending [⟨path ++ [index], word, Script.resultOf ending⟩] scene'
        (run route path (index + 1) next)
  | .guarded word line next, scene =>
      let rest := run route path (index + 1) next scene
      { rest with
        trace := ⟨path ++ [index], word, some .ok⟩ :: rest.trace
        guards := rest.guards ++ [line] }
  | .framed word frame body next, scene =>
      match enter frame route scene with
      | (.returned _, entered) =>
          let within := inner route frame
          let body := (run within (path ++ [index]) 0 body entered).released within
          let (ending, scene') := leave scene.scope frame body.ending route body.scene
          followed ending (⟨path ++ [index], word, Script.resultOf ending⟩ :: body.trace) scene'
            (run route path (index + 1) next)
      | (.unwound payload, scene') =>
          ⟨.unwound payload, [⟨path ++ [index], word, none⟩], scene', []⟩
      | (.halted cause, scene') => ⟨.halted cause, [⟨path ++ [index], word, none⟩], scene', []⟩

def runFrom (route : Option Target) (script : Script) (scene : Scene) : Course :=
  (run route [] 0 script scene).released route

end Lexical

end Assertions
