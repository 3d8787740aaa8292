import Assertions.Proofs.Changes
import Assertions.Proofs.Runs

/-!
The way of a payload. From where it is raised to the nearest frame that catches, a payload passes
frames that let it through, and nothing happens on this way but that the guards of each list of
steps write their lines and the frame around the list is left. The frame that catches goes on with
the next step, and what it makes of the payload depends on the payload alone.
-/

namespace Assertions

namespace State

/-- The lines that guards write while a payload unwinds are not refused. -/
def Accepts (s : State) : Prop :=
  ∀ id, s.thread.route = some (.sink id) → s.store.sink id ≠ .panicking

def emitted (s : State) (lines : List String) : State :=
  lines.foldl (fun s line => (Effect.emit line s).2) s

end State

/-- A frame that is left by unwinding, with the guards of the list of steps in it, the last one
first, and the thread as it was outside. -/
structure Layer where
  guards : List String
  frame : Frame
  outer : Thread
  deriving DecidableEq, Repr

def Layer.unwound (s : State) (layer : Layer) : State :=
  layer.frame.restore layer.outer (s.emitted layer.guards)

def State.unwound (s : State) (layers : List Layer) : State :=
  layers.foldl Layer.unwound s

/-- On its way through these frames a payload meets no sink that refuses the line of a guard. -/
def Calm : List Layer → State → Prop
  | [], _ => True
  | layer :: layers, s => (layer.guards ≠ [] → s.Accepts) ∧ Calm layers (layer.unwound s)

def Frame.Transparent : Frame → Prop
  | .routed _ | .captured _ => True
  | .case _ _ | .attempt | .thread => False

/-- The run of a list of steps comes to a step that raises a payload and leaves the state `t`; no
frame around the step catches. The frames that were entered are `layers`, the innermost first, the
guards of the list itself are `guards`, and the steps that were started are in `trace`. -/
inductive Script.Raises (p : Payload) (t : State) :
    Script → List Nat → Nat → State → List Layer → List String → List Entry → Prop
  | here {word st next path index s} (performed : st.perform s = (.unwound p, t)) :
      Raises p t (.simple word st next) path index s [] [] [⟨path ++ [index], word, none⟩]
  | later {word st next path index s result u layers guards trace}
      (performed : st.perform s = (.returned result, u))
      (rest : Raises p t next path (index + 1) u layers guards trace) :
      Raises p t (.simple word st next) path index s layers guards
        (⟨path ++ [index], word, some result⟩ :: trace)
  | guarded {word line next path index s layers guards trace}
      (rest : Raises p t next path (index + 1) s layers guards trace) :
      Raises p t (.guarded word line next) path index s layers (guards ++ [line])
        (⟨path ++ [index], word, some .ok⟩ :: trace)
  | within {word frame body next path index s entered layers guards trace}
      (entry : frame.enter s = (.returned (), entered)) (transparent : frame.Transparent)
      (inner : Raises p t body (path ++ [index]) 0 entered layers guards trace) :
      Raises p t (.framed word frame body next) path index s
        (layers ++ [⟨guards, frame, s.thread⟩]) [] (⟨path ++ [index], word, none⟩ :: trace)
  | again {word name onFailure body next path index s entered}
      (entry : (Frame.case name onFailure).enter s = (.returned (), entered))
      (left : (Frame.case name onFailure).leave s.thread (body.effect (path ++ [index]) entered).1
        (body.effect (path ++ [index]) entered).2 = (.unwound p, t)) :
      Raises p t (.framed word (.case name onFailure) body next) path index s [] []
        (⟨path ++ [index], word, none⟩ :: (body.run (path ++ [index]) 0 entered).released.trace)
  | behind {word frame body next path index s entered result u layers guards trace}
      (entry : frame.enter s = (.returned (), entered))
      (left : frame.leave s.thread (body.effect (path ++ [index]) entered).1
        (body.effect (path ++ [index]) entered).2 = (.returned result, u))
      (rest : Raises p t next path (index + 1) u layers guards trace) :
      Raises p t (.framed word frame body next) path index s layers guards
        (⟨path ++ [index], word, some result⟩ ::
          (body.run (path ++ [index]) 0 entered).released.trace ++ trace)

/-- What a frame that catches a payload in the state `u` comes to, and the state that it leaves. The
error of a case is its result, unless the case is to raise it again. -/
inductive Catches (p : Payload) (u : State) : Frame → Ending Result → State → Prop
  | attempt : Catches p u .attempt (.returned (.caught p)) u
  | thread : Catches p u .thread (.returned (.joined (.ofPayload p))) u
  | case (name : String) :
      Catches p u (.case name .report) (.returned (.failed (.ofPayload p)))
        (u.afterEvent (.caseEnd name (.error (.ofPayload p))))
  | again {name onFailure q v}
      (raised : onFailure.conclude (.ofPayload p)
        (u.afterEvent (.caseEnd name (.error (.ofPayload p)))) = (.unwound q, v)) :
      Catches p u (.case name onFailure) (.unwound q) v

namespace State.Accepts

variable {s : State}

theorem emit (accepts : s.Accepts) (line : String) :
    ∃ t, Effect.emit line s = (.returned (), t) ∧ t.Accepts := by
  have sent := sends_emit line s
  generalize Effect.emit line s = result at sent ⊢
  obtain ⟨ending, t⟩ := result
  cases sent with
  | panicking route kind => exact absurd kind (accepts _ route)
  | unrouted route => exact ⟨_, rfl, accepts⟩
  | stderr route kind => exact ⟨_, rfl, accepts⟩
  | inside route =>
      refine ⟨_, rfl, fun id other => ?_⟩
      cases route.symm.trans other
  | @memory id _ route kind | @counting id _ route kind | @forwarding id _ route kind =>
      refine ⟨_, rfl, fun routed same => ?_⟩
      obtain rfl : id = routed := Target.sink.inj (Option.some.inj (route.symm.trans same))
      change (s.store.changeSink id _).sink id ≠ .panicking
      rw [Store.sink_changeSink, kind]
      nofun

theorem released {α : Type} {lines : List String} (accepts : lines ≠ [] → s.Accepts)
    (p : Payload) :
    ((Ending.unwound p : Ending α).released lines) s = (.unwound p, s.emitted lines) := by
  induction lines generalizing s with
  | nil => rfl
  | cons line lines ih =>
      obtain ⟨t, emitted, accepts'⟩ := (accepts (List.cons_ne_nil line lines)).emit line
      have caught := Effect.catching_of_returned emitted
      rw [Ending.released_unwound, Effect.bind_of_returned caught]
      rw [State.emitted, List.foldl_cons, emitted]
      exact ih fun _ => accepts'

end State.Accepts

theorem Calm.append {layers : List Layer} {layer : Layer} {s : State}
    (calm : Calm (layers ++ [layer]) s) :
    Calm layers s ∧ (layer.guards ≠ [] → (s.unwound layers).Accepts) := by
  induction layers generalizing s with
  | nil => exact ⟨trivial, calm.1⟩
  | cons first layers ih =>
      obtain ⟨rest, last⟩ := ih calm.2
      exact ⟨⟨calm.1, rest⟩, last⟩

theorem State.unwound_append (s : State) (layers : List Layer) (layer : Layer) :
    s.unwound (layers ++ [layer]) = layer.unwound (s.unwound layers) := by
  rw [State.unwound, List.foldl_append]
  rfl

theorem Frame.Transparent.conclude {frame : Frame} (transparent : frame.Transparent) (p : Payload)
    (s : State) : frame.conclude (.unwound p) s = (.unwound p, s) := by
  cases frame with
  | routed _ | captured _ => rfl
  | case _ _ | attempt | thread => exact transparent.elim

theorem Catches.conclude {p : Payload} {u v : State} {frame : Frame} {ending : Ending Result}
    (catches : Catches p u frame ending v) : frame.conclude (.unwound p) u = (ending, v) := by
  cases catches with
  | attempt | thread | case name => rfl
  | again raised => exact raised

theorem Frame.leave_of_unwound {frame : Frame} {outer : Thread} {script : Script} {path : List Nat}
    {s u : State} {p : Payload} {trace : List Entry} {guards : List String}
    (ran : script.run path 0 s = ⟨.unwound p, trace, u, guards⟩)
    (accepts : guards ≠ [] → u.Accepts) :
    frame.leave outer (script.effect path s).1 (script.effect path s).2 =
        frame.conclude (.unwound p) (Layer.unwound u ⟨guards, frame, outer⟩) ∧
      (script.run path 0 s).released.trace = trace := by
  have released : (script.run path 0 s).released = ⟨.unwound p, trace, u.emitted guards, []⟩ := by
    rw [ran, Run.released, State.Accepts.released accepts]
  rw [Script.effect, released]
  exact ⟨rfl, rfl⟩

namespace Script.Raises

variable {p : Payload} {t : State} {script : Script} {path : List Nat} {index : Nat} {s : State}
  {layers : List Layer} {guards : List String} {trace : List Entry}

/-- The run ends with the payload, and after the raise only guards wrote and frames were left. -/
theorem run_eq (raises : script.Raises p t path index s layers guards trace)
    (calm : Calm layers t) :
    script.run path index s = ⟨.unwound p, trace, t.unwound layers, guards⟩ := by
  induction raises with
  | here performed =>
      rw [run_simple performed]
      rfl
  | later performed _ ih =>
      rw [run_simple performed, followed, ih calm]
      rfl
  | guarded _ ih => rw [run, ih calm]
  | within entry transparent _ ih =>
      -- The guards of the body write before the frame around it is left.
      obtain ⟨inner, accepts⟩ := calm.append
      obtain ⟨left, started⟩ := Frame.leave_of_unwound (ih inner) accepts
      rw [transparent.conclude] at left
      rw [run_framed entry left, started, State.unwound_append]
      rfl
  | again entry left =>
      rw [run_framed entry left]
      rfl
  | behind entry left _ ih =>
      rw [run_framed entry left, followed, ih calm]
      rfl

end Script.Raises

def Payload.Foreign (p : Payload) : Prop :=
  ∀ m, p ≠ .mismatch m

theorem Payload.mismatch?_eq_error {p q : Payload} :
    p.mismatch? = .error q ↔ p.Foreign ∧ q = p := by
  cases p <;> simp [mismatch?, Foreign, eq_comm]

namespace CaseError

theorem ofPayload_eq_mismatch {p : Payload} {m : Mismatch} :
    ofPayload p = .mismatch m ↔ p = .mismatch m := by
  cases p <;> simp [ofPayload, Payload.mismatch?]

theorem ofPayload_eq_panicked {p : Payload} {message : String} :
    ofPayload p = .panicked message ↔
      p = .literal message ∨ p = .text message ∨
        message = "non-string panic payload" ∧ p.Foreign ∧ p.text? = none := by
  cases p <;>
    simp [ofPayload, Payload.mismatch?, Payload.text?, Payload.Foreign, textless, eq_comm]

end CaseError

namespace Effect

variable {α : Type}

/-- Catches what unwinds from a computation, handles a mismatch, and raises any other payload again
as it was handed back. -/
def relay (handle : Mismatch → Effect α) (body : Effect α) : Effect α := do
  match ← catching body with
  | .returned value => return value
  | .halted cause => halt cause
  | .unwound payload =>
      match payload.mismatch? with
      | .ok m => handle m
      | .error foreign => unwind foreign

def relays (handlers : List (Mismatch → Effect α)) (body : Effect α) : Effect α :=
  handlers.foldr relay body

variable {body : Effect α} {s t : State} {p : Payload}

theorem relay_of_foreign (handle : Mismatch → Effect α) (foreign : p.Foreign)
    (unwinds : body s = (.unwound p, t)) : relay handle body s = (.unwound p, t) := by
  have rejected : p.mismatch? = .error p := Payload.mismatch?_eq_error.mpr ⟨foreign, rfl⟩
  refine (bind_of_returned (catching_of_unwound unwinds)).trans ?_
  dsimp only
  rw [rejected]
  rfl

theorem relays_of_foreign (handlers : List (Mismatch → Effect α)) (foreign : p.Foreign)
    (unwinds : body s = (.unwound p, t)) : relays handlers body s = (.unwound p, t) := by
  induction handlers with
  | nil => exact unwinds
  | cons handle handlers ih => exact relay_of_foreign handle foreign ih

end Effect

/-- A payload that is raised under frames that do not catch is received as it is by the frame around
them that does, after the guards on its way and nothing else; then the steps behind that frame run.
A case makes a mismatch of a mismatch only, takes the message of a panic from a payload with a text,
and has a fixed message for all others. Layers that reject a payload and raise it again change
nothing. -/
theorem nearest_catch_receives_payload {word : String} {path : List Nat} {index : Nat}
    {frame : Frame} {body next : Script} {s entered t v : State} {p : Payload} {layers : List Layer}
    {guards : List String} {trace : List Entry} {ending : Ending Result}
    (entry : frame.enter s = (.returned (), entered))
    (raises : body.Raises p t (path ++ [index]) 0 entered layers guards trace)
    (calm : Calm (layers ++ [⟨guards, frame, s.thread⟩]) t)
    (catches : Catches p (t.unwound (layers ++ [⟨guards, frame, s.thread⟩])) frame ending v) :
    (Script.framed word frame body next).run path index s =
        Script.followed ending (⟨path ++ [index], word, Script.resultOf ending⟩ :: trace) v
          (next.run path (index + 1)) ∧
      (∀ m, CaseError.ofPayload p = .mismatch m ↔ p = .mismatch m) ∧
      (∀ message, CaseError.ofPayload p = .panicked message ↔
        p = .literal message ∨ p = .text message ∨
          message = "non-string panic payload" ∧ p.Foreign ∧ p.text? = none) ∧
      (∀ q, p.mismatch? = .error q ↔ p.Foreign ∧ q = p) ∧
      (p.Foreign → ∀ (α : Type) (handlers : List (Mismatch → Effect α)) (e : Effect α)
        (name : String) (a b : State), e (a.afterEvent (.caseStart name)) = (.unwound p, b) →
          Effect.relays handlers e (a.afterEvent (.caseStart name)) = (.unwound p, b) ∧
            Effect.runCase name (Effect.relays handlers e) a =
              (.returned (.error (.ofPayload p)),
                b.afterEvent (.caseEnd name (.error (.ofPayload p))))) := by
  obtain ⟨inner, accepts⟩ := calm.append
  obtain ⟨left, started⟩ := Frame.leave_of_unwound (raises.run_eq inner) accepts
  rw [← State.unwound_append, catches.conclude] at left
  refine ⟨?_, fun m => CaseError.ofPayload_eq_mismatch, fun message =>
    CaseError.ofPayload_eq_panicked, fun q => Payload.mismatch?_eq_error, ?_⟩
  · rw [Script.run_framed entry left, started]
  · intro foreign α handlers e name a b unwinds
    have relayed := Effect.relays_of_foreign handlers foreign unwinds
    exact ⟨relayed, Effect.runCase_of_unwound relayed⟩

def resumesUnderGuards : Script :=
  .guarded "guard" "first"
    (.guarded "guard" "second"
      (.framed "sink" (.routed ⟨"m", some .memory⟩)
        (.guarded "guard" "inner"
          (.simple "resume_unwind" (.resume (.wrapped ⟨"sum", "5", "6"⟩)) .done))
        .done))

theorem nearest_catch_receives_payload_resumesUnderGuards :
    ∃ v : State,
      (Script.framed "case" (.case "c" .report) resumesUnderGuards .done).run [] 0 (.fresh none) =
          ⟨.returned 1,
            [⟨[0], "case", some (.failed (.panicked "non-string panic payload"))⟩,
              ⟨[0, 0], "guard", some .ok⟩, ⟨[0, 1], "guard", some .ok⟩, ⟨[0, 2], "sink", none⟩,
              ⟨[0, 2, 0], "guard", some .ok⟩, ⟨[0, 2, 1], "resume_unwind", none⟩],
            v, []⟩ ∧
        v.store.sinks = [("m", .memory ["inner"])] ∧ v.store.errorStream = ["second", "first"] ∧
        v.thread = .fresh := by
  have entry : (Frame.case "c" .report).enter (.fresh none) = (.returned (), .fresh none) := rfl
  have transparent : (Frame.routed ⟨"m", some .memory⟩).Transparent := trivial
  have raises : resumesUnderGuards.Raises (.wrapped ⟨"sum", "5", "6"⟩)
      ((Frame.routed ⟨"m", some .memory⟩).enter (.fresh none)).2 ([] ++ [0]) 0 (.fresh none)
      [⟨["inner"], .routed ⟨"m", some .memory⟩, .fresh⟩] ["second", "first"] _ :=
    .guarded (.guarded (.within rfl transparent (.guarded (.here rfl))))
  have calm : Calm ([⟨["inner"], .routed ⟨"m", some .memory⟩, .fresh⟩] ++
        [⟨["second", "first"], .case "c" .report, .fresh⟩])
      ((Frame.routed ⟨"m", some .memory⟩).enter (.fresh none)).2 := by
    refine ⟨fun _ => ?_, fun _ => nofun, trivial⟩
    rintro id ⟨⟩
    exact fun kind => nomatch kind
  exact ⟨_, (nearest_catch_receives_payload entry raises calm (.case "c")).1.trans rfl, rfl, rfl,
    rfl⟩

end Assertions
