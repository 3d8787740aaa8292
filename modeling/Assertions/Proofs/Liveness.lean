import Assertions.Proofs.Changes
import Assertions.Proofs.Runs

/-!
Runs that are not halted. A step halts a run only when it cannot be read, and a guard only when its
line is refused while a payload unwinds. A list of readable steps without guards therefore always
returns or unwinds, whatever state it starts in.
-/

namespace Assertions

theorem Effect.mention_lives {sink : SinkRef} (known : sink.kind.isSome) :
    (Effect.mention sink).Lives := by
  obtain ⟨kind, as⟩ := Option.isSome_iff_exists.mp known
  refine .bind (.read _) fun made => ?_
  rw [as]
  split
  · exact .pure ()
  · exact .change _

/-- Steps that can be read in every state; a capture that is asked by name may not be there. -/
def Step.Readable : Step → Prop
  | .malformed _ | .query (some _) _ => False
  | .writeLine sink _ | .readSink sink | .clearSink sink => sink.kind.isSome
  | _ => True

def Frame.Readable : Frame → Prop
  | .routed sink => sink.kind.isSome
  | _ => True

theorem Step.Readable.lives {st : Step} (readable : st.Readable) : st.perform.Lives := by
  cases st with
  | malformed field => exact readable.elim
  | check label assertion =>
      exact .bind (Effect.Does.check label assertion).lives fun _ => .pure _
  | panic payload => exact fun _ => trivial
  | resume payload => exact .unwind payload
  | emit line => exact .bind (Effect.Does.emit line).lives fun _ => .pure _
  | writeLine sink line =>
      exact .bind (Effect.mention_lives readable) fun _ =>
        .bind (Effect.Does.deliver sink.id line).lives fun _ => .pure _
  | readSink sink =>
      exact .bind (Effect.mention_lives readable) fun _ => .bind (.read _) fun _ => .pure _
  | clearSink sink =>
      exact .bind (Effect.mention_lives readable) fun _ => .bind (.change _) fun _ => .pure _
  | init profile => exact .bind (Effect.Does.init profile).lives fun _ => .pure _
  | initCapture => exact .bind (.change _) fun _ => .bind (.read _) fun _ => .pure _
  | log event => exact .bind (fun _ => trivial) fun _ => .pure _
  | query capture question =>
      cases capture with
      | none => exact (Effect.Does.askGlobal question).lives
      | some name => exact readable.elim

theorem Frame.Readable.enter {frame : Frame} (readable : frame.Readable) : frame.enter.Lives := by
  cases frame with
  | routed sink =>
      intro s
      have made := Effect.mention_lives readable s
      rw [enter_routed]
      generalize Effect.mention sink s = result at made ⊢
      obtain ⟨ending, s'⟩ := result
      cases ending <;> exact made
  | case _ _ | attempt | thread | captured _ => exact fun _ => trivial

theorem Frame.leave_lives (frame : Frame) (outer : Thread) {ending : Ending Nat}
    (live : ending.Live) : (frame.leave outer ending).Lives := by
  cases ending with
  | halted cause => exact live.elim
  | returned steps => cases frame <;> exact fun _ => trivial
  | unwound payload =>
      cases frame with
      | case name onFailure => cases onFailure <;> exact fun _ => trivial
      | routed _ | attempt | thread | captured _ => exact fun _ => trivial

/-- No line is left for when a list of steps ends. -/
def Script.Unguarded : Script → Prop
  | .done => True
  | .simple _ _ next => next.Unguarded
  | .guarded _ _ _ => False
  | .framed _ _ body next => body.Unguarded ∧ next.Unguarded

theorem Script.followed_lives {ending : Ending Result} {trace : List Entry} {s : State}
    {next : State → Run} (step : ending.Live)
    (rest : (next s).ending.Live ∧ (next s).guards = []) :
    (followed ending trace s next).ending.Live ∧ (followed ending trace s next).guards = [] := by
  cases ending with
  | returned result => exact rest
  | unwound payload => exact ⟨trivial, rfl⟩
  | halted cause => exact step.elim

theorem Run.released_of_unguarded {run : Run} (h : run.guards = []) : run.released = run := by
  obtain ⟨ending, trace, s, guards⟩ := run
  obtain rfl : guards = [] := h
  rfl

theorem Script.run_lives (script : Script) (readable : script.All Step.Readable Frame.Readable)
    (unguarded : script.Unguarded) (path : List Nat) (index : Nat) (s : State) :
    (script.run path index s).ending.Live ∧ (script.run path index s).guards = [] := by
  induction script generalizing path index s with
  | done => exact ⟨trivial, rfl⟩
  | simple word st next ih =>
      exact followed_lives (readable.1.lives s) (ih readable.2 unguarded path (index + 1) _)
  | guarded word line next _ => exact unguarded.elim
  | framed word frame body next ihBody ihNext =>
      have entered := readable.1.enter s
      rw [run]
      cases entry : frame.enter s with
      | mk ending s' =>
          rw [entry] at entered
          cases ending with
          | halted cause => exact entered.elim
          | unwound payload => exact ⟨trivial, rfl⟩
          | returned _ =>
              obtain ⟨inner, guards⟩ := ihBody readable.2.1 unguarded.1 (path ++ [index]) 0 s'
              have released := Run.released_of_unguarded guards
              dsimp only
              rw [released]
              exact followed_lives (frame.leave_lives s.thread inner _)
                (ihNext readable.2.2 unguarded.2 path (index + 1) _)

theorem Script.effect_lives (script : Script) (readable : script.All Step.Readable Frame.Readable)
    (unguarded : script.Unguarded) (path : List Nat) : (script.effect path).Lives := by
  intro s
  obtain ⟨live, guards⟩ := script.run_lives readable unguarded path 0 s
  have released := Run.released_of_unguarded guards
  simp only [effect, released]
  exact live

end Assertions
