import Assertions.World
import Mathlib.Order.Defs.Unbundled

/-!
Laws of computations. A computation moves the state along a relation when every run of it that
is not halted does, and it agrees on a relation when related states give one ending and related
states again. Going on keeps both, so that both need to be shown of single changes only.
-/

namespace Assertions

variable {α β : Type}

namespace Ending

def Live : Ending α → Prop
  | .halted _ => False
  | _ => True

end Ending

namespace Effect

variable {R : State → State → Prop}

theorem bind_apply (first : Effect α) (next : α → Effect β) (s : State) :
    (first >>= next) s =
      match first s with
      | (.returned value, s') => next value s'
      | (.unwound payload, s') => (.unwound payload, s')
      | (.halted cause, s') => (.halted cause, s') := rfl

theorem catching_of_returned {body : Effect α} {s s' : State} {value : α}
    (h : body s = (.returned value, s')) : catching body s = (.returned (.returned value), s') := by
  rw [catching, h]

theorem catching_of_unwound {body : Effect α} {s s' : State} {payload : Payload}
    (h : body s = (.unwound payload, s')) :
    catching body s = (.returned (.unwound payload), s') := by
  rw [catching, h]

/-- Every run that is not halted leads from its first to its last state along `R`. -/
def Moves (R : State → State → Prop) (e : Effect α) : Prop :=
  ∀ s, (e s).1.Live → R s (e s).2

namespace Moves

theorem halt (cause : Halt) : (Effect.halt cause : Effect α).Moves R :=
  fun _ live => live.elim

theorem change {f : Store → Store} (h : ∀ s : State, R s { s with store := f s.store }) :
    (Effect.change f).Moves R :=
  fun s _ => h s

theorem catching {e : Effect α} (h : e.Moves R) : e.catching.Moves R := by
  intro s live
  have inner := h s
  rw [Effect.catching] at live ⊢
  generalize e s = result at inner live ⊢
  obtain ⟨ending, s'⟩ := result
  cases ending with
  | returned value => exact inner trivial
  | unwound payload => exact inner trivial
  | halted cause => exact live.elim

variable [IsPreorder State R]

theorem pure (value : α) : (pure value : Effect α).Moves R :=
  fun s _ => refl_of R s

theorem read (f : Store → α) : (Effect.read f).Moves R :=
  fun s _ => refl_of R s

theorem unwind (payload : Payload) : (Effect.unwind payload : Effect α).Moves R :=
  fun s _ => refl_of R s

theorem bind {e : Effect α} {k : α → Effect β} (first : e.Moves R) (next : ∀ a, (k a).Moves R) :
    (e >>= k).Moves R := by
  intro s live
  have head := first s
  rw [bind_apply] at live ⊢
  generalize e s = result at head live ⊢
  obtain ⟨ending, s'⟩ := result
  cases ending with
  | returned value => exact trans_of R (head trivial) (next value s' live)
  | unwound payload => exact head trivial
  | halted cause => exact live.elim

end Moves

/-- Related states give the same ending and related states. -/
def Agree (R : State → State → Prop) (e : Effect α) : Prop :=
  ∀ s t, R s t → (e s).1 = (e t).1 ∧ R (e s).2 (e t).2

namespace Agree

theorem pure (value : α) : (pure value : Effect α).Agree R :=
  fun _ _ related => ⟨rfl, related⟩

theorem unwind (payload : Payload) : (Effect.unwind payload : Effect α).Agree R :=
  fun _ _ related => ⟨rfl, related⟩

theorem halt (cause : Halt) : (Effect.halt cause : Effect α).Agree R :=
  fun _ _ related => ⟨rfl, related⟩

theorem read {f : Store → α} (h : ∀ s t, R s t → f s.store = f t.store) :
    (Effect.read f).Agree R :=
  fun s t related => ⟨congrArg Ending.returned (h s t related), related⟩

theorem change {f : Store → Store}
    (h : ∀ s t, R s t → R { s with store := f s.store } { t with store := f t.store }) :
    (Effect.change f).Agree R :=
  fun s t related => ⟨rfl, h s t related⟩

theorem bind {e : Effect α} {k : α → Effect β} (first : e.Agree R) (next : ∀ a, (k a).Agree R) :
    (e >>= k).Agree R := by
  intro s t related
  obtain ⟨same, related'⟩ := first s t related
  rw [bind_apply, bind_apply]
  generalize e s = left at same related' ⊢
  generalize e t = right at same related' ⊢
  obtain ⟨ending, s'⟩ := left
  obtain ⟨ending', t'⟩ := right
  cases same
  cases ending with
  | returned value => exact next value s' t' related'
  | unwound payload => exact ⟨rfl, related'⟩
  | halted cause => exact ⟨rfl, related'⟩

theorem catching {e : Effect α} (h : e.Agree R) : e.catching.Agree R := by
  intro s t related
  obtain ⟨same, related'⟩ := h s t related
  simp only [Effect.catching]
  generalize e s = left at same related' ⊢
  generalize e t = right at same related' ⊢
  obtain ⟨ending, s'⟩ := left
  obtain ⟨ending', t'⟩ := right
  cases same
  cases ending <;> exact ⟨rfl, related'⟩

theorem panic {payload : Payload}
    (h : ∀ (s t : State) (line : String), R s t →
      R { s with store := { s.store with hook := s.store.hook ++ [line] } }
        { t with store := { t.store with hook := t.store.hook ++ [line] } }) :
    (Effect.panic payload : Effect α).Agree R :=
  bind (change fun s t => h s t _) fun _ => unwind payload

end Agree

def Lives (e : Effect α) : Prop :=
  ∀ s, (e s).1.Live

namespace Lives

theorem pure (value : α) : (pure value : Effect α).Lives :=
  fun _ => trivial

theorem read (f : Store → α) : (Effect.read f).Lives :=
  fun _ => trivial

theorem change (f : Store → Store) : (Effect.change f).Lives :=
  fun _ => trivial

theorem unwind (payload : Payload) : (Effect.unwind payload : Effect α).Lives :=
  fun _ => trivial

theorem bind {e : Effect α} {k : α → Effect β} (first : e.Lives) (next : ∀ a, (k a).Lives) :
    (e >>= k).Lives := by
  intro s
  have head := first s
  rw [bind_apply]
  generalize e s = result at head ⊢
  obtain ⟨ending, s'⟩ := result
  cases ending with
  | returned value => exact next value s'
  | unwound payload => trivial
  | halted cause => exact head

end Lives

end Effect

end Assertions
