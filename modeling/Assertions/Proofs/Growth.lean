import Assertions.Proofs.Captures

/-!
Growing alike. Two stores grow alike when the same is appended to whatever both had at the
beginning, and when what is new in them is the same. Captures are told apart by their place, so
that the new ones of two stores may stand at different places.
-/

namespace Assertions

variable {α : Type}

/-- The same was appended to both. -/
def GrowAlike (a b a' b' : List α) : Prop :=
  ∃ more, a' = a ++ more ∧ b' = b ++ more

theorem GrowAlike.refl (a b : List α) : GrowAlike a b a b :=
  ⟨[], (List.append_nil a).symm, (List.append_nil b).symm⟩

theorem GrowAlike.append {a b a' b' : List α} (h : GrowAlike a b a' b') (last : List α) :
    GrowAlike a b (a' ++ last) (b' ++ last) := by
  obtain ⟨more, rfl, rfl⟩ := h
  exact ⟨more ++ last, List.append_assoc _ _ _, List.append_assoc _ _ _⟩

namespace Sink

def kind : Sink → SinkKind
  | .memory _ => .memory
  | .forwarding _ => .forwarding
  | .counting _ => .counting
  | .panicking => .panicking
  | .stderr => .stderr

def grow (lines : List String) : Sink → Sink
  | .memory kept => .memory (kept ++ lines)
  | .forwarding kept => .forwarding (kept ++ lines)
  | .counting count => .counting (count + lines.length)
  | sink => sink

theorem grow_nil (sink : Sink) : sink.grow [] = sink := by
  cases sink <;> simp [grow]

theorem keep_grow (sink : Sink) (lines : List String) (line : String) :
    (sink.grow lines).keep line = sink.grow (lines ++ [line]) := by
  cases sink <;> simp [grow, keep, Nat.add_assoc]

theorem kind_grow (sink : Sink) (lines : List String) : (sink.grow lines).kind = sink.kind := by
  cases sink <;> rfl

theorem kind_keep (sink : Sink) (line : String) : (sink.keep line).kind = sink.kind := by
  cases sink <;> rfl

theorem kind_clear (sink : Sink) : sink.clear.kind = sink.kind := by
  cases sink <;> rfl

end Sink

/-- Two sinks that were there both grew by the same lines; ones that were not are the same. -/
inductive SinksAlike : Option Sink → Option Sink → Option Sink → Option Sink → Prop
  | grown (x y : Sink) (lines : List String) :
      SinksAlike (some x) (some y) (some (x.grow lines)) (some (y.grow lines))
  | new (z : Option Sink) : SinksAlike none none z z

namespace SinksAlike

variable {x y x' y' : Option Sink}

theorem refl (kinds : x.map Sink.kind = y.map Sink.kind) : SinksAlike x y x y := by
  cases x with
  | none =>
      cases y with
      | none => exact .new none
      | some sink => simp at kinds
  | some sink =>
      cases y with
      | none => simp at kinds
      | some sink' =>
          have grown := SinksAlike.grown sink sink' []
          rw [sink.grow_nil, sink'.grow_nil] at grown
          exact grown

theorem kinds (h : SinksAlike x y x' y') (kinds : x.map Sink.kind = y.map Sink.kind) :
    x'.map Sink.kind = y'.map Sink.kind := by
  cases h with
  | grown x y lines => simpa [Sink.kind_grow] using kinds
  | new z => rfl

theorem keep (h : SinksAlike x y x' y') (line : String) :
    SinksAlike x y (some ((x'.getD (.memory [])).keep line))
      (some ((y'.getD (.memory [])).keep line)) := by
  cases h with
  | grown x y lines =>
      simp only [Option.getD_some, Sink.keep_grow]
      exact .grown x y (lines ++ [line])
  | new z => exact .new _

end SinksAlike

/-- The captures that both lists had grew alike, and the new ones are the same; the second list may
have had more of them, which stay as they were. -/
structure ScopesAlike (a b a' b' : List Scope) : Prop where
  opened : ∃ n, a'.length = a.length + n ∧ b'.length = b.length + n
  kept : ∀ place < a.length,
    GrowAlike (eventsAt a place) (eventsAt b place) (eventsAt a' place) (eventsAt b' place)
  others : ∀ place, a.length ≤ place → place < b.length → b'[place]? = b[place]?
  new : ∀ i, a'[a.length + i]? = b'[b.length + i]?

/-- Where a capture of the first list stands in the second one. -/
def shift (a b : List Scope) (place : Nat) : Nat :=
  if place < a.length then place else b.length + (place - a.length)

namespace ScopesAlike

variable {a b a' b' : List Scope}

theorem refl (a b : List Scope) : ScopesAlike a b a b := by
  refine ⟨⟨0, rfl, rfl⟩, fun _ _ => .refl _ _, fun _ _ _ => rfl, ?_⟩
  intro i
  rw [List.getElem?_eq_none (Nat.le_add_right _ _), List.getElem?_eq_none (Nat.le_add_right _ _)]

theorem append (h : ScopesAlike a b a' b') (earlier : a.length ≤ b.length) (scope : Scope) :
    ScopesAlike a b (a' ++ [scope]) (b' ++ [scope]) := by
  obtain ⟨n, left, right⟩ := h.opened
  have inside {l : List Scope} {place : Nat} (lt : place < l.length) :
      (l ++ [scope])[place]? = l[place]? :=
    List.getElem?_append_left lt
  refine ⟨⟨n + 1, by simp [left, Nat.add_assoc], by simp [right, Nat.add_assoc]⟩, ?_, ?_, ?_⟩
  · intro place lt
    have grown := h.kept place lt
    simp only [eventsAt] at grown ⊢
    rw [inside (by omega), inside (by omega)]
    exact grown
  · intro place ge lt
    rw [inside (by omega)]
    exact h.others place ge lt
  · intro i
    rw [List.getElem?_append, List.getElem?_append, left, right]
    by_cases old : i < n
    · rw [if_pos (by omega), if_pos (by omega)]
      exact h.new i
    · rw [if_neg (by omega), if_neg (by omega)]
      congr 1
      omega

theorem record (h : ScopesAlike a b a' b') (earlier : a.length ≤ b.length) (place : Nat)
    (event : Captured) :
    ScopesAlike a b (Store.record a' place event) (Store.record b' (shift a b place) event) := by
  obtain ⟨n, left, right⟩ := h.opened
  have shifted : shift a b place = if place < a.length then place else
    b.length + (place - a.length) := rfl
  refine ⟨⟨n, ?_, ?_⟩, ?_, ?_, ?_⟩
  · rw [Store.length_record, left]
  · rw [Store.length_record, right]
  · intro other lt
    have grown := h.kept other lt
    by_cases same : place = other
    · subst same
      rw [shifted, if_pos lt, Store.events_record (by omega), Store.events_record (by omega),
        if_pos rfl]
      exact grown.append [event]
    · have apart : shift a b place ≠ other := by
        rw [shifted]
        split <;> omega
      simp only [eventsAt] at grown ⊢
      simp only [Store.record]
      rw [List.getElem?_modify_ne _ _ same, List.getElem?_modify_ne _ _ apart]
      exact grown
  · -- No place is shifted to a capture that only the second list had.
    intro other ge lt
    have apart : shift a b place ≠ other := by
      rw [shifted]
      split <;> omega
    rw [Store.record, List.getElem?_modify_ne _ _ apart]
    exact h.others other ge lt
  · intro i
    have same : place = a.length + i ↔ shift a b place = b.length + i := by
      rw [shifted]
      split <;> omega
    simp only [Store.record]
    rw [List.getElem?_modify, List.getElem?_modify, h.new i]
    simp only [same]

end ScopesAlike

/-- Neither store has the sink, or both have one of the same kind. -/
def SameKind (a b : Store) (id : String) : Prop :=
  (a.sinks.lookup id).map Sink.kind = (b.sinks.lookup id).map Sink.kind

/-- Two stores grew alike in all that can be seen of them. -/
structure Store.GrowAlike (a b a' b' : Store) : Prop where
  sinks : ∀ id, SameKind a b id → SinksAlike (a.sinks.lookup id) (b.sinks.lookup id)
    (a'.sinks.lookup id) (b'.sinks.lookup id)
  scopes : ScopesAlike a.scopes b.scopes a'.scopes b'.scopes
  errorStream : Assertions.GrowAlike a.errorStream b.errorStream a'.errorStream b'.errorStream
  hook : Assertions.GrowAlike a.hook b.hook a'.hook b'.hook
  captured : Assertions.GrowAlike a.captured b.captured a'.captured b'.captured
  printed : Assertions.GrowAlike a.printed b.printed a'.printed b'.printed

/-- Besides having grown alike, the stores do not differ in what later steps consult; only some
steps ask whether the logging was initialised. -/
structure StoresAlike (asks : Prop) (a b a' b' : Store) : Prop where
  growth : a.GrowAlike b a' b'
  environment : b'.environment = a'.environment
  initialisation : asks → b'.initialisation = a'.initialisation
  subscriber : b'.subscriber = a'.subscriber

namespace StoresAlike

variable {asks : Prop} {a b a' b' : Store}

theorem changeSink (h : StoresAlike asks a b a' b') {id : String} (kind : SameKind a b id)
    {f : Sink → Sink}
    (grown : SinksAlike (a.sinks.lookup id) (b.sinks.lookup id) (some (f (a'.sink id)))
      (some (f (b'.sink id)))) :
    StoresAlike asks a b (a'.changeSink id f) (b'.changeSink id f) := by
  refine ⟨{ h.growth with sinks := ?_ }, h.environment, h.initialisation, h.subscriber⟩
  intro other known
  rw [Store.lookup_changeSink, Store.lookup_changeSink]
  by_cases same : other = id
  · subst same
    rw [if_pos rfl, if_pos rfl]
    exact grown
  · rw [if_neg same, if_neg same]
    exact h.growth.sinks other known

theorem keep (h : StoresAlike asks a b a' b') {id : String} (kind : SameKind a b id)
    (line : String) :
    StoresAlike asks a b (a'.changeSink id (Sink.keep line)) (b'.changeSink id (Sink.keep line)) :=
  h.changeSink kind ((h.growth.sinks id kind).keep line)

theorem make (h : StoresAlike asks a b a' b') {id : String} (kind : SameKind a b id) (sink : Sink)
    (unmade : a'.sinks.lookup id = none) :
    StoresAlike asks a b (a'.changeSink id fun _ => sink) (b'.changeSink id fun _ => sink) := by
  refine h.changeSink kind ?_
  have alike := h.growth.sinks id kind
  rw [unmade] at alike
  generalize a.sinks.lookup id = x at alike ⊢
  generalize b.sinks.lookup id = y at alike ⊢
  generalize b'.sinks.lookup id = z at alike
  cases alike with
  | new z => exact .new _

theorem errorLine (h : StoresAlike asks a b a' b') (line : String) :
    StoresAlike asks a b { a' with errorStream := a'.errorStream ++ [line] }
      { b' with errorStream := b'.errorStream ++ [line] } :=
  ⟨{ h.growth with errorStream := h.growth.errorStream.append [line] }, h.environment,
    h.initialisation, h.subscriber⟩

theorem hook (h : StoresAlike asks a b a' b') (message : String) :
    StoresAlike asks a b { a' with hook := a'.hook ++ [message] }
      { b' with hook := b'.hook ++ [message] } :=
  ⟨{ h.growth with hook := h.growth.hook.append [message] }, h.environment, h.initialisation,
    h.subscriber⟩

theorem poison (h : StoresAlike asks a b a' b') :
    StoresAlike asks a b { a' with initialisation := .poisoned }
      { b' with initialisation := .poisoned } :=
  ⟨{ h.growth with }, h.environment, fun _ => rfl, h.subscriber⟩

theorem initialise (h : StoresAlike asks a b a' b') (subscriber : Subscriber) :
    StoresAlike asks a b (a'.initialised subscriber) (b'.initialised subscriber) :=
  ⟨{ h.growth with }, h.environment, fun _ => rfl,
    congrArg (Option.or · (some subscriber)) h.subscriber⟩

theorem publish (h : StoresAlike asks a b a' b') (event : Event) :
    StoresAlike asks a b (a'.publish event) (b'.publish event) := by
  simp only [Store.publish]
  rw [h.subscriber]
  split
  · exact h
  · exact h
  · exact ⟨{ h.growth with captured := h.growth.captured.append _ }, h.environment,
      h.initialisation, rfl⟩
  · split
    · exact ⟨{ h.growth with printed := h.growth.printed.append _ }, h.environment,
        h.initialisation, rfl⟩
    · exact h
  · split
    · exact ⟨{ h.growth with printed := h.growth.printed.append _ }, h.environment,
        h.initialisation, rfl⟩
    · exact h

theorem record (h : StoresAlike asks a b a' b') (earlier : a.scopes.length ≤ b.scopes.length)
    (place : Nat) (event : Captured) :
    StoresAlike asks a b { a' with scopes := Store.record a'.scopes place event }
      { b' with scopes := Store.record b'.scopes (shift a.scopes b.scopes place) event } :=
  ⟨{ h.growth with scopes := h.growth.scopes.record earlier place event }, h.environment,
    h.initialisation, h.subscriber⟩

/-- What is listened to is not received. -/
theorem withAttention (h : StoresAlike asks a b a' b') (x y : Attention) :
    StoresAlike asks a b { a' with attention := x } { b' with attention := y } :=
  ⟨{ h.growth with }, h.environment, h.initialisation, h.subscriber⟩

theorem openScope (h : StoresAlike asks a b a' b') (earlier : a.scopes.length ≤ b.scopes.length)
    (scope : Scope) :
    StoresAlike asks a b { a' with scopes := a'.scopes ++ [scope] }
      { b' with scopes := b'.scopes ++ [scope] } :=
  ⟨{ h.growth with scopes := h.growth.scopes.append earlier scope }, h.environment,
    h.initialisation, h.subscriber⟩

end StoresAlike

end Assertions
