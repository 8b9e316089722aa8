import GridMachine.Loader.Compile
import Mathlib.Data.List.Forall2

/-!
Steps of loading, known by their outcomes. A step that is made of others ends well exactly when all
of these do, each in the world that the one before it leaves.
-/

namespace GridMachine

variable {ω α β : Type}

namespace Load

/-- What a step comes to in a world: a value or the first problem, and the world it leaves. -/
def outcome (step : Load ω α) (world : ω) : Except LoadError α × ω := StateT.run step.run world

theorem outcome_pure (value : α) (world : ω) :
    (pure value : Load ω α).outcome world = (.ok value, world) := rfl

theorem outcome_lift (step : StateM ω α) (world : ω) :
    outcome (ExceptT.lift step) world = (.ok (step world).1, (step world).2) := rfl

theorem outcome_bind (step : Load ω α) (next : α → Load ω β) (world : ω) :
    (step >>= next).outcome world =
      match step.outcome world with
      | (.ok value, world) => (next value).outcome world
      | (.error error, world) => (.error error, world) := by
  change StateT.run (ExceptT.run (step >>= next)) world = _
  rw [ExceptT.run_bind, StateT.run_bind]
  change _ = match StateT.run step.run world with
    | (.ok value, world) => (next value).outcome world
    | (.error error, world) => (.error error, world)
  rcases StateT.run step.run world with ⟨_ | _, _⟩ <;> rfl

theorem outcome_bind_eq_ok_iff {step : Load ω α} {next : α → Load ω β} {world world' : ω}
    {value : β} :
    (step >>= next).outcome world = (.ok value, world') ↔
      ∃ first middle, step.outcome world = (.ok first, middle) ∧
        (next first).outcome middle = (.ok value, world') := by
  rw [outcome_bind]
  rcases step.outcome world with ⟨error | first, middle⟩
  · simp
  · constructor
    · intro h
      exact ⟨first, middle, rfl, h⟩
    · rintro ⟨first, middle, heq, h⟩
      cases heq
      exact h

theorem outcome_ofExcept {ε : Type} (tell : ε → LoadError) (result : Except ε α) (world : ω) :
    (ofExcept tell result : Load ω α).outcome world = (result.mapError tell, world) := by
  cases result <;> rfl

theorem outcome_ofExcept_eq_ok_iff {ε : Type} {tell : ε → LoadError} {result : Except ε α}
    {world world' : ω} {value : α} :
    (ofExcept tell result : Load ω α).outcome world = (.ok value, world') ↔
      result = .ok value ∧ world = world' := by
  rw [outcome_ofExcept]
  cases result <;> simp [Except.mapError]

theorem outcome_ofExcept_bind_eq_ok_iff {ε : Type} {tell : ε → LoadError}
    {result : Except ε α} {next : α → Load ω β} {world world' : ω} {value : β} :
    (ofExcept tell result >>= next).outcome world = (.ok value, world') ↔
      ∃ first, result = .ok first ∧ (next first).outcome world = (.ok value, world') := by
  rw [outcome_bind_eq_ok_iff]
  constructor
  · rintro ⟨first, middle, hfirst, hnext⟩
    obtain ⟨hresult, rfl⟩ := outcome_ofExcept_eq_ok_iff.1 hfirst
    exact ⟨first, hresult, hnext⟩
  · rintro ⟨first, hresult, hnext⟩
    exact ⟨first, world, outcome_ofExcept_eq_ok_iff.2 ⟨hresult, rfl⟩, hnext⟩

/-- What holds of every value that a step yields holds of all values of a list of such steps. -/
theorem forall₂_of_outcome_mapM {f : α → Load ω β} {R : α → β → Prop}
    (hstep : ∀ a b world world', (f a).outcome world = (.ok b, world') → R a b) {xs : List α}
    {ys : List β} {world world' : ω} (h : (xs.mapM f).outcome world = (.ok ys, world')) :
    List.Forall₂ R xs ys := by
  induction xs generalizing ys world with
  | nil =>
      rw [List.mapM_nil, outcome_pure] at h
      cases h
      exact .nil
  | cons x xs ih =>
      rw [List.mapM_cons] at h
      obtain ⟨y, middle, hy, h⟩ := outcome_bind_eq_ok_iff.1 h
      obtain ⟨rest, last, hrest, h⟩ := outcome_bind_eq_ok_iff.1 h
      rw [outcome_pure] at h
      cases h
      exact .cons (hstep x y world middle hy) (ih hrest)

/-- A step for a value that may be missing yields one exactly where the value is there. -/
theorem rel_of_outcome_mapM {f : α → Load ω β} {R : α → β → Prop}
    (hstep : ∀ a b world world', (f a).outcome world = (.ok b, world') → R a b) {x : Option α}
    {y : Option β} {world world' : ω} (h : (x.mapM f).outcome world = (.ok y, world')) :
    Option.Rel R x y := by
  cases x with
  | none =>
      cases h
      exact .none
  | some x =>
      obtain ⟨b, middle, hb, h⟩ := outcome_bind_eq_ok_iff.1 h
      cases h
      exact .some (hstep x b world _ hb)

end Load

end GridMachine
