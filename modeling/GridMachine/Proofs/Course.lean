import Mathlib.Data.List.Basic

/-!
Steps that are taken in order, up to the first that fails. A course that ends well is a chain of
steps, each in the state that the one before it left. A course that ends badly is such a chain with
one step behind it that fails; what would have come later has not happened.
-/

namespace GridMachine

variable {α σ ε : Type}

/-- What becomes of steps that are taken in order from a state, where `takes` says what a single
step comes to. The first failure ends the course. -/
inductive Course (takes : α → σ → Except ε Unit → σ → Prop) :
    List α → σ → Except ε Unit → σ → Prop where
  | done (state : σ) : Course takes [] state (.ok ()) state
  | stop {step : α} {steps : List α} {before after : σ} {error : ε}
      (failed : takes step before (.error error) after) :
      Course takes (step :: steps) before (.error error) after
  | next {step : α} {steps : List α} {before middle after : σ} {result : Except ε Unit}
      (passed : takes step before (.ok ()) middle) (rest : Course takes steps middle result after) :
      Course takes (step :: steps) before result after

namespace Course

variable {takes : α → σ → Except ε Unit → σ → Prop} {step : α} {steps later : List α}
  {before after : σ} {result : Except ε Unit}

theorem nil_iff : Course takes [] before result after ↔ result = .ok () ∧ before = after := by
  constructor
  · rintro ⟨⟩
    exact ⟨rfl, rfl⟩
  · rintro ⟨rfl, rfl⟩
    exact .done before

theorem cons_iff :
    Course takes (step :: steps) before result after ↔
      (∃ error, result = .error error ∧ takes step before (.error error) after) ∨
        ∃ middle, takes step before (.ok ()) middle ∧ Course takes steps middle result after := by
  constructor
  · intro h
    cases h with
    | stop failed => exact .inl ⟨_, rfl, failed⟩
    | next passed rest => exact .inr ⟨_, passed, rest⟩
  · rintro (⟨error, rfl, failed⟩ | ⟨middle, passed, rest⟩)
    · exact .stop failed
    · exact .next passed rest

theorem cons_iff_of_passed {middle : σ}
    (h : ∀ result after, takes step before result after ↔ result = .ok () ∧ after = middle) :
    Course takes (step :: steps) before result after ↔ Course takes steps middle result after := by
  rw [cons_iff]
  simp [h]

theorem cons_iff_of_failed {error : ε} {middle : σ}
    (h : ∀ result after, takes step before result after ↔ result = .error error ∧ after = middle) :
    Course takes (step :: steps) before result after ↔ result = .error error ∧ after = middle := by
  rw [cons_iff]
  simp [h]

theorem singleton_iff :
    Course takes [step] before result after ↔ takes step before result after := by
  rw [cons_iff]
  cases result with
  | error error => simp [nil_iff]
  | ok _ => simp [nil_iff]

/-- Of two courses one after the other, the second is taken only if the first ends well. -/
theorem append_iff :
    Course takes (steps ++ later) before result after ↔
      (∃ error, result = .error error ∧ Course takes steps before (.error error) after) ∨
        ∃ middle, Course takes steps before (.ok ()) middle ∧
          Course takes later middle result after := by
  induction steps generalizing before with
  | nil => simp [nil_iff]
  | cons step steps ih =>
      rw [List.cons_append, cons_iff]
      simp only [ih, cons_iff]
      constructor
      · rintro (⟨error, rfl, failed⟩ | ⟨middle, passed, ⟨error, rfl, rest⟩ | ⟨last, rest, hlater⟩⟩)
        · exact .inl ⟨error, rfl, .inl ⟨error, rfl, failed⟩⟩
        · exact .inl ⟨error, rfl, .inr ⟨middle, passed, rest⟩⟩
        · exact .inr ⟨last, .inr ⟨middle, passed, rest⟩, hlater⟩
      · rintro (⟨error, rfl, ⟨_, heq, failed⟩ | ⟨middle, passed, rest⟩⟩ |
          ⟨last, ⟨_, heq, -⟩ | ⟨middle, passed, rest⟩, hlater⟩)
        · cases heq
          exact .inl ⟨error, rfl, failed⟩
        · exact .inr ⟨middle, passed, .inl ⟨error, rfl, rest⟩⟩
        · cases heq
        · exact .inr ⟨middle, passed, .inr ⟨last, rest, hlater⟩⟩

/-- A course that ends badly has one step that fails, and all steps before it end well. -/
theorem error_iff {error : ε} :
    Course takes steps before (.error error) after ↔
      ∃ ran step later middle, steps = ran ++ step :: later ∧
        Course takes ran before (.ok ()) middle ∧ takes step middle (.error error) after := by
  constructor
  · intro h
    induction steps generalizing before with
    | nil => cases h
    | cons step steps ih =>
        cases h with
        | stop failed => exact ⟨[], step, steps, before, rfl, .done before, failed⟩
        | next passed rest =>
            obtain ⟨ran, last, later, middle, rfl, hran, failed⟩ := ih rest
            exact ⟨step :: ran, last, later, middle, rfl, .next passed hran, failed⟩
  · rintro ⟨ran, step, later, middle, rfl, hran, failed⟩
    exact append_iff.2 (.inr ⟨middle, hran, .stop failed⟩)

end Course

end GridMachine
