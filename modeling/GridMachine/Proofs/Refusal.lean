import GridMachine.Proofs.Assembly
import GridMachine.Proofs.Check
import GridMachine.Proofs.InOrder

/-!
What is told when a check fails. Each check looks through a list and tells of the first element that
does not pass, and of several checks the first that fails is told.
-/

namespace GridMachine

open InOrder

variable {π ω E : Type}

theorem Config.validate_eq_ok_iff {config : Config} :
    config.validate = .ok () ↔
      config.resourceDirs ≠ [] ∧ config.delimiter.toNat < 128 ∧
        config.delimiter ∉ reservedDelimiters := by
  unfold validate
  by_cases hdirs : config.resourceDirs = []
  · simp [hdirs]
  · by_cases hascii : 128 ≤ config.delimiter.toNat
    · have hnot : ¬config.delimiter.toNat < 128 := Nat.not_lt_of_le hascii
      simp [hdirs, hascii, hnot]
    · have hlt : config.delimiter.toNat < 128 := Nat.lt_of_not_le hascii
      by_cases hreserved : config.delimiter ∈ reservedDelimiters <;>
        simp [hdirs, hascii, hlt, hreserved]

/-- A configuration that is valid has a delimiter that is a byte. -/
theorem Config.delimiterByte_of_validate {config : Config} (h : config.validate = .ok ()) :
    config.delimiterByte = .ok config.delimiter.toNat.toUInt8 := by
  have hascii := (validate_eq_ok_iff.1 h).2.1
  rw [delimiterByte, if_neg (Nat.not_le_of_lt hascii)]

/-! ### Types -/

/-- Whether every type of a component in the manifest has a factory. -/
structure Registry.Provides (registry : Registry π ω E) (manifest : Manifest) : Prop where
  evaluators : ∀ entry ∈ manifest.evaluators.entries, registry.hasEvaluator entry.2 = true
  actions : ∀ entry ∈ manifest.actions.entries, registry.hasAction entry.2 = true

theorem checkTypes_eq (registry : Registry π ω E) (manifest : Manifest) :
    checkTypes registry manifest =
      (search (!registry.hasEvaluator ·.2) (fun entry => .unregistered .evaluator entry.1 entry.2)
        manifest.evaluators.entries >>= fun _ =>
      search (!registry.hasAction ·.2) (fun entry => .unregistered .action entry.1 entry.2)
        manifest.actions.entries) := by
  unfold checkTypes search
  cases manifest.evaluators.entries.find? (!registry.hasEvaluator ·.2) <;>
    cases manifest.actions.entries.find? (!registry.hasAction ·.2) <;> rfl

variable {registry : Registry π ω E} {manifest : Manifest} {error : LoadError}

theorem checkTypes_eq_ok_iff :
    checkTypes registry manifest = .ok () ↔ registry.Provides manifest := by
  rw [checkTypes_eq, then_eq_ok_iff, search_eq_ok_iff fun _ => Iff.rfl,
    search_eq_ok_iff fun _ => Iff.rfl]
  constructor
  · rintro ⟨hevaluators, hactions⟩
    exact ⟨by simpa using hevaluators, by simpa using hactions⟩
  · rintro ⟨hevaluators, hactions⟩
    exact ⟨by simpa using hevaluators, by simpa using hactions⟩

/-- The types of evaluators are looked through before those of actions. -/
theorem checkTypes_eq_error_iff :
    checkTypes registry manifest = .error error ↔
      (∃ entry, error = .unregistered .evaluator entry.1 entry.2 ∧
        IsFirst (registry.hasEvaluator ·.2 = false) manifest.evaluators.entries entry) ∨
      (∀ entry ∈ manifest.evaluators.entries, registry.hasEvaluator entry.2 = true) ∧
        ∃ entry, error = .unregistered .action entry.1 entry.2 ∧
          IsFirst (registry.hasAction ·.2 = false) manifest.actions.entries entry := by
  have hevaluator : ∀ entry : String × String,
      (!registry.hasEvaluator entry.2) = true ↔ registry.hasEvaluator entry.2 = false := by simp
  have haction : ∀ entry : String × String,
      (!registry.hasAction entry.2) = true ↔ registry.hasAction entry.2 = false := by simp
  rw [checkTypes_eq, then_eq_error_iff, search_eq_error_iff hevaluator, search_eq_ok_iff hevaluator,
    search_eq_error_iff haction]
  simp only [Bool.not_eq_false]

/-! ### States and events -/

variable {states : List String}

/-- Of a rule nothing is looked at but the name of the state that it leads to. -/
theorem checkTargets_eq (states : List String) (rules : List (Rule ω E)) :
    checkTargets states rules =
      search (!states.contains ·) .invalidTarget (rules.map (·.target.declared.name)) := by
  unfold checkTargets search
  rw [List.find?_map, Option.elim_map, Function.comp_def]
  cases rules.find? fun rule => !states.contains rule.target.declared.name <;> rfl

theorem checkTargets_eq_error_iff {rules : List (Rule ω E)} :
    checkTargets states rules = .error error ↔
      ∃ state, error = .invalidTarget state ∧
        IsFirst (· ∉ states) (rules.map (·.target.declared.name)) state := by
  have hflaw : ∀ state, (!states.contains state) = true ↔ state ∉ states := by simp
  rw [checkTargets_eq, search_eq_error_iff hflaw]

theorem checkDefaultPath_eq_error_iff {path : Option (List String)} :
    checkDefaultPath states path = .error error ↔
      ∃ state, error = .invalidDefaultPath state ∧
        IsFirst (· ∉ states) (path.getD []) state := by
  have hsearch : checkDefaultPath states path =
      search (!states.contains ·) .invalidDefaultPath (path.getD []) := by
    unfold checkDefaultPath search
    cases (path.getD []).find? (!states.contains ·) <;> rfl
  have hflaw : ∀ state, (!states.contains state) = true ↔ state ∉ states := by simp
  rw [hsearch, search_eq_error_iff hflaw]

theorem checkUnique_eq_error_iff {grid : Grid} :
    checkUnique grid = .error error ↔
      ¬grid.states.Nodup ∧ error = .duplicateStates (repeated grid.states) ∨
      grid.states.Nodup ∧ ¬(grid.events.map Header.eventName).Nodup ∧
        error = .duplicateEvents (repeated (grid.events.map Header.eventName)) := by
  rw [← repeated_eq_nil_iff, ← repeated_eq_nil_iff]
  by_cases hstates : repeated grid.states = [] <;>
    by_cases hevents : repeated (grid.events.map Header.eventName) = [] <;>
      simp [checkUnique, hstates, hevents, bind, Except.bind, pure, Except.pure, throw, throwThe,
        MonadExceptOf.throw, @eq_comm _ error]

/-- Targets are looked through before the default path, and states before events. -/
theorem checkRules_eq_error_iff {grid : Grid} {rules : List (Rule ω E)} :
    checkRules manifest grid rules = .error error ↔
      (∃ state, error = .invalidTarget state ∧
        IsFirst (· ∉ grid.states) (rules.map (·.target.declared.name)) state) ∨
      (∀ rule ∈ rules, rule.target.declared.name ∈ grid.states) ∧
        ((∃ state, error = .invalidDefaultPath state ∧
          IsFirst (· ∉ grid.states) (manifest.defaultPath.getD []) state) ∨
        (∀ state ∈ manifest.defaultPath.getD [], state ∈ grid.states) ∧
          (¬grid.states.Nodup ∧ error = .duplicateStates (repeated grid.states) ∨
          grid.states.Nodup ∧ ¬(grid.events.map Header.eventName).Nodup ∧
            error = .duplicateEvents (repeated (grid.events.map Header.eventName)))) := by
  unfold checkRules
  rw [then_eq_error_iff, then_eq_error_iff, checkTargets_eq_ok_iff, checkDefaultPath_eq_ok_iff,
    checkTargets_eq_error_iff, checkDefaultPath_eq_error_iff, checkUnique_eq_error_iff]

end GridMachine
