import GridMachine.Proofs.Assembly
import GridMachine.Proofs.Compile
import GridMachine.Proofs.Queries

/-!
Machines that differ in their components only. Rules of the same events, states, targets and kinds
of guards fill matrices slot by slot alike, so that the definitions they make have the same states,
events and paths, and for every state and event the same number of candidates, which lead to the
same targets and are guarded where the others are.
-/

namespace GridMachine

variable {ω ω' E E' : Type}

/-- Rules that differ in their components only. -/
structure Rule.Resembles (rule : Rule ω E) (other : Rule ω' E') : Prop where
  event : rule.event = other.event
  source : rule.source = other.source
  target : ∃ state, rule.target = .fixed state ∧ other.target = .fixed state
  guarded : rule.evaluator.isSome = other.evaluator.isSome

/-- Candidates that differ in their components only. -/
structure Candidate.Resembles (candidate : Candidate ω E) (other : Candidate ω' E') : Prop where
  source : candidate.transition.source = other.transition.source
  target : ∃ state, candidate.transition.target = .fixed state ∧
    other.transition.target = .fixed state
  guarded : candidate.evaluator.isSome = other.evaluator.isSome

structure Slot.Resembles (slot : Slot ω E) (other : Slot ω' E') : Prop where
  event : slot.event = other.event
  candidates : List.Forall₂ Candidate.Resembles slot.candidates other.candidates

/-- Definitions that answer every question alike which does not ask what a component does. -/
structure Definition.Resembles (definition : Definition ω E) (other : Definition ω' E') :
    Prop where
  states : definition.states = other.states
  events : definition.events = other.events
  eventsFrom : ∀ state, definition.eventsFrom state = other.eventsFrom state
  targetsFrom : ∀ state, definition.targetsFrom state = other.targetsFrom state
  paths : definition.paths = other.paths
  candidates : ∀ state event, List.Forall₂ Candidate.Resembles
    (definition.candidates state event) (other.candidates state event)

theorem Rule.Resembles.declared {rule : Rule ω E} {other : Rule ω' E'} (h : rule.Resembles other) :
    rule.target.declared = other.target.declared := by
  obtain ⟨state, htarget, htarget'⟩ := h.target
  rw [htarget, htarget']
  rfl

theorem Rule.Resembles.candidate {rule : Rule ω E} {other : Rule ω' E'}
    (h : rule.Resembles other) : rule.candidate.Resembles other.candidate :=
  ⟨h.source, h.target, h.guarded⟩

/-- Transitions that report the same target. -/
def Transition.LeadAlike (transition : Transition ω E) (other : Transition ω' E') : Prop :=
  transition.target.declared = other.target.declared

theorem Candidate.Resembles.leadAlike {candidate : Candidate ω E} {other : Candidate ω' E'}
    (h : candidate.Resembles other) : candidate.transition.LeadAlike other.transition := by
  obtain ⟨state, htarget, htarget'⟩ := h.target
  rw [Transition.LeadAlike, htarget, htarget']
  rfl

theorem map_target_of_leadAlike {transitions : List (Transition ω E)}
    {others : List (Transition ω' E')}
    (h : List.Forall₂ Transition.LeadAlike transitions others) :
    transitions.map (·.target.declared.name) = others.map (·.target.declared.name) :=
  map_eq_map_of_forall₂ (fun _ _ hlead => congrArg State.name hlead) h

theorem Slot.resembles_add {rule : Rule ω E} {other : Rule ω' E'} (h : rule.Resembles other)
    {slot : Option (Slot ω E)} {slot' : Option (Slot ω' E')}
    (hslot : Option.Rel Resembles slot slot') :
    (add rule.event rule.candidate slot).Resembles (add other.event other.candidate slot') := by
  cases hslot with
  | none => exact ⟨h.event, .cons h.candidate .nil⟩
  | some hslot => exact ⟨hslot.event, List.rel_append hslot.candidates (.cons h.candidate .nil)⟩

theorem related_getD_empty {row : Option (NameMap (Slot ω E))}
    {other : Option (NameMap (Slot ω' E'))}
    (h : Option.Rel (NameMap.Related Slot.Resembles) row other) :
    NameMap.Related Slot.Resembles (row.getD .empty) (other.getD .empty) := by
  cases h with
  | none => exact NameMap.related_empty
  | some h => exact h

namespace Matrix

/-- Matrices with the same states and the same events for each, and slots that resemble each
other. -/
def Resembles (matrix : Matrix ω E) (other : Matrix ω' E') : Prop :=
  NameMap.Related (NameMap.Related Slot.Resembles) matrix other

theorem Resembles.addRule {matrix : Matrix ω E} {other : Matrix ω' E'}
    (h : matrix.Resembles other) {rule : Rule ω E} {rule' : Rule ω' E'}
    (hrule : rule.Resembles rule') : (matrix.addRule rule).Resembles (other.addRule rule') := by
  unfold Matrix.addRule
  rw [← hrule.source, ← hrule.event]
  refine NameMap.Related.update h (fun row row' hrow => ?_) rule.source.name
  refine (related_getD_empty hrow).update (fun slot slot' hslot => ?_) rule.event.name
  have hadd := Slot.resembles_add hrule hslot
  rw [← hrule.event] at hadd
  exact hadd

/-- Rules that resemble each other one by one fill matrices that do. -/
theorem resembles_ofRules {rules : List (Rule ω E)} {others : List (Rule ω' E')}
    (h : List.Forall₂ Rule.Resembles rules others) :
    (ofRules rules).Resembles (ofRules others) := by
  have hfold : ∀ (matrix : Matrix ω E) (other : Matrix ω' E'), matrix.Resembles other →
      (rules.foldl Matrix.addRule matrix).Resembles (others.foldl Matrix.addRule other) := by
    induction h with
    | nil => exact fun _ _ hmatrix => hmatrix
    | cons hrule _ ih => exact fun _ _ hmatrix => ih _ _ (hmatrix.addRule hrule)
  exact hfold _ _ NameMap.related_empty

theorem leadAlike_transitionsOf {row : NameMap (Slot ω E)} {other : NameMap (Slot ω' E')}
    (h : NameMap.Related Slot.Resembles row other) :
    List.Forall₂ Transition.LeadAlike (transitionsOf row) (transitionsOf other) :=
  List.rel_flatMap h.values fun _ _ hslot =>
    List.rel_map (fun _ _ hcandidate => hcandidate.leadAlike) hslot.candidates

namespace Resembles

variable {matrix : Matrix ω E} {other : Matrix ω' E'} (h : matrix.Resembles other)

include h

theorem row (state : State) :
    NameMap.Related Slot.Resembles (matrix.row state) (other.row state) :=
  related_getD_empty (h.get? state.name)

theorem candidates (state : State) (event : Event) :
    List.Forall₂ Candidate.Resembles (matrix.candidates state event)
      (other.candidates state event) := by
  rw [candidates_eq, candidates_eq]
  have hslot := (h.row state).get? event.name
  revert hslot
  generalize (matrix.row state).get? event.name = slot
  generalize (other.row state).get? event.name = slot'
  intro hslot
  cases hslot with
  | none => exact .nil
  | some hslot => exact hslot.candidates

theorem leadAlike_transitions :
    List.Forall₂ Transition.LeadAlike matrix.transitions other.transitions :=
  List.rel_flatMap h.values fun _ _ => leadAlike_transitionsOf

theorem states : matrix.states = other.states := by
  rw [Matrix.states, Matrix.states, h.keys, map_target_of_leadAlike h.leadAlike_transitions]

theorem events : matrix.events = other.events := by
  rw [← List.forall₂_eq_eq_eq]
  refine List.rel_flatMap h.values fun row row' hrow => ?_
  exact List.rel_map (fun _ _ hslot => hslot.event) hrow.values

end Resembles

end Matrix

namespace Definition

/-- **Rules that resemble each other make definitions that do,** whatever listens to them. -/
theorem resembles_unchecked {rules : List (Rule ω E)} {others : List (Rule ω' E')}
    (h : List.Forall₂ Rule.Resembles rules others) (defaultPath : Option (List String))
    (listeners : List (Listener ω E)) (others' : List (Listener ω' E')) :
    (unchecked rules defaultPath listeners).Resembles (unchecked others defaultPath others') where
  states := (Matrix.resembles_ofRules h).states
  events := by
    rw [events_eq, events_eq]
    exact congrArg (fun events => (Event.byName events).values) (Matrix.resembles_ofRules h).events
  eventsFrom state :=
    map_eq_map_of_forall₂ (fun _ _ hslot => hslot.event)
      ((Matrix.resembles_ofRules h).row state).values
  targetsFrom state := by
    rw [targetsFrom, targetsFrom]
    exact congrArg (fun names => (NameMap.distinct names).map State.mk)
      (map_target_of_leadAlike
        (Matrix.leadAlike_transitionsOf ((Matrix.resembles_ofRules h).row state)))
  paths := rfl
  candidates := (Matrix.resembles_ofRules h).candidates

end Definition

end GridMachine
