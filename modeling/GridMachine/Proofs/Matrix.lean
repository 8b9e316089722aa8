import GridMachine.Machine.Definition
import GridMachine.Proofs.NameMap
import Mathlib.Data.List.Induction

/-!
The matrix of a list of rules. Each slot holds the rules that concern its state and event, in the
order in which they were given, under the event as the first of them declares it; nothing is lost,
merged or reordered. What a definition says about its states and targets follows from its slots.
-/

namespace GridMachine

variable {ω E : Type}

/-- Whether the rule declares a candidate for the state and the event, whatever the roles. -/
def Rule.concerns (rule : Rule ω E) (state : State) (event : Event) : Bool :=
  rule.source = state && rule.event.isSame event

theorem Rule.concerns_iff {rule : Rule ω E} {state : State} {event : Event} :
    rule.concerns state event = true ↔ rule.source = state ∧ rule.event.name = event.name := by
  simp [concerns, Event.isSame]

theorem Rule.effectiveActions_ne_nil (rule : Rule ω E) : rule.effectiveActions ≠ [] := by
  unfold effectiveActions
  split
  · exact List.cons_ne_nil _ _
  next h => exact h

/-- The slot that rules for one state and event fill, if there are any. -/
def Slot.ofRules? : List (Rule ω E) → Option (Slot ω E)
  | [] => none
  | rule :: rules => some ⟨rule.event, (rule :: rules).map Rule.candidate⟩

theorem Slot.ofRules?_append_singleton (rules : List (Rule ω E)) (rule : Rule ω E) :
    ofRules? (rules ++ [rule]) = some (add rule.event rule.candidate (ofRules? rules)) := by
  cases rules with
  | nil => rfl
  | cons first rules => simp [ofRules?, add]

namespace Matrix

/-! ### Slots -/

theorem row_addRule (matrix : Matrix ω E) (rule : Rule ω E) (state : State) :
    (matrix.addRule rule).row state =
      if rule.source = state then
        (matrix.row state).update rule.event.name (Slot.add rule.event rule.candidate)
      else matrix.row state := by
  unfold addRule row
  rw [NameMap.get?_update]
  by_cases hstate : rule.source = state
  · subst hstate
    simp
  · have hname : rule.source.name ≠ state.name := fun heq => hstate (congrArg State.mk heq)
    simp [hstate, hname]

/-- One more rule goes to the end of the slot that it concerns; the other slots stay. -/
theorem get?_row_addRule (matrix : Matrix ω E) (rule : Rule ω E) (state : State) (event : Event) :
    ((matrix.addRule rule).row state).get? event.name =
      if rule.concerns state event then
        some (Slot.add rule.event rule.candidate ((matrix.row state).get? event.name))
      else (matrix.row state).get? event.name := by
  rw [row_addRule]
  by_cases hstate : rule.source = state
  · rw [if_pos hstate, NameMap.get?_update]
    by_cases hname : rule.event.name = event.name <;>
      simp [Rule.concerns, Event.isSame, hstate, hname]
  · simp [Rule.concerns, hstate]

theorem ofRules_append_singleton (rules : List (Rule ω E)) (rule : Rule ω E) :
    ofRules (rules ++ [rule]) = (ofRules rules).addRule rule := by
  simp only [ofRules, List.foldl_append, List.foldl_cons, List.foldl_nil]

/-- **Every slot holds the rules that concern it, in the order in which they were given.** -/
theorem get?_row_ofRules (rules : List (Rule ω E)) (state : State) (event : Event) :
    ((ofRules rules).row state).get? event.name =
      Slot.ofRules? (rules.filter (·.concerns state event)) := by
  induction rules using List.reverseRecOn with
  | nil => rfl
  | append_singleton rules rule ih =>
      rw [ofRules_append_singleton, get?_row_addRule, ih, List.filter_append]
      by_cases hrule : rule.concerns state event = true
      · rw [if_pos hrule, ← Slot.ofRules?_append_singleton]
        simp [hrule]
      · rw [if_neg hrule]
        simp [hrule]

theorem candidates_eq (matrix : Matrix ω E) (state : State) (event : Event) :
    matrix.candidates state event =
      (((matrix.row state).get? event.name).map Slot.candidates).getD [] := by
  unfold candidates
  cases (matrix.row state).get? event.name <;> rfl

theorem candidates_ofRules (rules : List (Rule ω E)) (state : State) (event : Event) :
    (ofRules rules).candidates state event =
      (rules.filter (·.concerns state event)).map Rule.candidate := by
  rw [candidates_eq, get?_row_ofRules]
  cases rules.filter (·.concerns state event) <;> rfl

/-- The event of a slot is that of the first rule that the slot holds. -/
theorem map_event_get?_row (rules : List (Rule ω E)) (state : State) (name : String) :
    (((ofRules rules).row state).get? name).map Slot.event =
      (rules.find? (·.concerns state (.unrestricted name))).map Rule.event := by
  have hrules := get?_row_ofRules rules state (.unrestricted name)
  rw [show (Event.unrestricted name).name = name from rfl] at hrules
  rw [hrules, ← List.head?_filter]
  cases rules.filter (·.concerns state (.unrestricted name)) <;> rfl

/-- The event of a slot is declared by a rule of the state, under the name of the slot. -/
theorem exists_rule_of_get?_row {rules : List (Rule ω E)} {state : State} {name : String}
    {slot : Slot ω E} (hslot : ((ofRules rules).row state).get? name = some slot) :
    ∃ rule ∈ rules, rule.source = state ∧ rule.event = slot.event ∧ slot.event.name = name := by
  have hrules := get?_row_ofRules rules state (.unrestricted name)
  rw [show (Event.unrestricted name).name = name from rfl, hslot] at hrules
  cases hfilter : rules.filter (·.concerns state (.unrestricted name)) with
  | nil => simp [hfilter, Slot.ofRules?] at hrules
  | cons rule others =>
      rw [hfilter] at hrules
      have hmem : rule ∈ rules.filter (·.concerns state (.unrestricted name)) := by simp [hfilter]
      obtain ⟨hrule, hconcerns⟩ := List.mem_filter.1 hmem
      obtain ⟨hstate, hname⟩ := Rule.concerns_iff.1 hconcerns
      have hevent : slot.event = rule.event := by rw [Option.some.inj hrules]
      exact ⟨rule, hrule, hstate, hevent.symm, hevent ▸ hname⟩

/-! ### Transitions, states and targets -/

theorem mem_transitionsOf {row : NameMap (Slot ω E)} {transition : Transition ω E} :
    transition ∈ transitionsOf row ↔
      ∃ name slot, row.get? name = some slot ∧
        ∃ candidate ∈ slot.candidates, candidate.transition = transition := by
  simp only [transitionsOf, List.mem_flatMap, NameMap.mem_values, List.mem_map]
  constructor
  · rintro ⟨slot, ⟨name, hslot⟩, hcandidate⟩
    exact ⟨name, slot, hslot, hcandidate⟩
  · rintro ⟨name, slot, hslot, hcandidate⟩
    exact ⟨slot, ⟨name, hslot⟩, hcandidate⟩

/-- The transitions of a row are those of the candidates for its state. -/
theorem mem_transitionsOf_row {matrix : Matrix ω E} {state : State}
    {transition : Transition ω E} :
    transition ∈ transitionsOf (matrix.row state) ↔
      ∃ event, ∃ candidate ∈ matrix.candidates state event, candidate.transition = transition := by
  rw [mem_transitionsOf]
  constructor
  · rintro ⟨name, slot, hslot, candidate, hmem, htransition⟩
    refine ⟨.unrestricted name, candidate, ?_, htransition⟩
    rw [candidates_eq, show (Event.unrestricted name).name = name from rfl, hslot]
    exact hmem
  · rintro ⟨event, candidate, hmem, htransition⟩
    rw [candidates_eq] at hmem
    cases hslot : (matrix.row state).get? event.name with
    | none => simp [hslot] at hmem
    | some slot =>
        rw [hslot] at hmem
        exact ⟨event.name, slot, hslot, candidate, hmem, htransition⟩

theorem mem_transitions {matrix : Matrix ω E} {transition : Transition ω E} :
    transition ∈ matrix.transitions ↔
      ∃ state event, ∃ candidate ∈ matrix.candidates state event,
        candidate.transition = transition := by
  simp only [transitions, List.mem_flatMap, NameMap.mem_values]
  constructor
  · rintro ⟨row, ⟨name, hrow⟩, hmem⟩
    have hstate : matrix.row ⟨name⟩ = row := by simp [Matrix.row, hrow]
    exact ⟨⟨name⟩, mem_transitionsOf_row.1 (hstate ▸ hmem)⟩
  · rintro ⟨state, hcandidate⟩
    have hmem := mem_transitionsOf_row.2 hcandidate
    cases hrow : matrix.get? state.name with
    | none => simp [Matrix.row, hrow, transitionsOf, NameMap.values, NameMap.empty] at hmem
    | some row =>
        refine ⟨row, ⟨state.name, hrow⟩, ?_⟩
        simpa [Matrix.row, hrow] using hmem

/-- One more rule adds its transition to those of the matrix. -/
theorem perm_transitions_addRule (matrix : Matrix ω E) (rule : Rule ω E) :
    (matrix.addRule rule).transitions.Perm (rule.candidate.transition :: matrix.transitions) := by
  have hslot : ∀ slot : Option (Slot ω E),
      ((Slot.add rule.event rule.candidate slot).candidates.map Candidate.transition).Perm
        (rule.candidate.transition ::
          slot.elim [] fun slot => slot.candidates.map Candidate.transition) := by
    intro slot
    cases slot with
    | none => exact .refl _
    | some slot =>
        rw [Slot.add, List.map_append]
        exact List.perm_append_singleton _ _
  refine NameMap.perm_flatMap_update (fun row => ?_) rule.source.name matrix
  have hrow := NameMap.perm_flatMap_update
    (g := fun slot : Slot ω E => slot.candidates.map Candidate.transition) hslot rule.event.name
    (row.getD .empty)
  cases row <;> exact hrow

open scoped List in
/-- **A matrix has one transition for each of its rules.** -/
theorem perm_transitions_ofRules (rules : List (Rule ω E)) :
    (ofRules rules).transitions.Perm (rules.map fun rule => rule.candidate.transition) := by
  induction rules using List.reverseRecOn with
  | nil => exact .refl []
  | append_singleton rules rule ih =>
      rw [ofRules_append_singleton, List.map_append]
      calc
        ((ofRules rules).addRule rule).transitions
          ~ rule.candidate.transition :: (ofRules rules).transitions :=
            perm_transitions_addRule (ofRules rules) rule
        _ ~ rule.candidate.transition :: rules.map fun rule => rule.candidate.transition :=
            ih.cons _
        _ ~ _ := (List.perm_append_singleton _ _).symm

/-- A matrix has the transitions of its rules and no others. -/
theorem mem_transitions_ofRules {rules : List (Rule ω E)} {transition : Transition ω E} :
    transition ∈ (ofRules rules).transitions ↔
      ∃ rule ∈ rules, rule.candidate.transition = transition := by
  rw [(perm_transitions_ofRules rules).mem_iff, List.mem_map]

theorem mem_keys_addRule {matrix : Matrix ω E} {rule : Rule ω E} {name : String} :
    name ∈ (matrix.addRule rule).keys ↔ rule.source.name = name ∨ name ∈ matrix.keys := by
  simp only [NameMap.mem_keys, addRule, NameMap.get?_update]
  by_cases hname : rule.source.name = name <;> simp [hname]

theorem mem_keys_ofRules {rules : List (Rule ω E)} {name : String} :
    name ∈ (ofRules rules).keys ↔ ∃ rule ∈ rules, rule.source.name = name := by
  induction rules using List.reverseRecOn with
  | nil => simp [ofRules, NameMap.mem_keys]
  | append_singleton rules rule ih =>
      rw [ofRules_append_singleton, mem_keys_addRule, ih]
      simp [or_and_right, exists_or, or_comm]

theorem get?_ofRules_eq_none_iff {rules : List (Rule ω E)} {name : String} :
    (ofRules rules).get? name = none ↔
      ∀ event, rules.filter (·.concerns ⟨name⟩ event) = [] := by
  have hkeys : (ofRules rules).get? name = none ↔ name ∉ (ofRules rules).keys := by
    simp [NameMap.mem_keys, Option.eq_none_iff_forall_ne_some]
  rw [hkeys, mem_keys_ofRules]
  simp only [List.filter_eq_nil_iff, Rule.concerns_iff]
  constructor
  · rintro h event rule hrule ⟨hsource, -⟩
    exact h ⟨rule, hrule, congrArg State.name hsource⟩
  · rintro h ⟨rule, hrule, hsource⟩
    exact h rule.event rule hrule ⟨congrArg State.mk hsource, rfl⟩

/-- **Only the order within a state and an event reaches the matrix.** -/
theorem ofRules_eq_of_filter_eq {rules others : List (Rule ω E)}
    (h : ∀ state event,
      rules.filter (·.concerns state event) = others.filter (·.concerns state event)) :
    ofRules rules = ofRules others := by
  have hrow : ∀ state, (ofRules rules).row state = (ofRules others).row state := by
    intro state
    apply NameMap.eq_of_get?
    intro name
    have hslot := get?_row_ofRules rules state (.unrestricted name)
    rw [h, ← get?_row_ofRules] at hslot
    exact hslot
  apply NameMap.eq_of_get?
  intro name
  have hnone : (ofRules rules).get? name = none ↔ (ofRules others).get? name = none := by
    simp only [get?_ofRules_eq_none_iff, h]
  have hsome := hrow ⟨name⟩
  unfold row at hsome
  cases hrules : (ofRules rules).get? name with
  | none => exact (hnone.1 hrules).symm
  | some slots =>
      cases hothers : (ofRules others).get? name with
      | none => simp [hnone.2 hothers] at hrules
      | some slots' =>
          rw [hrules, hothers] at hsome
          exact congrArg some hsome

/-- The states of a matrix are the sources and the declared targets of its rules. -/
theorem mem_states_ofRules {rules : List (Rule ω E)} {state : State} :
    state ∈ (ofRules rules).states ↔
      ∃ rule ∈ rules, rule.source = state ∨ rule.target.declared = state := by
  have hname : ∀ other : State, other.name = state.name ↔ other = state := fun other =>
    ⟨fun heq => congrArg State.mk heq, fun heq => congrArg State.name heq⟩
  have hmem : state ∈ (ofRules rules).states ↔
      state.name ∈ (ofRules rules).keys ∨
        ∃ transition ∈ (ofRules rules).transitions, transition.target.declared = state := by
    simp only [states, List.mem_map, NameMap.mem_distinct, List.mem_append, ← hname]
    constructor
    · rintro ⟨name, h, rfl⟩
      exact h
    · intro h
      exact ⟨state.name, h, rfl⟩
  rw [hmem, mem_keys_ofRules]
  simp only [mem_transitions_ofRules, hname]
  constructor
  · rintro (⟨rule, hrule, hsource⟩ | ⟨_, ⟨rule, hrule, rfl⟩, htarget⟩)
    · exact ⟨rule, hrule, .inl hsource⟩
    · exact ⟨rule, hrule, .inr htarget⟩
  · rintro ⟨rule, hrule, hsource | htarget⟩
    · exact .inl ⟨rule, hrule, hsource⟩
    · exact .inr ⟨_, ⟨rule, hrule, rfl⟩, htarget⟩

end Matrix

/-- The targets that a definition reports are those of the candidates for the state. -/
theorem Definition.mem_targetsFrom {definition : Definition ω E} {state target : State} :
    target ∈ definition.targetsFrom state ↔
      ∃ event, ∃ candidate ∈ definition.candidates state event,
        candidate.transition.target.declared = target := by
  simp only [targetsFrom, List.mem_map, NameMap.mem_distinct, Matrix.mem_transitionsOf_row]
  constructor
  · rintro ⟨_, ⟨_, ⟨event, candidate, hmem, rfl⟩, rfl⟩, rfl⟩
    exact ⟨event, candidate, hmem, rfl⟩
  · rintro ⟨event, candidate, hmem, rfl⟩
    exact ⟨_, ⟨_, ⟨event, candidate, hmem, rfl⟩, rfl⟩, rfl⟩

end GridMachine
