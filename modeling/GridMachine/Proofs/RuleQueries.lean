import GridMachine.Proofs.Queries
import GridMachine.Proofs.Resolution
import Mathlib.Data.List.Nodup

/-!
Questions about a definition, answered by its rules. What a definition says about its states, events
and targets is what its rules say one by one; where rules from one state declare an event of one name
with different roles, the first of them decides who may trigger it.
-/

namespace GridMachine

variable {ω E : Type}

namespace Definition

/-- The answers of a definition are those that can be read off a list of rules. Sets are lists in
which nothing occurs twice, and events count by their names. -/
structure Reflects (definition : Definition ω E) (rules : List (Rule ω E)) : Prop where
  states : ∀ state, state ∈ definition.states ↔
    ∃ rule ∈ rules, rule.source = state ∨ rule.target.declared = state
  nodup_states : definition.states.Nodup
  eventsFrom : ∀ state name, name ∈ (definition.eventsFrom state).map Event.name ↔
    ∃ rule ∈ rules, rule.source = state ∧ rule.event.name = name
  nodup_eventsFrom : ∀ state, ((definition.eventsFrom state).map Event.name).Nodup
  /-- The first rule from the state with the event is for everybody, or for one of the roles. -/
  authorised : ∀ state roles name,
    name ∈ (definition.authorisedEventsFrom state roles).map Event.name ↔
      ∃ rule, InOrder.IsFirst (fun rule => rule.source = state ∧ rule.event.name = name) rules rule ∧
        ∀ allowed ∈ rule.event.roles, ∃ role ∈ roles, role ∈ allowed
  authorised_subset : ∀ state roles,
    definition.authorisedEventsFrom state roles ⊆ definition.eventsFrom state
  authorised_mono : ∀ state roles more, roles ⊆ more →
    definition.authorisedEventsFrom state roles ⊆ definition.authorisedEventsFrom state more
  targetsFrom : ∀ state target, target ∈ definition.targetsFrom state ↔
    ∃ rule ∈ rules, rule.source = state ∧ rule.target.declared = target
  nodup_targetsFrom : ∀ state, (definition.targetsFrom state).Nodup
  transitionCount : definition.transitionCount = rules.length
  events : ∀ name, name ∈ definition.events.map Event.name ↔
    ∃ state, name ∈ (definition.eventsFrom state).map Event.name
  nodup_events : (definition.events.map Event.name).Nodup

end Definition

theorem Event.isAuthorisedFor_mono {event : Event} {roles more : List String} (h : roles ⊆ more)
    (hroles : event.isAuthorisedFor roles = true) : event.isAuthorisedFor more = true := by
  rw [isAuthorisedFor_iff] at hroles ⊢
  intro allowed hallowed
  obtain ⟨role, hrole, hmem⟩ := hroles allowed hallowed
  exact ⟨role, h hrole, hmem⟩

theorem State.nodup_map_mk {names : List String} (h : names.Nodup) : (names.map State.mk).Nodup :=
  h.map fun _ _ heq => congrArg State.name heq

namespace Definition

variable {rules : List (Rule ω E)} {defaultPath : Option (List String)}
  {listeners : List (Listener ω E)} {definition : Definition ω E}

theorem mem_targetsFrom_iff (hmatrix : definition.matrix = .ofRules rules) {state target : State} :
    target ∈ definition.targetsFrom state ↔
      ∃ rule ∈ rules, rule.source = state ∧ rule.target.declared = target := by
  rw [mem_targetsFrom]
  simp only [candidates, hmatrix, Matrix.candidates_ofRules, List.mem_map, List.mem_filter,
    Rule.concerns_iff]
  constructor
  · rintro ⟨event, _, ⟨rule, ⟨hrule, hsource, -⟩, rfl⟩, htarget⟩
    exact ⟨rule, hrule, hsource, htarget⟩
  · rintro ⟨rule, hrule, hsource, htarget⟩
    exact ⟨rule.event, _, ⟨rule, ⟨hrule, hsource, rfl⟩, rfl⟩, htarget⟩

/-- **A definition answers as its rules do.** -/
theorem reflects_ofRules (h : ofRules rules defaultPath listeners = .ok definition) :
    definition.Reflects rules := by
  obtain ⟨-, rfl⟩ := ofRules_eq_ok_iff.1 h
  have hmatrix : (unchecked rules defaultPath listeners).matrix = .ofRules rules := rfl
  refine
    { states := fun state => Matrix.mem_states_ofRules
      nodup_states := State.nodup_map_mk (NameMap.nodup_distinct _)
      eventsFrom := fun state name => mem_map_name_eventsFrom hmatrix
      nodup_eventsFrom := Definition.nodup_eventsFrom hmatrix
      authorised := fun state roles name => ?_
      authorised_subset := fun state roles => List.filter_sublist.subset
      authorised_mono := fun state roles more hroles event hevent => ?_
      targetsFrom := fun state target => mem_targetsFrom_iff hmatrix
      nodup_targetsFrom := fun state => State.nodup_map_mk (NameMap.nodup_distinct _)
      transitionCount := ?_
      events := fun name => mem_map_name_events
      nodup_events := Definition.nodup_events _ }
  · simp only [mem_map_name_authorisedEventsFrom hmatrix, Event.isAuthorisedFor_iff]
  · obtain ⟨hmem, hallowed⟩ := List.mem_filter.1 hevent
    exact List.mem_filter.2 ⟨hmem, Event.isAuthorisedFor_mono hroles hallowed⟩
  · rw [Definition.transitionCount, hmatrix, (Matrix.perm_transitions_ofRules rules).length_eq,
      List.length_map]

/-- In review the event of the first guard is for everybody, though a later rule is for a role. -/
theorem reflects_reviewRules :
    ∃ definition, ofRules reviewRules none [] = .ok definition ∧ definition.Reflects reviewRules ∧
      definition.authorisedEventsFrom ⟨"Review"⟩ [] = [.unrestricted "Decide"] := by
  have h : ofRules reviewRules none [] = .ok (unchecked reviewRules none []) := rfl
  exact ⟨_, h, reflects_ofRules h, by decide +kernel⟩

end Definition

end GridMachine
