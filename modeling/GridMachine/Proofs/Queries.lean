import GridMachine.Proofs.InOrder
import GridMachine.Proofs.Matrix

/-!
What a definition says about its events. The events of a state are those under which its candidates
are kept, and the events of the machine are those of its states, of which the first counts where
several have one name.
-/

namespace GridMachine

variable {ω E : Type}

/-- Events by their names; of several events of one name the first counts. -/
def Event.byName (events : List Event) : NameMap Event :=
  events.foldl (fun known event => known.update event.name (·.getD event)) .empty

theorem Event.get?_byName (events : List Event) (name : String) :
    (byName events).get? name = events.find? (·.name = name) := by
  induction events using List.reverseRecOn with
  | nil => rfl
  | append_singleton events event ih =>
      rw [byName, List.foldl_append, List.foldl_cons, List.foldl_nil, ← byName, NameMap.get?_update,
        List.find?_append, ← ih]
      by_cases hname : event.name = name
      · subst hname
        cases (byName events).get? event.name <;> simp
      · cases (byName events).get? name <;> simp [hname]

/-- The events under which the candidates of a matrix are kept, state by state. -/
def Matrix.events (matrix : Matrix ω E) : List Event :=
  matrix.values.flatMap fun row => row.values.map Slot.event

namespace Definition

variable {definition : Definition ω E}

theorem events_eq (definition : Definition ω E) :
    definition.events = (Event.byName definition.matrix.events).values := by
  rw [Matrix.events, ← List.map_flatMap, Event.byName, List.foldl_map]
  rfl

theorem mem_eventsFrom {state : State} {event : Event} :
    event ∈ definition.eventsFrom state ↔
      ∃ name slot, (definition.matrix.row state).get? name = some slot ∧ slot.event = event := by
  rw [eventsFrom, List.mem_map]
  simp only [NameMap.mem_values]
  constructor
  · rintro ⟨slot, ⟨name, hslot⟩, hevent⟩
    exact ⟨name, slot, hslot, hevent⟩
  · rintro ⟨name, slot, hslot, hevent⟩
    exact ⟨slot, ⟨name, hslot⟩, hevent⟩

theorem mem_matrix_events {event : Event} :
    event ∈ definition.matrix.events ↔ ∃ state, event ∈ definition.eventsFrom state := by
  rw [Matrix.events, List.mem_flatMap]
  simp only [NameMap.mem_values, eventsFrom, Matrix.row]
  constructor
  · rintro ⟨row, ⟨name, hrow⟩, hevent⟩
    refine ⟨⟨name⟩, ?_⟩
    rw [hrow]
    exact hevent
  · rintro ⟨state, hevent⟩
    cases hrow : definition.matrix.get? state.name with
    | none => simp [hrow, NameMap.values, NameMap.empty] at hevent
    | some row =>
        rw [hrow] at hevent
        exact ⟨row, ⟨state.name, hrow⟩, hevent⟩

theorem exists_state_of_mem_events {event : Event} (h : event ∈ definition.events) :
    ∃ state, event ∈ definition.eventsFrom state := by
  rw [events_eq, NameMap.mem_values] at h
  obtain ⟨name, hevent⟩ := h
  rw [Event.get?_byName] at hevent
  exact mem_matrix_events.1 (List.mem_of_find?_eq_some hevent)

/-- The events of a state are known to the machine by their names. -/
theorem exists_mem_events_of_name {state : State} {event : Event}
    (h : event ∈ definition.eventsFrom state) :
    ∃ known ∈ definition.events, known.name = event.name := by
  have hfind : (definition.matrix.events.find? (·.name = event.name)).isSome := by
    rw [List.find?_isSome]
    exact ⟨event, mem_matrix_events.2 ⟨state, h⟩, by simp⟩
  obtain ⟨known, hknown⟩ := Option.isSome_iff_exists.1 hfind
  refine ⟨known, ?_, by simpa using List.find?_some hknown⟩
  rw [events_eq, NameMap.mem_values]
  exact ⟨event.name, by rw [Event.get?_byName, hknown]⟩

theorem nodup_events (definition : Definition ω E) :
    (definition.events.map Event.name).Nodup := by
  rw [events_eq, NameMap.map_values]
  · exact NameMap.nodup_keys _
  · intro name event hevent
    rw [Event.get?_byName] at hevent
    simpa using List.find?_some hevent

theorem mem_map_name_events {name : String} :
    name ∈ definition.events.map Event.name ↔
      ∃ state, name ∈ (definition.eventsFrom state).map Event.name := by
  simp only [List.mem_map]
  constructor
  · rintro ⟨event, hevent, rfl⟩
    obtain ⟨state, hmem⟩ := exists_state_of_mem_events hevent
    exact ⟨state, event, hmem, rfl⟩
  · rintro ⟨state, event, hevent, rfl⟩
    exact exists_mem_events_of_name hevent

/-! ### The events of rules -/

section Rules

variable {rules : List (Rule ω E)} (hmatrix : definition.matrix = .ofRules rules)

include hmatrix

theorem map_name_eventsFrom (state : State) :
    (definition.eventsFrom state).map Event.name = (definition.matrix.row state).keys := by
  rw [eventsFrom, List.map_map]
  refine NameMap.map_values fun name slot hslot => ?_
  rw [hmatrix] at hslot
  obtain ⟨rule, -, -, -, hname⟩ := Matrix.exists_rule_of_get?_row hslot
  exact hname

theorem nodup_eventsFrom (state : State) :
    ((definition.eventsFrom state).map Event.name).Nodup := by
  rw [map_name_eventsFrom hmatrix]
  exact NameMap.nodup_keys _

/-- An event of a state is kept as the first of the rules from there declares it. -/
theorem mem_eventsFrom_iff_isFirst {state : State} {event : Event} :
    event ∈ definition.eventsFrom state ↔
      ∃ rule, InOrder.IsFirst
        (fun rule => rule.source = state ∧ rule.event.name = event.name) rules rule ∧
          rule.event = event := by
  have hfind : ∀ name rule, rules.find? (·.concerns state (.unrestricted name)) = some rule ↔
      InOrder.IsFirst (fun rule => rule.source = state ∧ rule.event.name = name) rules rule :=
    fun _ _ => InOrder.find?_eq_some_iff fun _ => Rule.concerns_iff
  rw [mem_eventsFrom, hmatrix]
  constructor
  · rintro ⟨name, slot, hslot, rfl⟩
    have hevent := Matrix.map_event_get?_row rules state name
    rw [hslot, Option.map_some, eq_comm, Option.map_eq_some_iff] at hevent
    obtain ⟨rule, hrule, heq⟩ := hevent
    have hfirst := (hfind name rule).1 hrule
    rw [← heq, hfirst.holds.2]
    exact ⟨rule, hfirst, rfl⟩
  · rintro ⟨rule, hfirst, rfl⟩
    have hevent := Matrix.map_event_get?_row rules state rule.event.name
    rw [(hfind _ _).2 hfirst, Option.map_some, Option.map_eq_some_iff] at hevent
    obtain ⟨slot, hslot, heq⟩ := hevent
    exact ⟨rule.event.name, slot, hslot, heq⟩

theorem mem_map_name_eventsFrom {state : State} {name : String} :
    name ∈ (definition.eventsFrom state).map Event.name ↔
      ∃ rule ∈ rules, rule.source = state ∧ rule.event.name = name := by
  rw [← InOrder.exists_isFirst_iff]
  simp only [List.mem_map, mem_eventsFrom_iff_isFirst hmatrix]
  constructor
  · rintro ⟨_, ⟨rule, hfirst, rfl⟩, rfl⟩
    exact ⟨rule, hfirst⟩
  · rintro ⟨rule, hfirst⟩
    obtain ⟨-, rfl⟩ := hfirst.holds
    exact ⟨rule.event, ⟨rule, hfirst, rfl⟩, rfl⟩

/-- Who may trigger an event of a state is up to the first of the rules from there. -/
theorem mem_map_name_authorisedEventsFrom {state : State} {roles : List String} {name : String} :
    name ∈ (definition.authorisedEventsFrom state roles).map Event.name ↔
      ∃ rule, InOrder.IsFirst
        (fun rule => rule.source = state ∧ rule.event.name = name) rules rule ∧
          rule.event.isAuthorisedFor roles = true := by
  simp only [authorisedEventsFrom, List.mem_map, List.mem_filter,
    mem_eventsFrom_iff_isFirst hmatrix]
  constructor
  · rintro ⟨_, ⟨⟨rule, hfirst, rfl⟩, hallowed⟩, rfl⟩
    exact ⟨rule, hfirst, hallowed⟩
  · rintro ⟨rule, hfirst, hallowed⟩
    obtain ⟨-, rfl⟩ := hfirst.holds
    exact ⟨rule.event, ⟨⟨rule, hfirst, rfl⟩, hallowed⟩, rfl⟩

end Rules

end Definition

end GridMachine
