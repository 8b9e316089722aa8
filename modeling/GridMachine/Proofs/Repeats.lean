import GridMachine.Proofs.DefaultPath
import Mathlib.Data.List.Sort

/-!
Texts that are given again. They are told once each, in the order in which they come for the second
time, and nothing else is told; no text is told exactly if no text is given twice. So the states and
the events of a grid that compiles are all different.
-/

namespace GridMachine

/-- Whether a text occurs for the second time at a place. -/
def IsSecondPlace (texts : List String) (text : String) (place : Nat) : Prop :=
  texts[place]? = some text ∧ (texts.take place).count text = 1

/-- Whether a list tells the texts that occur again, each once, in the order of the places at which
they occur for the second time. -/
structure ListsRepeats (texts repeats : List String) : Prop where
  nodup : repeats.Nodup
  mem_iff : ∀ text, text ∈ repeats ↔ 2 ≤ texts.count text
  inOrder : ∃ places : List Nat, places.Pairwise (· < ·) ∧
    List.Forall₂ (IsSecondPlace texts) repeats places

variable {texts : List String} {text other : String} {place later : Nat}

/-! ### Second places -/

namespace IsSecondPlace

theorem lt_length (h : IsSecondPlace texts text place) : place < texts.length :=
  (List.getElem?_eq_some_iff.1 h.1).1

theorem append (h : IsSecondPlace texts text place) (more : List String) :
    IsSecondPlace (texts ++ more) text place := by
  have hlt := h.lt_length
  refine ⟨?_, ?_⟩
  · rw [List.getElem?_append_left hlt]
    exact h.1
  · rw [List.take_append_of_le_length (Nat.le_of_lt hlt)]
    exact h.2

theorem append_singleton (h : texts.count text = 1) :
    IsSecondPlace (texts ++ [text]) text texts.length := by
  refine ⟨by simp, ?_⟩
  rwa [List.take_left]

theorem text_unique (h : IsSecondPlace texts text place) (h' : IsSecondPlace texts other place) :
    text = other :=
  Option.some.inj (h.1.symm.trans h'.1)

/-- Behind its second place a text has occurred twice. -/
theorem not_lt (h : IsSecondPlace texts text place) (h' : IsSecondPlace texts text later) :
    ¬place < later := by
  intro hlt
  have hprefix : texts.take (place + 1) <+: texts.take later :=
    List.take_prefix_take_left hlt
  have hcount := hprefix.sublist.count_le text
  rw [List.take_add_one, h.1, List.count_append, h.2, h'.2] at hcount
  simp at hcount

theorem place_unique (h : IsSecondPlace texts text place) (h' : IsSecondPlace texts text later) :
    place = later :=
  Nat.le_antisymm (Nat.not_lt.1 (h'.not_lt h)) (Nat.not_lt.1 (h.not_lt h'))

end IsSecondPlace

/-! ### Repeats -/

theorem exists_places_repeated (texts : List String) :
    ∃ places : List Nat, places.Pairwise (· < ·) ∧
      List.Forall₂ (IsSecondPlace texts) (repeated texts) places := by
  induction texts using List.reverseRecOn with
  | nil => exact ⟨[], .nil, .nil⟩
  | append_singleton texts last ih =>
      obtain ⟨places, hsorted, hall⟩ := ih
      have hkept := hall.imp fun _ _ h => h.append [last]
      rw [repeated_append_singleton]
      split
      next hone =>
        have hlt : ∀ place ∈ places, place < texts.length := by
          intro place hplace
          obtain ⟨text, -, h⟩ := exists_left_of_forall₂ hall hplace
          exact h.lt_length
        refine ⟨places ++ [texts.length], ?_, ?_⟩
        · simpa [List.pairwise_append, hsorted] using hlt
        · exact List.rel_append hkept (.cons (.append_singleton hone) .nil)
      next =>
        rw [List.append_nil]
        exact ⟨places, hsorted, hkept⟩

theorem listsRepeats_repeated (texts : List String) : ListsRepeats texts (repeated texts) where
  nodup := nodup_repeated texts
  mem_iff _ := mem_repeated_iff
  inOrder := exists_places_repeated texts

/-- The places at which the texts of a list occur for the second time are told by these texts. -/
theorem mem_places_iff {repeats : List String} {places : List Nat}
    (h : List.Forall₂ (IsSecondPlace texts) repeats places) :
    place ∈ places ↔ ∃ text ∈ repeats, IsSecondPlace texts text place := by
  constructor
  · exact exists_left_of_forall₂ h
  · rintro ⟨text, htext, hplace⟩
    obtain ⟨later, hlater, hsecond⟩ := exists_left_of_forall₂ h.flip htext
    rwa [hplace.place_unique hsecond]

/-- There is no other list that tells the repeats. -/
theorem ListsRepeats.unique {repeats repeats' : List String} (h : ListsRepeats texts repeats)
    (h' : ListsRepeats texts repeats') : repeats = repeats' := by
  obtain ⟨places, hsorted, hall⟩ := h.inOrder
  obtain ⟨places', hsorted', hall'⟩ := h'.inOrder
  have hmem : ∀ place, place ∈ places ↔ place ∈ places' := by
    intro place
    simp only [mem_places_iff hall, mem_places_iff hall', h.mem_iff, h'.mem_iff]
  obtain rfl := hsorted.eq_of_mem_iff hsorted' hmem
  have hleft : Relator.LeftUnique (IsSecondPlace texts) := fun _ _ _ h h' => h.text_unique h'
  exact List.left_unique_forall₂' hleft hall hall'

/-! ### What a machine rests on -/

/-- What the check for repeats is for: each state of a machine has one row of the grid, and each
event of it has one column. -/
structure Grid.TellsApart {ω E : Type} (grid : Grid) (events : List Event)
    (definition : Definition ω E) : Prop where
  no_states_told : repeated grid.states = []
  no_events_told : repeated (grid.events.map Header.eventName) = []
  nodup_states : grid.states.Nodup
  nodup_events : (events.map Event.name).Nodup
  one_row : ∀ state ∈ definition.states, grid.states.count state.name = 1
  one_column : ∀ event ∈ definition.events,
    event ∈ events ∧ (grid.events.map Header.eventName).count event.name = 1

theorem Loader.Prepares.tellsApart {π ω E : Type} {loader : Loader π ω E} {manifest : Manifest}
    {overrides : List (ActionOverride ω E)} {text : List UInt8} {grid : Grid}
    {events : List Event} {rules : List (Rule ω E)} {world world' : ω}
    (h : loader.Prepares manifest text overrides world grid events rules world')
    {definition : Definition ω E} (hmatrix : definition.matrix = .ofRules rules) :
    grid.TellsApart events definition := by
  obtain ⟨-, -, hstates, hnames⟩ := checkRules_eq_ok_iff.1 h.checked
  refine
    { no_states_told := repeated_eq_nil_iff.2 hstates
      no_events_told := repeated_eq_nil_iff.2 hnames
      nodup_states := hstates
      nodup_events := h.nodup_events
      one_row := fun state hstate => ?_
      one_column := fun event hevent => ?_ }
  · rw [Definition.states, hmatrix, Matrix.mem_states_ofRules] at hstate
    have hrow := h.mem_states_of_connects ((h.connects_iff state.name).2 hstate)
    exact List.count_eq_one_of_mem hstates hrow
  · have hcolumn := h.mem_of_mem_events hmatrix hevent
    have hname : event.name ∈ grid.events.map Header.eventName := by
      rw [← Header.map_name_of_mapM_parse h.headers]
      exact List.mem_map_of_mem hcolumn
    exact ⟨hcolumn, List.count_eq_one_of_mem hnames hname⟩

/-- **Repeats are told exactly.** The list that is told holds the texts that occur at least twice,
each once, in the order of their second places, and no other list does; it is empty exactly if no
text is repeated. That is what keeps the states and the events of a machine that compiles apart. -/
theorem repeats_told {π ω E : Type} (texts : List String) :
    ListsRepeats texts (repeated texts) ∧
    (∀ repeats, ListsRepeats texts repeats → repeats = repeated texts) ∧
    (repeated texts = [] ↔ texts.Nodup) ∧
    ∀ (loader : Loader π ω E) manifest text overrides listeners world definition world',
      (loader.compile manifest text overrides listeners).outcome world = (.ok definition, world') →
        ∃ delimiter grid events, loader.config.delimiterByte = .ok delimiter ∧
          Grid.read delimiter text = .ok grid ∧ grid.events.mapM Header.parse = .ok events ∧
          grid.TellsApart events definition := by
  refine ⟨listsRepeats_repeated texts, fun repeats h => h.unique (listsRepeats_repeated texts),
    repeated_eq_nil_iff, ?_⟩
  intro loader manifest text overrides listeners world definition world' h
  obtain ⟨grid, events, rules, hprepares, hrules⟩ := outcome_compile_eq_ok_iff.1 h
  obtain ⟨delimiter, hdelimiter, hread⟩ := hprepares.read
  obtain ⟨-, rfl⟩ := Definition.ofRules_eq_ok_iff.1 hrules
  exact ⟨delimiter, grid, events, hdelimiter, hread, hprepares.headers, hprepares.tellsApart rfl⟩

/-- One text occurs three times, and the first one comes again last. -/
def rota : List String := ["Noon", "Dawn", "Dusk", "Dawn", "Noon", "Dawn"]

theorem repeats_told_rota :
    ListsRepeats rota ["Dawn", "Noon"] ∧ ["Dawn", "Noon"] = repeated rota ∧
      ∃ definition, (draftLoader.compile draftManifest draftText draftOverrides []).outcome () =
          (.ok definition, ()) ∧
        ∃ delimiter grid events, draftLoader.config.delimiterByte = .ok delimiter ∧
          Grid.read delimiter draftText = .ok grid ∧ grid.events.mapM Header.parse = .ok events ∧
          grid.TellsApart events definition := by
  obtain ⟨-, hunique, -, hcompile⟩ := @repeats_told (List String) Unit Cli.DryRun rota
  have hlists : ListsRepeats rota ["Dawn", "Noon"] := by
    have hrepeated : repeated rota = ["Dawn", "Noon"] := by decide
    rw [← hrepeated]
    exact listsRepeats_repeated rota
  exact ⟨hlists, hunique _ hlists, _, outcome_compile_draft,
    hcompile _ _ _ _ _ _ _ _ outcome_compile_draft⟩

end GridMachine
