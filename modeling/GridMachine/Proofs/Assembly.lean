import GridMachine.Proofs.InOrder
import GridMachine.Proofs.Matrix

/-!
Definitions assembled from rules and paths. The rules always have a matrix; a definition is refused
only for a path, and then for the first state of it that no rule leaves and none leads to.
-/

namespace GridMachine.Definition

open InOrder

variable {ω E : Type}

theorem checkPath_eq_ok_iff {states result : List State} {name : String} {path : List String} :
    checkPath states name path = .ok result ↔
      (∀ state ∈ path, (⟨state⟩ : State) ∈ states) ∧ path.map State.mk = result := by
  unfold checkPath
  cases hfind : path.find? fun state => !states.contains ⟨state⟩ with
  | none =>
      have hall : ∀ state ∈ path, (⟨state⟩ : State) ∈ states := by
        intro state hstate
        simpa using List.find?_eq_none.1 hfind state hstate
      simp only [Except.ok.injEq]
      exact ⟨fun heq => ⟨hall, heq⟩, fun h => h.2⟩
  | some state =>
      have hmem := List.mem_of_find?_eq_some hfind
      have hnot : (⟨state⟩ : State) ∉ states := by simpa using List.find?_some hfind
      simp only [reduceCtorEq, false_iff]
      exact fun h => hnot (h.1 state hmem)

theorem checkPath_eq_error_iff {states : List State} {name : String} {path : List String}
    {error : MachineError} :
    checkPath states name path = .error error ↔
      ∃ state, error = .invalidPath name state ∧
        IsFirst (fun state => (⟨state⟩ : State) ∉ states) path state := by
  have hcontains : ∀ state : String,
      (!states.contains ⟨state⟩) = true ↔ (⟨state⟩ : State) ∉ states := by simp
  simp only [← find?_eq_some_iff hcontains]
  unfold checkPath
  cases path.find? fun state => !states.contains ⟨state⟩ <;> simp [eq_comm]

theorem checkPaths_eq_ok_iff {states : List State} {paths : List (String × List String)}
    {result : List (String × List State)} :
    checkPaths states paths = .ok result ↔
      (∀ entry ∈ paths, ∀ state ∈ entry.2, (⟨state⟩ : State) ∈ states) ∧
        paths.map (fun entry => (entry.1, entry.2.map State.mk)) = result := by
  induction paths generalizing result with
  | nil => simp [checkPaths]
  | cons entry paths ih =>
      rw [checkPaths, bind_eq_ok_iff]
      simp only [bind_eq_ok_iff, checkPath_eq_ok_iff, ih, List.forall_mem_cons, List.map_cons]
      simp [pure, Except.pure, and_assoc]

/-- The first path with a state that is missing is told, with the first such state. -/
theorem checkPaths_eq_error_iff {states : List State} {paths : List (String × List String)}
    {error : MachineError} :
    checkPaths states paths = .error error ↔
      ∃ name path state, error = .invalidPath name state ∧
        IsFirst (fun entry => ∃ state ∈ entry.2, (⟨state⟩ : State) ∉ states) paths (name, path) ∧
          IsFirst (fun state => (⟨state⟩ : State) ∉ states) path state := by
  induction paths with
  | nil => simp [checkPaths, IsFirst]
  | cons entry paths ih =>
      obtain ⟨name, path⟩ := entry
      rw [checkPaths, bind_eq_error_iff]
      simp only [bind_eq_error_iff, checkPath_eq_error_iff, checkPath_eq_ok_iff, ih,
        isFirst_cons_iff]
      constructor
      · rintro (⟨state, rfl, hfirst⟩ | ⟨_, ⟨hall, -⟩, hrest | ⟨_, -, hpure⟩⟩)
        · exact ⟨name, path, state, rfl, .inl ⟨⟨state, hfirst.mem, hfirst.holds⟩, rfl⟩, hfirst⟩
        · obtain ⟨other, steps, state, rfl, hpaths, hfirst⟩ := hrest
          refine ⟨other, steps, state, rfl, .inr ⟨?_, hpaths⟩, hfirst⟩
          rintro ⟨missing, hmem, hmissing⟩
          exact hmissing (hall missing hmem)
        · simp [pure, Except.pure] at hpure
      · rintro ⟨other, steps, state, rfl, ⟨-, heq⟩ | ⟨hpath, hpaths⟩, hfirst⟩
        · cases heq
          exact .inl ⟨state, rfl, hfirst⟩
        · have hall : ∀ state ∈ path, (⟨state⟩ : State) ∈ states := by simpa using hpath
          exact .inr ⟨_, ⟨hall, rfl⟩, .inl ⟨other, steps, state, rfl, hpaths, hfirst⟩⟩

theorem assemble_eq_ok_iff {rules : List (Rule ω E)} {paths : List (String × List String)}
    {listeners : List (Listener ω E)} {definition : Definition ω E} :
    assemble rules paths listeners = .ok definition ↔
      (∀ entry ∈ paths, ∀ state ∈ entry.2, ∃ rule ∈ rules,
        rule.source = ⟨state⟩ ∨ rule.target.declared = ⟨state⟩) ∧
      ⟨.ofRules rules, .ofList (paths.map fun entry => (entry.1, entry.2.map State.mk)),
        listeners⟩ = definition := by
  rw [assemble, bind_eq_ok_iff]
  simp [checkPaths_eq_ok_iff, Matrix.mem_states_ofRules, pure, Except.pure, and_assoc]

theorem assemble_eq_error_iff {rules : List (Rule ω E)} {paths : List (String × List String)}
    {listeners : List (Listener ω E)} {error : MachineError} :
    assemble rules paths listeners = .error error ↔
      ∃ name path state, error = .invalidPath name state ∧
        IsFirst (fun entry => ∃ state ∈ entry.2, ¬∃ rule ∈ rules,
          rule.source = ⟨state⟩ ∨ rule.target.declared = ⟨state⟩) paths (name, path) ∧
        IsFirst (fun state => ¬∃ rule ∈ rules,
          rule.source = ⟨state⟩ ∨ rule.target.declared = ⟨state⟩) path state := by
  rw [assemble, bind_eq_error_iff, checkPaths_eq_error_iff]
  simp only [Matrix.mem_states_ofRules]
  simp [pure, Except.pure]

/-- The definition that rules make with a default path of which the states are not checked. -/
def unchecked (rules : List (Rule ω E)) (defaultPath : Option (List String))
    (listeners : List (Listener ω E)) : Definition ω E :=
  ⟨.ofRules rules,
    .ofList (defaultPath.toList.map fun path => (defaultPathName, path.map State.mk)), listeners⟩

theorem ofRules_eq (rules : List (Rule ω E)) (defaultPath : Option (List String))
    (listeners : List (Listener ω E)) :
    ofRules rules defaultPath listeners =
      (checkPath (Matrix.ofRules rules).states defaultPathName (defaultPath.getD [])).map
        fun _ => unchecked rules defaultPath listeners := by
  cases defaultPath with
  | none => rfl
  | some path =>
      cases hcheck : checkPath (Matrix.ofRules rules).states defaultPathName path with
      | error error => simp [ofRules, assemble, checkPaths, hcheck, Except.map, bind, Except.bind]
      | ok states =>
          obtain ⟨-, rfl⟩ := checkPath_eq_ok_iff.1 hcheck
          simp [ofRules, assemble, checkPaths, hcheck, Except.map, bind, Except.bind, pure,
            Except.pure, unchecked]

/-- Rules make a definition exactly when every state of the default path is one of theirs. -/
theorem ofRules_eq_ok_iff {rules : List (Rule ω E)} {defaultPath : Option (List String)}
    {listeners : List (Listener ω E)} {definition : Definition ω E} :
    ofRules rules defaultPath listeners = .ok definition ↔
      (∀ state ∈ defaultPath.getD [], ∃ rule ∈ rules,
        rule.source = ⟨state⟩ ∨ rule.target.declared = ⟨state⟩) ∧
        unchecked rules defaultPath listeners = definition := by
  rw [ofRules_eq]
  simp only [← Matrix.mem_states_ofRules]
  cases hcheck : checkPath (Matrix.ofRules rules).states defaultPathName (defaultPath.getD []) with
  | ok states =>
      obtain ⟨hall, -⟩ := checkPath_eq_ok_iff.1 hcheck
      simp only [Except.map, Except.ok.injEq]
      exact ⟨fun heq => ⟨hall, heq⟩, fun h => h.2⟩
  | error error =>
      obtain ⟨state, -, hfirst⟩ := checkPath_eq_error_iff.1 hcheck
      simp only [Except.map, reduceCtorEq, false_iff]
      exact fun h => hfirst.holds (h.1 state hfirst.mem)

/-- The first state of the default path that no rule leaves and none leads to is told. -/
theorem ofRules_eq_error_iff {rules : List (Rule ω E)} {defaultPath : Option (List String)}
    {listeners : List (Listener ω E)} {error : MachineError} :
    ofRules rules defaultPath listeners = .error error ↔
      ∃ state, error = .invalidPath defaultPathName state ∧
        IsFirst (fun state => ¬∃ rule ∈ rules,
          rule.source = ⟨state⟩ ∨ rule.target.declared = ⟨state⟩) (defaultPath.getD []) state := by
  have herror : ofRules rules defaultPath listeners = .error error ↔
      checkPath (Matrix.ofRules rules).states defaultPathName (defaultPath.getD []) =
        .error error := by
    rw [ofRules_eq]
    cases checkPath (Matrix.ofRules rules).states defaultPathName (defaultPath.getD []) <;>
      simp [Except.map]
  rw [herror, checkPath_eq_error_iff]
  simp only [Matrix.mem_states_ofRules]

theorem ofRules_eq_error {rules : List (Rule ω E)} {path before after : List String}
    {state : String} {listeners : List (Listener ω E)} (hpath : path = before ++ state :: after)
    (hbefore : ∀ earlier ∈ before, ∃ rule ∈ rules,
      rule.source = ⟨earlier⟩ ∨ rule.target.declared = ⟨earlier⟩)
    (hstate : ¬∃ rule ∈ rules, rule.source = ⟨state⟩ ∨ rule.target.declared = ⟨state⟩) :
    ofRules rules (some path) listeners = .error (.invalidPath defaultPathName state) :=
  ofRules_eq_error_iff.2 ⟨state, rfl, before, after, hpath,
    fun earlier hearlier => not_not_intro (hbefore earlier hearlier), hstate⟩

end GridMachine.Definition
