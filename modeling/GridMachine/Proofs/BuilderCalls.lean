import GridMachine.Machine.Builder
import GridMachine.Proofs.Assembly

/-!
Definitions built by calls in any order. What comes of a history of calls depends on its rules and
listeners, in the order of their calls, and for each name of a path on the last write of it alone. A
path is judged by all of the rules, by those as well that are added after it.
-/

namespace GridMachine

open InOrder

variable {ω E : Type}

/-! ### Names that are written again -/

/-- Whether a name is given a value and none after it. -/
def IsLastWrite {β : Type} (writes : List (String × β)) (name : String) (value : β) : Prop :=
  ∃ before later, writes = before ++ (name, value) :: later ∧ name ∉ later.map Prod.fst

/-- The last writes of all names, in the order in which they were made. -/
def lastWrites {β : Type} : List (String × β) → List (String × β)
  | [] => []
  | write :: later =>
      if write.1 ∈ later.map Prod.fst then lastWrites later else write :: lastWrites later

section LastWrites

variable {β : Type} {writes : List (String × β)}

theorem isLastWrite_cons_iff {write : String × β} {name : String} {value : β} :
    IsLastWrite (write :: writes) name value ↔
      (name, value) = write ∧ name ∉ writes.map Prod.fst ∨ IsLastWrite writes name value := by
  constructor
  · rintro ⟨before, later, hwrites, hlater⟩
    cases before with
    | nil =>
        obtain ⟨rfl, rfl⟩ := List.cons.inj hwrites
        exact .inl ⟨rfl, hlater⟩
    | cons first before =>
        obtain ⟨rfl, rfl⟩ := List.cons.inj hwrites
        exact .inr ⟨before, later, rfl, hlater⟩
  · rintro (⟨rfl, hlater⟩ | ⟨before, later, rfl, hlater⟩)
    · exact ⟨[], writes, rfl, hlater⟩
    · exact ⟨write :: before, later, rfl, hlater⟩

theorem mem_lastWrites {name : String} {value : β} :
    (name, value) ∈ lastWrites writes ↔ IsLastWrite writes name value := by
  induction writes with
  | nil => simp [lastWrites, IsLastWrite]
  | cons write later ih =>
      rw [isLastWrite_cons_iff, ← ih, lastWrites]
      by_cases hagain : write.1 ∈ later.map Prod.fst
      · rw [if_pos hagain, or_iff_right]
        rintro ⟨rfl, hlast⟩
        exact hlast hagain
      · rw [if_neg hagain, List.mem_cons]
        apply or_congr_left
        rw [iff_self_and]
        rintro rfl
        exact hagain

theorem mem_map_fst_lastWrites {name : String} :
    name ∈ (lastWrites writes).map Prod.fst ↔ name ∈ writes.map Prod.fst := by
  induction writes with
  | nil => rfl
  | cons write later ih =>
      unfold lastWrites
      split
      next hagain =>
        rw [ih, List.map_cons, List.mem_cons]
        exact ⟨.inr, fun h => h.elim (fun heq => heq ▸ hagain) id⟩
      next => simp only [List.map_cons, List.mem_cons, ih]

theorem nodup_lastWrites (writes : List (String × β)) :
    ((lastWrites writes).map Prod.fst).Nodup := by
  induction writes with
  | nil => exact .nil
  | cons write later ih =>
      unfold lastWrites
      split
      next => exact ih
      next hlast => exact List.nodup_cons.2 ⟨fun hmem => hlast (mem_map_fst_lastWrites.1 hmem), ih⟩

/-- One more write takes its place at the end, and no other write of its name counts. -/
theorem lastWrites_append_singleton (writes : List (String × β)) (write : String × β) :
    lastWrites (writes ++ [write]) =
      (lastWrites writes).filter (fun entry => entry.1 ≠ write.1) ++ [write] := by
  induction writes with
  | nil => rfl
  | cons first later ih =>
      rw [List.cons_append, lastWrites, lastWrites, ih]
      by_cases hagain : first.1 ∈ later.map Prod.fst
      · simp only [List.map_append, List.mem_append, hagain, true_or, if_true]
      · by_cases hname : first.1 = write.1
        · rw [if_neg hagain]
          simp [hname]
        · simp [hagain, hname]

end LastWrites

namespace Builder

/-! ### Histories of calls -/

/-- A call that adds something to a builder. -/
inductive Call (ω E : Type) where
  | withTransition (event : Event) (source target : State)
  | withActions (event : Event) (source target : State) (actions : List (Action ω E))
  | withGuardedTransition (event : Event) (source target : State) (evaluator : Evaluator ω E)
      (actions : List (Action ω E))
  | withTarget (event : Event) (source : State) (target : Target ω E)
  | withRule (rule : Rule ω E)
  | withPath (name : String) (path : List String)
  | withDefaultPath (path : List String)
  | withListener (listener : Listener ω E)

namespace Call

def apply (builder : Builder ω E) : Call ω E → Builder ω E
  | withTransition event source target => builder.withTransition event source target
  | withActions event source target actions => builder.withActions event source target actions
  | withGuardedTransition event source target evaluator actions =>
      builder.withGuardedTransition event source target evaluator actions
  | withTarget event source target => builder.withTarget event source target
  | withRule rule => builder.withRule rule
  | withPath name path => builder.withPath name path
  | withDefaultPath path => builder.withDefaultPath path
  | withListener listener => builder.withListener listener

/-- The rule that a call adds, if it adds one. -/
def rule? : Call ω E → Option (Rule ω E)
  | withTransition event source target => some { event, source, target := .fixed target }
  | withActions event source target actions =>
      some { event, source, target := .fixed target, actions }
  | withGuardedTransition event source target evaluator actions =>
      some { event, source, target := .fixed target, evaluator := some evaluator, actions }
  | withTarget event source target => some { event, source, target }
  | withRule rule => some rule
  | withPath .. | withDefaultPath .. | withListener .. => none

/-- The path that a call writes, under its name. -/
def write? : Call ω E → Option (String × List String)
  | withPath name path => some (name, path)
  | withDefaultPath path => some (Definition.defaultPathName, path)
  | _ => none

def listener? : Call ω E → Option (Listener ω E)
  | withListener listener => some listener
  | _ => none

variable (calls : List (Call ω E))

def rules : List (Rule ω E) := calls.filterMap rule?

def writes : List (String × List String) := calls.filterMap write?

def listeners : List (Listener ω E) := calls.filterMap listener?

/-- Whether a rule, wherever it is added, leaves the state or declares it as its target. -/
def Declares (state : String) : Prop :=
  ∃ rule ∈ rules calls, rule.source = ⟨state⟩ ∨ rule.target.declared = ⟨state⟩

end Call

/-- The builder after the calls, one after the other. -/
def after (calls : List (Call ω E)) : Builder ω E := calls.foldl Call.apply {}

/-! ### One call -/

theorem rules_apply (builder : Builder ω E) (call : Call ω E) :
    (call.apply builder).rules = builder.rules ++ call.rule?.toList := by
  cases call with
  | withPath | withDefaultPath | withListener => exact (List.append_nil builder.rules).symm
  | _ => rfl

theorem listeners_apply (builder : Builder ω E) (call : Call ω E) :
    (call.apply builder).listeners = builder.listeners ++ call.listener?.toList := by
  cases call with
  | withListener => rfl
  | _ => exact (List.append_nil builder.listeners).symm

theorem paths_apply (builder : Builder ω E) (call : Call ω E) :
    (call.apply builder).paths = call.write?.elim builder.paths fun write =>
      builder.paths.filter (fun entry => entry.1 ≠ write.1) ++ [write] := by
  cases call <;> rfl

/-! ### All calls -/

theorem after_append_singleton (calls : List (Call ω E)) (call : Call ω E) :
    after (calls ++ [call]) = call.apply (after calls) := by
  rw [after, List.foldl_append]
  rfl

/-- What calls add to the end of a list stands in the order of the calls. -/
theorem collected_after {γ : Type} {list : Builder ω E → List γ} {item? : Call ω E → Option γ}
    (hempty : list {} = [])
    (happly : ∀ builder call, list (call.apply builder) = list builder ++ (item? call).toList)
    (calls : List (Call ω E)) : list (after calls) = calls.filterMap item? := by
  induction calls using List.reverseRecOn with
  | nil => exact hempty
  | append_singleton calls call ih =>
      rw [after_append_singleton, happly, ih, List.filterMap_append]
      cases hitem : item? call <;> simp [hitem]

theorem rules_after (calls : List (Call ω E)) : (after calls).rules = Call.rules calls :=
  collected_after rfl rules_apply calls

theorem listeners_after (calls : List (Call ω E)) :
    (after calls).listeners = Call.listeners calls :=
  collected_after rfl listeners_apply calls

/-- **A builder keeps the last write of each name, in the order of these writes.** -/
theorem paths_after (calls : List (Call ω E)) :
    (after calls).paths = lastWrites (Call.writes calls) := by
  induction calls using List.reverseRecOn with
  | nil => rfl
  | append_singleton calls call ih =>
      rw [after_append_singleton, paths_apply, ih, Call.writes, Call.writes, List.filterMap_append]
      cases hwrite : call.write? with
      | none => simp [hwrite]
      | some write =>
          rw [List.filterMap_cons, hwrite, List.filterMap_nil, lastWrites_append_singleton]
          rfl

theorem build_after_eq (calls : List (Call ω E)) :
    (after calls).build = Definition.assemble (Call.rules calls) (lastWrites (Call.writes calls))
      (Call.listeners calls) := by
  rw [build, rules_after, paths_after, listeners_after]

/-- **The definition that comes of a history of calls.** -/
theorem build_after_eq_ok_iff {calls : List (Call ω E)} {definition : Definition ω E} :
    (after calls).build = .ok definition ↔
      (∀ write ∈ lastWrites (Call.writes calls), ∀ state ∈ write.2, Call.Declares calls state) ∧
      ⟨.ofRules (Call.rules calls),
        .ofList ((lastWrites (Call.writes calls)).map fun write => (write.1, write.2.map State.mk)),
        Call.listeners calls⟩ = definition := by
  rw [build_after_eq]
  exact Definition.assemble_eq_ok_iff

theorem build_after_eq_error_iff {calls : List (Call ω E)} {error : MachineError} :
    (after calls).build = .error error ↔
      ∃ name path state, error = .invalidPath name state ∧
        IsFirst (fun write => ∃ state ∈ write.2, ¬Call.Declares calls state)
          (lastWrites (Call.writes calls)) (name, path) ∧
        IsFirst (fun state => ¬Call.Declares calls state) path state := by
  rw [build_after_eq]
  exact Definition.assemble_eq_error_iff

/-- What a definition is like that comes of a history of calls: it has the paths that were written
last, and apart from them it is the definition of the rules alone. -/
structure ComesOf (calls : List (Call ω E)) (definition : Definition ω E) : Prop where
  names : ∀ name, name ∈ definition.paths.keys ↔ name ∈ (Call.writes calls).map Prod.fst
  paths : ∀ name path, definition.paths.get? name = some path ↔
    ∃ states, IsLastWrite (Call.writes calls) name states ∧ states.map State.mk = path
  rules : Definition.ofRules (Call.rules calls) none (Call.listeners calls) =
    .ok { definition with paths := .empty }

theorem comesOf_of_build {calls : List (Call ω E)} {definition : Definition ω E}
    (h : (after calls).build = .ok definition) : ComesOf calls definition := by
  obtain ⟨-, rfl⟩ := build_after_eq_ok_iff.1 h
  have hnames : ((lastWrites (Call.writes calls)).map fun write =>
      (write.1, write.2.map State.mk)).map Prod.fst =
        (lastWrites (Call.writes calls)).map Prod.fst := by
    rw [List.map_map]
    rfl
  refine ⟨fun name => ?_, fun name path => ?_, Definition.assemble_eq_ok_iff.2 ⟨by simp, rfl⟩⟩
  · rw [NameMap.mem_keys_ofList, hnames, mem_map_fst_lastWrites]
  · rw [NameMap.get?_ofList (hnames ▸ nodup_lastWrites (Call.writes calls)), List.mem_map]
    simp only [← mem_lastWrites]
    constructor
    · rintro ⟨⟨other, states⟩, hmem, heq⟩
      cases heq
      exact ⟨states, hmem, rfl⟩
    · rintro ⟨states, hmem, rfl⟩
      exact ⟨(name, states), hmem, rfl⟩

/-- **What a builder makes of a history of calls.** The paths that are written last decide whether
there is a definition, and the first of them to be written that has a state in no rule is told. -/
theorem build_after (calls : List (Call ω E)) :
    ((∃ definition, (after calls).build = .ok definition) ↔
      ∀ name path, IsLastWrite (Call.writes calls) name path →
        ∀ state ∈ path, Call.Declares calls state) ∧
    (∀ definition, (after calls).build = .ok definition → ComesOf calls definition) ∧
    ∀ error, (after calls).build = .error error ↔
      ∃ name path state, error = .invalidPath name state ∧
        IsFirst (fun write => ∃ state ∈ write.2, ¬Call.Declares calls state)
          (lastWrites (Call.writes calls)) (name, path) ∧
        IsFirst (fun state => ¬Call.Declares calls state) path state := by
  refine ⟨?_, fun definition => comesOf_of_build, fun error => build_after_eq_error_iff⟩
  simp only [build_after_eq_ok_iff, ← mem_lastWrites, Prod.forall]
  exact ⟨fun ⟨_, hall, _⟩ => hall, fun hall => ⟨_, hall, rfl⟩⟩

/-- The paths come before the rules, and the default path is corrected. -/
def redraftCalls : List (Call Unit Unit) :=
  [ .withDefaultPath ["Draft", "Nowhere"],
    .withPath "short" ["Draft", "Done"],
    .withTransition (.unrestricted "Submit") ⟨"Draft"⟩ ⟨"Review"⟩,
    .withDefaultPath ["Draft", "Review", "Done"],
    .withTarget (.unrestricted "Decide") ⟨"Review"⟩ (.fixed ⟨"Done"⟩) ]

theorem build_after_redraftCalls :
    ∃ definition, (after redraftCalls).build = .ok definition ∧
      definition.paths.get? "default" = some [⟨"Draft"⟩, ⟨"Review"⟩, ⟨"Done"⟩] ∧
      Definition.ofRules (Call.rules redraftCalls) none [] =
        .ok { definition with paths := .empty } := by
  obtain ⟨definition, h⟩ : ∃ definition, (after redraftCalls).build = .ok definition := ⟨_, rfl⟩
  have hcomes := (build_after redraftCalls).2.1 definition h
  refine ⟨definition, h, (hcomes.paths _ _).2 ⟨["Draft", "Review", "Done"], ?_, rfl⟩, hcomes.rules⟩
  exact ⟨[("default", ["Draft", "Nowhere"]), ("short", ["Draft", "Done"])], [], rfl, by decide⟩

/-- The path that was written again is looked at after the other. -/
example :
    (after (redraftCalls ++ [.withPath "long" ["Draft", "Gone", "Lost"],
      .withPath "short" ["Nowhere"]])).build = .error (.invalidPath "long" "Gone") := rfl

end Builder

end GridMachine
