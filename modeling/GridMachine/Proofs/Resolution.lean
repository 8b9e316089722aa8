import GridMachine.Cli.Session
import GridMachine.Proofs.Assembly

/-!
The transition that a definition finds, told on the rules it was made of. The first rule in their
order that leaves the state of the entity, that has the name of the event and of which the guard
passes is the one that is taken. The guards that are asked are those of the rules of this state and
event up to that rule, each once and in order, so that the world afterwards is the one they leave.
The transition leaves the state and leads to the target of its rule, and it runs the actions of the
rule, or an idle one where the rule has none.
-/

namespace GridMachine

variable {ω E : Type}

/-- The answers of evaluators that are asked one after the other, and the world they leave. -/
def Evaluator.askAll (context : Context E) : List (Evaluator ω E) → ω → List Bool × ω
  | [], world => ([], world)
  | evaluator :: evaluators, world =>
      let (answer, world) := evaluator.evaluate context world
      let (answers, world) := askAll context evaluators world
      (answer :: answers, world)

theorem Evaluator.askAll_cons (context : Context E) (evaluator : Evaluator ω E)
    (evaluators : List (Evaluator ω E)) (world : ω) :
    askAll context (evaluator :: evaluators) world =
      ((evaluator.evaluate context world).1 ::
          (askAll context evaluators (evaluator.evaluate context world).2).1,
        (askAll context evaluators (evaluator.evaluate context world).2).2) := rfl

/-- What the transition that a rule declares is made of. -/
structure Rule.Declares (rule : Rule ω E) (transition : Transition ω E) : Prop where
  source : transition.source = rule.source
  target : transition.target = rule.target
  own : rule.actions ≠ [] → transition.actions = rule.actions
  idle : rule.actions = [] → transition.actions =
    [.idle (rule.source.name ++ "->" ++ rule.event.name ++ "->" ++ rule.target.declared.name ++
      " action")]

theorem Rule.declares_candidate (rule : Rule ω E) : rule.Declares rule.candidate.transition := by
  refine ⟨rfl, rfl, fun hown => ?_, fun hnone => ?_⟩
  · change rule.effectiveActions = rule.actions
    unfold effectiveActions
    split
    next hnone => exact absurd hnone hown
    next => rfl
  · change rule.effectiveActions = _
    rw [effectiveActions, hnone]

section Search

variable [Stateful E]

/-- Whether the rule is for the state of the entity and the event of the context. -/
def Rule.concernsContext (context : Context E) (rule : Rule ω E) : Bool :=
  rule.concerns context.state context.event

/-- The guards of the rules for the state and the event of a context, in order. -/
def Rule.guards (context : Context E) (rules : List (Rule ω E)) : List (Evaluator ω E) :=
  (rules.filter (·.concernsContext context)).filterMap Rule.evaluator

/-- What a search through rules in their order may come to, with the world it leaves. -/
inductive Rule.Search (context : Context E) (rules : List (Rule ω E)) (world : ω) :
    Option (Transition ω E) × ω → Prop where
  /-- A rule for the state and the event whose guard, if it has one, is the first to pass. -/
  | found (before : List (Rule ω E)) (rule : Rule ω E) (after : List (Rule ω E)) (world' : ω)
      {transition : Transition ω E} (declares : rule.Declares transition)
      (split : rules = before ++ rule :: after)
      (concerns : rule.concernsContext context = true)
      (guarded : ∀ earlier ∈ before, earlier.concernsContext context = true →
        earlier.evaluator.isSome)
      (asked : Evaluator.askAll context (guards context (before ++ [rule])) world =
        (List.replicate (guards context before).length false ++
          rule.evaluator.toList.map fun _ => true, world')) :
      Search context rules world (some transition, world')
  /-- All rules for the state and the event have guards, and none of them passes. -/
  | notFound (world' : ω)
      (guarded : ∀ rule ∈ rules, rule.concernsContext context = true → rule.evaluator.isSome)
      (asked : Evaluator.askAll context (guards context rules) world =
        (List.replicate (guards context rules).length false, world')) :
      Search context rules world (none, world')

namespace Rule

variable {context : Context E} {rule : Rule ω E} {rules : List (Rule ω E)} {world : ω}
  {result : Option (Transition ω E) × ω}

theorem guards_cons_of_not_concerns (hrule : rule.concernsContext context = false) :
    guards context (rule :: rules) = guards context rules := by
  simp [guards, hrule]

theorem guards_cons_of_unguarded (hevaluator : rule.evaluator = none) :
    guards context (rule :: rules) = guards context rules := by
  by_cases hrule : rule.concernsContext context = true <;> simp [guards, hrule, hevaluator]

theorem guards_cons_of_guarded {evaluator : Evaluator ω E}
    (hrule : rule.concernsContext context = true) (hevaluator : rule.evaluator = some evaluator) :
    guards context (rule :: rules) = evaluator :: guards context rules := by
  simp [guards, hrule, hevaluator]

/-- A rule for another state or event is passed over, and its guard is not asked. -/
theorem Search.skip (hrule : rule.concernsContext context = false)
    (hsearch : Search context rules world result) :
    Search context (rule :: rules) world result := by
  have hguarded : rule.concernsContext context = true → rule.evaluator.isSome := by
    intro hconcerns
    rw [hrule] at hconcerns
    contradiction
  cases hsearch with
  | found before first after world' declares split concerns guarded asked =>
      refine .found (rule :: before) first after world' declares (by rw [split]; rfl) concerns
        (List.forall_mem_cons.2 ⟨hguarded, guarded⟩) ?_
      rw [List.cons_append, guards_cons_of_not_concerns hrule, guards_cons_of_not_concerns hrule]
      exact asked
  | notFound world' guarded asked =>
      refine .notFound world' (List.forall_mem_cons.2 ⟨hguarded, guarded⟩) ?_
      rw [guards_cons_of_not_concerns hrule]
      exact asked

/-- A rule whose guard does not pass is asked once, and the search goes on behind it. -/
theorem Search.refuse {evaluator : Evaluator ω E} {world₁ : ω}
    (hrule : rule.concernsContext context = true) (hevaluator : rule.evaluator = some evaluator)
    (hanswer : evaluator.evaluate context world = (false, world₁))
    (hsearch : Search context rules world₁ result) :
    Search context (rule :: rules) world result := by
  have hguarded : rule.concernsContext context = true → rule.evaluator.isSome := by
    intro _
    rw [hevaluator]
    rfl
  cases hsearch with
  | found before first after world' declares split concerns guarded asked =>
      refine .found (rule :: before) first after world' declares (by rw [split]; rfl) concerns
        (List.forall_mem_cons.2 ⟨hguarded, guarded⟩) ?_
      rw [List.cons_append, guards_cons_of_guarded hrule hevaluator,
        guards_cons_of_guarded hrule hevaluator, Evaluator.askAll_cons, hanswer, asked]
      rfl
  | notFound world' guarded asked =>
      refine .notFound world' (List.forall_mem_cons.2 ⟨hguarded, guarded⟩) ?_
      rw [guards_cons_of_guarded hrule hevaluator, Evaluator.askAll_cons, hanswer, asked]
      rfl

/-- A rule without a guard ends the search, and nothing is asked. -/
theorem Search.unguarded (hrule : rule.concernsContext context = true)
    (hevaluator : rule.evaluator = none) :
    Search context (rule :: rules) world (some rule.candidate.transition, world) := by
  refine .found [] rule rules world rule.declares_candidate rfl hrule (by simp) ?_
  rw [List.nil_append, guards_cons_of_unguarded hevaluator, hevaluator]
  rfl

/-- A rule whose guard passes ends the search, and its guard is the last to be asked. -/
theorem Search.pass {evaluator : Evaluator ω E} {world' : ω}
    (hrule : rule.concernsContext context = true) (hevaluator : rule.evaluator = some evaluator)
    (hanswer : evaluator.evaluate context world = (true, world')) :
    Search context (rule :: rules) world (some rule.candidate.transition, world') := by
  refine .found [] rule rules world' rule.declares_candidate rfl hrule (by simp) ?_
  rw [List.nil_append, guards_cons_of_guarded hrule hevaluator, Evaluator.askAll_cons, hanswer,
    hevaluator]
  rfl

/-- The first candidate that passes, among those of the rules for the state and the event. -/
theorem search_firstPassing (context : Context E) (rules : List (Rule ω E)) (world : ω) :
    Search context rules world
      (Candidate.firstPassing context
        ((rules.filter (·.concernsContext context)).map candidate) world) := by
  induction rules generalizing world with
  | nil => exact .notFound world (by simp) rfl
  | cons rule rules ih =>
      cases hrule : rule.concernsContext context with
      | false =>
          rw [List.filter_cons_of_neg (by simp [hrule])]
          exact (ih world).skip hrule
      | true =>
          rw [List.filter_cons_of_pos (by simp [hrule]), List.map_cons, Candidate.firstPassing]
          cases hevaluator : rule.evaluator with
          | none =>
              simp only [Candidate.passes, candidate, hevaluator]
              exact .unguarded hrule hevaluator
          | some evaluator =>
              simp only [Candidate.passes, candidate, hevaluator]
              cases hanswer : evaluator.evaluate context world with
              | mk answer world₁ =>
                  cases answer with
                  | true => exact .pass hrule hevaluator hanswer
                  | false => exact (ih world₁).refuse hrule hevaluator hanswer

end Rule

/-- **A definition finds what its rules say.** The search of a definition is one through its rules
in their order, and the candidates for a state and an event are the rules for them in that order,
each with the guard of its rule and the transition that the rule declares, which has an action to
run. -/
theorem Definition.resolve_refines_rules {rules : List (Rule ω E)}
    {defaultPath : Option (List String)} {listeners : List (Listener ω E)}
    {definition : Definition ω E} (h : ofRules rules defaultPath listeners = .ok definition) :
    (∀ (context : Context E) (world : ω),
      Rule.Search context rules world (definition.resolve context world)) ∧
    ∀ (state : State) (event : Event),
      List.Forall₂ (fun rule candidate =>
          candidate.evaluator = rule.evaluator ∧ rule.Declares candidate.transition)
        (rules.filter (·.concerns state event)) (definition.candidates state event) ∧
        ∀ candidate ∈ definition.candidates state event, candidate.transition.actions ≠ [] := by
  obtain ⟨-, rfl⟩ := ofRules_eq_ok_iff.1 h
  have hcandidates : ∀ (state : State) (event : Event),
      (unchecked rules defaultPath listeners).candidates state event =
        (rules.filter (·.concerns state event)).map Rule.candidate :=
    Matrix.candidates_ofRules rules
  refine ⟨fun context world => ?_, fun state event => ⟨?_, ?_⟩⟩
  · rw [resolve, hcandidates]
    exact Rule.search_firstPassing context rules world
  · rw [hcandidates, List.forall₂_map_right_iff, List.forall₂_same]
    exact fun rule _ => ⟨rfl, rule.declares_candidate⟩
  · intro candidate hcandidate
    rw [hcandidates] at hcandidate
    obtain ⟨rule, -, rfl⟩ := List.mem_map.1 hcandidate
    exact rule.effectiveActions_ne_nil

end Search

/-- An evaluator that gives one answer and writes down that it was asked. -/
def Evaluator.recording (name : String) (answer : Bool) : Evaluator (List String) Cli.DryRun where
  description := name
  evaluate _ asked := (answer, asked ++ [name])

/-- Rules of two states in turn; one of them restricts the event of the others to a role. -/
def reviewRules : List (Rule (List String) Cli.DryRun) :=
  let decide := Event.unrestricted "Decide"
  let review : State := ⟨"Review"⟩
  [ { event := decide, source := review, target := .fixed ⟨"Refer"⟩
      evaluator := some (.recording "is doubtful" false) },
    { event := .unrestricted "Submit", source := ⟨"Draft"⟩, target := .fixed review },
    { event := .restricted "Decide" ["lead"], source := review, target := .fixed ⟨"Approved"⟩
      evaluator := some (.recording "is complete" true), actions := [.idle "seal", .idle "file"] },
    { event := decide, source := ⟨"Draft"⟩, target := .fixed ⟨"Refer"⟩
      evaluator := some (.recording "is foreign" true) },
    { event := decide, source := review, target := .fixed ⟨"Rejected"⟩
      evaluator := some (.recording "is late" true) } ]

/-- In review two guards are asked: the first refuses, and the second passes and ends the search at
a rule that brings its own actions. In a draft the first rule for the event has a guard that passes,
and no actions. -/
theorem resolve_reviewRules :
    ∃ definition, Definition.ofRules reviewRules (some ["Draft", "Review", "Approved"]) [] =
        .ok definition ∧
      Rule.Search ⟨.unrestricted "Decide", ⟨⟨"Review"⟩⟩, none⟩ reviewRules []
        (definition.resolve ⟨.unrestricted "Decide", ⟨⟨"Review"⟩⟩, none⟩ []) ∧
      definition.resolve ⟨.unrestricted "Decide", ⟨⟨"Review"⟩⟩, none⟩ [] =
        (some ⟨⟨"Review"⟩, .fixed ⟨"Approved"⟩, [.idle "seal", .idle "file"]⟩,
          ["is doubtful", "is complete"]) ∧
      definition.resolve ⟨.unrestricted "Decide", ⟨⟨"Draft"⟩⟩, none⟩ [] =
        (some ⟨⟨"Draft"⟩, .fixed ⟨"Refer"⟩, [.idle "Draft->Decide->Refer action"]⟩,
          ["is foreign"]) := by
  have h : Definition.ofRules reviewRules (some ["Draft", "Review", "Approved"]) [] =
      .ok (.unchecked reviewRules (some ["Draft", "Review", "Approved"]) []) := rfl
  exact ⟨_, h, (Definition.resolve_refines_rules h).1 _ _, rfl, rfl⟩

end GridMachine
