import GridMachine.Proofs.DryRuns

/-!
The evaluators that pass when an event is tried out. A value that is given for passing selects a
type: that of the evaluator which the manifest has under this name, and where it has none, the value
itself. Stand-ins are known by their types only, so all names of a type pass together, and an event
takes the first transition of its cell that has no guard or one of a selected type.
-/

namespace GridMachine.Cli

open InOrder

variable {files : Files} {path : String} {config : Config} {manifest : Manifest}
  {passes : List String} {session : Session} {firing : Firing}

/-- Whether a type is among those that the values stand for. -/
def Selects (manifest : Manifest) (passes : List String) (type : String) : Prop :=
  ∃ value ∈ passes, manifest.evaluators.get? value = some type ∨
    manifest.evaluators.get? value = none ∧ value = type

theorem mem_passingTypes_iff {type : String} :
    type ∈ passingTypes manifest passes ↔ Selects manifest passes type := by
  unfold passingTypes
  rw [List.mem_map]
  refine exists_congr fun value => and_congr_right fun _ => ?_
  cases manifest.evaluators.get? value <;> simp

/-- Whether the guard of a transition passes; without one, it always does. -/
def IsOpen (manifest : Manifest) (passes : List String) (transition : CellTransition) : Prop :=
  ∀ name ∈ transition.evaluator, ∃ type, manifest.evaluators.get? name = some type ∧
    Selects manifest passes type

/-- Whether a candidate is guarded as a transition is, and passes if the type of the guard is
selected. -/
structure IsGuardedAs (manifest : Manifest) (passes : List String) (transition : CellTransition)
    (candidate : Candidate Unit DryRun) : Prop where
  unguarded : transition.evaluator = none → candidate.evaluator = none
  guarded : ∀ name, transition.evaluator = some name →
    ∃ type evaluator, manifest.evaluators.get? name = some type ∧
      candidate.evaluator = some evaluator ∧
      ∀ context world, (evaluator.evaluate context world).1 = true ↔ Selects manifest passes type

section Candidates

variable {state event : String} {transition : CellTransition} {candidate : Candidate Unit DryRun}
  {transitions : List CellTransition} {candidates : List (Candidate Unit DryRun)}

theorem Tries.isGuardedAs (h : Tries manifest passes state event transition candidate) :
    IsGuardedAs manifest passes transition candidate := by
  have hevaluator := h.evaluator
  constructor
  · intro hnone
    rw [hnone] at hevaluator
    cases hcandidate : candidate.evaluator with
    | none => rfl
    | some evaluator =>
        rw [hcandidate] at hevaluator
        cases hevaluator
  · intro name hname
    rw [hname] at hevaluator
    cases hcandidate : candidate.evaluator with
    | none =>
        rw [hcandidate] at hevaluator
        cases hevaluator
    | some evaluator =>
        rw [hcandidate] at hevaluator
        cases hevaluator with
        | some h =>
            obtain ⟨type, htype, rfl⟩ := h
            refine ⟨type, _, htype, rfl, fun context world => ?_⟩
            rw [← mem_passingTypes_iff]
            simp [standInEvaluator]

theorem IsGuardedAs.passes_iff (h : IsGuardedAs manifest passes transition candidate)
    (context : Context DryRun) (world : Unit) :
    (candidate.passes context world).1 = true ↔ IsOpen manifest passes transition := by
  unfold Candidate.passes IsOpen
  cases hname : transition.evaluator with
  | none => simp [h.unguarded hname]
  | some name =>
      obtain ⟨type, evaluator, htype, hevaluator, hpasses⟩ := h.guarded name hname
      simp [hevaluator, htype, hpasses]

theorem firstPassing_cons (context : Context DryRun) (world : Unit) :
    Candidate.firstPassing context (candidate :: candidates) world =
      if (candidate.passes context world).1 then
        (some candidate.transition, (candidate.passes context world).2)
      else Candidate.firstPassing context candidates (candidate.passes context world).2 := by
  rw [Candidate.firstPassing]
  rcases candidate.passes context world with ⟨_ | _, _⟩ <;> rfl

/-- The first open transition of a cell has the first candidate that passes. -/
theorem firstPassing_of_isFirst
    (h : List.Forall₂ (Tries manifest passes state event) transitions candidates)
    (hfirst : IsFirst (IsOpen manifest passes) transitions transition) (context : Context DryRun)
    (world : Unit) :
    ∃ candidate, Tries manifest passes state event transition candidate ∧
      (Candidate.firstPassing context candidates world).1 = some candidate.transition := by
  induction h with
  | nil =>
      obtain ⟨before, after, hnil, -⟩ := hfirst
      simp at hnil
  | @cons head candidate transitions candidates hhead _ ih =>
      rw [firstPassing_cons]
      rcases isFirst_cons_iff.1 hfirst with ⟨hopen, rfl⟩ | ⟨hshut, hrest⟩
      · rw [← hhead.isGuardedAs.passes_iff context world] at hopen
        rw [if_pos hopen]
        exact ⟨candidate, hhead, rfl⟩
      · rw [← hhead.isGuardedAs.passes_iff context world] at hshut
        rw [if_neg hshut]
        exact ih hrest

theorem firstPassing_of_forall_not
    (h : List.Forall₂ (Tries manifest passes state event) transitions candidates)
    (hshut : ∀ transition ∈ transitions, ¬IsOpen manifest passes transition)
    (context : Context DryRun) (world : Unit) :
    (Candidate.firstPassing context candidates world).1 = none := by
  induction h with
  | nil => rfl
  | @cons head candidate transitions candidates hhead _ ih =>
      obtain ⟨hfirst, hrest⟩ := List.forall_mem_cons.1 hshut
      rw [← hhead.isGuardedAs.passes_iff context world] at hfirst
      rw [firstPassing_cons, if_neg hfirst]
      exact ih hrest

end Candidates

/-- Whether a firing comes to an event: the caller may trigger it, and its parameters can be
read. -/
def Session.Admits (session : Session) (files : Files) (firing : Firing) : Prop :=
  session.Authorises firing ∧ ∃ params, firing.params.mapM (readParam files) = .ok params

/-- What a firing comes to if the transitions are those of its cell: the first open one is taken. -/
structure Session.TakesFirstOpen (session : Session) (files : Files) (firing : Firing)
    (transitions : List CellTransition) : Prop where
  taken : ∀ transition, IsFirst (IsOpen session.manifest firing.passes) transitions transition →
    session.answer files (.fire firing) =
      .ok (.fired ⟨firing.state⟩ ⟨transition.target⟩ firing.event
        [transition.actionName session.manifest firing.state firing.event])
  shut : (∀ transition ∈ transitions, ¬IsOpen session.manifest firing.passes transition) →
    session.answer files (.fire firing) = .ok (.noTransition ⟨firing.state⟩ firing.event)

theorem Session.MadeFrom.takesFirstOpen {grid : Grid} {events : List Event}
    {rules : List (Rule Unit DryRun)} {transitions : List CellTransition}
    (h : session.MadeFrom files config firing.passes grid events rules)
    (hadmits : session.Admits files firing)
    (hcell : List.Forall₂ (Tries session.manifest firing.passes firing.state firing.event)
      transitions (session.definition.candidates ⟨firing.state⟩ (session.event firing.event))) :
    session.TakesFirstOpen files firing transitions := by
  obtain ⟨hauthorised, params, hparams⟩ := hadmits
  constructor
  · intro transition hfirst
    obtain ⟨candidate, htries, hpassing⟩ :=
      firstPassing_of_isFirst hcell hfirst (session.contextOf firing params) ()
    have hresolve : (session.definition.resolve (session.contextOf firing params) ()).1 =
        some candidate.transition := hpassing
    rw [Session.answer, h.fire_eq hauthorised hparams, hresolve]
    simp only [htries.target, htries.actions]
    rfl
  · intro hshut
    have hresolve : (session.definition.resolve (session.contextOf firing params) ()).1 = none :=
      firstPassing_of_forall_not hcell hshut (session.contextOf firing params) ()
    rw [Session.answer, h.fire_eq hauthorised hparams, hresolve]

/-- **An event takes the first transition of its cell whose evaluator is selected, if it has one.**
The guards of candidates are those of the transitions in their cell, and of these just the ones pass
whose types are selected by the values that are given for passing. -/
theorem Session.fire_takes_first_open
    (h : Session.load files path config firing.passes = .ok session) :
    ∃ grid events, session.Reads files config grid events ∧
      (∀ row ∈ grid.rows, ∀ (column : Nat) (event : Event), events[column]? = some event →
        ∃ transitions, Cell.parse session.manifest (row.cell column) = .ok transitions ∧
          List.Forall₂ (IsGuardedAs session.manifest firing.passes) transitions
            (session.definition.candidates ⟨row.state⟩ event) ∧
          (row.state = firing.state → event.name = firing.event → session.Admits files firing →
            session.TakesFirstOpen files firing transitions)) ∧
      (firing.state ∉ grid.states ∨ firing.event ∉ events.map Event.name →
        session.Admits files firing →
          session.answer files (.fire firing) =
            .ok (.noTransition ⟨firing.state⟩ firing.event)) := by
  obtain ⟨grid, events, rules, hmade⟩ := exists_madeFrom h
  refine ⟨grid, events, hmade.reads, ?_, ?_⟩
  · intro row hrow column event hcolumn
    obtain ⟨transitions, hparse, htries⟩ := hmade.forall₂_tries hrow hcolumn rfl
    refine ⟨transitions, hparse, htries.imp fun _ _ => Tries.isGuardedAs, ?_⟩
    intro hstate hevent hadmits
    -- the event is found by its name, perhaps under other roles than those of the column
    have hname : (session.event firing.event).name = event.name := by
      rw [session.name_event, hevent]
    obtain ⟨others, hothers, hcell⟩ := hmade.forall₂_tries hrow hcolumn hname
    cases hparse.symm.trans hothers
    rw [hstate, hevent] at hcell
    exact hmade.takesFirstOpen hadmits hcell
  · intro hplace hadmits
    have hnone :
        session.definition.candidates ⟨firing.state⟩ (session.event firing.event) = [] := by
      apply hmade.candidates_elsewhere
      rw [session.name_event]
      exact hplace
    have hcell : List.Forall₂
        (Tries session.manifest firing.passes firing.state firing.event) []
        (session.definition.candidates ⟨firing.state⟩ (session.event firing.event)) := by
      rw [hnone]
      exact .nil
    exact (hmade.takesFirstOpen hadmits hcell).shut (by simp)

/-! ### A gate that is tried out -/

def gateFiring : Firing where
  state := "Shut"
  event := "Open"
  passes := ["isSound"]
  roles := ["guard"]

theorem gate_reads (passes : List String) :
    (gateSession passes).Reads gateFiles {} gateGrid gateEvents := by
  have hplace : ({} : Config).resolve? gateFiles gateManifest.definition = some "./gate.csv" := rfl
  exact ⟨"./gate.csv", gateText, 44, hplace, rfl, rfl, rfl, rfl⟩

theorem gate_admits : (gateSession ["isSound"]).Admits gateFiles gateFiring :=
  ⟨.inr rfl, [], rfl⟩

/-- The one name of a type is given for passing, and the other one guards the transition that is
taken. -/
theorem gate_takes_first_open :
    Session.load gateFiles "gate.yaml" {} gateFiring.passes = .ok (gateSession ["isSound"]) ∧
      (gateSession ["isSound"]).answer gateFiles (.fire gateFiring) =
        .ok (.fired ⟨"Shut"⟩ ⟨"Ajar"⟩ "Open" ["journal"]) := by
  refine ⟨load_gate _, ?_⟩
  obtain ⟨grid, events, hreads, hcells, -⟩ :=
    Session.fire_takes_first_open (load_gate gateFiring.passes)
  obtain ⟨rfl, rfl⟩ := hreads.unique (gate_reads _)
  obtain ⟨transitions, hparse, -, htakes⟩ := hcells _ List.mem_cons_self 0 _ rfl
  have hcell : Cell.parse gateManifest "[isChecked/Ajar/note][Wide/note]" =
      .ok [⟨some "isChecked", "Ajar", some "note"⟩, ⟨none, "Wide", some "note"⟩] := rfl
  cases hcell.symm.trans hparse
  have hopen : IsOpen gateManifest ["isSound"] ⟨some "isChecked", "Ajar", some "note"⟩ := by
    rintro name ⟨⟩
    exact ⟨"sound", rfl, "isSound", List.mem_cons_self, .inl rfl⟩
  exact (htakes rfl rfl gate_admits).taken _ ⟨[], _, rfl, by simp, hopen⟩

/-- A name that is given for passing lets the other names of its type pass as well, and is not taken
for a type. With `isSound` alone, the guard `isChecked` of the same type `sound` passes. With
`sound`, which the manifest has as the name of an evaluator of another type, it fails, though
`sound` is its type. -/
theorem isChecked_passes_by_type_of_name :
    Cell.parse gateManifest "[isChecked/Ajar/note][Wide/note]" =
        .ok [⟨some "isChecked", "Ajar", some "note"⟩, ⟨none, "Wide", some "note"⟩] ∧
      gateManifest.evaluators.get? "isChecked" = some "sound" ∧
      ("isChecked" ∉ ["isSound"] ∧ "sound" ∉ ["isSound"] ∧
        Session.load gateFiles "gate.yaml" {} ["isSound"] = .ok (gateSession ["isSound"]) ∧
        (gateSession ["isSound"]).answer gateFiles
            (.fire { state := "Shut", event := "Open", passes := ["isSound"] }) =
          .ok (.fired ⟨"Shut"⟩ ⟨"Ajar"⟩ "Open" ["journal"])) ∧
      "sound" ∈ ["sound"] ∧
      Session.load gateFiles "gate.yaml" {} ["sound"] = .ok (gateSession ["sound"]) ∧
      (gateSession ["sound"]).answer gateFiles
          (.fire { state := "Shut", event := "Open", passes := ["sound"] }) =
        .ok (.fired ⟨"Shut"⟩ ⟨"Wide"⟩ "Open" ["journal"]) := by
  refine ⟨rfl, rfl, ⟨by decide, by decide, load_gate _, ?_⟩, by decide, load_gate _, ?_⟩
  · rfl
  · rfl

end GridMachine.Cli
