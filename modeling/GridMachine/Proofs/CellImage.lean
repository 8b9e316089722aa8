import GridMachine.Proofs.CellGrammar
import GridMachine.Proofs.InOrder

/-!
The transitions that cells can express. A group of tokens is classified as a transition exactly if
it is the tokens of that transition and the manifest knows its names for what they are taken for, so
a list of transitions is read from some cell exactly if its tokens fit into a cell and its names are
known, and then it is read from the cell that is rendered for it.
-/

namespace GridMachine.Cell

/-- Whether the manifest takes the names of a transition for what they are. A target before an
action must not be the name of an evaluator, for it would be taken as one. -/
structure Named (manifest : Manifest) (transition : CellTransition) : Prop where
  evaluator : ∀ name ∈ transition.evaluator, manifest.hasEvaluator name = true
  action : ∀ name ∈ transition.action, manifest.hasAction name = true
  target : transition.evaluator = none → transition.action ≠ none →
    manifest.hasEvaluator transition.target = false

/-- Whether transitions can stand in one cell: their names are tokens and known to the manifest, and
where there are several transitions, each of them has an evaluator or an action. -/
structure Expressible (manifest : Manifest) (transitions : List CellTransition) : Prop where
  isToken : ∀ transition ∈ transitions, IsToken transition.target.toList ∧
    (∀ name ∈ transition.evaluator, IsToken name.toList) ∧
    ∀ name ∈ transition.action, IsToken name.toList
  named : ∀ transition ∈ transitions, Named manifest transition
  several : 2 ≤ transitions.length →
    ∀ transition ∈ transitions, transition.evaluator ≠ none ∨ transition.action ≠ none

variable {manifest : Manifest} {tokens : List String} {transition : CellTransition}
  {transitions : List CellTransition}

/-! ### Classified tokens -/

/-- Classifying inverts taking the tokens of a transition whose names are known. -/
theorem classify_eq_ok_iff :
    classify manifest tokens = .ok transition ↔
      tokens = tokensOf transition ∧ Named manifest transition := by
  constructor
  · intro h
    unfold classify at h
    split at h
    next target =>
      cases h
      exact ⟨rfl, by simp, by simp, by simp⟩
    next first second =>
      split at h
      next hfirst =>
        cases h
        exact ⟨rfl, by simpa using hfirst, by simp, by simp⟩
      next hfirst =>
        split at h
        next hsecond =>
          cases h
          exact ⟨rfl, by simp, by simpa using hsecond, by simpa using hfirst⟩
        next => contradiction
    next evaluator target action =>
      split at h
      next => contradiction
      next hevaluator =>
        split at h
        next => contradiction
        next haction =>
          cases h
          exact ⟨rfl, by simpa using hevaluator, by simpa using haction, by simp⟩
    next => contradiction
  · rintro ⟨rfl, hevaluator, haction, htarget⟩
    obtain ⟨evaluator, target, action⟩ := transition
    cases evaluator with
    | none =>
        cases action with
        | none => rfl
        | some action =>
            have hfirst : manifest.hasEvaluator target = false := htarget rfl nofun
            have hsecond : manifest.hasAction action = true := haction action rfl
            simp [tokensOf, classify, hfirst, hsecond]
    | some evaluator =>
        have hfirst : manifest.hasEvaluator evaluator = true := hevaluator evaluator rfl
        cases action with
        | none => simp [tokensOf, classify, hfirst]
        | some action =>
            have hthird : manifest.hasAction action = true := haction action rfl
            simp [tokensOf, classify, hfirst, hthird]

theorem mapM_classify_eq_ok_iff {groups : List (List String)} :
    groups.mapM (classify manifest) = .ok transitions ↔
      groups = transitions.map tokensOf ∧
        ∀ transition ∈ transitions, Named manifest transition := by
  rw [InOrder.mapM_eq_ok_iff]
  simp only [classify_eq_ok_iff]
  constructor
  · intro h
    induction h with
    | nil => simp
    | cons hhead _ ih =>
        obtain ⟨rfl, hnamed⟩ := hhead
        obtain ⟨rfl, hrest⟩ := ih
        exact ⟨rfl, List.forall_mem_cons.2 ⟨hnamed, hrest⟩⟩
  · rintro ⟨rfl, hnamed⟩
    rw [List.forall₂_map_left_iff]
    exact List.forall₂_same.2 fun transition hmem => ⟨rfl, hnamed transition hmem⟩

theorem parse_eq_ok_iff {cell : String} :
    parse manifest cell = .ok transitions ↔
      tokenize cell = .ok (transitions.map tokensOf) ∧
        ∀ transition ∈ transitions, Named manifest transition := by
  unfold parse
  rw [InOrder.bind_eq_ok_iff]
  simp only [mapM_classify_eq_ok_iff]
  constructor
  · rintro ⟨groups, htokenize, rfl, hnamed⟩
    exact ⟨htokenize, hnamed⟩
  · rintro ⟨htokenize, hnamed⟩
    exact ⟨transitions.map tokensOf, htokenize, rfl, hnamed⟩

/-! ### Transitions in cells -/

theorem mem_tokensOf {token : String} :
    token ∈ tokensOf transition ↔
      token = transition.target ∨ token ∈ transition.evaluator ∨ token ∈ transition.action := by
  simp only [tokensOf, List.mem_append, Option.mem_toList, List.mem_singleton, Option.mem_def]
  rw [or_assoc, or_left_comm]

theorem length_tokensOf (transition : CellTransition) :
    1 ≤ (tokensOf transition).length ∧ (tokensOf transition).length ≤ 3 ∧
      (2 ≤ (tokensOf transition).length ↔
        transition.evaluator ≠ none ∨ transition.action ≠ none) := by
  obtain ⟨evaluator, target, action⟩ := transition
  cases evaluator <;> cases action <;> simp [tokensOf]

/-- The tokens of transitions fit into a cell if the transitions can be expressed, whatever the
manifest says of their names. -/
theorem fits_map_tokensOf_iff :
    Fits (transitions.map tokensOf) ↔
      (∀ transition ∈ transitions, ∀ token ∈ tokensOf transition, IsToken token.toList) ∧
      (2 ≤ transitions.length → ∀ transition ∈ transitions,
        transition.evaluator ≠ none ∨ transition.action ≠ none) := by
  constructor
  · rintro ⟨htoken, -, hbracketed⟩
    rw [List.forall_mem_map] at htoken
    rw [List.length_map, List.forall_mem_map] at hbracketed
    exact ⟨htoken, fun hseveral transition hmem =>
      (length_tokensOf transition).2.2.1 (hbracketed hseveral transition hmem)⟩
  · rintro ⟨htoken, hseveral⟩
    refine ⟨List.forall_mem_map.2 htoken, List.forall_mem_map.2 fun transition _ => ?_, ?_⟩
    · obtain ⟨hge, hle, -⟩ := length_tokensOf transition
      exact ⟨hge, hle⟩
    · rw [List.length_map, List.forall_mem_map]
      exact fun hlength transition hmem =>
        (length_tokensOf transition).2.2.2 (hseveral hlength transition hmem)

theorem expressible_iff :
    Expressible manifest transitions ↔
      Fits (transitions.map tokensOf) ∧ ∀ transition ∈ transitions, Named manifest transition := by
  rw [fits_map_tokensOf_iff]
  constructor
  · rintro ⟨htoken, hnamed, hseveral⟩
    refine ⟨⟨fun transition hmem token htokens => ?_, hseveral⟩, hnamed⟩
    obtain ⟨htarget, hevaluator, haction⟩ := htoken transition hmem
    rcases mem_tokensOf.1 htokens with rfl | hname | hname
    · exact htarget
    · exact hevaluator token hname
    · exact haction token hname
  · rintro ⟨⟨htoken, hseveral⟩, hnamed⟩
    refine ⟨fun transition hmem => ?_, hnamed, hseveral⟩
    have htokens := htoken transition hmem
    exact ⟨htokens _ (mem_tokensOf.2 (.inl rfl)),
      fun name hname => htokens name (mem_tokensOf.2 (.inr (.inl hname))),
      fun name hname => htokens name (mem_tokensOf.2 (.inr (.inr hname)))⟩

/-- **What cells can express.** A list of transitions is read from some cell exactly if it can be
expressed, and then it is read from the cell that is rendered for it. -/
theorem parse_image (manifest : Manifest) (transitions : List CellTransition) :
    ((∃ cell, parse manifest cell = .ok transitions) ↔ Expressible manifest transitions) ∧
    (Expressible manifest transitions →
      parse manifest (render transitions) = .ok transitions) := by
  have hrender : Expressible manifest transitions →
      parse manifest (render transitions) = .ok transitions := by
    intro h
    obtain ⟨hfits, hnamed⟩ := expressible_iff.1 h
    exact parse_eq_ok_iff.2 ⟨tokenize_renderGroups hfits, hnamed⟩
  refine ⟨⟨?_, fun h => ⟨render transitions, hrender h⟩⟩, hrender⟩
  rintro ⟨cell, hparse⟩
  obtain ⟨htokenize, hnamed⟩ := parse_eq_ok_iff.1 hparse
  exact expressible_iff.2 ⟨Fits.of_writes (tokenize_eq_ok_iff.1 htokenize), hnamed⟩

/-- A manifest in which one name is that of an evaluator and of an action. -/
def readyManifest : Manifest where
  definition := "gates.csv"
  evaluators := .ofList [("ready", "IsReady")]
  actions := .ofList [("ready", "Prepare")]

theorem parse_image_ready :
    Expressible readyManifest [⟨some "ready", "ready", none⟩, ⟨none, "open", some "ready"⟩] ∧
    parse readyManifest (render [⟨some "ready", "ready", none⟩, ⟨none, "open", some "ready"⟩]) =
      .ok [⟨some "ready", "ready", none⟩, ⟨none, "open", some "ready"⟩] := by
  obtain ⟨hread, hrender⟩ := parse_image readyManifest
    [⟨some "ready", "ready", none⟩, ⟨none, "open", some "ready"⟩]
  have hcell : parse readyManifest "[ready / ready] [open/ready]" =
      .ok [⟨some "ready", "ready", none⟩, ⟨none, "open", some "ready"⟩] := by decide +kernel
  have hexpressible := hread.1 ⟨"[ready / ready] [open/ready]", hcell⟩
  exact ⟨hexpressible, hrender hexpressible⟩

end GridMachine.Cell
