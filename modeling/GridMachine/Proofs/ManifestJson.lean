import GridMachine.Manifest.Reader
import GridMachine.Proofs.JsonText
import GridMachine.Proofs.NameMap

/-!
Manifests written as JSON and read again. Nothing is lost: a field that was left out is open again,
a field that is there but empty is empty again, and maps keep every name with its text.
-/

namespace GridMachine

open Document

theorem Json.isBlank_of_isSpace {c : Char} (h : isSpace c = true) : Text.isBlank c = true := by
  simp only [isSpace, Bool.or_eq_true, decide_eq_true_eq] at h
  rcases h with ((rfl | rfl) | rfl) | rfl <;> rfl

namespace Manifest

/-- The record of a map from names to texts. -/
def namesNode (names : NameMap String) : Node Json.Leaf :=
  .record (Json.memberNodes (names.entries.map fun (name, text) => (name, .leaf (.text text))))

theorem readAs_namesToJson (names : NameMap String) :
    Json.ReadAs (namesToJson names) (namesNode names) := by
  refine Json.readAs_object ?_
  rw [List.forall₂_map_left_iff, List.forall₂_map_right_iff, List.forall₂_same]
  exact fun entry _ => ⟨rfl, Json.readAs_text _⟩

theorem readNames_namesNode (names : NameMap String) :
    readNames Json.reading (namesNode names) = .ok names := by
  have hinsert (entries : List (String × String)) (map : NameMap String) :
      (entries.map fun (name, text) => (name, Node.leaf (Json.Leaf.text text))).foldlM
          (fun map field => readNames.readEntry Json.reading map field.1 field.2) map =
        .ok (entries.foldl (fun map (name, text) => map.insert name text) map) := by
    induction entries generalizing map with
    | nil => rfl
    | cons entry entries ih => exact ih _
  change Json.reading.eachField _ NameMap.empty (Json.memberNodes _) = _
  rw [Json.eachField_memberNodes, hinsert]
  exact congrArg _ (NameMap.ofList_entries names)

/-- The names and values of the record that a manifest is written as. -/
def fieldNodes (manifest : Manifest) : List (String × Node Json.Leaf) :=
  [("definition", .leaf (.text manifest.definition))] ++
    (manifest.entityType.toList.map fun entityType => ("entityType", .leaf (.text entityType))) ++
    [("transitionEvaluators", namesNode manifest.evaluators),
      ("transitionActions", namesNode manifest.actions)] ++
    (manifest.defaultPath.toList.map fun path =>
      ("defaultPath", .list (path.map fun state => .leaf (.text state))))

theorem readAs_toJson (manifest : Manifest) :
    Json.ReadAs manifest.toJson (.record (Json.memberNodes manifest.fieldNodes)) := by
  refine Json.readAs_object ?_
  cases htype : manifest.entityType <;> cases hdefault : manifest.defaultPath <;>
    simp [fields, fieldNodes, htype, hdefault, Json.readAs_text, Json.readAs_texts,
      readAs_namesToJson]

/-- The draft in which every field of a manifest has been read. -/
def Draft.ofManifest (manifest : Manifest) : Draft where
  definition := some manifest.definition
  entityType := some <$> manifest.entityType
  evaluators := some manifest.evaluators
  actions := some manifest.actions
  defaultPath := some <$> manifest.defaultPath

theorem Draft.finish_ofManifest (manifest : Manifest) :
    (ofManifest manifest).finish = .ok manifest := by
  obtain ⟨definition, entityType, evaluators, actions, defaultPath⟩ := manifest
  cases entityType <;> cases defaultPath <;> rfl

/-- Each field is read once, and those that were left out stay open. -/
theorem Draft.foldlM_readField (manifest : Manifest) :
    manifest.fieldNodes.foldlM
        (fun draft field => readField Json.reading draft field.1 field.2) {} =
      .ok (ofManifest manifest) := by
  -- which fields are written depends on whether the two optional ones are there
  obtain ⟨definition, entityType, evaluators, actions, defaultPath⟩ := manifest
  have hbind {β γ : Type} (value : β) (next : β → Except Fault γ) :
      (Except.ok value >>= next) = next value := rfl
  cases entityType <;> cases defaultPath <;>
    simp [fieldNodes, readField, Reading.once, Json.text_leaf, Json.optional_text_leaf,
      Json.optional_texts_list, readNames_namesNode, hbind, pure, Except.pure, ofManifest]

theorem ofJsonNode_fieldNodes (manifest : Manifest) :
    ofJsonNode (.record (Json.memberNodes manifest.fieldNodes)) = .ok manifest := by
  change (Json.reading.eachField _ _ (Json.memberNodes manifest.fieldNodes) >>= Draft.finish) = _
  rw [Json.eachField_memberNodes, Draft.foldlM_readField]
  exact Draft.finish_ofManifest manifest

/-- **A manifest survives being written as JSON and read.** Spaces before the text do not keep it
from being taken for JSON, and the manifest that is read is the one that was written. -/
theorem parse_toJsonText (manifest : Manifest) {blanks : List Char}
    (hblanks : ∀ c ∈ blanks, Json.isSpace c = true) :
    (Text.trimStart (blanks ++ manifest.toJsonText)).head? = some '\x7b' ∧
      ofJsonText (blanks ++ manifest.toJsonText) = .ok manifest ∧
      parse (blanks ++ manifest.toJsonText) = .ok manifest := by
  have hbrace : (Text.trimStart (blanks ++ manifest.toJsonText)).head? = some '\x7b' := by
    have hblank : ∀ c ∈ blanks, Text.isBlank c = true := fun c hc =>
      Json.isBlank_of_isSpace (hblanks c hc)
    rw [Text.trimStart, List.dropWhile_append_of_pos hblank]
    rfl
  have hread : ofJsonText (blanks ++ manifest.toJsonText) = .ok manifest := by
    obtain ⟨hroot, hwhole⟩ := Json.outline_append_render (readAs_toJson manifest) hblanks
    rw [toJsonText, ofJsonText, Reading.whole, hroot, hwhole, ofJsonNode_fieldNodes]
    rfl
  exact ⟨hbrace, hread, by rw [parse, if_pos hbrace, hread]⟩

/-- A manifest with an empty entity type, an empty default path, and names and texts that are
written with escapes. -/
def oddManifest : Manifest where
  definition := "file:\"grid\"\\\x00\n.csv"
  entityType := some ""
  evaluators := .ofList [("", "tab\t"), ("\x1f/é", "\x7b\x7d")]
  actions := .ofList [("\\u0041", "null")]
  defaultPath := some []

theorem parse_toJsonText_oddManifest :
    (∀ c ∈ " \t\n\r".toList, Json.isSpace c = true) ∧
      (Text.trimStart (" \t\n\r".toList ++ oddManifest.toJsonText)).head? = some '\x7b' ∧
      ofJsonText (" \t\n\r".toList ++ oddManifest.toJsonText) = .ok oddManifest ∧
      parse (" \t\n\r".toList ++ oddManifest.toJsonText) = .ok oddManifest := by
  have hblanks : ∀ c ∈ " \t\n\r".toList, Json.isSpace c = true := by simp [Json.isSpace]
  exact ⟨hblanks, parse_toJsonText oddManifest hblanks⟩

end Manifest

end GridMachine
