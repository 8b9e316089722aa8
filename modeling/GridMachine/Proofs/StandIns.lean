import GridMachine.Cli.Session
import GridMachine.Proofs.Parallel

/-!
Machines with stand-ins for their components. There is a stand-in for every type of a manifest, and
making it cannot fail, so a session is loaded exactly when the machine is with components of its
own, and what the session says of the machine holds of all others.
-/

namespace GridMachine

variable {π ω E : Type}

/-! ### Stand-ins -/

namespace Registry

variable (types : List String) (registry : Registry π ω E)

theorem evaluators_foldl_withEvaluator (factory : String → Factory π ω (Evaluator ω E)) :
    (types.foldl (fun registry type => registry.withEvaluator type (factory type))
      registry).evaluators =
        types.foldl (fun map type => map.insert type (factory type)) registry.evaluators := by
  induction types generalizing registry with
  | nil => rfl
  | cons type types ih => exact ih (registry.withEvaluator type (factory type))

theorem evaluators_foldl_withAction (factory : String → Factory π ω (Action ω E)) :
    (types.foldl (fun registry type => registry.withAction type (factory type))
      registry).evaluators = registry.evaluators := by
  induction types generalizing registry with
  | nil => rfl
  | cons type types ih => exact ih (registry.withAction type (factory type))

theorem actions_foldl_withAction (factory : String → Factory π ω (Action ω E)) :
    (types.foldl (fun registry type => registry.withAction type (factory type))
      registry).actions =
        types.foldl (fun map type => map.insert type (factory type)) registry.actions := by
  induction types generalizing registry with
  | nil => rfl
  | cons type types ih => exact ih (registry.withAction type (factory type))

end Registry

namespace Cli

/-- The factory of the evaluator that stands in for a type. -/
def standInFactory (type : String) : Factory (List String) Unit (Evaluator Unit DryRun) :=
  fun passing world => (.ok (standInEvaluator type passing), world)

theorem standIns_eq (manifest : Manifest) :
    standIns manifest = manifest.actions.values.foldl
      (fun registry type => registry.withAction type (.simple (.idle type)))
      (manifest.evaluators.values.foldl
        (fun registry type => registry.withEvaluator type (standInFactory type)) {}) := rfl

variable {manifest : Manifest} {type : String}

theorem get?_evaluators_standIns (h : type ∈ manifest.evaluators.values) :
    (standIns manifest).evaluators.get? type = some (standInFactory type) := by
  rw [standIns_eq, Registry.evaluators_foldl_withAction, Registry.evaluators_foldl_withEvaluator,
    NameMap.get?_foldl_insert, if_pos h]

theorem get?_actions_standIns (h : type ∈ manifest.actions.values) :
    (standIns manifest).actions.get? type = some (.simple (.idle type)) := by
  rw [standIns_eq, Registry.actions_foldl_withAction, NameMap.get?_foldl_insert, if_pos h]

namespace Session

/-- The loader that makes the machine of a session. -/
def loader (manifest : Manifest) (config : Config) (passes : List String) :
    Loader (List String) Unit DryRun where
  registry := standIns manifest
  param := passingTypes manifest passes
  config

/-- A stand-in is there for every type, and making it cannot fail. -/
theorem equips_loader (manifest : Manifest) (config : Config) (passes : List String) :
    (loader manifest config passes).Equips manifest where
  evaluators _ h := ⟨_, get?_evaluators_standIns h, fun world => ⟨_, world, rfl⟩⟩
  actions _ h := ⟨_, get?_actions_standIns h, fun world => ⟨_, world, rfl⟩⟩

variable {files : Files} {path : String} {text : List UInt8} {config : Config}
  {passes : List String}

theorem ofFile_eq_ok_iff :
    Manifest.ofFile files path = .ok manifest ↔
      ∃ text, files path = some text ∧ Manifest.ofBytes text = .ok manifest := by
  unfold Manifest.ofFile Manifest.ofBytes Files.text?
  cases files path with
  | none => simp
  | some text =>
      simp only [Option.bind_some, Option.some.injEq, exists_eq_left']
      cases String.fromUTF8? ⟨text.toArray⟩ with
      | none => simp
      | some cs =>
          simp only
          cases Manifest.parse cs.toList <;> simp [Except.mapError]

theorem not_isOfComponents_of_ofFile {error : LoadError}
    (h : Manifest.ofFile files path = .error error) : ¬error.IsOfComponents := by
  unfold Manifest.ofFile at h
  cases htext : files.text? path with
  | none =>
      rw [htext] at h
      cases h
      exact id
  | some text =>
      rw [htext] at h
      simp only at h
      cases hparse : Manifest.parse text.toList with
      | error fault =>
          rw [hparse] at h
          cases h
          exact id
      | ok manifest =>
          rw [hparse] at h
          contradiction

/-- Without a manifest there is no session, and the problem is that of the manifest. -/
theorem load_eq_error {error : LoadError} (h : Manifest.ofFile files path = .error error) :
    Session.load files path config passes = .error error := by
  unfold Session.load
  cases htext : files path with
  | none =>
      unfold Manifest.ofFile Files.text? at h
      rw [htext] at h
      cases h
      rfl
  | some text =>
      simp only
      rw [h]
      rfl

/-- With a manifest a session comes to what its loader does. -/
theorem load_eq (htext : files path = some text)
    (hmanifest : Manifest.ofBytes text = .ok manifest) :
    Session.load files path config passes =
      (((loader manifest config passes).load files text [] []).outcome ()).1.map
        (Session.mk manifest) := by
  have hfile : Manifest.ofFile files path = .ok manifest :=
    ofFile_eq_ok_iff.2 ⟨text, htext, hmanifest⟩
  unfold Session.load
  rw [htext, hfile]
  rfl

theorem load_eq_ok_iff {session : Session} :
    Session.load files path config passes = .ok session ↔
      ∃ text, files path = some text ∧ Manifest.ofBytes text = .ok session.manifest ∧
        (((loader session.manifest config passes).load files text [] []).outcome ()).1 =
          .ok session.definition := by
  constructor
  · intro h
    cases hmanifest : Manifest.ofFile files path with
    | error error =>
        rw [load_eq_error hmanifest] at h
        contradiction
    | ok manifest =>
        obtain ⟨text, htext, hbytes⟩ := ofFile_eq_ok_iff.1 hmanifest
        rw [load_eq htext hbytes] at h
        cases hload : (((loader manifest config passes).load files text [] []).outcome ()).1 with
        | error error =>
            rw [hload] at h
            contradiction
        | ok definition =>
            rw [hload] at h
            cases h
            exact ⟨text, htext, hbytes, hload⟩
  · rintro ⟨text, htext, hmanifest, hload⟩
    rw [load_eq htext hmanifest, hload]
    rfl

/-- A session and the machine that any loader makes of its manifest are loaded side by side. -/
theorem sameResult_load (loader : Loader π ω E) (htext : files path = some text)
    (hmanifest : Manifest.ofBytes text = .ok manifest) (hequips : loader.Equips manifest)
    (passes : List String) (world : ω) :
    SameResult (fun session definition => session.definition.Resembles definition)
      (Session.load files path loader.config passes)
      ((loader.load files text [] []).outcome world).1 := by
  have hparallel : Load.Parallel Definition.Resembles
      ((Session.loader manifest loader.config passes).load files text [] [])
      (loader.load files text [] []) := by
    have hconfig : (Session.loader manifest loader.config passes).config = loader.config := rfl
    refine Loader.parallel_load hconfig (fun other hother => ?_) files
    cases hmanifest.symm.trans hother
    exact ⟨equips_loader manifest loader.config passes, hequips⟩
  rw [load_eq htext hmanifest]
  exact (hparallel () world).map_left fun definition other hresembles => hresembles

theorem not_isOfComponents_of_load {error : LoadError}
    (h : Session.load files path config passes = .error error) : ¬error.IsOfComponents := by
  cases hmanifest : Manifest.ofFile files path with
  | error other =>
      rw [load_eq_error hmanifest] at h
      cases h
      exact not_isOfComponents_of_ofFile hmanifest
  | ok manifest =>
      obtain ⟨text, htext, hbytes⟩ := ofFile_eq_ok_iff.1 hmanifest
      have hsame := sameResult_load (loader manifest config passes) htext hbytes
        (equips_loader manifest config passes) passes ()
      exact hsame.not_isOfComponents h

end Session

end Cli

theorem Loader.exists_manifest {loader : Loader π ω E} {files : Files} {text : List UInt8}
    {world : ω} {definition : Definition ω E}
    (h : ((loader.load files text [] []).outcome world).1 = .ok definition) :
    ∃ manifest, Manifest.ofBytes text = .ok manifest := by
  obtain ⟨manifest, -, -, -, hmanifest, -⟩ := outcome_load_eq_ok_iff.1 (Prod.ext h rfl)
  exact ⟨manifest, hmanifest⟩

/-- **A session loads exactly when the machine itself does.** Whatever components a loader has for
the types of a manifest, as long as their factories do not fail, it loads the manifest under the
configuration of a session exactly when the session loads; both meet the same problem in a valid
manifest under a valid configuration, and the machines that they make resemble each other. No
problem that a session meets is one of components. -/
theorem Cli.Session.load_stands_for_loader (loader : Loader π ω E) (world : ω) (files : Files)
    (path : String) (passes : List String) :
    (∀ error, Session.load files path loader.config passes = .error error →
      (∀ kind name type, error ≠ .unregistered kind name type) ∧
        ∀ kind type cause, error ≠ .construction kind type cause) ∧
    ∀ text, files path = some text →
      (∀ manifest, Manifest.ofBytes text = .ok manifest → loader.Equips manifest) →
        ((∃ session, Session.load files path loader.config passes = .ok session) ↔
          ∃ definition, ((loader.load files text [] []).outcome world).1 = .ok definition) ∧
        (loader.config.validate = .ok () → (∃ manifest, Manifest.ofBytes text = .ok manifest) →
          ∀ error, Session.load files path loader.config passes = .error error ↔
            ((loader.load files text [] []).outcome world).1 = .error error) ∧
        ∀ session definition, Session.load files path loader.config passes = .ok session →
          ((loader.load files text [] []).outcome world).1 = .ok definition →
            session.definition.Resembles definition := by
  constructor
  · intro error herror
    have hnot := Session.not_isOfComponents_of_load herror
    constructor
    · rintro kind name type rfl
      exact hnot trivial
    · rintro kind type cause rfl
      exact hnot trivial
  · intro text htext hequips
    have hsame : ∀ manifest, Manifest.ofBytes text = .ok manifest →
        SameResult (fun session definition => session.definition.Resembles definition)
          (Session.load files path loader.config passes)
          ((loader.load files text [] []).outcome world).1 := fun manifest hmanifest =>
      Session.sameResult_load loader htext hmanifest (hequips manifest hmanifest) passes world
    refine ⟨⟨?_, ?_⟩, ?_, ?_⟩
    · rintro ⟨session, hsession⟩
      obtain ⟨_, htext', hmanifest, -⟩ := Session.load_eq_ok_iff.1 hsession
      cases htext.symm.trans htext'
      exact (hsame _ hmanifest).exists_ok_iff.1 ⟨session, hsession⟩
    · rintro ⟨definition, hdefinition⟩
      obtain ⟨manifest, hmanifest⟩ := Loader.exists_manifest hdefinition
      exact (hsame _ hmanifest).exists_ok_iff.2 ⟨definition, hdefinition⟩
    · rintro - ⟨manifest, hmanifest⟩ error
      exact (hsame _ hmanifest).eq_error_iff
    · intro session definition hsession hdefinition
      obtain ⟨manifest, hmanifest⟩ := Loader.exists_manifest hdefinition
      exact (hsame _ hmanifest).rel hsession hdefinition

namespace Cli

/-! ### A gate -/

/-- Two names stand for one type of evaluators, which is itself the name of another type. -/
def gateManifest : Manifest where
  definition := "gate.csv"
  evaluators := .ofList [("isChecked", "sound"), ("isSound", "sound"), ("sound", "strict")]
  actions := .ofList [("note", "journal")]

def gateManifestText : List UInt8 :=
  ("definition: gate.csv\ntransitionEvaluators:\n  isChecked: sound\n  isSound: sound\n" ++
    "  sound: strict\ntransitionActions:\n  note: journal\n").toUTF8.data.toList

def gateText : List UInt8 :=
  ("State,Open[guard],Close\nShut,[isChecked/Ajar/note][Wide/note]\n" ++
    "Ajar,,Shut\nWide,,Shut\n").toUTF8.data.toList

def gateFiles : Files :=
  FileTree.read ⟨[], [(["gate.yaml"], gateManifestText), (["gate.csv"], gateText)]⟩

def gateGrid : Grid where
  events := ["Open[guard]", "Close"]
  rows :=
    [⟨2, "Shut", ["[isChecked/Ajar/note][Wide/note]"]⟩, ⟨3, "Ajar", ["", "Shut"]⟩,
      ⟨4, "Wide", ["", "Shut"]⟩]

def gateEvents : List Event := [.restricted "Open" ["guard"], .unrestricted "Close"]

def gateRules (passes : List String) : List (Rule Unit DryRun) :=
  [ { event := .restricted "Open" ["guard"], source := ⟨"Shut"⟩, target := .fixed ⟨"Ajar"⟩
      evaluator := some (standInEvaluator "sound" (passingTypes gateManifest passes))
      actions := [.idle "journal"] },
    { event := .restricted "Open" ["guard"], source := ⟨"Shut"⟩, target := .fixed ⟨"Wide"⟩
      actions := [.idle "journal"] },
    { event := .unrestricted "Close", source := ⟨"Ajar"⟩, target := .fixed ⟨"Shut"⟩ },
    { event := .unrestricted "Close", source := ⟨"Wide"⟩, target := .fixed ⟨"Shut"⟩ } ]

def gateSession (passes : List String) : Session :=
  ⟨gateManifest, .unchecked (gateRules passes) none []⟩

set_option maxRecDepth 4000 in
theorem ofBytes_gate : Manifest.ofBytes gateManifestText = .ok gateManifest := by rfl

theorem gate_prepares (passes : List String) :
    (Session.loader gateManifest {} passes).Prepares gateManifest gateText [] () gateGrid gateEvents
      (gateRules passes) () where
  config := rfl
  types := rfl
  read := ⟨44, rfl, rfl⟩
  headers := rfl
  cells := rfl
  checked := rfl

theorem load_gate (passes : List String) :
    Session.load gateFiles "gate.yaml" {} passes = .ok (gateSession passes) := by
  have hcompile : ((Session.loader gateManifest {} passes).compile gateManifest gateText []
      []).outcome () = (.ok (gateSession passes).definition, ()) :=
    outcome_compile_eq_ok_iff.2 ⟨_, _, _, gate_prepares passes, rfl⟩
  have hload : ((Session.loader gateManifest {} passes).load gateFiles gateManifestText []
      []).outcome () = (.ok (gateSession passes).definition, ()) :=
    outcome_load_eq_ok_iff.2 ⟨_, "./gate.csv", gateText, rfl, ofBytes_gate, rfl, rfl, hcompile⟩
  exact Session.load_eq_ok_iff.2 ⟨gateManifestText, rfl, ofBytes_gate, congrArg Prod.fst hload⟩

/-- Makes a component and notes down its type. -/
def notedFactory {α : Type} (type : String) (component : α) : Factory Unit (List String) α :=
  fun _ noted => (.ok component, noted ++ [type])

/-- An evaluator that passes from the second time on that anyone is asked. -/
def Evaluator.patient (name : String) : Evaluator (List String) DryRun where
  description := name
  evaluate _ noted := (noted.contains "asked", noted ++ ["asked"])

def gateLoader : Loader Unit (List String) DryRun where
  registry :=
    { evaluators := .ofList
        [("sound", notedFactory "sound" (Evaluator.patient "sound")),
          ("strict", notedFactory "strict" (Evaluator.patient "strict"))]
      actions := .ofList [("journal", notedFactory "journal" (.idle "journal"))] }
  param := ()

theorem gateLoader_equips : gateLoader.Equips gateManifest where
  evaluators type htype := by
    have htypes : type = "sound" ∨ type = "strict" := by
      rw [show gateManifest.evaluators.values = ["sound", "sound", "strict"] from rfl] at htype
      simpa using htype
    rcases htypes with rfl | rfl
    · exact ⟨_, rfl, fun noted => ⟨_, _, rfl⟩⟩
    · exact ⟨_, rfl, fun noted => ⟨_, _, rfl⟩⟩
  actions type htype := by
    have hjournal : type = "journal" := by
      rw [show gateManifest.actions.values = ["journal"] from rfl] at htype
      simpa using htype
    subst hjournal
    exact ⟨_, rfl, fun noted => ⟨_, _, rfl⟩⟩

/-- The gate loads with components that act as it does with stand-ins. -/
theorem gate_stands_for_loader :
    ∃ definition, ((gateLoader.load gateFiles gateManifestText [] []).outcome []).1 =
        .ok definition ∧ (gateSession ["isSound"]).definition.Resembles definition := by
  have hequips : ∀ manifest, Manifest.ofBytes gateManifestText = .ok manifest →
      gateLoader.Equips manifest := by
    intro manifest hmanifest
    cases ofBytes_gate.symm.trans hmanifest
    exact gateLoader_equips
  have hsession := load_gate ["isSound"]
  obtain ⟨-, hgate⟩ :=
    Session.load_stands_for_loader gateLoader [] gateFiles "gate.yaml" ["isSound"]
  obtain ⟨hiff, -, hresembles⟩ := hgate gateManifestText rfl hequips
  obtain ⟨definition, hdefinition⟩ := hiff.1 ⟨_, hsession⟩
  exact ⟨definition, hdefinition, hresembles _ _ hsession hdefinition⟩

end Cli

end GridMachine
