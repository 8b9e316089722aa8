import GridMachine.Cli.Program
import GridMachine.Proofs.EnvironmentLayer

/-!
The directories in which a grid is searched. Those of the command line come first. Without them, it
is the variable of the environment that decides, and by its being set alone: where it is not set the
manifest's own directory is searched, whatever a configuration file says, and where it is set but
names nothing, the directories of the file or the standard one are. A delimiter in the environment
that no grid can have makes the variable count for nothing.
-/

namespace GridMachine

theorem Path.parent_of_not_mem {path : String} (h : '/' ∉ path.toList) : parent path = "." := by
  unfold parent pieces
  rw [Text.splitOn_eq_singleton h]
  rfl

namespace Cli

/-- Whether the program comes to the point where it loads the machine, and under which
configuration. -/
structure ComesToLoading (env : Environment) (files : Files) (arguments : List String)
    (invocation : Invocation) (config : Config) : Prop where
  arguments : readArguments env arguments = .ok invocation
  config : ∃ base, baseConfig env files = .ok base ∧ config = configFor env invocation base

/-- Whether the environment names no delimiter, or one that a grid can have. -/
def DelimiterServes (env : Environment) : Prop :=
  ∀ c, (env Config.delimiterVariable).bind Config.delimiter? = some c →
    c.toNat < 128 ∧ c ∉ Config.reservedDelimiters

/-- The directories that are searched, by what is given for them. -/
structure Searches (env : Environment) (files : Files) (invocation : Invocation)
    (dirs : List String) : Prop where
  given : invocation.resourceDirs ≠ [] → dirs = invocation.resourceDirs
  /-- The directories of a configuration file do not count here. -/
  beside : invocation.resourceDirs = [] → env Config.resourceDirsVariable = none →
    dirs = [Path.parent invocation.manifest]
  filed : invocation.resourceDirs = [] → ∀ text path,
    env Config.resourceDirsVariable = some text → env Config.fileVariable = some path →
      ∃ file, Config.ofFile files path = .ok file ∧
        dirs = if Config.splitDirs text = [] then file.resourceDirs else Config.splitDirs text
  named : invocation.resourceDirs = [] → ∀ text,
    env Config.resourceDirsVariable = some text → env Config.fileVariable = none →
      Config.splitDirs text ≠ [] → DelimiterServes env → dirs = Config.splitDirs text
  standard : invocation.resourceDirs = [] → ∀ text,
    env Config.resourceDirsVariable = some text → env Config.fileVariable = none →
      Config.splitDirs text = [] ∨ ¬DelimiterServes env → dirs = ["."]

variable {env : Environment} {files : Files} {invocation : Invocation} {base : Config}

/-! ### The configuration before the command line -/

/-- The environment alone makes a configuration valid unless it is for its delimiter. -/
theorem validate_ofEnvironment_iff :
    (Config.ofEnvironment env).validate = .ok () ↔ DelimiterServes env := by
  have hdirs : (Config.ofEnvironment env).resourceDirs ≠ [] :=
    (Config.overlays_override {} env).resourceDirs_ne_nil (List.cons_ne_nil _ _)
  rw [Config.validate_eq_ok_iff, and_iff_right hdirs]
  unfold Config.ofEnvironment Config.override DelimiterServes
  cases (env Config.delimiterVariable).bind Config.delimiter? with
  | none => simp [Config.reservedDelimiters]
  | some c => simp

theorem exists_file_of_baseConfig (hbase : baseConfig env files = .ok base) {path : String}
    (hpath : env Config.fileVariable = some path) :
    ∃ file, Config.ofFile files path = .ok file ∧ base = file.override env := by
  have hload : Config.load env files = .ok base := by
    unfold baseConfig at hbase
    cases hload : Config.load env files with
    | ok config =>
        rw [hload] at hbase
        exact hbase
    | error error =>
        rw [hload, hpath] at hbase
        contradiction
  unfold Config.load at hload
  rw [hpath] at hload
  obtain ⟨file, hfile, hload⟩ := InOrder.bind_eq_ok_iff.1 hload
  obtain ⟨-, hload⟩ := InOrder.then_eq_ok_iff.1 hload
  exact ⟨file, hfile, (Except.ok.inj hload).symm⟩

/-- Without a file, what is wrong with the environment is passed over, and with it all that the
environment says. -/
theorem baseConfig_of_no_file (hbase : baseConfig env files = .ok base)
    (hpath : env Config.fileVariable = none) :
    DelimiterServes env ∧ base = Config.ofEnvironment env ∨ ¬DelimiterServes env ∧ base = {} := by
  rw [← validate_ofEnvironment_iff]
  have hload : Config.load env files =
      (Config.ofEnvironment env).validate >>= fun _ => .ok (Config.ofEnvironment env) := by
    unfold Config.load
    rw [hpath]
    rfl
  unfold baseConfig at hbase
  cases hvalid : (Config.ofEnvironment env).validate with
  | ok _ =>
      rw [hload, hvalid] at hbase
      exact .inl ⟨rfl, (Except.ok.inj hbase).symm⟩
  | error error =>
      rw [hload, hvalid, hpath] at hbase
      exact .inr ⟨by simp, (Except.ok.inj hbase).symm⟩

theorem searches_configFor (hbase : baseConfig env files = .ok base) :
    Searches env files invocation (configFor env invocation base).resourceDirs := by
  have hdirs : (configFor env invocation base).resourceDirs =
      if invocation.resourceDirs ≠ [] then invocation.resourceDirs
      else if env Config.resourceDirsVariable = none then [Path.parent invocation.manifest]
      else base.resourceDirs := by
    simp [configFor]
  rw [hdirs]
  constructor
  · intro hgiven
    rw [if_pos hgiven]
  · intro hnone hunset
    simp [hnone, hunset]
  · intro hnone text path htext hpath
    obtain ⟨file, hfile, rfl⟩ := exists_file_of_baseConfig hbase hpath
    refine ⟨file, hfile, ?_⟩
    rw [Config.resourceDirs_override htext]
    simp [hnone, htext]
  · intro hnone text htext hpath hnames hserves
    obtain ⟨-, rfl⟩ | ⟨hnot, -⟩ := baseConfig_of_no_file hbase hpath
    · rw [Config.ofEnvironment, Config.resourceDirs_override htext]
      simp [hnone, htext, hnames]
    · contradiction
  · intro hnone text htext hpath hor
    obtain ⟨hserves, rfl⟩ | ⟨-, rfl⟩ := baseConfig_of_no_file hbase hpath
    · have hnames : Config.splitDirs text = [] := hor.resolve_right (not_not_intro hserves)
      rw [Config.ofEnvironment, Config.resourceDirs_override htext]
      simp [hnone, htext, hnames]
    · simp [hnone, htext]

/-! ### The program -/

/-- What the program leaves behind when the machine has been loaded, or has not. -/
def conclude (env : Environment) (isTerminal : Bool) (files : Files) (invocation : Invocation) :
    Except LoadError Session → Outcome
  | .error cause =>
      Outcome.failure (paint (isColoured env isTerminal) .red "Error" ++ " [" ++ cause.code ++
        "]: " ++ cause.message)
  | .ok session =>
      match session.execute files (isColoured env isTerminal) invocation.command with
      | .error cause =>
          Outcome.failure (paint (isColoured env isTerminal) .red "Error" ++ ": " ++ cause.message)
      | .ok text => Outcome.success text

variable {arguments : List String} {config : Config}

theorem ComesToLoading.run_eq (h : ComesToLoading env files arguments invocation config)
    (isTerminal : Bool) :
    run env isTerminal files arguments = conclude env isTerminal files invocation
      (Session.load files invocation.manifest config invocation.command.passes) := by
  obtain ⟨base, hbase, rfl⟩ := h.config
  cases hload : Session.load files invocation.manifest (configFor env invocation base)
      invocation.command.passes with
  | error cause => simp only [run, carryOut, conclude, h.arguments, hbase, hload]
  | ok session =>
      cases hexecute : session.execute files (isColoured env isTerminal) invocation.command <;>
        simp only [run, carryOut, conclude, h.arguments, hbase, hload, hexecute]

/-- **Where the program searches for the grid.** The machine is loaded under a configuration whose
directories are those that `Searches` tells, whatever delimiter the command line gives. -/
theorem directories_searched (h : ComesToLoading env files arguments invocation config) :
    (∀ isTerminal, run env isTerminal files arguments = conclude env isTerminal files invocation
      (Session.load files invocation.manifest config invocation.command.passes)) ∧
    Searches env files invocation config.resourceDirs ∧
    ('/' ∉ invocation.manifest.toList → Path.parent invocation.manifest = ".") ∧
    ∀ base delimiter, baseConfig env files = .ok base →
      (configFor env { invocation with delimiter } base).resourceDirs = config.resourceDirs := by
  refine ⟨h.run_eq, ?_, Path.parent_of_not_mem, ?_⟩
  · obtain ⟨base, hbase, rfl⟩ := h.config
    exact searches_configFor hbase
  · intro base delimiter hbase
    obtain ⟨base', hbase', rfl⟩ := h.config
    cases hbase.symm.trans hbase'
    rfl

/-! ### Surroundings of the program -/

/-- A configuration file that names the directory which the grid is in. -/
def shelfFiles : Files :=
  FileTree.read ⟨[], [(["shelf.yaml"], "resource_dirs: [shelf]\n".toUTF8.data.toList),
    (["shelf", "g.csv"], "State,Go\nA,A\n".toUTF8.data.toList)]⟩

/-- The environment in which these variables are set. -/
def settings (entries : List (String × String)) : Environment := fun name => entries.lookup name

def flowCheck : Invocation where
  manifest := "flows/m.json"
  resourceDirs := []
  delimiter := none
  command := .check

theorem comes_to_flowCheck
    (h : ∃ base, baseConfig env shelfFiles = .ok base ∧ config = configFor env flowCheck base) :
    ComesToLoading env shelfFiles ["-m", "flows/m.json", "check"] flowCheck config := by
  refine ⟨?_, h⟩
  unfold readArguments
  rw [OptionTable.read]
  rfl

/-- A variable that names no directory leaves those of the file. -/
theorem shelf_searched :
    Searches (settings [("GRIDFSM_CONFIG", "shelf.yaml"), ("GRIDFSM_RESOURCE_DIRS", " : ")])
      shelfFiles flowCheck ["shelf"] := by
  have hcomes : ComesToLoading
      (settings [("GRIDFSM_CONFIG", "shelf.yaml"), ("GRIDFSM_RESOURCE_DIRS", " : ")]) shelfFiles
      ["-m", "flows/m.json", "check"] flowCheck { resourceDirs := ["shelf"] } :=
    comes_to_flowCheck ⟨{ resourceDirs := ["shelf"] }, rfl, rfl⟩
  exact (directories_searched hcomes).2.1

/-- Layers that are given and passed over. The directories of a file do not count where the variable
is not set. Where the variable is set but names nothing, the directory of the manifest does not
count, though there is no file. Where the environment names a delimiter that no grid can have, the
directories that it names do not count. -/
theorem layers_passed_over :
    (ComesToLoading (settings [("GRIDFSM_CONFIG", "shelf.yaml")]) shelfFiles
        ["-m", "flows/m.json", "check"] flowCheck { resourceDirs := ["flows"] } ∧
      Config.ofFile shelfFiles "shelf.yaml" = .ok { resourceDirs := ["shelf"] }) ∧
    (ComesToLoading (settings [("GRIDFSM_RESOURCE_DIRS", " : ")]) shelfFiles
        ["-m", "flows/m.json", "check"] flowCheck { resourceDirs := ["."] } ∧
      Config.splitDirs " : " = [] ∧ Path.parent "flows/m.json" = "flows") ∧
    ComesToLoading (settings [("GRIDFSM_RESOURCE_DIRS", "shelf"), ("GRIDFSM_DELIMITER", "/")])
        shelfFiles ["-m", "flows/m.json", "check"] flowCheck { resourceDirs := ["."] } ∧
      Config.splitDirs "shelf" = ["shelf"] := by
  refine ⟨⟨?_, rfl⟩, ⟨?_, rfl, rfl⟩, ?_, rfl⟩
  · exact comes_to_flowCheck ⟨{ resourceDirs := ["shelf"] }, rfl, rfl⟩
  · exact comes_to_flowCheck ⟨{}, rfl, rfl⟩
  · exact comes_to_flowCheck ⟨{}, rfl, rfl⟩

end Cli

end GridMachine
