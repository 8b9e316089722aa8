import GridMachine.Proofs.Refusal
import GridMachine.Proofs.Text

/-!
The environment over a configuration. One variable names directories, between colons, and another
spells a delimiter; each has a say in its own field and in no other. A variable that names no
directory, or spells no delimiter, leaves the field as it is, so that a second reading of the same
environment changes nothing.
-/

namespace GridMachine.Config

open Text

/-- Whether a text lists these directories: they are what is left of its pieces between colons when
the blanks around each of them, and then the empty ones, are taken away. -/
def Lists (text : String) (dirs : List String) : Prop :=
  ∃ pieces names : List (List Char), pieces ≠ [] ∧ (∀ piece ∈ pieces, ':' ∉ piece) ∧
    [':'].intercalate pieces = text.toList ∧
    List.Forall₂ (fun piece name => IsTrimmed name ∧ Pads name piece) pieces names ∧
    dirs = (names.filter (· ≠ [])).map String.ofList

/-- The spellings of a delimiter. -/
inductive Spells : String → Char → Prop where
  | word : Spells "tab" '\t'
  | escape : Spells "\\t" '\t'
  | character (c : Char) : Spells (.singleton c) c

/-- What a configuration becomes under an environment. -/
structure Overlays (env : Environment) (config result : Config) : Prop where
  named : ∀ text dirs, env resourceDirsVariable = some text → Lists text dirs → dirs ≠ [] →
    result.resourceDirs = dirs
  unnamed : (∀ text dirs, env resourceDirsVariable = some text → Lists text dirs → dirs = []) →
    result.resourceDirs = config.resourceDirs
  spelled : ∀ text c, env delimiterVariable = some text → Spells text c → result.delimiter = c
  unspelled : (∀ text c, env delimiterVariable = some text → ¬Spells text c) →
    result.delimiter = config.delimiter

variable {env : Environment} {files : Files} {config result base : Config} {text : String}
  {dirs : List String} {c : Char}

/-! ### What the variables say -/

theorem lists_iff : Lists text dirs ↔ splitDirs text = dirs := by
  have hnames : ∀ pieces names : List (List Char),
      List.Forall₂ (fun piece name => IsTrimmed name ∧ Pads name piece) pieces names ↔
        pieces.map trim = names := by
    intro pieces names
    rw [← List.forall₂_eq_eq_eq, List.forall₂_map_left_iff]
    simp only [trim_eq_iff]
  have hfilter : ∀ pieces : List (List Char),
      ((pieces.map fun dir => String.ofList (trim dir)).filter (· ≠ "")) =
        ((pieces.map trim).filter (· ≠ [])).map String.ofList := by
    intro pieces
    rw [List.filter_map, List.filter_map, List.map_map]
    have hempty : ∀ piece : List Char, String.ofList (trim piece) ≠ "" ↔ trim piece ≠ [] := by simp
    simp only [Function.comp_def, hempty]
  unfold Lists splitDirs
  rw [hfilter]
  constructor
  · rintro ⟨pieces, names, hne, hcolon, hjoin, hall, rfl⟩
    rw [splitOn_eq_iff.2 ⟨hne, hcolon, hjoin⟩, (hnames _ _).1 hall]
  · rintro rfl
    obtain ⟨hne, hcolon, hjoin⟩ := splitOn_eq_iff.1 (Eq.refl (splitOn ':' text.toList))
    exact ⟨_, _, hne, hcolon, hjoin, (hnames _ _).2 rfl, rfl⟩

theorem delimiter?_eq_some_iff : delimiter? text = some c ↔ Spells text c := by
  unfold delimiter?
  simp only [Bool.or_eq_true, decide_eq_true_eq]
  constructor
  · intro h
    split at h
    next hword =>
      cases h
      rcases hword with rfl | rfl
      · exact .word
      · exact .escape
    next =>
      split at h
      next d hchars =>
        cases h
        have htext : text = .singleton c := String.toList_inj.1 (by simp [hchars])
        exact htext ▸ .character c
      next => contradiction
  · intro h
    cases h with
    | word => rfl
    | escape => rfl
    | character =>
        -- the words for the tab are no single characters
        have hword : ¬(String.singleton c = "tab" ∨ String.singleton c = "\\t") := by
          rw [← String.toList_inj, ← String.toList_inj]
          simp
        rw [if_neg hword]
        simp

/-! ### One layer -/

theorem resourceDirs_override (h : env resourceDirsVariable = some text) :
    (config.override env).resourceDirs =
      if splitDirs text = [] then config.resourceDirs else splitDirs text := by
  simp [override, h]

theorem resourceDirs_override_of_unset (h : env resourceDirsVariable = none) :
    (config.override env).resourceDirs = config.resourceDirs := by
  simp [override, h]

theorem delimiter_override (config : Config) (env : Environment) :
    (config.override env).delimiter =
      ((env delimiterVariable).bind delimiter?).getD config.delimiter := rfl

theorem overlays_override (config : Config) (env : Environment) :
    Overlays env config (config.override env) where
  named text dirs htext hlists hdirs := by
    rw [resourceDirs_override htext, lists_iff.1 hlists, if_neg hdirs]
  unnamed hnone := by
    cases htext : env resourceDirsVariable with
    | none => exact resourceDirs_override_of_unset htext
    | some text =>
        rw [resourceDirs_override htext, if_pos (hnone text _ htext (lists_iff.2 rfl))]
  spelled text c htext hspells := by
    rw [delimiter_override, htext, Option.bind_some, delimiter?_eq_some_iff.2 hspells]
    rfl
  unspelled hnone := by
    rw [delimiter_override]
    cases hc : (env delimiterVariable).bind delimiter? with
    | none => rfl
    | some c =>
        obtain ⟨text, htext, hspells⟩ := Option.bind_eq_some_iff.1 hc
        exact absurd (delimiter?_eq_some_iff.1 hspells) (hnone text c htext)

/-- What a field becomes depends on this field and its own variable alone. -/
theorem Overlays.resourceDirs_eq {other other' : Config} {env' : Environment}
    (h : Overlays env config result) (h' : Overlays env' other other')
    (hdirs : config.resourceDirs = other.resourceDirs)
    (henv : env resourceDirsVariable = env' resourceDirsVariable) :
    result.resourceDirs = other'.resourceDirs := by
  by_cases hnone : ∀ text dirs, env resourceDirsVariable = some text → Lists text dirs → dirs = []
  · rw [h.unnamed hnone, h'.unnamed (henv ▸ hnone), hdirs]
  · push Not at hnone
    obtain ⟨text, dirs, htext, hlists, hne⟩ := hnone
    rw [h.named text dirs htext hlists hne, h'.named text dirs (henv ▸ htext) hlists hne]

theorem Overlays.delimiter_eq {other other' : Config} {env' : Environment}
    (h : Overlays env config result) (h' : Overlays env' other other')
    (hdelimiter : config.delimiter = other.delimiter)
    (henv : env delimiterVariable = env' delimiterVariable) :
    result.delimiter = other'.delimiter := by
  by_cases hnone : ∀ text c, env delimiterVariable = some text → ¬Spells text c
  · rw [h.unspelled hnone, h'.unspelled (henv ▸ hnone), hdelimiter]
  · push Not at hnone
    obtain ⟨text, c, htext, hspells⟩ := hnone
    rw [h.spelled text c htext hspells, h'.spelled text c (henv ▸ htext) hspells]

theorem Overlays.resourceDirs_ne_nil (h : Overlays env config result)
    (hdirs : config.resourceDirs ≠ []) : result.resourceDirs ≠ [] := by
  by_cases hnone : ∀ text dirs, env resourceDirsVariable = some text → Lists text dirs → dirs = []
  · rw [h.unnamed hnone]
    exact hdirs
  · push Not at hnone
    obtain ⟨text, dirs, htext, hlists, hne⟩ := hnone
    rw [h.named text dirs htext hlists hne]
    exact hne

theorem overlays_iff : Overlays env config result ↔ config.override env = result := by
  constructor
  · intro h
    have hdirs := (overlays_override config env).resourceDirs_eq h rfl rfl
    have hdelimiter := (overlays_override config env).delimiter_eq h rfl rfl
    cases result
    exact congrArg₂ Config.mk hdirs hdelimiter
  · rintro rfl
    exact overlays_override config env

theorem Overlays.again (h : Overlays env config result) : Overlays env result result where
  named := h.named
  unnamed _ := rfl
  spelled := h.spelled
  unspelled _ := rfl

/-- Directories that are joined by colons are listed one by one. -/
theorem lists_joinWith (hne : dirs ≠ [])
    (hdirs : ∀ dir ∈ dirs, dir ≠ "" ∧ IsTrimmed dir.toList ∧ ':' ∉ dir.toList) :
    Lists (joinWith ":" dirs) dirs := by
  refine ⟨dirs.map String.toList, dirs.map String.toList, by simpa using hne, ?_, ?_, ?_, ?_⟩
  · intro piece hpiece
    obtain ⟨dir, hdir, rfl⟩ := List.mem_map.1 hpiece
    exact (hdirs dir hdir).2.2
  · simp [joinWith]
  · refine List.forall₂_same.2 fun piece hpiece => ?_
    obtain ⟨dir, hdir, rfl⟩ := List.mem_map.1 hpiece
    exact ⟨(hdirs dir hdir).2.1, .refl _⟩
  · have hkept : (dirs.map String.toList).filter (· ≠ []) = dirs.map String.toList := by
      refine List.filter_eq_self.2 fun piece hpiece => ?_
      obtain ⟨dir, hdir, rfl⟩ := List.mem_map.1 hpiece
      simpa using (hdirs dir hdir).1
    rw [hkept, List.map_map]
    simp

/-! ### Loading -/

theorem load_eq_ok_iff :
    load env files = .ok result ↔
      (∃ base, (env fileVariable).elim (.ok {}) (ofFile files) = .ok base ∧
        Overlays env base result) ∧ result.validate = .ok () := by
  have hload : load env files =
      (env fileVariable).elim (.ok {}) (ofFile files) >>= fun base =>
        (base.override env).validate >>= fun _ => .ok (base.override env) := by
    unfold load
    cases env fileVariable <;> rfl
  rw [hload]
  simp only [InOrder.bind_eq_ok_iff, overlays_iff, Except.ok.injEq]
  constructor
  · rintro ⟨base, hbase, ⟨⟩, hvalid, rfl⟩
    exact ⟨⟨base, hbase, rfl⟩, hvalid⟩
  · rintro ⟨⟨base, hbase, rfl⟩, hvalid⟩
    exact ⟨base, hbase, (), hvalid, rfl⟩

theorem exists_delimiterByte (h : config.validate = .ok ()) :
    ∃ byte, config.delimiterByte = .ok byte ∧ byte.toNat = config.delimiter.toNat := by
  have hascii := (validate_eq_ok_iff.1 h).2.1
  refine ⟨_, delimiterByte_of_validate h, ?_⟩
  exact UInt8.toNat_ofNat_of_lt' (Nat.lt_trans hascii (by decide))

/-- **The environment settles each field by its own variable.** What comes out is the overlay of the
environment and nothing else. Doing it again changes nothing, each field depends on its own variable
alone, a list of directories never becomes empty, and directories that are joined by colons come out
as they are. A configuration that is loaded is such an overlay and valid, and has a byte for its
delimiter. -/
theorem override_overlays_exactly (config : Config) (env : Environment) :
    (∀ result, config.override env = result ↔ Overlays env config result) ∧
    (config.override env).override env = config.override env ∧
    (∀ (other : Config) (env' : Environment), config.resourceDirs = other.resourceDirs →
      env resourceDirsVariable = env' resourceDirsVariable →
        (config.override env).resourceDirs = (other.override env').resourceDirs) ∧
    (∀ (other : Config) (env' : Environment), config.delimiter = other.delimiter →
      env delimiterVariable = env' delimiterVariable →
        (config.override env).delimiter = (other.override env').delimiter) ∧
    (config.resourceDirs ≠ [] → (config.override env).resourceDirs ≠ []) ∧
    (∀ dirs : List String, dirs ≠ [] →
      (∀ dir ∈ dirs, dir ≠ "" ∧ IsTrimmed dir.toList ∧ ':' ∉ dir.toList) →
      env resourceDirsVariable = some (joinWith ":" dirs) →
        (config.override env).resourceDirs = dirs) ∧
    ∀ files loaded, load env files = .ok loaded ↔
      (∃ base, (env fileVariable).elim (.ok {}) (ofFile files) = .ok base ∧
        Overlays env base loaded) ∧
      loaded.validate = .ok () ∧
      ∃ byte, loaded.delimiterByte = .ok byte ∧ byte.toNat = loaded.delimiter.toNat := by
  have hoverlays := overlays_override config env
  refine ⟨fun result => overlays_iff.symm, overlays_iff.1 hoverlays.again, ?_, ?_,
    hoverlays.resourceDirs_ne_nil, ?_, ?_⟩
  · intro other env' hdirs henv
    exact hoverlays.resourceDirs_eq (overlays_override other env') hdirs henv
  · intro other env' hdelimiter henv
    exact hoverlays.delimiter_eq (overlays_override other env') hdelimiter henv
  · intro dirs hne hdirs htext
    exact hoverlays.named _ dirs htext (lists_joinWith hne hdirs) hne
  · intro files loaded
    rw [load_eq_ok_iff]
    constructor
    · rintro ⟨hbase, hvalid⟩
      exact ⟨hbase, hvalid, exists_delimiterByte hvalid⟩
    · rintro ⟨hbase, hvalid, -⟩
      exact ⟨hbase, hvalid⟩

/-- Two directories with blanks and empty pieces around them, and no delimiter. -/
def shelves : Environment := fun name =>
  [("GRIDFSM_RESOURCE_DIRS", " defs ::shared:"), ("GRIDFSM_DELIMITER", ";;")].lookup name

/-- The directories of the environment take the place of the old one, and the old delimiter stays.
Without a file the comma stays, which is a byte. -/
theorem override_overlays_exactly_shelves :
    Overlays shelves ⟨["old"], ';'⟩ ⟨["defs", "shared"], ';'⟩ ∧
      (∀ env : Environment, env "GRIDFSM_RESOURCE_DIRS" = some "defs:shared" →
        (Config.override ⟨["old"], ';'⟩ env).resourceDirs = ["defs", "shared"]) ∧
      ∀ files, load shelves files = .ok ⟨["defs", "shared"], ','⟩ ∧
        ∃ byte, delimiterByte ⟨["defs", "shared"], ','⟩ = .ok byte ∧ byte.toNat = 44 := by
  obtain ⟨hoverlays, -, -, -, -, -, hload⟩ := override_overlays_exactly ⟨["old"], ';'⟩ shelves
  refine ⟨(hoverlays _).1 rfl, fun env henv => ?_, fun files => ⟨rfl, ?_⟩⟩
  · obtain ⟨-, -, -, -, -, hjoined, -⟩ := override_overlays_exactly ⟨["old"], ';'⟩ env
    have hdefs : IsTrimmed "defs".toList := ⟨by rintro _ ⟨⟩; rfl, by rintro _ ⟨⟩; rfl⟩
    have hshared : IsTrimmed "shared".toList := ⟨by rintro _ ⟨⟩; rfl, by rintro _ ⟨⟩; rfl⟩
    refine hjoined ["defs", "shared"] (List.cons_ne_nil _ _) ?_ henv
    intro dir hdir
    rcases List.mem_pair.1 hdir with rfl | rfl
    · exact ⟨by decide, hdefs, by decide⟩
    · exact ⟨by decide, hshared, by decide⟩
  · obtain ⟨-, -, hbyte⟩ := (hload files ⟨["defs", "shared"], ','⟩).1 rfl
    exact hbyte

end GridMachine.Config
