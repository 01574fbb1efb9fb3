import NatSpec.Proofs.Settings.Layering

set_option autoImplicit false

namespace NatSpec.Settings

open FileSystem

theorem named_file (path : String) : Text.holds "TOML".toList (Source.file path).name.toList := by
  rw [Source.name]
  decide +kernel

theorem named_environment :
    Text.holds "TOML".toList Source.environment.name.toList = false := by
  decide +kernel

theorem from_file_iff (fault : Fault) :
    fault.isFromFile = true ↔ ∃ path, fault.source = some (.file path) := by
  rw [Fault.isFromFile]
  cases fault.source with
  | none => exact ⟨nofun, nofun⟩
  | some source =>
    rw [Option.any_some]
    cases source with
    | file path => exact ⟨fun _ => ⟨path, rfl⟩, fun _ => named_file path⟩
    | environment =>
      rw [named_environment]
      exact ⟨nofun, nofun⟩

namespace LoadError

theorem keep_unseen_nil_iff (seen : List String) (faults : List Fault) :
    keepUnseen seen faults = [] ↔ ∀ fault ∈ faults, fault.line ∈ seen := by
  induction faults generalizing seen with
  | nil => exact ⟨fun _ => nofun, fun _ => rfl⟩
  | cons fault rest ih =>
    rw [keepUnseen, List.forall_mem_cons]
    by_cases known : fault.line ∈ seen
    · rw [if_pos known, ih, and_iff_right known]
    · rw [if_neg known]
      exact ⟨nofun, fun both => absurd both.1 known⟩

theorem errors_single_iff (error : LoadError) :
    error.errors = [error.toFault] ↔ ∀ fault ∈ error.earlier, fault.line = error.line := by
  have first : error.errors = error.toFault :: keepUnseen [error.line] error.earlier := by
    rw [errors, faults, keepUnseen, if_neg List.not_mem_nil]
  rw [first, List.cons.injEq, and_iff_right rfl, keep_unseen_nil_iff]
  simp only [List.mem_singleton]

end LoadError

namespace Layers

theorem effective_source {key : String} {layers : Layers} {source : Source} {value : Value}
    (found : layers.effective? key = some (source, value)) :
    (∃ path, source = .file path) ↔ layers.environment.get? key = none ∧
      (layers.file.bind fun given => given.2.get? key).isSome = true := by
  rw [effective?] at found
  cases set : layers.environment.get? key with
  | some other =>
    rw [set] at found
    cases found
    constructor
    · rintro ⟨path, same⟩
      cases same
    · intro unset
      exact absurd unset.1 (Option.some_ne_none value)
  | none =>
    rw [set] at found
    cases file : layers.file with
    | none =>
      rw [file] at found
      cases found
    | some given =>
      rw [file] at found
      obtain ⟨inFile, held, same⟩ := Option.map_eq_some_iff.mp found
      cases same
      rw [Option.bind_some, held]
      exact ⟨fun _ => ⟨rfl, rfl⟩, fun _ => ⟨_, rfl⟩⟩

theorem setting_error {α : Type} {read : Value → Except Flaw α} {default : α} {usual : Value}
    (usually : read usual = .ok default) (layers : Layers) (key : String) {flaw : Flaw}
    (wrong : read ((layers.value? key).getD usual) = .error flaw) :
    ∃ source, layers.setting key read default = .error (.invalid source (flaw.under key)) ∧
      ((∃ path, source = .file path) ↔ layers.environment.get? key = none ∧
        (layers.file.bind fun given => given.2.get? key).isSome = true) := by
  rw [← effective_value] at wrong
  rw [setting]
  cases found : layers.effective? key with
  | none =>
    rw [found] at wrong
    cases usually.symm.trans wrong
  | some inForce =>
    rcases inForce with ⟨source, value⟩
    rw [found] at wrong
    have failed : read value = .error flaw := wrong
    refine ⟨source, ?_, effective_source found⟩
    dsimp only
    rw [failed]
    rfl

theorem setting_error_alone {α : Type} {read : Value → Except Flaw α} {default : α}
    {layers : Layers} {key : String} {error : LoadError}
    (failed : layers.setting key read default = .error error) : error.earlier = [] := by
  rw [setting] at failed
  cases found : layers.effective? key with
  | none =>
    rw [found] at failed
    cases failed
  | some inForce =>
    rcases inForce with ⟨source, value⟩
    rw [found] at failed
    dsimp only at failed
    cases result : read value with
    | ok _ =>
      rw [result] at failed
      cases failed
    | error flaw =>
      rw [result] at failed
      cases failed
      rfl

theorem settings_error_alone {layers : Layers} {error : LoadError}
    (failed : layers.settings = .error error) : error.earlier = [] := by
  rw [Layers.settings] at failed
  cases out : layers.setting "out" readPath defaults.out with
  | error first =>
    rw [out] at failed
    cases failed
    exact setting_error_alone out
  | ok path =>
    cases outputs : layers.setting "outputs" readOutputs defaults.outputs with
    | error first =>
      rw [out, outputs] at failed
      cases failed
      exact setting_error_alone outputs
    | ok listed =>
      rw [out, outputs] at failed
      cases failed

theorem settings_error_out {layers : Layers} {error : LoadError}
    (wrong : layers.setting "out" readPath defaults.out = .error error) :
    layers.settings = .error error := by
  rw [Layers.settings, wrong]
  rfl

theorem settings_error_outputs {layers : Layers} {out : String} {error : LoadError}
    (right : layers.setting "out" readPath defaults.out = .ok out)
    (wrong : layers.setting "outputs" readOutputs defaults.outputs = .error error) :
    layers.settings = .error error := by
  rw [Layers.settings, right, wrong]
  rfl

end Layers

-- Loading ends with `fault` as the only error, which is the only line below the heading.
def Reports (loaded : Except LoadError Settings) (fault : Fault) : Prop :=
  ∃ error, loaded = .error error ∧ error.errors = [fault] ∧
    error.message = LoadError.heading ++ "\n" ++ fault.line

theorem alone_reported {loaded : Except LoadError Settings} {error : LoadError}
    (failed : loaded = .error error) (alone : error.earlier = []) :
    Reports loaded error.toFault := by
  have single : error.errors = [error.toFault] := by
    rw [LoadError.errors_single_iff, alone]
    exact nofun
  have joined : String.join ["\n" ++ error.line] = "\n" ++ error.line := String.empty_append
  refine ⟨error, failed, single, ?_⟩
  rw [LoadError.message, single, List.map_singleton, joined, String.append_assoc]

structure Blames (env : Environment) (file : Dict Value) (key : String) (flaw : Flaw)
    (fault : Fault) : Prop where
  setting : fault.path = key :: flaw.path
  cause : fault.cause = .mismatch flaw.mismatch
  origin : fault.isFromFile = true ↔
    variableValue? key env = none ∧ (file.get? key).isSome = true

structure Blamed (env : Environment) (file : Dict Value)
    (loaded : Except LoadError Settings) : Prop where
  single : ∀ error, loaded = .error error → ∃ fault, Reports loaded fault
  tagged : fileTagged file = true → ∃ fault, Reports loaded fault ∧
    fault.cause = .malformed ∧ fault.path = [] ∧ fault.isFromFile = true
  out : fileTagged file = false → ∀ flaw, readPath (effectiveOut env file) = .error flaw →
    ∃ fault, Reports loaded fault ∧ Blames env file "out" flaw fault
  outputs : fileTagged file = false → ∀ out flaw, readPath (effectiveOut env file) = .ok out →
    readOutputs (effectiveOutputs env file) = .error flaw →
      ∃ fault, Reports loaded fault ∧ Blames env file "outputs" flaw fault
  only : fileTagged file = false → ∀ error, loaded = .error error →
    (∃ flaw, readPath (effectiveOut env file) = .error flaw) ∨
      ∃ flaw, readOutputs (effectiveOutputs env file) = .error flaw

theorem given_setting_error {env : Environment} {file : Dict Value} {layers : Layers}
    (given : Given env file layers) (untagged : fileTagged file = false) {α : Type}
    {read : Value → Except Flaw α} {default : α} {usual : Value}
    (usually : read usual = .ok default) {key : String} (named : key ≠ "") {flaw : Flaw}
    (wrong : read (effective env file key usual) = .error flaw) :
    ∃ error, layers.setting key read default = .error error ∧
      Blames env file key flaw error.toFault := by
  obtain ⟨fromVariables, fromFile⟩ := given key named
  rw [effective, ← given_value given named] at wrong
  obtain ⟨source, reported, origin⟩ := Layers.setting_error usually layers key wrong
  rw [fromVariables, fromFile, file_value_is_some untagged] at origin
  refine ⟨_, reported, rfl, rfl, ?_⟩
  rw [from_file_iff, ← origin]
  exact exists_congr fun path => Option.some_inj

section loading

variable {reading : Reading} {fs : FileSystem} {root : String} {file : Dict Value}
  {env : Environment}

theorem file_layer_error_alone {error : LoadError}
    (failed : fileLayer reading fs root = .error error) : error.earlier = [] := by
  unfold fileLayer at failed
  split at failed
  · cases failed
  · split at failed
    · cases failed
      rfl
    · split at failed
      · cases failed
        rfl
      · cases failed

theorem load_error_alone {error : LoadError}
    (failed : ((load (diskReading reading) env root).run fs).1 = .error error) :
    error.earlier = [] := by
  rw [load_run] at failed
  cases layer : fileLayer reading fs root with
  | error first =>
    rw [layer] at failed
    cases failed
    exact file_layer_error_alone layer
  | ok found =>
    rw [layer] at failed
    exact Layers.settings_error_alone failed

theorem load_reports {error : LoadError}
    (failed : ((load (diskReading reading) env root).run fs).1 = .error error) :
    Reports ((load (diskReading reading) env root).run fs).1 error.toFault :=
  alone_reported failed (load_error_alone failed)

theorem load_tagged (env : Environment) (held : FileHolds reading fs root file)
    (tagged : fileTagged file = true) :
    ∃ path, ((load (diskReading reading) env root).run fs).1 = .error (.malformed path) := by
  obtain ⟨path, refused⟩ := (file_layer_held held).1 tagged
  refine ⟨path, ?_⟩
  rw [load_run, refused]
  rfl

theorem load_error_blames_source (held : FileHolds reading fs root file) (plain : Undotted env) :
    Blamed env file ((load (diskReading reading) env root).run fs).1 := by
  refine ⟨fun error failed => ?_, fun tagged => ?_, fun untagged flaw wrong => ?_,
    fun untagged out flaw right wrong => ?_, fun untagged error failed => ?_⟩
  · exact ⟨_, load_reports failed⟩
  · obtain ⟨path, failed⟩ := load_tagged env held tagged
    exact ⟨_, load_reports failed, rfl, rfl, (from_file_iff _).mpr ⟨path, rfl⟩⟩
  · obtain ⟨layers, loaded, given⟩ := load_layers held plain untagged
    obtain ⟨error, reported, blames⟩ :=
      given_setting_error given untagged usual_out (by decide) wrong
    have failed := loaded.trans (Layers.settings_error_out reported)
    exact ⟨_, load_reports failed, blames⟩
  · obtain ⟨layers, loaded, given⟩ := load_layers held plain untagged
    obtain ⟨error, reported, blames⟩ :=
      given_setting_error given untagged usual_outputs (by decide) wrong
    have found := (given_setting_ok_iff given usual_out (by decide) out).mpr right
    have failed := loaded.trans (Layers.settings_error_outputs found reported)
    exact ⟨_, load_reports failed, blames⟩
  · cases out : readPath (effectiveOut env file) with
    | error flaw => exact .inl ⟨flaw, rfl⟩
    | ok path =>
      cases outputs : readOutputs (effectiveOutputs env file) with
      | error flaw => exact .inr ⟨flaw, rfl⟩
      | ok listed =>
        have done := (load_ok_iff held plain untagged ⟨path, listed⟩).mpr ⟨out, outputs⟩
        cases failed.symm.trans done

end loading

def misspeltText : String := "out = 5\noutputs = [\"abi\", \"bytecode\"]\n"

def misspelt : FileSystem := { entries := [(["natdoc.toml"], .file misspeltText)], workDir := [] }

theorem misspelt_outputs_blamed :
    ∃ file flaw fault, FileHolds readText misspelt "." file ∧ Undotted masking ∧
      fileTagged file = false ∧ (readPath (effectiveOut [] file)).isOk = false ∧
        Reports ((load (diskReading readText) masking ".").run misspelt).1 fault ∧
          Blames masking file "outputs" flaw fault ∧ fault.isFromFile = true := by
  have reads : (Toml.read misspeltText).any (fun file =>
      !fileTagged file && !(readPath (effectiveOut [] file)).isOk &&
        (readPath (effectiveOut masking file)).toOption = some "docs" &&
          !(readOutputs (effectiveOutputs masking file)).isOk &&
            (variableValue? "outputs" masking).isNone && (file.get? "outputs").isSome) = true := by
    decide +kernel
  obtain ⟨file, written, facts⟩ := (Option.any_eq_true _ _).mp reads
  simp only [Bool.and_eq_true, Bool.not_eq_true', decide_eq_true_eq,
    Option.isNone_iff_eq_none] at facts
  obtain ⟨⟨⟨⟨⟨untagged, wrong⟩, out⟩, outputs⟩, unset⟩, given⟩ := facts
  have held : FileHolds readText misspelt "." file := ⟨misspeltText, rfl, written⟩
  have plain : Undotted masking := by
    rw [Undotted]
    decide +kernel
  obtain ⟨flaw, failed⟩ := error_of_not_ok outputs
  have blamed := load_error_blames_source held plain
  obtain ⟨fault, reported, blames⟩ :=
    blamed.outputs untagged "docs" flaw (ok_of_to_option out) failed
  exact ⟨file, flaw, fault, held, plain, untagged, wrong, reported, blames,
    blames.origin.mpr ⟨unset, given⟩⟩

def taggedBesideText : String := "out = 5\n[x.y]\n___figment_value_id.z=1"

def taggedBeside : FileSystem :=
  { entries := [(["natdoc.toml"], .file taggedBesideText)], workDir := [] }

theorem tag_hides_wrong_directory :
    ∃ file flaw, FileHolds readText taggedBeside "." file ∧ Undotted [] ∧
      readPath (effectiveOut [] file) = .error flaw ∧
        variableValue? "out" [] = none ∧ (file.get? "out").isSome = true ∧
          ∃ fault, Reports ((load disk [] ".").run taggedBeside).1 fault ∧
            ∀ key other, ¬Blames [] file key other fault := by
  have reads : (Toml.read taggedBesideText).any (fun file =>
      fileTagged file && !(readPath (effectiveOut [] file)).isOk && (file.get? "out").isSome) =
        true := by
    decide +kernel
  obtain ⟨file, written, facts⟩ := (Option.any_eq_true _ _).mp reads
  simp only [Bool.and_eq_true, Bool.not_eq_true'] at facts
  obtain ⟨⟨tagged, wrong⟩, given⟩ := facts
  have held : FileHolds readText taggedBeside "." file := ⟨taggedBesideText, rfl, written⟩
  obtain ⟨flaw, failed⟩ := error_of_not_ok wrong
  obtain ⟨path, refused⟩ := load_tagged [] held tagged
  rw [← disk_reading_texts]
  refine ⟨file, flaw, held, nofun, failed, rfl, given, _, load_reports refused,
    fun key other blames => ?_⟩
  cases blames.setting

end NatSpec.Settings
