import NatSpec.Proofs.Command.Perform
import NatSpec.Proofs.Outcome
import NatSpec.Proofs.Settings.Sources

set_option autoImplicit false

namespace NatSpec.Settings

open FileSystem

def effective (env : Environment) (file : Dict Value) (key : String) (default : Value) : Value :=
  ((variableValue? key env).or (fileValue? key file)).getD default

def effectiveOut (env : Environment) (file : Dict Value) : Value :=
  effective env file "out" (.string defaults.out)

def effectiveOutputs (env : Environment) (file : Dict Value) : Value :=
  effective env file "outputs" (.list (defaults.outputs.map fun output => .string output.name))

namespace Layers

def value? (key : String) (layers : Layers) : Option Value :=
  (layers.environment.get? key).or (layers.file.bind fun file => file.2.get? key)

theorem effective_value (key : String) (layers : Layers) :
    (layers.effective? key).map Prod.snd = layers.value? key := by
  rw [effective?, value?]
  cases layers.environment.get? key with
  | some value => rfl
  | none =>
    cases layers.file with
    | none => rfl
    | some file =>
      rw [Option.bind_some, Option.none_or, Option.map_map]
      exact Option.map_id'

theorem setting_ok_iff {α : Type} {read : Value → Except Flaw α} {default : α} {usual : Value}
    (usually : read usual = .ok default) (layers : Layers) (key : String) (value : α) :
    layers.setting key read default = .ok value ↔
      read ((layers.value? key).getD usual) = .ok value := by
  rw [setting, ← effective_value]
  cases layers.effective? key with
  | none =>
    change Except.ok default = Except.ok value ↔ read usual = Except.ok value
    rw [usually, Except.ok.injEq, Except.ok.injEq]
  | some found =>
    rcases found with ⟨source, inForce⟩
    change (read inForce).mapError _ = _ ↔ read inForce = _
    cases read inForce <;> simp [Except.mapError]

theorem settings_ok_iff (layers : Layers) (settings : Settings) :
    layers.settings = .ok settings ↔
      layers.setting "out" readPath defaults.out = .ok settings.out ∧
        layers.setting "outputs" readOutputs defaults.outputs = .ok settings.outputs := by
  rw [Layers.settings]
  cases layers.setting "out" readPath defaults.out with
  | error error => exact ⟨nofun, fun both => nomatch both.1⟩
  | ok out =>
    cases layers.setting "outputs" readOutputs defaults.outputs with
    | error error => exact ⟨nofun, fun both => nomatch both.2⟩
    | ok outputs =>
      rcases settings with ⟨out', outputs'⟩
      change Except.ok (⟨out, outputs⟩ : Settings) = _ ↔ _
      simp

end Layers

def Given (env : Environment) (file : Dict Value) (layers : Layers) : Prop :=
  ∀ key, key ≠ "" → layers.environment.get? key = variableValue? key env ∧
    (layers.file.bind fun given => given.2.get? key) = fileValue? key file

theorem given_value {env : Environment} {file : Dict Value} {layers : Layers}
    (given : Given env file layers) {key : String} (named : key ≠ "") :
    layers.value? key = (variableValue? key env).or (fileValue? key file) := by
  obtain ⟨fromVariables, fromFile⟩ := given key named
  rw [Layers.value?, fromVariables, fromFile]

theorem given_setting_ok_iff {env : Environment} {file : Dict Value} {layers : Layers}
    (given : Given env file layers) {α : Type} {read : Value → Except Flaw α} {default : α}
    {usual : Value} (usually : read usual = .ok default) {key : String} (named : key ≠ "")
    (value : α) :
    layers.setting key read default = .ok value ↔
      read (effective env file key usual) = .ok value := by
  rw [Layers.setting_ok_iff usually, given_value given named, effective]

theorem usual_out : readPath (.string defaults.out) = .ok defaults.out :=
  rfl

theorem usual_outputs : readOutputs (.list (defaults.outputs.map fun output =>
    .string output.name)) = .ok defaults.outputs :=
  rfl

section loading

variable {reading : Reading} {fs : FileSystem} {root : String} {file : Dict Value}

-- What the settings file for the root holds. It is nothing if there is no such file.
def FileHolds (reading : Reading) (fs : FileSystem) (root : String) (file : Dict Value) : Prop :=
  match (candidates fs.workDir root).find? fs.isFile with
  | none => file = []
  | some path => ∃ text, reading fs path = .ok text ∧ Toml.read text = some file

theorem file_layer_held (held : FileHolds reading fs root file) :
    (fileTagged file = true →
        ∃ path, fileLayer reading fs root = .error (.malformed path)) ∧
      (fileTagged file = false → ∃ found, fileLayer reading fs root = .ok found ∧
        ∀ key, (found.bind fun given => given.2.get? key) = fileValue? key file) := by
  rw [FileHolds] at held
  rw [fileLayer, ← unwrapped_file_is_none]
  cases place : (candidates fs.workDir root).find? fs.isFile with
  | none =>
    rw [place] at held
    obtain rfl : file = [] := held
    exact ⟨fun tagged => absurd tagged Bool.false_ne_true, fun _ => ⟨none, rfl, fun _ => rfl⟩⟩
  | some path =>
    rw [place] at held
    obtain ⟨text, read, written⟩ := held
    dsimp only
    rw [read]
    dsimp only
    rw [written, Option.bind_some]
    cases unwrapped : unwrappedFile? file with
    | none =>
      exact ⟨fun _ => ⟨_, rfl⟩, fun untagged => absurd untagged.symm Bool.false_ne_true⟩
    | some members =>
      exact ⟨fun tagged => absurd tagged Bool.false_ne_true,
        fun _ => ⟨_, rfl, unwrapped_file_get unwrapped⟩⟩

theorem load_layers {env : Environment} (held : FileHolds reading fs root file)
    (plain : Undotted env) (untagged : fileTagged file = false) :
    ∃ layers, ((load (diskReading reading) env root).run fs).1 = Layers.settings layers ∧
      Given env file layers := by
  obtain ⟨found, layer, fileValues⟩ := (file_layer_held held).2 untagged
  refine ⟨⟨found, ofEnvironment env⟩, ?_, fun key named => ?_⟩
  · rw [load_run, layer]
    rfl
  · exact ⟨of_environment_get named plain, fileValues key⟩

theorem load_ok_iff {env : Environment} (held : FileHolds reading fs root file)
    (plain : Undotted env) (untagged : fileTagged file = false)
    (settings : Settings) :
    ((load (diskReading reading) env root).run fs).1 = .ok settings ↔
      readPath (effectiveOut env file) = .ok settings.out ∧
        readOutputs (effectiveOutputs env file) = .ok settings.outputs := by
  obtain ⟨layers, loaded, given⟩ := load_layers held plain untagged
  rw [loaded, Layers.settings_ok_iff, given_setting_ok_iff given usual_out (by decide),
    given_setting_ok_iff given usual_outputs (by decide)]
  exact Iff.rfl

theorem configured_ok_iff (env : Environment) (request : EmitRequest) (settings : Settings) :
    (fs.perform (request.settings (diskReading reading) env)).1 = .ok settings ↔
      ∃ given, ((load (diskReading reading) env (request.root.getD ".")).run fs).1 = .ok given ∧
        settings.out = request.out.getD given.out ∧
          settings.outputs = if request.outputs = [] then given.outputs else request.outputs := by
  rw [perform_settings]
  cases ((load (diskReading reading) env (request.root.getD ".")).run fs).1 with
  | error error => exact ⟨nofun, nofun⟩
  | ok given =>
    rcases settings with ⟨out, outputs⟩
    change Except.ok (request.override given) = _ ↔ _
    simp [EmitRequest.override, eq_comm]

structure Layered (env : Environment) (file : Dict Value) (request : EmitRequest)
    (loaded : Except LoadError Settings) (configured : Except Report Settings) : Prop where
  tagged : fileTagged file = true → ∃ path, loaded = .error (.malformed path)
  untagged : fileTagged file = false → ∀ settings, loaded = .ok settings ↔
    readPath (effectiveOut env file) = .ok settings.out ∧
      readOutputs (effectiveOutputs env file) = .ok settings.outputs
  requested : ∀ settings, configured = .ok settings ↔ ∃ given, loaded = .ok given ∧
    settings.out = request.out.getD given.out ∧
      settings.outputs = if request.outputs = [] then given.outputs else request.outputs

theorem settings_layered {env : Environment} {request : EmitRequest}
    (held : FileHolds reading fs (request.root.getD ".") file)
    (plain : Undotted env) :
    Layered env file request
      ((load (diskReading reading) env (request.root.getD ".")).run fs).1
      (fs.perform (request.settings (diskReading reading) env)).1 := by
  refine ⟨fun tagged => ?_, load_ok_iff held plain, configured_ok_iff env request⟩
  obtain ⟨path, refused⟩ := (file_layer_held held).1 tagged
  refine ⟨path, ?_⟩
  rw [load_run, refused]
  rfl

end loading

def maskedText : String := "out = 5\noutputs = [\"abi\"]\n"

def masked : FileSystem := { entries := [(["natdoc.toml"], .file maskedText)], workDir := [] }

def masking : Environment := [("NATDOC_COLOR", "7"), ("natdoc_Out", "docs"), ("X.Y", "")]

def maskedRequest : EmitRequest := { contract := "half.json", outputs := [.devDoc] }

theorem masked_file_layered :
    ∃ file, FileHolds readText masked "." file ∧
      Undotted masking ∧ fileTagged file = false ∧
        (readPath (effectiveOut [] file)).isOk = false ∧
          ((load (diskReading readText) masking ".").run masked).1 = .ok ⟨"docs", [.abi]⟩ ∧
            (masked.perform (maskedRequest.settings (diskReading readText) masking)).1 =
              .ok ⟨"docs", [.devDoc]⟩ := by
  have reads : (Toml.read maskedText).any (fun file =>
      !fileTagged file && !(readPath (effectiveOut [] file)).isOk &&
        (readPath (effectiveOut masking file)).toOption = some "docs" &&
          (readOutputs (effectiveOutputs masking file)).toOption = some [.abi]) = true := by
    decide +kernel
  obtain ⟨file, written, facts⟩ := (Option.any_eq_true _ _).mp reads
  simp only [Bool.and_eq_true, Bool.not_eq_true', decide_eq_true_eq] at facts
  obtain ⟨⟨⟨untagged, wrong⟩, out⟩, outputs⟩ := facts
  have held : FileHolds readText masked "." file := ⟨maskedText, rfl, written⟩
  have plain : Undotted masking := by
    rw [Undotted]
    decide +kernel
  have layered : Layered masking file maskedRequest _ _ := settings_layered held plain
  have loaded := (layered.untagged untagged ⟨"docs", [.abi]⟩).mpr
    ⟨ok_of_to_option out, ok_of_to_option outputs⟩
  exact ⟨file, held, plain, untagged, wrong, loaded,
    (layered.requested _).mpr ⟨_, loaded, rfl, rfl⟩⟩

def taggedText : String := "[x.y]\n___figment_value_id.z=1"

def taggedElsewhere : FileSystem :=
  { entries := [(["natdoc.toml"], .file taggedText)], workDir := [] }

theorem tag_elsewhere_refused :
    ∃ file, FileHolds readText taggedElsewhere "." file ∧
      effectiveOut [] file = effectiveOut [] [] ∧
        effectiveOutputs [] file = effectiveOutputs [] [] ∧
          (∃ path, ((load disk [] ".").run taggedElsewhere).1 = .error (.malformed path)) ∧
            FileHolds readText ⟨[], []⟩ "." [] ∧
              ((load disk [] ".").run ⟨[], []⟩).1 = .ok defaults := by
  have reads : (Toml.read taggedText).any (fun file =>
      fileTagged file && (file.get? "out").isNone && (file.get? "outputs").isNone) = true := by
    decide +kernel
  obtain ⟨file, written, facts⟩ := (Option.any_eq_true _ _).mp reads
  simp only [Bool.and_eq_true, Option.isNone_iff_eq_none] at facts
  obtain ⟨⟨tagged, noOut⟩, noOutputs⟩ := facts
  have held : FileHolds readText taggedElsewhere "." file := ⟨taggedText, rfl, written⟩
  refine ⟨file, held, ?_, ?_, ?_, rfl, rfl⟩
  · rw [effectiveOut, effective, fileValue?, noOut]
    rfl
  · rw [effectiveOutputs, effective, fileValue?, noOutputs]
    rfl
  · obtain ⟨path, refused⟩ := (file_layer_held held).1 tagged
    refine ⟨path, ?_⟩
    rw [← disk_reading_texts, load_run, refused]
    rfl

end NatSpec.Settings
