import NatSpec.Proofs.Command.Agreement
import NatSpec.Proofs.Files.Children

set_option autoImplicit false

namespace NatSpec

open FileSystem

variable {contract : Contract} {settings : Settings} {output : Output} {outputs : List Output}
  {text : String} {fs : FileSystem} {reading : Reading}

theorem perform_write_refused (reading : Reading) {path : String} {error : OsError}
    (refused : writeText path text fs = .error error) :
    fs.perform (Disk.step ("failed to write " ++ path)
        ((diskReading reading).writeText path text)) =
      (.error (.because ("failed to write " ++ path) error.message), fs) := by
  have unchanged : ((diskReading reading).writeText path text).run fs = (.error error, fs) := by
    change update (writeText path text) fs = _
    rw [update, refused]
  rw [perform_step, unchanged]
  rfl

theorem write_all_unwritten {error : OsError} (rendered : contract.render output = .ok text)
    (refused : writeText (settings.filePath contract.name output) text fs = .error error) :
    (fs.perform
      (Command.writeAll (diskReading reading) settings contract (output :: outputs))).2 = fs := by
  have rendering : fs.perform (ExceptT.mk (pure (contract.render output))) = (.ok text, fs) := by
    rw [perform_given, rendered]
  rw [Command.writeAll, perform_bind_ok rendering]
  exact congrArg Prod.snd (perform_bind_error (perform_write_refused reading refused))

theorem write_all_wrote_some (outputs : List Output) (fs : FileSystem) :
    ∃ done, done <+: outputs ∧ Wrote settings contract done fs
      (fs.perform (Command.writeAll (diskReading reading) settings contract outputs)).2 := by
  induction outputs generalizing fs with
  | nil => exact ⟨[], List.prefix_rfl, wrote_nothing settings contract fs⟩
  | cons output rest ih =>
    cases rendered : contract.render output with
    | error report =>
      rw [write_all_refused rendered]
      exact ⟨[], List.nil_prefix, wrote_nothing settings contract fs⟩
    | ok text =>
      cases stored : writeText (settings.filePath contract.name output) text fs with
      | error error =>
        rw [write_all_unwritten rendered stored]
        exact ⟨[], List.nil_prefix, wrote_nothing settings contract fs⟩
      | ok written =>
        obtain ⟨place, accepted⟩ := write_text_ok stored
        obtain ⟨done, further, wrote⟩ := ih (fs.put place (.file text))
        rw [write_all_written rendered accepted]
        exact ⟨output :: done, List.cons_prefix_cons.mpr ⟨rfl, further⟩,
          wrote_first (render_ok_iff.mp rendered) accepted wrote⟩

theorem emit_unconfigured {env : Environment} {request : EmitRequest} {report : Report}
    (unconfigured : (fs.perform (request.settings (diskReading reading) env)).1 = .error report) :
    fs.perform (Command.runEmit (diskReading reading) env request) = (.error report, fs) := by
  have failed : fs.perform (request.settings (diskReading reading) env) = (.error report, fs) := by
    rw [perform_settings] at unconfigured ⊢
    rw [← unconfigured]
  exact perform_bind_error failed

theorem emit_unmade {env : Environment} {request : EmitRequest} {grown : FileSystem}
    {error : OsError}
    (configured : (fs.perform (request.settings (diskReading reading) env)).1 = .ok settings)
    (loaded : reading.contractAt fs request.contract = .ok contract)
    (unmade : makeDirs settings.out fs = (.error error, grown)) :
    (fs.perform (Command.runEmit (diskReading reading) env request)).2 = grown := by
  have loading := perform_load_contract reading fs request.contract
  have making := perform_step fs ("failed to create output directory " ++ settings.out)
    ((diskReading reading).makeDirs settings.out)
  rw [loaded] at loading
  change _ = ((makeDirs settings.out fs).1.mapError _, (makeDirs settings.out fs).2) at making
  rw [unmade] at making
  rw [Command.runEmit, perform_bind_ok (perform_configured configured), perform_bind_ok loading]
  exact congrArg Prod.snd (perform_bind_error making)

theorem emit_wrote_some {env : Environment} {request : EmitRequest}
    (configured : (fs.perform (request.settings (diskReading reading) env)).1 = .ok settings)
    (loaded : reading.contractAt fs request.contract = .ok contract) :
    ∃ grown done, done <+: settings.outputs ∧
      Grown (fs.startOf settings.out) (Path.names settings.out) fs grown ∧
        Wrote settings contract done grown
          (fs.perform (Command.runEmit (diskReading reading) env request)).2 := by
  have grows := make_dirs_grown settings.out fs
  cases made : makeDirs settings.out fs with
  | mk result grown =>
    rw [made] at grows
    cases result with
    | error error =>
      rw [emit_unmade configured loaded made]
      exact ⟨grown, [], List.nil_prefix, grows, wrote_nothing settings contract grown⟩
    | ok _ =>
      rw [perform_emit configured loaded made]
      obtain ⟨done, further, wrote⟩ := write_all_wrote_some settings.outputs grown
      exact ⟨grown, done, further, grows, wrote⟩

-- The file at the place has been written for an output of the contract, to its path. The path
-- keeps it in the directory of the outputs as long as the name of the contract has no slash.
def WrittenFor (reading : Reading) (env : Environment) (request : EmitRequest)
    (fs after : FileSystem) (place : Place) : Prop :=
  ∃ settings contract,
    (fs.perform (request.settings (diskReading reading) env)).1 = .ok settings ∧
      reading.contractAt fs request.contract = .ok contract ∧
        ∃ output ∈ settings.outputs,
          after.locate (settings.filePath contract.name output) = .ok place ∧
            ('/' ∉ contract.name.toList →
              after.RightBelow settings.out (output.fileName contract.name) place)

theorem emit_writes_files_for_outputs (reading : Reading) (env : Environment)
    (request : EmitRequest) (fs : FileSystem) (place : Place) (text : String)
    (found : (fs.perform (Command.runEmit (diskReading reading) env request)).2.find? place =
      some (.file text)) :
    fs.find? place = some (.file text) ∨
      WrittenFor reading env request fs
        (fs.perform (Command.runEmit (diskReading reading) env request)).2 place := by
  cases configured : (fs.perform (request.settings (diskReading reading) env)).1 with
  | error report =>
    rw [emit_unconfigured configured] at found
    exact .inl found
  | ok settings =>
    cases loaded : reading.contractAt fs request.contract with
    | error report =>
      rw [emit_unloaded configured loaded] at found
      exact .inl found
    | ok contract =>
      obtain ⟨grown, done, further, grows, wrote⟩ := emit_wrote_some configured loaded
      rcases wrote_files grows wrote found with before | ⟨output, listed, _, located⟩
      · exact .inl before
      · refine .inr ⟨settings, contract, configured, loaded, output, further.subset listed,
          located, fun clear => ?_⟩
        have child := (file_path_child_iff settings contract.name output).mpr clear
        have down : output.fileName contract.name ≠ ".." := by
          rw [file_name_chars]
          exact output.suffix_long _ (by decide)
        exact located_right_below child down located

theorem emit_stays_below_out_without_slash (reading : Reading) (env : Environment) (request : EmitRequest)
    (fs : FileSystem) :
    (∀ (settings : Settings) (contract : Contract) (output : Output),
      Path.ChildOf settings.out (output.fileName contract.name)
          (settings.filePath contract.name output) ↔ '/' ∉ contract.name.toList) ∧
      ∀ place text,
        (fs.perform (Command.runEmit (diskReading reading) env request)).2.find? place =
            some (.file text) →
          fs.find? place = some (.file text) ∨
            WrittenFor reading env request fs
              (fs.perform (Command.runEmit (diskReading reading) env request)).2 place := by
  refine ⟨fun settings contract output => ?_, fun place text found => ?_⟩
  · exact file_path_child_iff settings contract.name output
  · exact emit_writes_files_for_outputs reading env request fs place text found

theorem half_stays_below_docs :
    Path.ChildOf "new/../docs" "Half.docuser" (halfSettings.filePath "Half" .userDoc) ∧
      WrittenFor readText [] halfRequest shelf
        (shelf.perform (Command.runEmit (diskReading readText) [] halfRequest)).2
        ["docs", "Half.docuser"] := by
  have confined := emit_stays_below_out_without_slash readText [] halfRequest shelf
  have configured : (shelf.perform (halfRequest.settings (diskReading readText) [])).1 =
      .ok halfSettings := rfl
  have loaded : Reading.contractAt readText shelf halfRequest.contract = .ok half :=
    contract_at_file rfl (Json.read_written (contract_reads half))
  have accepted : (shelf.put ["new"] .directory).Accepts
      (halfSettings.filePath half.name .userDoc) ["docs", "Half.docuser"] := ⟨rfl, by decide, rfl⟩
  obtain ⟨text, rendered⟩ : ∃ text, half.render .userDoc = .ok text := ⟨_, rfl⟩
  obtain ⟨report, refused⟩ : ∃ report, half.render .abi = .error report := ⟨_, rfl⟩
  have emission := perform_emit configured loaded half_writable.made
  rw [show halfSettings.outputs = [.userDoc, .abi, .userDoc] from rfl,
    write_all_written rendered accepted, write_all_refused refused] at emission
  refine ⟨(confined.1 halfSettings half .userDoc).mpr (by decide), ?_⟩
  rcases confined.2 ["docs", "Half.docuser"] text (by rw [emission]; rfl) with before | written
  · cases before
  · exact written

def stray : Contract := { name := "../Up" }

def strayShelf : FileSystem := { entries := [(["up.json"], .file stray.toJson)], workDir := [] }

def strayRequest : EmitRequest := { contract := "up.json", outputs := [.abi] }

theorem stray_emission :
    strayShelf.perform (Command.runEmit disk [] strayRequest) =
      (.ok ["out/../Up.abi"],
        (strayShelf.put ["out"] .directory).put ["Up.abi"] (.file "[]")) := by
  have configured : (strayShelf.perform (strayRequest.settings disk [])).1 =
      .ok ⟨"out", [.abi]⟩ := rfl
  have loaded : Reading.contractAt readText strayShelf strayRequest.contract = .ok stray :=
    contract_at_file rfl (Json.read_written (contract_reads stray))
  have made : makeDirs "out" strayShelf = (.ok (), strayShelf.put ["out"] .directory) := rfl
  have accepted : (strayShelf.put ["out"] .directory).Accepts "out/../Up.abi" ["Up.abi"] :=
    ⟨rfl, by decide, rfl⟩
  have rendered : stray.render .abi = .ok "[]" := rfl
  rw [← disk_reading_texts, perform_emit configured loaded made]
  exact write_all_written rendered accepted

theorem stray_name_leaves_out :
    Contract.ofJson stray.toJson = .ok stray ∧
      ¬ Path.ChildOf "out" (Output.abi.fileName stray.name)
          ((Settings.mk "out" [.abi]).filePath stray.name .abi) ∧
        ∃ after, strayShelf.perform (Command.runEmit disk [] strayRequest) =
            (.ok ["out/../Up.abi"], after) ∧
          strayShelf.find? ["Up.abi"] = none ∧ after.find? ["Up.abi"] = some (.file "[]") ∧
            ∀ name, ¬ after.RightBelow "out" name ["Up.abi"] := by
  have parsed : Contract.ofJson stray.toJson = .ok stray :=
    Json.read_written (contract_reads stray)
  refine ⟨parsed, fun child => ?_, _, stray_emission, rfl, rfl, ?_⟩
  · exact absurd child.names (by decide)
  · rintro name ⟨directory, walked, -, below⟩
    obtain rfl : ["out"] = directory := Except.ok.inj walked
    exact absurd (congrArg List.length below) (by simp)

end NatSpec
