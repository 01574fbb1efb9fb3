import NatSpec.Proofs.Command.Perform
import NatSpec.Proofs.Contract.RoundTrip
import NatSpec.Proofs.Files.Directories
import NatSpec.Proofs.Files.OutputPaths

set_option autoImplicit false

namespace NatSpec

open FileSystem

def Contract.generated (contract : Contract) (outputs : List Output) : List Output :=
  outputs.takeWhile fun output => (contract.document output).isOk

def Contract.refusal? (contract : Contract) (output : Output) : Option Report :=
  match contract.render output with
  | .error report => some report
  | .ok _ => none

variable {contract : Contract} {settings : Settings} {output : Output} {outputs done : List Output}
  {text : String} {report : Report} {fs middle grown after : FileSystem} {place : Place}
  {reading : Reading}

theorem render_ok_iff :
    contract.render output = .ok text ↔ contract.document output = .ok text := by
  unfold Contract.render
  cases contract.document output with
  | error error => exact ⟨nofun, nofun⟩
  | ok written =>
    constructor
    · intro rendered
      rw [Except.ok.inj rendered]
    · intro rendered
      rw [Except.ok.inj rendered]
      rfl

theorem refusal_none_iff :
    contract.refusal? output = none ↔ ∃ text, contract.document output = .ok text := by
  unfold Contract.refusal?
  cases rendered : contract.render output with
  | error report => simp [← render_ok_iff, rendered]
  | ok text => simp [← render_ok_iff, rendered]

theorem refusal_some_iff :
    contract.refusal? output = some report ↔ contract.render output = .error report := by
  unfold Contract.refusal?
  cases contract.render output <;> simp

theorem refusals_none_iff : outputs.findSome? contract.refusal? = none ↔
    ∀ output ∈ outputs, ∃ text, contract.document output = .ok text := by
  rw [List.findSome?_eq_none_iff]
  simp only [refusal_none_iff]

theorem generated_of_ok (rendered : contract.document output = .ok text) :
    contract.generated (output :: outputs) = output :: contract.generated outputs :=
  List.takeWhile_cons_of_pos (by rw [rendered]; rfl)

theorem generated_all (all : ∀ output ∈ outputs, ∃ text, contract.document output = .ok text) :
    contract.generated outputs = outputs := by
  induction outputs with
  | nil => rfl
  | cons output rest ih =>
    obtain ⟨text, rendered⟩ := all output (List.mem_cons_self ..)
    rw [generated_of_ok rendered, ih fun later listed => all later (List.mem_cons_of_mem _ listed)]

theorem generated_document (listed : output ∈ contract.generated outputs) :
    ∃ text, contract.document output = .ok text := by
  have ok := List.all_eq_true.mp List.all_takeWhile output listed
  cases rendered : contract.document output with
  | error error =>
    rw [rendered] at ok
    cases ok
  | ok text => exact ⟨text, rfl⟩

theorem generated_of_refused (refused : contract.render output = .error report) :
    contract.generated (output :: outputs) = [] := by
  refine List.takeWhile_cons_of_neg ?_
  unfold Contract.render at refused
  cases document : contract.document output with
  | error error => exact Bool.false_ne_true
  | ok text =>
    rw [document] at refused
    cases refused

theorem write_all_refused (refused : contract.render output = .error report) :
    fs.perform (Command.writeAll (diskReading reading) settings contract (output :: outputs)) =
      (.error report, fs) :=
  perform_bind_error (by rw [perform_given, refused])

theorem write_all_written (rendered : contract.render output = .ok text)
    (accepted : fs.Accepts (settings.filePath contract.name output) place) :
    fs.perform (Command.writeAll (diskReading reading) settings contract (output :: outputs)) =
      let later :=
        (fs.put place (.file text)).perform
          (Command.writeAll (diskReading reading) settings contract outputs)
      (later.1.map (settings.filePath contract.name output :: ·), later.2) := by
  have rendering : fs.perform (ExceptT.mk (pure (contract.render output))) = (.ok text, fs) := by
    rw [perform_given, rendered]
  have writing := perform_write reading fs (settings.filePath contract.name output) text
    (write_accepted accepted text)
  rw [Command.writeAll, perform_bind_ok rendering]
  refine (perform_bind_ok writing).trans ?_
  cases onward : (fs.put place (.file text)).perform
      (Command.writeAll (diskReading reading) settings contract outputs) with
  | mk result after =>
    cases result with
    | error report => exact perform_bind_error onward
    | ok paths => exact perform_bind_ok onward

-- `after` is `fs` with the files of `done` written, each with its whole text.
structure Wrote (settings : Settings) (contract : Contract) (done : List Output)
    (fs after : FileSystem) : Prop where
  keeps : KeepsDirectories fs after
  kept : KeepsDirectories after fs
  files : ∀ output ∈ done, ∃ text, contract.document output = .ok text ∧
    after.readText (settings.filePath contract.name output) = .ok text
  others : ∀ place, (∀ output ∈ done,
      fs.locate (settings.filePath contract.name output) ≠ .ok place) →
    after.find? place = fs.find? place

theorem wrote_nothing (settings : Settings) (contract : Contract) (fs : FileSystem) :
    Wrote settings contract [] fs fs :=
  ⟨keeps_refl fs, keeps_refl fs, nofun, fun _ _ => rfl⟩

-- A later output writes to the same place only if it is the same output, with the same text.
theorem wrote_first (rendered : contract.document output = .ok text)
    (accepted : fs.Accepts (settings.filePath contract.name output) place)
    (wrote : Wrote settings contract done (fs.put place (.file text)) after) :
    Wrote settings contract (output :: done) fs after := by
  have keeps := put_file_keeps accepted text
  have kept := put_file_kept accepted text
  have notRoot := accepts_not_root accepted
  have located := locate_kept keeps accepted.located
  refine ⟨keeps_trans keeps wrote.keeps, keeps_trans wrote.kept kept, ?_, ?_⟩
  · intro other listed
    by_cases again : other ∈ done
    · exact wrote.files other again
    · obtain rfl : other = output := by
        rcases List.mem_cons.mp listed with same | later
        · exact same
        · exact absurd later again
      have untouched : after.find? place = (fs.put place (.file text)).find? place := by
        apply wrote.others
        intro next later there
        exact again (output_places_differ located there ▸ later)
      have found : after.find? place = some (.file text) := by
        rw [untouched, find?_put fs place place _ notRoot, if_pos rfl]
      exact ⟨text, rendered,
        read_text_file (locate_kept wrote.keeps located) accepted.file found⟩
  · intro other elsewhere
    have different : other ≠ place := by
      intro same
      exact elsewhere output (List.mem_cons_self ..) (same ▸ accepted.located)
    have untouched : after.find? other = (fs.put place (.file text)).find? other := by
      apply wrote.others
      intro next later there
      exact elsewhere next (List.mem_cons_of_mem _ later) (locate_kept kept there)
    rw [untouched, find?_put fs place other _ notRoot, if_neg different]

def Contract.emitted (contract : Contract) (settings : Settings) (outputs : List Output) :
    Except Report (List String) :=
  match outputs.findSome? contract.refusal? with
  | some report => .error report
  | none => .ok (outputs.map (settings.filePath contract.name))

theorem write_all_wrote (outputs : List Output) (fs : FileSystem)
    (ready : ∀ output ∈ contract.generated outputs, ∃ place,
      fs.Accepts (settings.filePath contract.name output) place) :
    (fs.perform (Command.writeAll (diskReading reading) settings contract outputs)).1 =
        contract.emitted settings outputs ∧
      Wrote settings contract (contract.generated outputs) fs
        (fs.perform (Command.writeAll (diskReading reading) settings contract outputs)).2 := by
  induction outputs generalizing fs with
  | nil => exact ⟨rfl, wrote_nothing settings contract fs⟩
  | cons output rest ih =>
    unfold Contract.emitted
    rw [List.findSome?_cons]
    cases rendered : contract.render output with
    | error report =>
      rw [write_all_refused rendered, generated_of_refused rendered,
        refusal_some_iff.mpr rendered]
      exact ⟨rfl, wrote_nothing settings contract fs⟩
    | ok text =>
      have document := render_ok_iff.mp rendered
      rw [generated_of_ok document] at ready ⊢
      obtain ⟨place, accepted⟩ := ready output (List.mem_cons_self ..)
      have stillReady : ∀ later ∈ contract.generated rest, ∃ place',
          (fs.put place (.file text)).Accepts (settings.filePath contract.name later) place' := by
        intro later listed
        obtain ⟨place', accepted'⟩ := ready later (List.mem_cons_of_mem _ listed)
        exact ⟨place', accepts_after_put accepted accepted' text⟩
      obtain ⟨result, wrote⟩ := ih (fs.put place (.file text)) stillReady
      rw [write_all_written rendered accepted, refusal_none_iff.mpr ⟨text, document⟩]
      refine ⟨?_, wrote_first document accepted wrote⟩
      simp only [result, Contract.emitted]
      cases rest.findSome? contract.refusal? <;> rfl

theorem perform_emit {env : Environment} {request : EmitRequest}
    (configured : (fs.perform (request.settings (diskReading reading) env)).1 = .ok settings)
    (loaded : reading.contractAt fs request.contract = .ok contract)
    (made : makeDirs settings.out fs = (.ok (), grown)) :
    fs.perform (Command.runEmit (diskReading reading) env request) =
      grown.perform
        (Command.writeAll (diskReading reading) settings contract settings.outputs) := by
  have loading := perform_load_contract reading fs request.contract
  have making := perform_step fs ("failed to create output directory " ++ settings.out)
    ((diskReading reading).makeDirs settings.out)
  rw [loaded] at loading
  change _ = ((makeDirs settings.out fs).1.mapError _, (makeDirs settings.out fs).2) at making
  rw [made] at making
  rw [Command.runEmit, perform_bind_ok (perform_configured configured), perform_bind_ok loading]
  exact perform_bind_ok making

structure Writable (settings : Settings) (contract : Contract) (fs grown : FileSystem) : Prop where
  made : makeDirs settings.out fs = (.ok (), grown)
  stored : ∀ output ∈ contract.generated settings.outputs, ∀ text,
    contract.document output = .ok text →
      ∃ written, writeText (settings.filePath contract.name output) text grown = .ok written

theorem writable_grown (writable : Writable settings contract fs grown) :
    Grown (fs.startOf settings.out) (Path.names settings.out) fs grown := by
  have grows := make_dirs_grown settings.out fs
  rwa [writable.made] at grows

theorem emit_wrote {env : Environment} {request : EmitRequest}
    (configured : (fs.perform (request.settings (diskReading reading) env)).1 = .ok settings)
    (loaded : reading.contractAt fs request.contract = .ok contract)
    (writable : Writable settings contract fs grown) :
    (fs.perform (Command.runEmit (diskReading reading) env request)).1 =
        contract.emitted settings settings.outputs ∧
      Wrote settings contract (contract.generated settings.outputs) grown
        (fs.perform (Command.runEmit (diskReading reading) env request)).2 := by
  rw [perform_emit configured loaded writable.made]
  refine write_all_wrote settings.outputs grown fun output listed => ?_
  obtain ⟨text, rendered⟩ := generated_document listed
  obtain ⟨written, stored⟩ := writable.stored output listed text rendered
  exact write_text_ok stored

theorem emitted_ok_iff : (∃ paths, contract.emitted settings outputs = .ok paths) ↔
    ∀ output ∈ outputs, ∃ text, contract.document output = .ok text := by
  rw [← refusals_none_iff]
  unfold Contract.emitted
  cases outputs.findSome? contract.refusal? <;> simp

theorem emitted_paths {paths : List String}
    (finished : contract.emitted settings outputs = .ok paths) :
    paths = outputs.map (settings.filePath contract.name) := by
  unfold Contract.emitted at finished
  cases refused : outputs.findSome? contract.refusal? with
  | some report => simp [refused] at finished
  | none =>
    simp only [refused, Except.ok.injEq] at finished
    exact finished.symm

theorem contract_at_file {path : String} (read : reading fs path = .ok text)
    (parsed : Contract.ofJson text = .ok contract) :
    reading.contractAt fs path = .ok contract := by
  unfold Reading.contractAt
  rw [read]
  change Contract.ofFileText path text = _
  unfold Contract.ofFileText
  rw [parsed]
  rfl

def KeptOrMade (path : String) (fs after : FileSystem) (place : Place) : Prop :=
  after.find? place = fs.find? place ∨
    (fs.find? place = none ∧ after.find? place = some .directory ∧
      ∃ steps, steps <+: Path.names path ∧ after.walk (fs.startOf path) steps = .ok place)

theorem grown_kept_or_made {path : String}
    (grows : Grown (fs.startOf path) (Path.names path) fs grown)
    (keeps : KeepsDirectories grown after) (same : after.find? place = grown.find? place) :
    KeptOrMade path fs after place := by
  cases found : fs.find? place with
  | some entry => exact .inl (by rw [same, grows.kept place entry found, found])
  | none =>
    rcases grows.made place found with still | ⟨directory, steps, leads, walked⟩
    · exact .inl (by rw [same, still, found])
    · exact .inr ⟨found, same.trans directory, steps, leads, walk_kept keeps walked⟩

structure Emission (settings : Settings) (contract : Contract) (fs : FileSystem)
    (emitted : Except Report (List String) × FileSystem) : Prop where
  succeeds : (∃ paths, emitted.1 = .ok paths) ↔
    ∀ output ∈ settings.outputs, ∃ text, contract.document output = .ok text
  paths : ∀ paths, emitted.1 = .ok paths →
    paths = settings.outputs.map (settings.filePath contract.name) ∧
      contract.generated settings.outputs = settings.outputs
  written : ∀ output ∈ contract.generated settings.outputs, ∃ text,
    contract.document output = .ok text ∧
      emitted.2.readText (settings.filePath contract.name output) = .ok text
  unwritten : ∀ output, output ∉ contract.generated settings.outputs → ∀ place,
    emitted.2.locate (settings.filePath contract.name output) = .ok place →
      KeptOrMade settings.out fs emitted.2 place
  others : ∀ place, (∀ output ∈ contract.generated settings.outputs,
      emitted.2.locate (settings.filePath contract.name output) ≠ .ok place) →
    KeptOrMade settings.out fs emitted.2 place

theorem emit_writes_generated_outputs {env : Environment} {request : EmitRequest}
    (configured : (fs.perform (request.settings disk env)).1 = .ok settings)
    (read : fs.readText request.contract = .ok text)
    (parsed : Contract.ofJson text = .ok contract)
    (writable : Writable settings contract fs grown) :
    Emission settings contract fs (fs.perform (Command.runEmit disk env request)) := by
  rw [← disk_reading_texts] at configured ⊢
  obtain ⟨result, wrote⟩ := emit_wrote configured (contract_at_file read parsed) writable
  generalize fs.perform (Command.runEmit (diskReading readText) env request) = emitted at *
  have others : ∀ place, (∀ output ∈ contract.generated settings.outputs,
      emitted.2.locate (settings.filePath contract.name output) ≠ .ok place) →
      KeptOrMade settings.out fs emitted.2 place := by
    intro place elsewhere
    refine grown_kept_or_made (writable_grown writable) wrote.keeps (wrote.others place ?_)
    intro output generated there
    exact elsewhere output generated (locate_kept wrote.keeps there)
  refine ⟨?_, ?_, wrote.files, ?_, others⟩
  · rw [result]
    exact emitted_ok_iff
  · intro paths finished
    rw [result] at finished
    exact ⟨emitted_paths finished, generated_all (emitted_ok_iff.mp ⟨paths, finished⟩)⟩
  · intro output refused place located
    refine others place fun other generated there => ?_
    exact refused (output_places_differ located there ▸ generated)

def half : Contract := { name := "Half", constructor := some ⟨["a"], []⟩ }

def shelf : FileSystem :=
  { entries := [(["half.json"], .file half.toJson), (["docs"], .directory),
      (["docs", "Half.abi"], .file "old")]
    workDir := [] }

def halfRequest : EmitRequest :=
  { contract := "half.json", out := some "new/../docs", outputs := [.userDoc, .abi, .userDoc] }

def halfSettings : Settings := ⟨"new/../docs", [.userDoc, .abi, .userDoc]⟩

theorem half_writable : Writable halfSettings half shelf (shelf.put ["new"] .directory) where
  made := rfl
  stored := by
    intro output listed text _
    obtain rfl : output = .userDoc := List.mem_singleton.mp listed
    have accepted : (shelf.put ["new"] .directory).Accepts "new/../docs/Half.docuser"
        ["docs", "Half.docuser"] := ⟨rfl, by decide, rfl⟩
    exact ⟨_, write_accepted accepted text⟩

theorem half_emission :
    (shelf.perform (halfRequest.settings disk [])).1 = .ok halfSettings ∧
      shelf.readText halfRequest.contract = .ok half.toJson ∧
        Contract.ofJson half.toJson = .ok half ∧
          Emission halfSettings half shelf
            (shelf.perform (Command.runEmit disk [] halfRequest)) := by
  have configured : (shelf.perform (halfRequest.settings disk [])).1 = .ok halfSettings := rfl
  have read : shelf.readText halfRequest.contract = .ok half.toJson := rfl
  have parsed : Contract.ofJson half.toJson = .ok half :=
    Json.read_written (contract_reads half)
  exact ⟨configured, read, parsed,
    emit_writes_generated_outputs configured read parsed half_writable⟩

end NatSpec
