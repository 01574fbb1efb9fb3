import NatSpec.Proofs.Command.Emit

set_option autoImplicit false

namespace NatSpec

open FileSystem

def FileSystem.Reading.inspected (reading : Reading) (fs : FileSystem) (path : String)
    (output : Output) : Except Report String :=
  (fs.perform (Command.runInspect (diskReading reading) path output)).1

variable {contract : Contract} {settings : Settings} {outputs : List Output} {report : Report}
  {fs grown : FileSystem} {path : String} {reading : Reading}

theorem inspected_render (loaded : reading.contractAt fs path = .ok contract) :
    reading.inspected fs path = contract.render := by
  funext output
  unfold Reading.inspected
  rw [perform_inspect, loaded]
  rfl

theorem inspected_unloaded (unloaded : reading.contractAt fs path = .error report)
    (output : Output) : reading.inspected fs path output = .error report := by
  unfold Reading.inspected
  rw [perform_inspect, unloaded]
  rfl

theorem render_is_ok (contract : Contract) (output : Output) :
    (contract.render output).isOk = (contract.document output).isOk := by
  unfold Contract.render
  cases contract.document output <;> rfl

theorem first_refused (refused : outputs.findSome? contract.refusal? = some report) :
    ∃ output, outputs.find? (fun output => !(contract.render output).isOk) = some output ∧
      contract.render output = .error report := by
  induction outputs with
  | nil => cases refused
  | cons output rest ih =>
    rw [List.findSome?_cons] at refused
    cases rendered : contract.render output with
    | error other =>
      rw [refusal_some_iff.mpr rendered] at refused
      cases refused
      exact ⟨output, List.find?_cons_of_pos (by rw [rendered]; rfl), rendered⟩
    | ok text =>
      rw [refusal_none_iff.mpr ⟨text, render_ok_iff.mp rendered⟩] at refused
      rw [List.find?_cons_of_neg (by rw [rendered]; exact Bool.false_ne_true)]
      exact ih refused

theorem emit_unloaded {env : Environment} {request : EmitRequest}
    (configured : (fs.perform (request.settings (diskReading reading) env)).1 = .ok settings)
    (unloaded : reading.contractAt fs request.contract = .error report) :
    fs.perform (Command.runEmit (diskReading reading) env request) = (.error report, fs) := by
  have loading := perform_load_contract reading fs request.contract
  rw [unloaded] at loading
  exact (perform_bind_ok (perform_configured configured)).trans (perform_bind_error loading)

structure SameTexts (report other : Report) : Prop where
  chain : report.chain = other.chain
  display : report.display = other.display
  detail : report.detail = other.detail

structure Agreement (reading : Reading) (settings : Settings) (request : EmitRequest)
    (fs : FileSystem) (emitted : Except Report (List String) × FileSystem) : Prop where
  succeeds : (∃ paths, emitted.1 = .ok paths) ↔
    ∀ output ∈ request.outputs, ∃ text, reading.inspected fs request.contract output = .ok text
  fails : ∀ report, emitted.1 = .error report → ∃ output,
    request.outputs.find? (fun output => !(reading.inspected fs request.contract output).isOk) =
        some output ∧
      reading.inspected fs request.contract output = .error report
  told : ∀ report refused output, emitted.1 = .error report →
    request.outputs.find? (fun output => !(reading.inspected fs request.contract output).isOk) =
        some output →
      reading.inspected fs request.contract output = .error refused → SameTexts report refused
  written : ∀ contract, reading.contractAt fs request.contract = .ok contract →
    ∀ output ∈ request.outputs.takeWhile
        fun output => (reading.inspected fs request.contract output).isOk,
      ∃ text, reading.inspected fs request.contract output = .ok text ∧
        emitted.2.readText (settings.filePath contract.name output) = .ok text
  files : ∀ place text, emitted.2.find? place = some (.file text) →
    fs.find? place = some (.file text) ∨
      ∃ contract, reading.contractAt fs request.contract = .ok contract ∧
        ∃ output ∈ request.outputs, reading.inspected fs request.contract output = .ok text ∧
          emitted.2.locate (settings.filePath contract.name output) = .ok place

theorem same_texts {found : Option Output} {inspected : Output → Except Report String}
    {emitted : Except Report (List String)}
    (fails : ∀ report, emitted = .error report →
      ∃ output, found = some output ∧ inspected output = .error report)
    (report refused : Report) (output : Output) (failed : emitted = .error report)
    (first : found = some output) (said : inspected output = .error refused) :
    SameTexts report refused := by
  obtain ⟨other, found, same⟩ := fails report failed
  obtain rfl := Option.some.inj (found.symm.trans first)
  obtain rfl := Except.error.inj (same.symm.trans said)
  exact ⟨rfl, rfl, rfl⟩

theorem agreement_unloaded {request : EmitRequest} (listed : request.outputs ≠ [])
    (unloaded : reading.contractAt fs request.contract = .error report) :
    Agreement reading settings request fs (.error report, fs) := by
  obtain ⟨first, rest, outputs⟩ := List.exists_cons_of_ne_nil listed
  have inspected := inspected_unloaded unloaded
  have refused : request.outputs.find?
      (fun output => !(reading.inspected fs request.contract output).isOk) = some first := by
    rw [outputs]
    exact List.find?_cons_of_pos (by rw [inspected first]; rfl)
  have fails (other : Report)
      (failed : (.error report : Except Report (List String)) = .error other) :
      ∃ output, request.outputs.find?
          (fun output => !(reading.inspected fs request.contract output).isOk) = some output ∧
        reading.inspected fs request.contract output = .error other := by
    cases failed
    exact ⟨first, refused, inspected first⟩
  refine ⟨?_, fails, same_texts fails, ?_, fun place text found => .inl found⟩
  · constructor
    · rintro ⟨paths, finished⟩
      cases finished
    · intro all
      obtain ⟨text, succeeded⟩ := all first (outputs ▸ List.mem_cons_self ..)
      rw [inspected first] at succeeded
      cases succeeded
  · intro contract loaded
    rw [unloaded] at loaded
    cases loaded

theorem wrote_files {done : List Output} {after : FileSystem} {start : Place}
    {names : List String} (grows : Grown start names fs grown)
    (wrote : Wrote settings contract done grown after) {place : Place} {text : String}
    (found : after.find? place = some (.file text)) :
    fs.find? place = some (.file text) ∨
      ∃ output ∈ done, contract.document output = .ok text ∧
        after.locate (settings.filePath contract.name output) = .ok place := by
  by_cases stored : ∃ output ∈ done,
      grown.locate (settings.filePath contract.name output) = .ok place
  · obtain ⟨output, listed, located⟩ := stored
    obtain ⟨written, rendered, read⟩ := wrote.files output listed
    have there := locate_kept wrote.keeps located
    obtain rfl := read_text_same there found read
    exact .inr ⟨output, listed, rendered, there⟩
  · have untouched : after.find? place = grown.find? place := by
      apply wrote.others
      intro output listed located
      exact stored ⟨output, listed, located⟩
    rw [untouched] at found
    cases before : fs.find? place with
    | some entry =>
      rw [grows.kept place entry before] at found
      exact .inl found
    | none =>
      rcases grows.made place before with still | ⟨directory, _⟩
      · rw [still] at found
        cases found
      · rw [directory] at found
        cases found

theorem agreement_loaded {request : EmitRequest}
    {emitted : Except Report (List String) × FileSystem}
    (loaded : reading.contractAt fs request.contract = .ok contract)
    (result : emitted.1 = contract.emitted settings request.outputs)
    (grows : Grown (fs.startOf settings.out) (Path.names settings.out) fs grown)
    (wrote : Wrote settings contract (contract.generated request.outputs) grown emitted.2) :
    Agreement reading settings request fs emitted := by
  have inspected := inspected_render loaded
  have fails (report : Report) (failed : emitted.1 = .error report) :
      ∃ output, request.outputs.find?
          (fun output => !(reading.inspected fs request.contract output).isOk) = some output ∧
        reading.inspected fs request.contract output = .error report := by
    rw [result, Contract.emitted] at failed
    rw [inspected]
    cases refused : request.outputs.findSome? contract.refusal? with
    | none => simp [refused] at failed
    | some first =>
      simp only [refused, Except.error.injEq] at failed
      rw [failed] at refused
      exact first_refused refused
  refine ⟨?_, fails, same_texts fails, ?_, ?_⟩
  · rw [result, emitted_ok_iff, inspected]
    simp only [render_ok_iff]
  · intro other sameFile output generated
    obtain rfl := Except.ok.inj (loaded.symm.trans sameFile)
    rw [inspected] at generated ⊢
    simp only [render_is_ok, render_ok_iff] at generated ⊢
    exact wrote.files output generated
  · intro place text found
    rcases wrote_files grows wrote found with before | ⟨output, generated, rendered, there⟩
    · exact .inl before
    · refine .inr ⟨contract, loaded, output, List.takeWhile_subset _ generated, ?_, there⟩
      rw [inspected, render_ok_iff]
      exact rendered

theorem configured_outputs {env : Environment} {request : EmitRequest}
    (listed : request.outputs ≠ [])
    (configured : (fs.perform (request.settings (diskReading reading) env)).1 = .ok settings) :
    settings.outputs = request.outputs := by
  rw [perform_settings] at configured
  cases loading : ((Settings.load (diskReading reading) env (request.root.getD ".")).run fs).1 with
  | error error =>
    rw [loading] at configured
    cases configured
  | ok loaded =>
    rw [loading] at configured
    obtain rfl : request.override loaded = settings := Except.ok.inj configured
    exact if_neg listed

theorem emit_agrees_with_inspect {env : Environment} {request : EmitRequest}
    (listed : request.outputs ≠ [])
    (configured : (fs.perform (request.settings (diskReading reading) env)).1 = .ok settings)
    (writable : ∀ contract, reading.contractAt fs request.contract = .ok contract →
      ∃ grown, Writable settings contract fs grown) :
    Agreement reading settings request fs
      (fs.perform (Command.runEmit (diskReading reading) env request)) := by
  cases loaded : reading.contractAt fs request.contract with
  | error report =>
    rw [emit_unloaded configured loaded]
    exact agreement_unloaded listed loaded
  | ok contract =>
    obtain ⟨grown, ready⟩ := writable contract loaded
    obtain ⟨result, wrote⟩ := emit_wrote configured loaded ready
    rw [configured_outputs listed configured] at result wrote
    exact agreement_loaded loaded result (writable_grown ready) wrote

theorem half_agreement :
    halfRequest.outputs ≠ [] ∧
      (shelf.perform (halfRequest.settings (diskReading readText) [])).1 = .ok halfSettings ∧
        Reading.contractAt readText shelf halfRequest.contract = .ok half ∧
          Agreement readText halfSettings halfRequest shelf
            (shelf.perform (Command.runEmit (diskReading readText) [] halfRequest)) := by
  have listed : halfRequest.outputs ≠ [] := List.cons_ne_nil _ _
  have configured : (shelf.perform (halfRequest.settings (diskReading readText) [])).1 =
      .ok halfSettings := rfl
  have loaded : Reading.contractAt readText shelf halfRequest.contract = .ok half :=
    contract_at_file rfl (Json.read_written (contract_reads half))
  refine ⟨listed, configured, loaded,
    emit_agrees_with_inspect listed configured fun contract same => ?_⟩
  obtain rfl := Except.ok.inj (loaded.symm.trans same)
  exact ⟨_, half_writable⟩

end NatSpec
