import NatSpec.Command.Run

set_option autoImplicit false

namespace NatSpec

namespace FileSystem

abbrev Reading := FileSystem → String → Except OsError String

def diskReading (reading : Reading) : Disk (StateM FileSystem) :=
  { disk with readText := fun path fs => (reading fs path, fs) }

theorem disk_reading_texts : diskReading readText = disk :=
  rfl

variable {α β : Type} {reading : Reading}

def perform (fs : FileSystem) (action : ExceptT Report (StateM FileSystem) α) :
    Except Report α × FileSystem :=
  action.run.run fs

section sequence

variable {fs later : FileSystem} {action : ExceptT Report (StateM FileSystem) α}
  {next : α → ExceptT Report (StateM FileSystem) β}

theorem perform_bind_ok {value : α} (done : fs.perform action = (.ok value, later)) :
    fs.perform (action >>= next) = later.perform (next value) := by
  unfold perform at done ⊢
  rw [ExceptT.run_bind, StateT.run_bind, done]
  rfl

theorem perform_bind_error {report : Report} (failed : fs.perform action = (.error report, later)) :
    fs.perform (action >>= next) = (.error report, later) := by
  unfold perform at failed ⊢
  rw [ExceptT.run_bind, StateT.run_bind, failed]
  rfl

theorem perform_given (fs : FileSystem) (result : Except Report α) :
    fs.perform (ExceptT.mk (pure result)) = (result, fs) :=
  rfl

end sequence

theorem perform_mk_bind (fs : FileSystem) (action : StateM FileSystem α)
    (next : α → StateM FileSystem (Except Report β)) :
    fs.perform (ExceptT.mk (action >>= next)) = (next (action.run fs).1).run (action.run fs).2 :=
  rfl

theorem perform_step (fs : FileSystem) (message : String)
    (action : StateM FileSystem (Except OsError α)) :
    fs.perform (Disk.step message action) =
      ((action.run fs).1.mapError fun error => .because message error.message,
        (action.run fs).2) :=
  rfl

theorem perform_write (reading : Reading) (fs : FileSystem) (path text : String)
    {written : FileSystem} (stored : writeText path text fs = .ok written) :
    fs.perform (Disk.step ("failed to write " ++ path)
        ((diskReading reading).writeText path text)) = (.ok (), written) := by
  have updated : ((diskReading reading).writeText path text).run fs = (.ok (), written) := by
    change update (writeText path text) fs = _
    rw [update, stored]
  rw [perform_step, updated]
  rfl

def Reading.contractAt (reading : Reading) (fs : FileSystem) (path : String) :
    Except Report Contract :=
  match reading fs path with
  | .error error => .error (.because ("failed to read contract definition " ++ path) error.message)
  | .ok text => Contract.ofFileText path text

theorem perform_load_contract (reading : Reading) (fs : FileSystem) (path : String) :
    fs.perform (Command.loadContract (diskReading reading) path) =
      (reading.contractAt fs path, fs) := by
  have opening := perform_step fs ("failed to read contract definition " ++ path)
    ((diskReading reading).readText path)
  change _ = ((reading fs path).mapError _, fs) at opening
  unfold Command.loadContract Reading.contractAt
  cases read : reading fs path with
  | error error =>
    rw [read] at opening
    exact perform_bind_error opening
  | ok text =>
    rw [read] at opening
    exact perform_bind_ok opening

theorem perform_inspect (reading : Reading) (fs : FileSystem) (path : String) (output : Output) :
    fs.perform (Command.runInspect (diskReading reading) path output) =
      (reading.contractAt fs path >>= fun contract => contract.render output, fs) := by
  have loading := perform_load_contract reading fs path
  unfold Command.runInspect
  cases loaded : reading.contractAt fs path with
  | error report =>
    rw [loaded] at loading
    exact perform_bind_error loading
  | ok contract =>
    rw [loaded] at loading
    exact perform_bind_ok loading

section loading

open Settings

variable {fs : FileSystem}

theorem run_bind {action : StateM FileSystem α} {next : α → StateM FileSystem β} {value : α}
    {later : FileSystem} (ran : action.run fs = (value, later)) :
    (action >>= next).run fs = (next value).run later := by
  rw [StateT.run_bind, ran]
  rfl

theorem first_file_run (paths : List String) :
    (firstFile (diskReading reading) paths).run fs = (paths.find? fs.isFile, fs) := by
  induction paths with
  | nil => rfl
  | cons path rest ih =>
    have asked : ((diskReading reading).isFile path).run fs = (fs.isFile path, fs) := rfl
    rw [firstFile, run_bind asked, List.find?_cons]
    cases fs.isFile path with
    | true => rfl
    | false => exact ih

def fileLayer (reading : Reading) (fs : FileSystem) (root : String) :
    Except LoadError (Option (String × Dict Value)) :=
  match (candidates fs.workDir root).find? fs.isFile with
  | none => .ok none
  | some path =>
    match reading fs path with
    | .error error => .error (.unreadable (shownPath fs.workDir path) error)
    | .ok text =>
      match (Toml.read text).bind unwrappedFile? with
      | none => .error (.malformed (shownPath fs.workDir path))
      | some members => .ok (some (shownPath fs.workDir path, members))

theorem load_file_run (reading : Reading) (fs : FileSystem) (root : String) :
    (loadFile (diskReading reading) root).run fs = (fileLayer reading fs root, fs) := by
  have working : (diskReading reading).workDir.run fs = (fs.workDir, fs) := rfl
  rw [loadFile, fileLayer, run_bind working, run_bind (first_file_run _)]
  cases (candidates fs.workDir root).find? fs.isFile with
  | none => rfl
  | some path =>
    have opened : ((diskReading reading).readText path).run fs = (reading fs path, fs) := rfl
    dsimp only
    rw [run_bind opened]
    cases reading fs path with
    | error error => rfl
    | ok text =>
      dsimp only
      cases (Toml.read text).bind unwrappedFile? <;> rfl

theorem load_run (reading : Reading) (fs : FileSystem) (env : Environment) (root : String) :
    (load (diskReading reading) env root).run fs =
      ((fileLayer reading fs root).bind fun found => Layers.settings ⟨found, ofEnvironment env⟩,
        fs) := by
  rw [load, run_bind (load_file_run reading fs root)]
  cases fileLayer reading fs root <;> rfl

end loading

theorem perform_settings (reading : Reading) (fs : FileSystem) (env : Environment)
    (request : EmitRequest) :
    fs.perform (request.settings (diskReading reading) env) =
      ((((Settings.load (diskReading reading) env (request.root.getD ".")).run fs).1.mapError
        fun error => .ofMessage error.message).map request.override, fs) := by
  unfold EmitRequest.settings
  rw [perform_mk_bind, load_run]
  dsimp only
  cases (fileLayer reading fs (request.root.getD ".")).bind _ <;> rfl

theorem perform_configured {fs : FileSystem} {env : Environment} {request : EmitRequest}
    {settings : Settings}
    (configured : (fs.perform (request.settings (diskReading reading) env)).1 = .ok settings) :
    fs.perform (request.settings (diskReading reading) env) = (.ok settings, fs) := by
  rw [perform_settings] at configured ⊢
  rw [← configured]

end FileSystem

end NatSpec
