import NatSpec.FileSystem
import NatSpec.Proofs.Outcome

set_option autoImplicit false

namespace NatSpec.FileSystem

structure KeepsDirectories (fs later : FileSystem) : Prop where
  workDir : later.workDir = fs.workDir
  kept : ∀ place, fs.find? place = some .directory → later.find? place = some .directory

variable {fs middle later : FileSystem} {start place next : Place} {name path : String}

theorem keeps_refl (fs : FileSystem) : KeepsDirectories fs fs :=
  ⟨rfl, fun _ directory => directory⟩

theorem keeps_trans (first : KeepsDirectories fs middle) (second : KeepsDirectories middle later) :
    KeepsDirectories fs later :=
  ⟨second.workDir.trans first.workDir,
    fun place directory => second.kept place (first.kept place directory)⟩

theorem enter_ok (entered : fs.enter place name = .ok next) :
    fs.find? place = some .directory ∧
      ((name = ".." ∧ next = place.dropLast) ∨
        (name ≠ ".." ∧ name.utf8ByteSize ≤ longestName ∧ next = place ++ [name])) := by
  unfold enter at entered
  cases found : fs.find? place with
  | none => simp [found] at entered
  | some entry =>
    cases entry with
    | file text => simp [found] at entered
    | directory =>
      simp only [found] at entered
      refine ⟨rfl, ?_⟩
      by_cases up : name = ".."
      · rw [if_pos up] at entered
        exact .inl ⟨up, (Except.ok.inj entered).symm⟩
      · rw [if_neg up] at entered
        by_cases long : longestName < name.utf8ByteSize
        · rw [if_pos long] at entered
          cases entered
        · rw [if_neg long] at entered
          exact .inr ⟨up, Nat.le_of_not_lt long, (Except.ok.inj entered).symm⟩

theorem enter_kept (same : KeepsDirectories fs later) (entered : fs.enter place name = .ok next) :
    later.enter place name = .ok next := by
  have there := (enter_ok entered).1
  unfold enter at entered ⊢
  rw [same.kept place there]
  rwa [there] at entered

theorem walk_cons (fs : FileSystem) (start : Place) (name : String) (rest : List String) :
    fs.walk start (name :: rest) = (fs.enter start name).bind fun next => fs.walk next rest :=
  rfl

theorem walk_kept (same : KeepsDirectories fs later) {names : List String}
    (walked : fs.walk start names = .ok place) : later.walk start names = .ok place := by
  induction names generalizing start with
  | nil => exact walked
  | cons name rest ih =>
    obtain ⟨next, entered, onward⟩ := bind_ok walked
    rw [walk_cons, enter_kept same entered]
    exact ih onward

theorem walk_append (fs : FileSystem) (start : Place) (first second : List String) :
    fs.walk start (first ++ second) =
      (fs.walk start first).bind fun place => fs.walk place second := by
  induction first generalizing start with
  | nil => rfl
  | cons name rest ih =>
    rw [List.cons_append, walk_cons, walk_cons]
    cases fs.enter start name with
    | error error => rfl
    | ok next => exact ih next

theorem walk_last {above : List String} (walked : fs.walk start (above ++ [name]) = .ok place)
    (down : name ≠ "..") : ∃ directory, fs.walk start above = .ok directory ∧
      fs.find? directory = some .directory ∧ place = directory ++ [name] := by
  rw [walk_append] at walked
  obtain ⟨directory, reached, entering⟩ := bind_ok walked
  obtain ⟨next, entered, stopped⟩ := bind_ok entering
  obtain rfl := Except.ok.inj stopped
  obtain ⟨isDirectory, ⟨up, _⟩ | ⟨_, _, rfl⟩⟩ := enter_ok entered
  · exact absurd up down
  · exact ⟨directory, reached, isDirectory, rfl⟩

theorem locate_ok_iff : fs.locate path = .ok place ↔
    checkPath path = .ok () ∧ path ≠ "" ∧
      fs.walk (fs.startOf path) (Path.names path) = .ok place := by
  unfold locate
  cases checked : checkPath path with
  | error error => simp [bind, Except.bind]
  | ok allowed =>
    change (if path = "" then Except.error OsError.notFound
      else fs.walk (fs.startOf path) (Path.names path)) = .ok place ↔ _
    by_cases empty : path = ""
    · simp [empty]
    · simp [empty]

theorem locate_kept (same : KeepsDirectories fs later) (located : fs.locate path = .ok place) :
    later.locate path = .ok place := by
  rw [locate_ok_iff] at located ⊢
  have start : later.startOf path = fs.startOf path := by
    unfold startOf
    rw [same.workDir]
  rw [start]
  exact ⟨located.1, located.2.1, walk_kept same located.2.2⟩

structure Accepts (fs : FileSystem) (path : String) (place : Place) : Prop where
  located : fs.locate path = .ok place
  free : fs.find? place ≠ some .directory
  file : Path.endsInDirectory path = false

theorem find_root (fs : FileSystem) : fs.find? [] = some .directory :=
  rfl

theorem accepts_not_root (accepted : fs.Accepts path place) : place ≠ [] := by
  intro root
  apply accepted.free
  rw [root]
  exact find_root fs

theorem write_text_at {text : String} (located : fs.locate path = .ok place) :
    writeText path text fs =
      if fs.find? place = some .directory then .error .isDirectory
      else if Path.endsInDirectory path = false then .ok (fs.put place (.file text))
      else .error (if fs.find? place = none then .isDirectory else .notDirectory) := by
  unfold writeText
  rw [bind_of_ok located]
  cases fs.find? place with
  | none => cases Path.endsInDirectory path <;> rfl
  | some entry =>
    cases entry with
    | directory => rfl
    | file old => cases Path.endsInDirectory path <;> rfl

theorem write_accepted (accepted : fs.Accepts path place) (text : String) :
    writeText path text fs = .ok (fs.put place (.file text)) := by
  rw [write_text_at accepted.located, if_neg accepted.free, if_pos accepted.file]

theorem write_text_ok {text : String} (written : writeText path text fs = .ok later) :
    ∃ place, fs.Accepts path place := by
  obtain ⟨place, located, _⟩ := bind_ok written
  rw [write_text_at located] at written
  by_cases directory : fs.find? place = some .directory
  · rw [if_pos directory] at written
    cases written
  · rw [if_neg directory] at written
    by_cases file : Path.endsInDirectory path = false
    · exact ⟨place, located, directory, file⟩
    · rw [if_neg file] at written
      cases written

theorem read_text_at {text : String} (located : fs.locate path = .ok place)
    (found : fs.find? place = some (.file text)) :
    fs.readText path =
      if Path.endsInDirectory path then .error .notDirectory else .ok text := by
  unfold readText
  rw [bind_of_ok located, found]

theorem read_text_file {text : String} (located : fs.locate path = .ok place)
    (file : Path.endsInDirectory path = false) (found : fs.find? place = some (.file text)) :
    fs.readText path = .ok text := by
  rw [read_text_at located found, file]
  rfl

theorem read_text_same {text other : String} (located : fs.locate path = .ok place)
    (found : fs.find? place = some (.file text)) (read : fs.readText path = .ok other) :
    other = text := by
  rw [read_text_at located found] at read
  by_cases directory : Path.endsInDirectory path = true
  · rw [if_pos directory] at read
    cases read
  · rw [if_neg directory] at read
    exact (Except.ok.inj read).symm

-- A file never stands where a directory is needed, so writing one leads no path astray.
theorem put_file_keeps (accepted : fs.Accepts path place) (text : String) :
    KeepsDirectories fs (fs.put place (.file text)) where
  workDir := rfl
  kept := by
    intro other directory
    rw [find?_put fs place other _ (accepts_not_root accepted)]
    by_cases same : other = place
    · rw [same] at directory
      exact absurd directory accepted.free
    · rw [if_neg same]
      exact directory

theorem put_file_kept (accepted : fs.Accepts path place) (text : String) :
    KeepsDirectories (fs.put place (.file text)) fs where
  workDir := rfl
  kept := by
    intro other directory
    rw [find?_put fs place other _ (accepts_not_root accepted)] at directory
    by_cases same : other = place
    · rw [if_pos same] at directory
      cases directory
    · rwa [if_neg same] at directory

theorem accepts_after_put {path' : String} {place' : Place} (accepted : fs.Accepts path place)
    (other : fs.Accepts path' place') (text : String) :
    (fs.put place (.file text)).Accepts path' place' where
  located := locate_kept (put_file_keeps accepted text) other.located
  free := by
    rw [find?_put fs place place' _ (accepts_not_root accepted)]
    by_cases same : place' = place
    · rw [if_pos same]
      exact nofun
    · rw [if_neg same]
      exact other.free
  file := other.file

end NatSpec.FileSystem
