import NatSpec.FileSystem

set_option autoImplicit false

namespace NatSpec

structure Disk (m : Type → Type) where
  workDir : m Place
  isFile : String → m Bool
  readText : String → m (Except OsError String)
  makeDirs : String → m (Except OsError Unit)
  writeText : String → String → m (Except OsError Unit)

namespace FileSystem

def update (change : FileSystem → Except OsError FileSystem) :
    StateM FileSystem (Except OsError Unit) := fun fs =>
  match change fs with
  | .ok changed => (.ok (), changed)
  | .error error => (.error error, fs)

def disk : Disk (StateM FileSystem) where
  workDir := fun fs => (fs.workDir, fs)
  isFile path := fun fs => (fs.isFile path, fs)
  readText path := fun fs => (fs.readText path, fs)
  makeDirs path := fun fs => makeDirs path fs
  writeText path text := update (writeText path text)

end FileSystem

end NatSpec
