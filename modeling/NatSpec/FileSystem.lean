import NatSpec.OsError
import NatSpec.Path

set_option autoImplicit false

namespace NatSpec

abbrev Place := List String

inductive Entry where
  | file (text : String)
  | directory
deriving DecidableEq, Repr

def entryAt (place : Place) : List (Place × Entry) → Option Entry
  | [] => none
  | (other, entry) :: rest => if place = other then some entry else entryAt place rest

def putEntry (place : Place) (entry : Entry) : List (Place × Entry) → List (Place × Entry)
  | [] => [(place, entry)]
  | (other, old) :: rest =>
    if place = other then (place, entry) :: rest else (other, old) :: putEntry place entry rest

theorem entryAt_putEntry (place other : Place) (entry : Entry) (entries : List (Place × Entry)) :
    entryAt other (putEntry place entry entries) =
      if other = place then some entry else entryAt other entries := by
  induction entries with
  | nil => rfl
  | cons head rest ih =>
    rcases head with ⟨there, old⟩
    by_cases same : place = there
    · subst same
      by_cases here : other = place <;> simp [putEntry, entryAt, here]
    · simp only [putEntry, if_neg same, entryAt, ih]
      by_cases here : other = there
      · subst here
        simp [Ne.symm same]
      · simp [here]

-- Assumes that there are no hard or symbolic links: each place has an entry of its own, and no place
-- leads to another.
structure FileSystem where
  entries : List (Place × Entry)
  workDir : Place

namespace FileSystem

def find? (fs : FileSystem) (place : Place) : Option Entry :=
  if place = [] then some .directory else entryAt place fs.entries

def put (place : Place) (entry : Entry) (fs : FileSystem) : FileSystem :=
  { fs with entries := putEntry place entry fs.entries }

theorem find?_put (fs : FileSystem) (place other : Place) (entry : Entry) (h : place ≠ []) :
    (fs.put place entry).find? other = if other = place then some entry else fs.find? other := by
  simp only [find?, put, entryAt_putEntry]
  by_cases root : other = []
  · subst root
    simp [Ne.symm h]
  · simp [root]

def longestName : Nat := 255

def longestPath : Nat := 4095

def enter (fs : FileSystem) (place : Place) (name : String) : Except OsError Place :=
  match fs.find? place with
  | none => .error .notFound
  | some (.file _) => .error .notDirectory
  | some .directory =>
    if name = ".." then .ok place.dropLast
    else if longestName < name.utf8ByteSize then .error .nameTooLong
    else .ok (place ++ [name])

def walk (fs : FileSystem) : Place → List String → Except OsError Place
  | place, [] => .ok place
  | place, name :: rest => (fs.enter place name).bind fun next => fs.walk next rest

def startOf (fs : FileSystem) (path : String) : Place :=
  if Path.isAbsolute path then [] else fs.workDir

def checkPath (path : String) : Except OsError Unit :=
  if path.toList.contains '\x00' then .error .nulInName
  else if longestPath < path.utf8ByteSize then .error .nameTooLong
  else .ok ()

def locate (fs : FileSystem) (path : String) : Except OsError Place := do
  checkPath path
  if path = "" then .error .notFound
  else fs.walk (fs.startOf path) (Path.names path)

def readText (fs : FileSystem) (path : String) : Except OsError String := do
  let place ← fs.locate path
  match fs.find? place with
  | none => .error .notFound
  | some .directory => .error .isDirectory
  | some (.file text) => if Path.endsInDirectory path then .error .notDirectory else .ok text

def isFile (fs : FileSystem) (path : String) : Bool := (fs.readText path).isOk

def writeText (path text : String) (fs : FileSystem) : Except OsError FileSystem := do
  let place ← fs.locate path
  match fs.find? place with
  | some .directory => .error .isDirectory
  | some (.file _) =>
    if Path.endsInDirectory path then .error .notDirectory else .ok (fs.put place (.file text))
  | none =>
    if Path.endsInDirectory path then .error .isDirectory else .ok (fs.put place (.file text))

def makeDir (start : Place) (names : List String) (fs : FileSystem) :
    Except OsError FileSystem := do
  let place ← fs.walk start names
  match fs.find? place with
  | some _ => .error .fileExists
  | none => .ok (fs.put place .directory)

def requireDir (start : Place) (names : List String) (fs : FileSystem) :
    Except OsError FileSystem := do
  let place ← fs.walk start names
  match fs.find? place with
  | some .directory => .ok fs
  | some (.file _) => .error .notDirectory
  | none => .error .notFound

def ensureDir (start : Place) (names : List String) (fs : FileSystem) :
    Except OsError FileSystem :=
  match fs.makeDir start names with
  | .error .fileExists =>
    if (fs.requireDir start names).isOk then .ok fs else .error .fileExists
  | result => result

-- Tries to get a directory, given by its names last one first. If one above it is missing that one
-- comes first, and then there is a second try. What was made stays also after a failure.
def ensureDirs (start : Place) (get : List String → FileSystem → Except OsError FileSystem) :
    List String → FileSystem → Except OsError Unit × FileSystem
  | [], fs => (.ok (), fs)
  | name :: above, fs =>
    match get (name :: above).reverse fs with
    | .ok changed => (.ok (), changed)
    | .error .notFound =>
      match ensureDirs start (ensureDir start) above fs with
      | (.ok (), grown) =>
        match get (name :: above).reverse grown with
        | .ok changed => (.ok (), changed)
        | .error error => (.error error, grown)
      | failed => failed
    | .error error => (.error error, fs)

def makeDirs (path : String) (fs : FileSystem) : Except OsError Unit × FileSystem :=
  let start := fs.startOf path
  match checkPath path with
  | .error error => (.error error, fs)
  | .ok () =>
    ensureDirs start (if Path.endsInDot path then requireDir start else ensureDir start)
      (Path.names path).reverse fs

end FileSystem

end NatSpec
