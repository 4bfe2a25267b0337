import ComponentSplit.Failure
import ComponentSplit.Path.FilePath

namespace ComponentSplit

/-- Files with their places, directories made without a file in them, and the directory that paths
are seen from. -/
structure FileTree where
  cwd : Place
  files : List (Place × ByteArray) := []
  directories : List Place := []

namespace FileTree

def file? (t : FileTree) (place : Place) : Option ByteArray := t.files.lookup place

/-- A directory is at a place when something is known to be in it. -/
def isDirectory (t : FileTree) (place : Place) : Bool :=
  place.isPrefixOf t.cwd || t.directories.any place.isPrefixOf ||
    t.files.any fun (file, _) => place.isPrefixOf file && place != file

/-- The longest name of a file or directory, and the longest path, in bytes. -/
def maxNameSize : Nat := 255
def maxPathSize : Nat := 4095

/-- The place that components lead to from another place. -/
def walk (t : FileTree) (place : Place) : List String → Except FileFault Place
  | [] => .ok place
  | name :: rest =>
    if (t.file? place).isSome then .error .notDirectory
    else if !t.isDirectory place then .error .notFound
    else if maxNameSize < name.utf8ByteSize then .error .nameTooLong
    else t.walk (place.enter name) rest

def origin (t : FileTree) (path : FilePath) : Place := if path.isAbsolute then [] else t.cwd

def follow (t : FileTree) (path : FilePath) : Except FileFault Place :=
  if maxPathSize < path.toString.utf8ByteSize then .error .nameTooLong
  else t.walk (t.origin path) path.parts

def fail (fault : FileFault) (path : FilePath) : Except Failure α :=
  .error (.file fault path.toString)

/-- A path with a null in it names nothing at all. -/
def checkNull (path : FilePath) : Except Failure Unit :=
  if path.text.contains '\x00' then .error (.embeddedNull "byte") else .ok ()

/-- The bytes of the file that a path names. -/
def read (t : FileTree) (path : FilePath) : Except Failure ByteArray := do
  checkNull path
  match t.follow path with
  | .error fault => fail fault path
  | .ok place =>
    match t.file? place with
    | some bytes => .ok bytes
    | none => fail (if t.isDirectory place then .isDirectory else .notFound) path

def holds (t : FileTree) (place : Place) : Bool := (t.file? place).isSome || t.isDirectory place

/-- The place of the thing a path leads to, if there is one. Only a name that is too long makes it
impossible to tell. -/
def find? (t : FileTree) (path : FilePath) : Except Failure (Option Place) :=
  if path.text.contains '\x00' then .ok none
  else
    match t.follow path with
    | .ok place => .ok (some place |>.filter t.holds)
    | .error .nameTooLong => fail .nameTooLong path
    | .error _ => .ok none

def makeOne (t : FileTree) (path : FilePath) : Except FileFault FileTree := do
  let place ← t.follow path
  if t.holds place then .error .alreadyThere
  else pure { t with directories := t.directories ++ [place] }

/-- A directory could not be made. That is no failure if there is one already. -/
def settle (t : FileTree) (path : FilePath) (fault : FileFault) : FileTree × Except Failure Unit :=
  match t.follow path with
  | .ok place => (t, if t.isDirectory place then .ok () else fail fault path)
  | .error _ => (t, fail fault path)

/-- Make the directory that a path names, and `depth` of those on the way to it. What is made
before a failure stays. -/
def makeDirectory (t : FileTree) (path : FilePath) : (depth : Nat) → FileTree × Except Failure Unit
  | 0 =>
    match t.makeOne path with
    | .ok made => (made, .ok ())
    | .error fault => t.settle path fault
  | depth + 1 =>
    match t.makeOne path with
    | .ok made => (made, .ok ())
    | .error .notFound =>
      match t.makeDirectory path.parent depth with
      | (t, .ok ()) => makeDirectory t path 0
      | failed => failed
    | .error fault => t.settle path fault

/-- Put bytes at a place, over what was there. -/
def put (t : FileTree) (place : Place) (bytes : ByteArray) : FileTree :=
  { t with files := t.files.filter (·.1 != place) ++ [(place, bytes)] }

/-- Write the file that a path names, in a directory that is there. -/
def overwrite (t : FileTree) (path : FilePath) (bytes : ByteArray) : Except Failure FileTree := do
  checkNull path
  match t.follow path with
  | .error fault => fail fault path
  | .ok place => if t.isDirectory place then fail .isDirectory path else pure (t.put place bytes)

/-- Write the file that a path names, in directories made for it. -/
def write (t : FileTree) (path : FilePath) (bytes : ByteArray) : FileTree × Except Failure Unit :=
  match checkNull path.parent with
  | .error failure => (t, .error failure)
  | .ok () =>
    match t.makeDirectory path.parent path.parts.length with
    | (t, .error failure) => (t, .error failure)
    | (t, .ok ()) =>
      match t.overwrite path bytes with
      | .ok t => (t, .ok ())
      | .error failure => (t, .error failure)

def passed (place : Place) : List String → List Place
  | [] => [place]
  | name :: rest => place :: passed (place.enter name) rest

/-- Paths by their components. -/
def comesBefore : Place → Place → Bool
  | [], _ => true
  | _ :: _, [] => false
  | a :: as, b :: bs => if a = b then comesBefore as bs else a < b

/-- The files below the working directory, as components seen from there, in order. -/
def listing (t : FileTree) : List (Place × ByteArray) :=
  let own := t.files.filterMap fun (place, bytes) =>
    if t.cwd.isPrefixOf place then some (place.drop t.cwd.length, bytes) else none
  own.mergeSort fun a b => comesBefore a.1 b.1

/-- A tree of files given by their paths from the working directory. -/
def ofFiles (cwd : Place) (files : List (String × ByteArray)) : FileTree where
  cwd
  files := files.map fun (path, bytes) => (.ofPath cwd path.toList, bytes)

end FileTree

end ComponentSplit
