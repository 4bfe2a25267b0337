import ComponentSplit.Path.Lexical

namespace ComponentSplit

/-- Where a path starts. -/
inductive PathRoot
  | relative
  | single
  | double
deriving DecidableEq, Repr

def PathRoot.text : PathRoot → List Char
  | relative => []
  | single => ['/']
  | double => ['/', '/']

/-- A component that is kept in a path. A double dot is one. -/
structure IsPart (name : String) : Prop where
  ne_empty : name ≠ ""
  ne_dot : name ≠ "."
  slash : '/' ∉ name.toList

instance decidableIsPart (name : String) : Decidable (IsPart name) :=
  decidable_of_iff (name ≠ "" ∧ name ≠ "." ∧ '/' ∉ name.toList)
    ⟨fun ⟨hempty, hdot, hslash⟩ => ⟨hempty, hdot, hslash⟩,
      fun h => ⟨h.ne_empty, h.ne_dot, h.slash⟩⟩

/-- A path: its root and its components. -/
@[ext]
structure FilePath where
  root : PathRoot := .relative
  parts : List String := []
  isPart : ∀ name ∈ parts, IsPart name := by decide
deriving DecidableEq, Repr

namespace FilePath

def ofText (text : List Char) : FilePath where
  root :=
    match (text.takeWhile (· == '/')).length with
    | 0 => .relative
    | 2 => .double
    | _ => .single
  parts := (components text).filter fun name => name ≠ "" ∧ name ≠ "."
  isPart := fun name hname => by
    obtain ⟨hmem, hkept⟩ := List.mem_filter.mp hname
    obtain ⟨hempty, hdot⟩ := of_decide_eq_true hkept
    exact ⟨hempty, hdot, slash_not_mem_component hmem⟩

theorem parts_ofText (text : List Char) :
    (ofText text).parts = (components text).filter fun name => name ≠ "" ∧ name ≠ "." := rfl

/-- The path from the root down to a place. -/
def ofPlace (place : Place) : FilePath := .ofText ('/' :: joinFields '/' (place.map String.toList))

/-- The text of a path; the empty one is a single dot. -/
def text (path : FilePath) : List Char :=
  if path.root = .relative ∧ path.parts.isEmpty then ['.']
  else path.root.text ++ joinFields '/' (path.parts.map String.toList)

def toString (path : FilePath) : String := String.ofList path.text

def isAbsolute (path : FilePath) : Bool := path.root != .relative

/-- A path behind another; an absolute path takes its place. -/
def join (directory path : FilePath) : FilePath :=
  if path.isAbsolute then path
  else
    { directory with
      parts := directory.parts ++ path.parts
      isPart := List.forall_mem_append.mpr ⟨directory.isPart, path.isPart⟩ }

/-- A path without its root. -/
def dropRoot (path : FilePath) : FilePath := { path with root := .relative }

def parent (path : FilePath) : FilePath :=
  { path with
    parts := path.parts.dropLast
    isPart := fun name hname => path.isPart name (List.dropLast_subset _ hname) }

/-- The place a path names, seen from a working directory, when no link is met. -/
def place (cwd : Place) (path : FilePath) : Place :=
  path.parts.foldl Place.enter (if path.isAbsolute then [] else cwd)

end FilePath

end ComponentSplit
