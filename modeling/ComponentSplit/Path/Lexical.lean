import ComponentSplit.Path.Name

namespace ComponentSplit

/-- The components of a directory tree's root down to a place. -/
abbrev Place := List String

/-- One component further: a single dot stays, a double dot goes up, at the root to the root. -/
def Place.enter (place : Place) (name : String) : Place :=
  if name = "" ∨ name = "." then place
  else if name = ".." then place.dropLast
  else place ++ [name]

def components (path : List Char) : List String := (fields '/' path).map String.ofList

theorem slash_not_mem_component {path : List Char} {name : String} (h : name ∈ components path) :
    '/' ∉ name.toList := by
  obtain ⟨field, hfield, rfl⟩ := List.mem_map.mp h
  rw [String.toList_ofList]
  exact not_mem_of_mem_fields hfield

/-- The place a path names, seen from a working directory. -/
def Place.ofPath (cwd : Place) (path : List Char) : Place :=
  (components path).foldl Place.enter (if path.head? = some '/' then [] else cwd)

/-- The components two places share from the root on. -/
def sharedComponents : Place → Place → Nat
  | a :: as, b :: bs => if a = b then sharedComponents as bs + 1 else 0
  | _, _ => 0

/-- The way from one place to another, up to the last shared directory and down again. -/
def relativeComponents (start target : Place) : List String :=
  let shared := sharedComponents start target
  List.replicate (start.length - shared) ".." ++ target.drop shared

/-- Components as a path; none at all are a single dot. -/
def pathOfComponents (names : List String) : List Char :=
  if names.isEmpty then ['.'] else joinFields '/' (names.map String.toList)

/-- The path that leads to a path from a directory. The empty path leads nowhere. -/
def relativePath? (cwd : Place) (path start : List Char) : Option (List Char) :=
  if path.isEmpty then none
  else some (pathOfComponents (relativeComponents (.ofPath cwd start) (.ofPath cwd path)))

end ComponentSplit
