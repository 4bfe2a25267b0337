import ComponentSplit.Failure

namespace ComponentSplit

/-- How often each tag occurs, in the order of first occurrences, and whether any style section
asks for scoping. -/
structure Census where
  counts : List (String × Nat)
  hasScopedStyle : Bool
deriving DecidableEq, Repr

/-- The kinds of section of which a document may have one at most. -/
def singleKinds : List String := ["template", "script"]

namespace Census

def ofSections (sections : List Section) : Census where
  counts := (sections.map (·.tag)).eraseDups.map fun tag =>
    (tag, (sections.map (·.tag)).count tag)
  hasScopedStyle := sections.any fun s => s.tag == "style" && s.isScoped

def count (c : Census) (tag : String) : Nat := (c.counts.lookup tag).getD 0

def exceeded? (c : Census) : Option String := singleKinds.find? fun kind => 1 < c.count kind

end Census

/-- The census of the sections, unless one kind occurs too often. -/
def validateSections (sections : List Section) (path : Option String) : Except Failure Census :=
  let census := Census.ofSections sections
  match census.exceeded? with
  | some kind => .error (.document (.tooMany kind (census.count kind)) path)
  | none => .ok census

end ComponentSplit
