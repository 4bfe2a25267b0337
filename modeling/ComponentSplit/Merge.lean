import ComponentSplit.Compile

namespace ComponentSplit

/-- The merged parts of a tag. Language and extension are those of the last part. -/
structure MergedSection where
  tag : String
  content : String
  lang : Option String
  extension : String
  count : Nat := 1
deriving DecidableEq, Repr

/-- Parts by their place in the document; parts of one place stay in their order. -/
def sortParts (parts : List Part) : List Part :=
  parts.mergeSort fun a b => a.index ≤ b.index

def mergeTag (tag : String) (parts : List Part) : Option MergedSection :=
  let own := parts.filter (·.tag == tag)
  own.getLast?.map fun last =>
    ⟨tag, "\n".intercalate (own.map (·.content)), last.lang, last.extension, own.length⟩

/-- The merged sections, in the order in which their tags first occur in the document. A tag
without parts is absent, which is not the same as one with empty content. -/
def mergeParts (parts : List Part) : List MergedSection :=
  let sorted := sortParts parts
  (sorted.map (·.tag)).eraseDups.filterMap fun tag => mergeTag tag sorted

def mergedFor? (merged : List MergedSection) (tag : String) : Option MergedSection :=
  merged.find? (·.tag == tag)

/-- The merged content of a tag. One without parts has none, not even an empty one. -/
def contentFor? (merged : List MergedSection) (tag : String) : Option String :=
  (mergedFor? merged tag).map (·.content)

end ComponentSplit
