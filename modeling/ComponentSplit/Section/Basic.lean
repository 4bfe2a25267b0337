import ComponentSplit.Markup.Token
import ComponentSplit.Section.Position

namespace ComponentSplit

/-- A top-level element. `start` and `stop` enclose the whole element, `bodyStart` and `bodyStop`
what stands between its tags. -/
structure Section where
  tag : String
  attrs : List Attribute := []
  content : String := ""
  start : Nat := 0
  stop : Nat := 0
  bodyStart : Nat := 0
  bodyStop : Nat := 0
  position : Position := ⟨1, 0⟩
deriving DecidableEq, Repr

namespace Section

/-- The value of the first attribute of a name; an attribute without a value has the empty one. -/
def attr? (s : Section) (name : String) : Option String :=
  (s.attrs.find? (·.name == name)).map fun a => a.value.getD ""

def hasAttr (s : Section) (name : String) : Bool := s.attrs.any (·.name == name)

/-- The value of an attribute, unless it is absent or empty. -/
def nonemptyAttr? (s : Section) (name : String) : Option String :=
  (s.attr? name).filter (· != "")

def lang (s : Section) : Option String := s.nonemptyAttr? "lang"

/-- The reference to the file that holds the body of the section. -/
def src (s : Section) : Option String := s.nonemptyAttr? "src"

/-- The section asks for its styles to be scoped to the document. -/
def isScoped (s : Section) : Bool := s.hasAttr "scoped"

/-- The characters of a source between the tags of the section. -/
def bodyIn (s : Section) (source : List Char) : List Char :=
  (source.drop s.bodyStart).take (s.bodyStop - s.bodyStart)

end Section

/-- Elements that never have a closing tag. -/
def voidElements : List String :=
  ["area", "base", "br", "col", "embed", "hr", "img", "input", "link", "meta", "param", "source",
    "track", "wbr"]

/-- Why a document cannot be divided into sections, and where: the place of an end tag that does not
belong, or the offset at which a section starts that does not end. -/
inductive SectionFault
  | unexpectedEnd (name : String) (position : Position)
  | mismatchedEnd (name opened : String) (position : Position)
  | unclosed (name : String) (offset : Nat)
  | markup (fault : MarkupFault)
deriving DecidableEq, Repr

namespace SectionFault

def message : SectionFault → String
  | unexpectedEnd name _ => s!"Unexpected closing tag </{name}> at top level"
  | mismatchedEnd name opened _ => s!"Closing tag </{name}> does not match open <{opened}>"
  | unclosed name _ => s!"Unclosed <{name}> section"
  | markup fault => fault.message

/-- The place of the tag at fault; faults of the markup itself have none. -/
def position? (source : Source) : SectionFault → Option Position
  | unexpectedEnd _ position | mismatchedEnd _ _ position => some position
  | unclosed _ offset => some (source.position offset)
  | markup _ => none

end SectionFault

end ComponentSplit
