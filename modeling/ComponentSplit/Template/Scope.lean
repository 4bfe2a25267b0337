import ComponentSplit.Text.Alphanumeric
import ComponentSplit.Text.Lowercase
import ComponentSplit.Text.Marked

namespace ComponentSplit

/-- A character of the name of an element after its first letter. -/
def isElementNameChar (c : Char) : Bool := isWordChar c || c == ':' || c == '.' || c == '-'

/-- Elements that take no attribute, named in small letters. -/
def unscopedElements : List String := ["template", "slot"]

/-- A template with a mark behind the name of each start tag that takes an attribute. -/
def markTemplate (html : List Char) : MarkedText :=
  match html with
  | [] => []
  | '<' :: c :: rest =>
    if c.isAlpha then
      let name := c :: rest.takeWhile isElementNameChar
      let after := markTemplate (rest.dropWhile isElementNameChar)
      let takes := !unscopedElements.contains (String.ofList (name.map asciiLower))
      MarkedText.plain ('<' :: name) ++ if takes then none :: after else after
    else some '<' :: markTemplate (c :: rest)
  | c :: rest => some c :: markTemplate rest
termination_by html.length
decreasing_by
  · have := (List.dropWhile_suffix (l := rest) isElementNameChar).length_le
    simp only [List.length_cons]
    omega
  · simp
  · simp

def scopeTemplate (html attr : List Char) : List Char :=
  MarkedText.fill (' ' :: attr) (markTemplate html)

end ComponentSplit
