import ComponentSplit.Text.Quoted
import ComponentSplit.Text.Utf8
import ComponentSplit.Yaml.Cursor

namespace ComponentSplit.Yaml

/-- The part of the reading that met a fault: characters, the order of tokens, references between
nodes, or the values that nodes stand for. -/
inductive Stage
  | characters
  | grammar
  | references
  | values
deriving DecidableEq, Repr

/-- What was being read when a fault was met. -/
inductive Context
  | scanning (what : String)
  | parsing (what : String)
  | constructing (what : String)
  | singleDocument
  | duplicateAnchor (name : String)
deriving DecidableEq, Repr

/-- What stands in the way. -/
inductive Problem
  | cannotStart (c : Char)
  | noColon
  | notAllowed (what : String)
  /-- A character stands where something else is expected. -/
  | badChar (expected : String) (found : Char)
  | zeroIndent
  | unknownEscape (c : Char)
  | endOfStream
  | documentSeparator
  | badBytes (fault : DecodeFault)
  /-- A token stands where something else is expected. -/
  | badToken (expected found : String)
  | noFlowSeparator (expected found : String)
  | duplicateVersion
  | badVersion
  | duplicateHandle (handle : String)
  | undefinedHandle (handle : String)
  | undefinedAlias (name : String)
  | anotherDocument
  | secondOccurrence
  | recursiveNode
  | unknownTag (tag : String)
  /-- A node of one kind stands where another is expected. -/
  | badNode (expected found : String)
  | badCount (count : Nat)
  | unhashableKey
  | badBase64 (message : String)
deriving DecidableEq, Repr

/-- Why a text is no value of a tag that it is marked with. -/
inductive BadScalar
  | number (base : Nat) (text : String)
  | longNumber (count : Nat)
  | float (text : String)
  | empty
  | truth (text : String)
  | noTimestamp
  | field (message : String)
  | codePoint
deriving DecidableEq, Repr

/-- A fault of a text. -/
inductive Fault
  | marked (stage : Stage) (context : Option (Context × Option Mark)) (problem : Problem)
      (mark : Mark)
  | unprintable (c : Char) (index : Nat)
  | scalar (bad : BadScalar)
deriving DecidableEq, Repr

def Context.message : Context → String
  | scanning what => "while scanning " ++ what
  | parsing what => "while parsing " ++ what
  | constructing what => "while constructing " ++ what
  | singleDocument => "expected a single document in the stream"
  | duplicateAnchor name => s!"found duplicate anchor {quoted name}; first occurrence"

def Problem.message : Problem → String
  | cannotStart c => s!"found character {quoted c.toString} that cannot start any token"
  | noColon => "could not find expected ':'"
  | notAllowed what => what ++ " are not allowed here"
  | badChar expected found => s!"expected {expected}, but found {quoted found.toString}"
  | zeroIndent => "expected indentation indicator in the range 1-9, but found 0"
  | unknownEscape c => s!"found unknown escape character {quoted c.toString}"
  | endOfStream => "found unexpected end of stream"
  | documentSeparator => "found unexpected document separator"
  | badBytes fault => fault.message
  | badToken expected found => s!"expected {expected}, but found {quoted found}"
  | noFlowSeparator expected found => s!"expected {expected}, but got {quoted found}"
  | duplicateVersion => "found duplicate YAML directive"
  | badVersion => "found incompatible YAML document (version 1.* is required)"
  | duplicateHandle handle => s!"duplicate tag handle {quoted handle}"
  | undefinedHandle handle => s!"found undefined tag handle {quoted handle}"
  | undefinedAlias name => s!"found undefined alias {quoted name}"
  | anotherDocument => "but found another document"
  | secondOccurrence => "second occurrence"
  | recursiveNode => "found unconstructable recursive node"
  | unknownTag tag => s!"could not determine a constructor for the tag {quoted tag}"
  | badNode expected found => s!"expected {expected}, but found {found}"
  | badCount count => s!"expected a single mapping item, but found {count} items"
  | unhashableKey => "found unhashable key"
  | badBase64 message => message

def BadScalar.message : BadScalar → String
  | number base text => s!"invalid literal for int() with base {base}: {quoted text}"
  | longNumber count => longNumberMessage count
  | float text => s!"could not convert string to float: {quoted text}"
  | empty => "string index out of range"
  | truth text => quoted text
  | noTimestamp => "'NoneType' object has no attribute 'groupdict'"
  | field message => message
  | codePoint => "chr() arg not in range(0x110000)"

/-- The line that tells a place in a file. -/
def Mark.message (file : String) (m : Mark) : String :=
  s!"  in \"{file}\", line {m.line + 1}, column {m.column + 1}"

/-- The digits of a code point, four at least. -/
def codePointText (c : Char) : String :=
  let n := c.toNat
  String.ofList (hexDigits (if n < 0x10000 then 4 else if n < 0x100000 then 5 else 6) n)

/-- The message about a fault in a file. The place of the context is left out when it is that of
the problem. -/
def Fault.message (file : String) : Fault → String
  | marked _ context problem mark =>
    let before := match context with
      | none => []
      | some (context, none) => [context.message]
      | some (context, some place) =>
        if place.line = mark.line ∧ place.column = mark.column then [context.message]
        else [context.message, place.message file]
    "\n".intercalate (before ++ [problem.message, mark.message file])
  | unprintable c index =>
    s!"unacceptable character #x{codePointText c}: special characters are not allowed\n" ++
      s!"  in \"{file}\", position {index}"
  | scalar bad => bad.message

/-- A fault of characters, met while something was read from a place on. -/
def scanFault (what : String) (start : Mark) (problem : Problem) (mark : Mark) : Fault :=
  .marked .characters (some (.scanning what, some start)) problem mark

end ComponentSplit.Yaml
