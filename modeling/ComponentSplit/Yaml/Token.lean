import ComponentSplit.Yaml.Property

/-!
The tokens of a text and the layout they show: the indentation of blocks, and the keys that are
recognised only when a colon follows them. A token is given out as soon as nothing that is still to
come can put another one in front of it.
-/

namespace ComponentSplit.Yaml

/-- What a token stands for. -/
inductive Symbol
  | streamStart
  | streamEnd
  | directive (d : Directive)
  | documentStart
  | documentEnd
  | blockSequenceStart
  | blockMappingStart
  | blockEnd
  | flowSequenceStart
  | flowSequenceEnd
  | flowMappingStart
  | flowMappingEnd
  | key
  | value
  | blockEntry
  | flowEntry
  | aliasOf (name : String)
  | anchor (name : String)
  | tag (text : TagText)
  | scalar (text : String) (isPlain : Bool)
deriving DecidableEq, Repr

def Symbol.name : Symbol → String
  | streamStart => "<stream start>"
  | streamEnd => "<stream end>"
  | directive _ => "<directive>"
  | documentStart => "<document start>"
  | documentEnd => "<document end>"
  | blockSequenceStart => "<block sequence start>"
  | blockMappingStart => "<block mapping start>"
  | blockEnd => "<block end>"
  | flowSequenceStart => "["
  | flowSequenceEnd => "]"
  | flowMappingStart => "\x7b"
  | flowMappingEnd => "\x7d"
  | key => "?"
  | value => ":"
  | blockEntry => "-"
  | flowEntry => ","
  | aliasOf _ => "<alias>"
  | anchor _ => "<anchor>"
  | tag _ => "<tag>"
  | scalar .. => "<scalar>"

/-- A token and the places where it starts and stops. -/
structure Token where
  symbol : Symbol
  start : Mark
  stop : Mark
deriving DecidableEq, Repr

/-- A place where a key may start, by the number of the token there. A key that nothing but a key
may stand for is required. -/
structure KeyPlace where
  number : Nat
  isRequired : Bool
  mark : Mark

/-- The way through a text: tokens found but not given out yet, how many were given out, how deep
in brackets and braces the cursor is, the indentation of the blocks around it, whether a key may
start here, and where one may have started at each depth. -/
structure Layout where
  cursor : Cursor
  queue : List Token
  given : Nat := 0
  depth : Int := 0
  indent : Int := -1
  outer : List Int := []
  mayStartKey : Bool := true
  places : List (Int × KeyPlace) := []
  isDone : Bool := false

namespace Layout

def inFlow (l : Layout) : Bool := l.depth != 0

/-- The length beyond which nothing is a key. -/
def maxKeyLength : Nat := 1024

def add (l : Layout) (tokens : List Token) : Layout := { l with queue := l.queue ++ tokens }

def missingColon (place : KeyPlace) (l : Layout) : Fault :=
  scanFault "a simple key" place.mark .noColon l.cursor.mark

/-- Forget the places whose keys would be too long or go over a line. -/
def dropStale (l : Layout) : Except Fault Layout :=
  let isStale (place : KeyPlace) : Bool :=
    place.mark.line != l.cursor.mark.line ||
      decide (maxKeyLength < l.cursor.mark.index - place.mark.index)
  match l.places.find? fun (_, place) => isStale place && place.isRequired with
  | some (_, place) => .error (missingColon place l)
  | none => .ok { l with places := l.places.filter fun (_, place) => !isStale place }

/-- Forget the place of a key at this depth. -/
def dropPlace (l : Layout) : Except Fault Layout :=
  match l.places.lookup l.depth with
  | none => .ok l
  | some place =>
    if place.isRequired then .error (missingColon place l)
    else .ok { l with places := l.places.filter (·.1 != l.depth) }

/-- Keep the place here if a key may start at it. -/
def keepPlace (l : Layout) : Except Fault Layout :=
  if l.mayStartKey then do
    let isRequired := !l.inFlow && l.indent == l.cursor.column
    let l ← l.dropPlace
    pure { l with
      places := (l.depth, ⟨l.given + l.queue.length, isRequired, l.cursor.mark⟩) :: l.places }
  else .ok l

/-- The blocks that end in front of a column. -/
def closeBlocks (l : Layout) (column : Int) : Layout :=
  if l.inFlow then l
  else
    let token : Token := ⟨.blockEnd, l.cursor.mark, l.cursor.mark⟩
    let rec go (queue : List Token) (indent : Int) (outer : List Int) : Layout :=
      if indent ≤ column then { l with queue, indent, outer }
      else
        match outer with
        | [] => { l with queue, indent, outer }
        | next :: outer => go (queue ++ [token]) next outer
    go l.queue l.indent l.outer

/-- A block starts at a column that is deeper than the blocks around it. -/
def opensBlock (l : Layout) (column : Nat) : Bool := decide (l.indent < column)

def pushIndent (l : Layout) (column : Nat) : Layout :=
  { l with outer := l.indent :: l.outer, indent := column }

/-- A token in front of those found since a place. -/
def insertAt (l : Layout) (place : KeyPlace) (symbol : Symbol) : Layout :=
  let count := place.number - l.given
  let token : Token := ⟨symbol, place.mark, place.mark⟩
  { l with queue := l.queue.take count ++ token :: l.queue.drop count }

def addHere (l : Layout) (symbol : Symbol) (count : Nat) : Layout :=
  let behind := l.cursor.skip count
  { l.add [⟨symbol, l.cursor.mark, behind.mark⟩] with cursor := behind }

/-- A token that was read up to a cursor. -/
def addRead (l : Layout) (symbol : Symbol) (behind : Cursor) : Layout :=
  { l.add [⟨symbol, l.cursor.mark, behind.mark⟩] with cursor := behind }

/-- A block starts here if this column is deeper than the blocks around. -/
def openBlock (l : Layout) (symbol : Symbol) : Layout :=
  if l.opensBlock l.cursor.column then
    (l.pushIndent l.cursor.column).add [⟨symbol, l.cursor.mark, l.cursor.mark⟩]
  else l

def atEnd (l : Layout) : Except Fault Layout := do
  let l ← (l.closeBlocks (-1)).dropPlace
  pure { l.addHere .streamEnd 0 with mayStartKey := false, places := [], isDone := true }

/-- The start or end of a document, or a directive. -/
def atDocument (l : Layout) (symbol : Symbol) : Except Fault Layout := do
  let l ← (l.closeBlocks (-1)).dropPlace
  pure { l.addHere symbol 3 with mayStartKey := false }

def atDirective (l : Layout) : Except Fault Layout := do
  let l ← (l.closeBlocks (-1)).dropPlace
  let (found, behind) ← directive l.cursor
  pure { l.addRead (.directive found) behind with mayStartKey := false }

def atOpening (l : Layout) (symbol : Symbol) : Except Fault Layout := do
  let l ← l.keepPlace
  pure { l.addHere symbol 1 with depth := l.depth + 1, mayStartKey := true }

def atClosing (l : Layout) (symbol : Symbol) : Except Fault Layout := do
  let l ← l.dropPlace
  pure { l.addHere symbol 1 with depth := l.depth - 1, mayStartKey := false }

def notAllowed (l : Layout) (what : String) : Fault :=
  .marked .characters none (.notAllowed what) l.cursor.mark

def atFlowEntry (l : Layout) : Except Fault Layout := do
  let l ← { l with mayStartKey := true }.dropPlace
  pure (l.addHere .flowEntry 1)

def atBlockEntry (l : Layout) : Except Fault Layout := do
  if !l.inFlow && !l.mayStartKey then throw (l.notAllowed "sequence entries")
  let l := if l.inFlow then l else l.openBlock .blockSequenceStart
  let l ← { l with mayStartKey := true }.dropPlace
  pure (l.addHere .blockEntry 1)

def atKey (l : Layout) : Except Fault Layout := do
  if !l.inFlow && !l.mayStartKey then throw (l.notAllowed "mapping keys")
  let l := if l.inFlow then l else l.openBlock .blockMappingStart
  let l ← { l with mayStartKey := !l.inFlow }.dropPlace
  pure (l.addHere .key 1)

/-- A colon in front of a value. What started at the place of a key turns out to be one. -/
def atValue (l : Layout) : Except Fault Layout :=
  match l.places.lookup l.depth with
  | some place =>
    let l := { l with places := l.places.filter (·.1 != l.depth), mayStartKey := false }
    let l := l.insertAt place .key
    let l :=
      if !l.inFlow && l.opensBlock place.mark.column then
        (l.pushIndent place.mark.column).insertAt place .blockMappingStart
      else l
    .ok (l.addHere .value 1)
  | none => do
    if !l.inFlow && !l.mayStartKey then throw (l.notAllowed "mapping values")
    let l := if l.inFlow then l else l.openBlock .blockMappingStart
    let l ← { l with mayStartKey := !l.inFlow }.dropPlace
    pure (l.addHere .value 1)

/-- Something that may be a key, or be in front of one, and that a key does not follow. -/
def atContent (l : Layout) (read : Cursor → Except Fault (Symbol × Cursor)) :
    Except Fault Layout := do
  let l ← l.keepPlace
  let (symbol, behind) ← read l.cursor
  pure { l.addRead symbol behind with mayStartKey := false }

def atQuoted (l : Layout) (double : Bool) : Except Fault Layout :=
  l.atContent fun c => do
    let found ← quotedScalar double c
    pure (.scalar (String.ofList found.text) false, found.cursor)

/-- A plain scalar. A key may follow it when it is at the end of a line. -/
def atPlain (l : Layout) : Except Fault Layout := do
  let l ← l.keepPlace
  let (found, passed) := plainScalar l.inFlow (l.indent + 1) l.cursor
  pure { l.addRead (.scalar (String.ofList found.text) true) found.cursor with
    mayStartKey := passed }

/-- A block of lines, which a key may follow. -/
def atBlock (l : Layout) (isFolded : Bool) : Except Fault Layout := do
  let l ← { l with mayStartKey := true }.dropPlace
  let found ← blockScalar isFolded l.indent l.cursor
  pure (l.addRead (.scalar (String.ofList found.text) false) found.cursor)

/-- Past white space, comments and ends of lines. A new line of a block may start with a key. -/
def toNextToken (fuel : Nat) (l : Layout) : Layout :=
  match fuel with
  | 0 => l
  | fuel + 1 =>
    let c := l.cursor.skipSpaces.skipComment
    match c.lineBreak? with
    | none => { l with cursor := c }
    | some (_, c) =>
      toNextToken fuel { l with cursor := c, mayStartKey := l.mayStartKey || !l.inFlow }

/-- A character that starts no plain scalar, unless what follows a minus, question mark or colon
belongs to it. -/
def startsPlain (l : Layout) : Bool :=
  let c := l.cursor.here
  !(endsWord c || "-?:,[]\x7b\x7d#&*!|>'\"%@\u0060".toList.contains c) ||
    (!endsWord (l.cursor.peek 1) && (c == '-' || (!l.inFlow && (c == '?' || c == ':'))))

def advance (l : Layout) : Except Fault Layout := do
  let start := if l.cursor.mark.index = 0 ∧ l.cursor.here = byteOrderMark then l.cursor.skip 1
    else l.cursor
  let l ← ({ l with cursor := start }.toNextToken (start.rest.length + 1)).dropStale
  let l := l.closeBlocks l.cursor.column
  let c := l.cursor
  let spaced := endsWord (c.peek 1)
  let atStart := c.column == 0
  if c.rest.isEmpty then l.atEnd
  else if c.here == '%' && atStart then l.atDirective
  else if c.atTriple '-' && atStart then l.atDocument .documentStart
  else if c.atTriple '.' && atStart then l.atDocument .documentEnd
  else
    match c.here with
    | '[' => l.atOpening .flowSequenceStart
    | '\x7b' => l.atOpening .flowMappingStart
    | ']' => l.atClosing .flowSequenceEnd
    | '\x7d' => l.atClosing .flowMappingEnd
    | ',' => l.atFlowEntry
    | '*' => l.atContent fun c => do
      let (name, behind) ← anchorName c
      pure (.aliasOf name, behind)
    | '&' => l.atContent fun c => do
      let (name, behind) ← anchorName c
      pure (.anchor name, behind)
    | '!' => l.atContent fun c => do
      let (text, behind) ← tagText c
      pure (.tag text, behind)
    | '\'' => l.atQuoted false
    | '"' => l.atQuoted true
    | ch =>
      if ch == '-' && spaced then l.atBlockEntry
      else if ch == '?' && (l.inFlow || spaced) then l.atKey
      else if ch == ':' && (l.inFlow || spaced) then l.atValue
      else if ch == '|' && !l.inFlow then l.atBlock false
      else if ch == '>' && !l.inFlow then l.atBlock true
      else if l.startsPlain then l.atPlain
      else
        throw (.marked .characters (some (.scanning "for the next token", none)) (.cannotStart ch)
          c.mark)

/-- More has to be read before the first token found can be given out. -/
def needsMore (l : Layout) : Except Fault (Bool × Layout) :=
  if l.isDone then .ok (false, l)
  else if l.queue.isEmpty then .ok (true, l)
  else do
    let l ← l.dropStale
    pure (l.places.any (·.2.number == l.given), l)

/-- The tokens that are given out until the text ends or a fault is met, and the fault. -/
def tokensFrom (fuel : Nat) (l : Layout) : List Token × Option Fault :=
  match fuel with
  | 0 => ([], none)
  | fuel + 1 =>
    match l.needsMore with
    | .error fault => ([], some fault)
    | .ok (true, l) =>
      match l.advance with
      | .error fault => ([], some fault)
      | .ok l => tokensFrom fuel l
    | .ok (false, l) =>
      match l.queue with
      | [] => ([], none)
      | token :: queue =>
        let (tokens, fault) := tokensFrom fuel { l with queue, given := l.given + 1 }
        (token :: tokens, fault)

end Layout

/-- The tokens of a text, up to a fault. Each character leads to three moves at most: tokens are
found at it, or a token at it or the block that it starts or ends is given out. -/
def tokens (text : List Char) : List Token × Option Fault :=
  let start : Mark := {}
  Layout.tokensFrom (8 * text.length + 16)
    { cursor := ⟨text, start⟩, queue := [⟨.streamStart, start, start⟩] }

end ComponentSplit.Yaml
