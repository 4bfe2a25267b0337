import ComponentSplit.Markup.Lexeme
import ComponentSplit.Section.Basic

/-!
Division of a document into sections. Every section but a template is raw text up to its own end
tag; a template goes on to the end tag that matches it, and of its body only nested templates and
raw-text elements matter. What stands between sections is passed over.
-/

namespace ComponentSplit

/-- A section whose end tag has not been met: the offsets of its start tag and of what follows that
tag, the place of the tag, and how many templates are open in it. -/
structure OpenSection where
  tag : String
  attrs : List Attribute
  start : Nat
  bodyStart : Nat
  position : Position
  depth : Nat := 1
deriving DecidableEq, Repr

/-- What reading has to know of the source before: the open section and the open raw text. -/
structure Scan where
  opened : Option OpenSection := none
  raw : Option RawText := none

/-- The characters of a source from one offset to another. -/
def Source.slice (source : Source) (start stop : Nat) : List Char :=
  (source.text.drop start).take (stop - start)

/-- The offset behind the first greater-than sign at or behind an offset. -/
def Source.behindTag (source : Source) (offset : Nat) : Nat :=
  match cutAt '>' (source.text.drop offset) with
  | some (inside, _) => offset + inside.length + 1
  | none => source.text.length

/-- The section that an element without a body is, given by the offsets at which it starts and
stops. -/
def Section.ofTag (tag : String) (attrs : List Attribute) (start stop : Nat)
    (position : Position) : Section where
  tag
  attrs
  start
  stop
  bodyStart := stop
  bodyStop := stop
  position

/-- The section that an open one becomes with the end tag at an offset. -/
def OpenSection.close (o : OpenSection) (source : Source) (offset : Nat) : Section where
  tag := o.tag
  attrs := o.attrs
  content := String.ofList (source.slice o.bodyStart offset)
  start := o.start
  stop := source.behindTag offset
  bodyStart := o.bodyStart
  bodyStop := offset
  position := o.position

def Lexeme.length (l : Lexeme) : Nat := l.here.length - l.rest.length

/-- What a token at a place makes of the reading so far, and the section it completes. -/
def Scan.step (source : Source) (scan : Scan) (position : Position) (l : Lexeme) :
    Except SectionFault (Scan × Option Section) :=
  let offset := source.offset position
  match rawTextAfter scan.raw l.token with
  | .error fault => .error (.markup fault)
  | .ok raw =>
    match l.token, scan.opened with
    | .startTag name _, some o =>
      let depth := if name = "template" then o.depth + 1 else o.depth
      .ok (⟨some { o with depth }, raw⟩, none)
    | .startTag name attrs, none =>
      let behind := offset + l.length
      if voidElements.contains name then
        .ok (⟨none, raw⟩, some (Section.ofTag name attrs offset behind position))
      else
        let o : OpenSection := ⟨name, attrs, offset, behind, position, 1⟩
        if name = "template" then .ok (⟨some o, raw⟩, none)
        else
          match RawText.ofName name with
          | .ok raw => .ok (⟨some o, some raw⟩, none)
          | .error fault => .error (.markup fault)
    | .selfClosing name attrs, none =>
      .ok (⟨none, raw⟩, some (Section.ofTag name attrs offset (offset + l.length) position))
    | .endTag name, none => .error (.unexpectedEnd name position)
    | .endTag name, some o =>
      if o.tag = "template" then
        if name ≠ "template" then .ok (⟨some o, raw⟩, none)
        else if o.depth ≤ 1 then .ok (⟨none, raw⟩, some (o.close source offset))
        else .ok (⟨some { o with depth := o.depth - 1 }, raw⟩, none)
      else if name = o.tag then .ok (⟨none, raw⟩, some (o.close source offset))
      else .error (.mismatchedEnd name o.tag position)
    | _, opened => .ok (⟨opened, raw⟩, none)

/-- What the end of a source makes of the reading so far. -/
def Scan.finish (scan : Scan) : Except SectionFault (List Section) :=
  match scan.opened with
  | none => .ok []
  | some o => .error (.unclosed o.tag o.start)

/-- The sections of `source` that end in its remainder `left`. -/
def Scan.run (source : Source) (scan : Scan) (look : Look) (left : Remainder) :
    Except SectionFault (List Section) :=
  match h : Lexeme.next scan.raw look left.text with
  | .error fault => .error (.markup fault)
  | .ok none => scan.finish
  | .ok (some (l, look)) =>
    have := Lexeme.next_length h
    let here := left.moveTo l.here
    match scan.step source here.position l with
    | .error fault => .error fault
    | .ok (next, found) =>
      match Scan.run source next look (here.moveTo l.rest) with
      | .error fault => .error fault
      | .ok others => .ok (found.toList ++ others)
termination_by left.text.length

def parseSections (text : List Char) : Except SectionFault (List Section) :=
  Scan.run (Source.ofText text) {} ⟨text, false⟩ ⟨.first, text⟩

end ComponentSplit
