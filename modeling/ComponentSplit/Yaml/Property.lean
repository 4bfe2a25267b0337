import ComponentSplit.Yaml.Scalar

namespace ComponentSplit.Yaml

/-- An anchor or an alias: a name behind one character. -/
def anchorName (c : Cursor) : Except Fault (String × Cursor) :=
  let start := c.mark
  let what := if c.here = '*' then "an alias" else "an anchor"
  let (name, behind) := (c.skip 1).run isNameChar
  let expected := "alphabetic or numeric character"
  if !name.isEmpty && (endsWord behind.here || "?:,]\x7d%@\u0060".toList.contains behind.here) then
    .ok (String.ofList name, behind)
  else .error (scanFault what start (.badChar expected behind.here) behind.mark)

/-- A tag as it is written: its handle, if it is written with one, and what follows it. -/
structure TagText where
  handle : Option String
  suffix : String
deriving DecidableEq, Repr

/-- A character of a tag, but for the percent sign that starts an escape. -/
def isTagChar (c : Char) : Bool := c.isAlphanum || "-;/?:@&=+$,_.!~*'()[]".toList.contains c

/-- The bytes of the escapes that follow each other from here on. -/
def escapedBytes (fuel : Nat) (what : String) (start : Mark) (c : Cursor) :
    Except Fault (List UInt8 × Cursor) :=
  match fuel, c.here with
  | fuel + 1, '%' =>
    let c := c.skip 1
    let digits := c.rest.take 2 |>.takeWhile isHexDigit
    if digits.length < 2 then
      .error (scanFault what start
        (.badChar "URI escape sequence of 2 hexadecimal numbers" (c.peek digits.length)) c.mark)
    else do
      let (bytes, c) ← escapedBytes fuel what start (c.skip 2)
      pure (UInt8.ofNat (ofDigits 16 digits) :: bytes, c)
  | _, _ => .ok ([], c)

/-- The characters of a tag from here on, with their escapes undone. -/
def tagChars (fuel : Nat) (what : String) (start : Mark) (c : Cursor) :
    Except Fault (List Char × Cursor) := do
  let (plain, c) := c.run isTagChar
  match fuel with
  | 0 => pure (plain, c)
  | fuel + 1 =>
    if c.here = '%' then
      let (bytes, behind) ← escapedBytes c.rest.length what start c
      match decodeUtf8 ⟨bytes.toArray⟩ with
      | .error fault => throw (scanFault what start (.badBytes fault) c.mark)
      | .ok text =>
        let (more, behind) ← tagChars fuel what start behind
        pure (plain ++ text.toList ++ more, behind)
    else pure (plain, c)

/-- The text of a tag behind its handle, or that a handle stands for. -/
def tagSuffix (what : String) (start : Mark) (c : Cursor) : Except Fault (String × Cursor) := do
  let (text, behind) ← tagChars c.rest.length what start c
  if behind.rest.length = c.rest.length then
    throw (.marked .characters (some (.parsing what, some start)) (.badChar "URI" behind.here)
      behind.mark)
  else pure (String.ofList text, behind)

/-- A handle: a name between exclamation marks, or one of them alone. -/
def tagHandle (what : String) (start : Mark) (c : Cursor) : Except Fault (String × Cursor) :=
  let fail (c : Cursor) : Except Fault (String × Cursor) :=
    .error (scanFault what start (.badChar "'!'" c.here) c.mark)
  if c.here ≠ '!' then fail c
  else
    let name := (c.rest.drop 1).takeWhile isNameChar
    if c.peek 1 = ' ' then .ok ("!", c.skip 1)
    else if c.peek (1 + name.length) ≠ '!' then fail (c.skip (1 + name.length))
    else .ok (String.ofList ('!' :: name ++ ['!']), c.skip (name.length + 2))

def tagText (c : Cursor) : Except Fault (TagText × Cursor) := do
  let start := c.mark
  let (tag, behind) ←
    if c.peek 1 = '<' then do
      let (suffix, c) ← tagSuffix "a tag" start (c.skip 2)
      if c.here = '>' then pure (TagText.mk none suffix, c.skip 1)
      else throw (.marked .characters (some (.parsing "a tag", some start)) (.badChar "'>'" c.here)
        c.mark)
    else if endsWord (c.peek 1) then pure (⟨none, "!"⟩, c.skip 1)
    else do
      let named := ((c.rest.drop 1).takeWhile fun ch => !endsName ch).contains '!'
      let (handle, c) ← if named then tagHandle "a tag" start c else pure ("!", c.skip 1)
      let (suffix, c) ← tagSuffix "a tag" start c
      pure (⟨some handle, suffix⟩, c)
  if endsName behind.here then pure (tag, behind)
  else throw (scanFault "a tag" start (.badChar "' '" behind.here) behind.mark)

/-- A directive: the version of the format, a handle for tags, or another one, which counts for
nothing. -/
inductive Directive
  | version (major : Nat)
  | handle (name stands : String)
  | other
deriving DecidableEq, Repr

def directive (c : Cursor) : Except Fault (Directive × Cursor) := do
  let start := c.mark
  let what := "a directive"
  let need (ok : Bool) (expected : String) (c : Cursor) : Except Fault Unit :=
    if ok then .ok () else .error (scanFault what start (.badChar expected c.here) c.mark)
  let number (c : Cursor) : Except Fault (Nat × Cursor) := do
    need c.here.isDigit "a digit" c
    let (digits, c) := c.run Char.isDigit
    if maxDigits < digits.length then throw (.scalar (.longNumber digits.length))
    else pure (ofDigits 10 digits, c)
  let (name, c) := (c.skip 1).run isNameChar
  need (!name.isEmpty && endsName c.here) "alphabetic or numeric character" c
  let (found, c) ← match String.ofList name with
    | "YAML" => do
      let (major, c) ← number c.skipSpaces
      need (c.here == '.') "a digit or '.'" c
      let (_, c) ← number (c.skip 1)
      need (endsName c.here) "a digit or ' '" c
      pure (Directive.version major, c)
    | "TAG" => do
      let (name, c) ← tagHandle what start c.skipSpaces
      need (c.here == ' ') "' '" c
      let (stands, c) ← tagSuffix what start c.skipSpaces
      need (endsName c.here) "' '" c
      pure (.handle name stands, c)
    | _ => pure (.other, c.skipWhile fun ch => !endsLine ch)
  let c ← emptyLine what start c
  pure (found, c)

end ComponentSplit.Yaml
