import ComponentSplit.Pattern.Basic
import ComponentSplit.Pattern.Fault
import ComponentSplit.Text.Identifier

namespace ComponentSplit.Pattern

/-- A unit of a written pattern: a character, or a backslash with the character behind it. -/
inductive Sign
  | plain (c : Char)
  | escaped (c : Char)
deriving DecidableEq, Repr

def Sign.text : Sign → List Char
  | plain c => [c]
  | escaped c => ['\\', c]

/-- The units of a text, unless it ends with a lone backslash. -/
def signs? : List Char → Option (List Sign)
  | [] => some []
  | '\\' :: c :: rest => (signs? rest).map (.escaped c :: ·)
  | c :: rest => if c = '\\' then none else (signs? rest).map (.plain c :: ·)

/-- How far reading has come: the number of characters in all, the units that remain, what the
groups opened so far can take, once that is known, how many of them there were at the start of the
outermost look-behind, and where a choice first asked for each group. -/
structure Reading where
  total : Nat
  rest : List Sign
  groups : List (Option (Nat × Nat)) := []
  outside : Option Nat := none
  asked : List (Nat × Nat) := []

abbrev Reads := StateT Reading (Except PatternError)

def Reading.position (r : Reading) : Nat :=
  r.rest.foldl (fun left sign => left - sign.text.length) r.total

/-- A fault without a position. -/
def failAnywhere (fault : PatternFault) : Reads α := fun _ => .error ⟨fault, none⟩

def failBack (back : Nat) (fault : PatternFault) : Reads α := fun r =>
  .error ⟨fault, some (r.position - back)⟩

def failAt (position : Nat) (fault : PatternFault) : Reads α := fun _ =>
  .error ⟨fault, some position⟩

def position : Reads Nat := return (← get).position

def peek : Reads (Option Sign) := return (← get).rest.head?

def take : Reads (Option Sign) := do
  let r ← get
  modify fun r => { r with rest := r.rest.drop 1 }
  return r.rest.head?

/-- Passes over a character, if it is the next one. -/
def accept (c : Char) : Reads Bool := do
  if (← peek) = some (.plain c) then
    let _ ← take
    return true
  else return false

/-- A unit is one character that passes a test. -/
def Sign.is (test : Char → Bool) : Sign → Bool
  | plain c => test c
  | escaped _ => false

/-- The next characters, at most `count`, that pass a test. -/
def takeWhile (count : Nat) (test : Char → Bool) : Reads (List Char) := do
  let r ← get
  let found := (r.rest.take count).takeWhile (Sign.is test)
  modify fun r => { r with rest := r.rest.drop found.length }
  return found.flatMap Sign.text

def number (digits : List Char) : Reads Nat :=
  if maxDigits < digits.length then failAnywhere (.longNumber digits.length)
  else return ofDigits 10 digits

/-- The characters that escapes of one letter stand for. -/
def letterEscapes : List (Char × Nat) :=
  [('a', 7), ('f', 12), ('n', 10), ('r', 13), ('t', 9), ('v', 11), ('\\', 92)]

/-- The number of hexadecimal digits that an escape needs. -/
def hexLength : List (Char × Nat) := [('x', 2), ('u', 4)]

/-- The classes that escapes of one letter stand for. -/
def classEscapes : List (Char × CharClass) := [('d', .digit), ('s', .blank), ('w', .word)]

/-- The code point that digits behind an escape letter write, when there are enough of them. -/
def hexEscape (c : Char) (count : Nat) : Reads Nat := do
  let digits ← takeWhile count isHexDigit
  if digits.length = count then return ofDigits 16 digits
  else
    let text := '\\' :: c :: digits
    failBack text.length (.shortEscape text)

/-- The code point that up to three octal digits write, the first of which is known. -/
def octalEscape (digits : List Char) : Reads Nat := do
  let n := ofDigits 8 digits
  if n ≤ 255 then return n
  else failBack (digits.length + 1) (.bigOctal ('\\' :: digits))

/-- The member of a set that an escape stands for. -/
def setEscape (c : Char) : Reads SetItem := do
  let one (n : Nat) : SetItem := .range n n
  match letterEscapes.lookup c, hexLength.lookup c, classEscapes.lookup c with
  | some n, _, _ => return one n
  | _, some count, _ => return one (← hexEscape c count)
  | _, _, some cls => return .cls cls
  | _, _, _ =>
    if c = 'b' then return one 8
    else if isOctalDigit c then return one (← octalEscape (c :: (← takeWhile 2 isOctalDigit)))
    else if c.isAlphanum then failBack 2 (.badEscape ['\\', c])
    else return one c.toNat

/-- The member of a set that a unit stands for. -/
def setMember : Sign → Reads SetItem
  | .plain c => return .range c.toNat c.toNat
  | .escaped c => setEscape c

/-- The members of a set up to its closing bracket; the set was opened at position `start`. -/
def setItems (fuel start : Nat) (items : List SetItem) : Reads (List SetItem) := do
  match fuel with
  | 0 => failAt start .unclosedSet
  | fuel + 1 =>
    match ← take with
    | none => failAt start .unclosedSet
    | some this =>
      if this = .plain ']' && !items.isEmpty then return items
      else
        let low ← setMember this
        if ← accept '-' then
          match ← take with
          | none => failAt start .unclosedSet
          | some that =>
            if that = .plain ']' then return items ++ [low, .range 45 45]
            else
              let high ← setMember that
              let text := this.text ++ '-' :: that.text
              match low, high with
              | .range a _, .range b _ =>
                if b < a then failBack text.length (.badRange text)
                else setItems fuel start (items ++ [.range a b])
              | _, _ => failBack text.length (.badRange text)
        else setItems fuel start (items ++ [low])

/-- A group can be asked for inside a look-behind only when it was complete before. -/
def checkOutside (group : Nat) : Reads Unit := do
  let r ← get
  match r.outside with
  | none => return
  | some limit =>
    if (r.groups[group - 1]?).join.isNone then failBack 0 .openGroup
    else if limit < group then failBack 0 .ownLookBehind

def escape (flags : Flags) (c : Char) : Reads Pattern := do
  let literal (n : Nat) : Pattern := .set flags false [.range n n]
  match classEscapes.lookup c, letterEscapes.lookup c, hexLength.lookup c with
  | some cls, _, _ => return .set flags false [.cls cls]
  | _, some n, _ => return literal n
  | _, _, some count => return literal (← hexEscape c count)
  | _, _, _ =>
    if c = 'b' then return .wordEdge flags
    else if c = '0' then return literal (ofDigits 8 (c :: (← takeWhile 2 isOctalDigit)))
    else if c.isDigit then
      let second ← takeWhile 1 Char.isDigit
      let third ← if isOctalDigit c && second.any isOctalDigit then takeWhile 1 isOctalDigit
        else pure []
      if !third.isEmpty then return literal (← octalEscape (c :: second ++ third))
      else
        let digits := c :: second
        let group := ofDigits 10 digits
        match (← get).groups[group - 1]? with
        | none => failBack digits.length (.noSuchGroup group)
        | some none => failBack (digits.length + 1) .openGroup
        | some (some lengths) =>
          checkOutside group
          return .again flags group lengths
    else if c.isAlpha then failBack 2 (.badEscape ['\\', c])
    else return literal c.toNat

/-- The least and the greatest number of repetitions in braces, behind the opening one; nothing
when it is no more than a brace. -/
def bounds : Reads (Option (Nat × Option Nat)) := do
  let start ← get
  let position ← position
  let low ← takeWhile start.rest.length Char.isDigit
  let open' ← accept ','
  let high ← if open' then takeWhile start.rest.length Char.isDigit else pure low
  if start.rest.head? = some (.plain '\x7d') || !(← accept '\x7d') then
    modify fun _ => start
    return none
  let limit (n : Nat) : Reads Nat := if 4294967295 ≤ n then failAnywhere .bigBounds else return n
  let least ← if low.isEmpty then pure 0 else limit (← number low)
  if high.isEmpty then return some (least, none)
  else
    let most ← limit (← number high)
    if most < least then failAt position .emptyBounds
    else return some (least, some most)

/-- The items read so far with the last one repeated; the sign of repetition is at `start`. -/
def repeatLast (start least : Nat) (most : Option Nat) (items : List Pattern) :
    Reads (List Pattern) := do
  match items with
  | [] => failAt start .nothingToRepeat
  | last :: before =>
    match last with
    | .textStart _ | .textStop _ | .wordEdge _ => failAt start .nothingToRepeat
    | .repeated .. => failAt start .repeatedRepeat
    | _ =>
      if ← accept '?' then return .repeated least most .lazy last :: before
      if ← accept '+' then return .repeated least most .possessive last :: before
      return .repeated least most .greedy last :: before

/-- What a flag letter turns on or off. -/
inductive Flag
  | ignoreCase
  | multiline
  | dotAll
  | verbose
  | ascii
  | unicode
  | template
deriving DecidableEq, Repr

def Flag.letters : List (Char × Flag) :=
  [('i', .ignoreCase), ('m', .multiline), ('s', .dotAll), ('x', .verbose), ('a', .ascii),
    ('u', .unicode), ('t', .template)]

def Sign.flag? : Sign → Option Flag
  | plain c => Flag.letters.lookup c
  | escaped _ => none

/-- What is wrong with a unit where a flag has to stand. -/
def noFlagHere (sign : Sign) (otherwise : PatternFault) : Reads α :=
  failBack sign.text.length (if sign.is isLetter then .unknownFlag else otherwise)

/-- One of two flags of which one alone can hold. -/
def Flag.isAlphabet (flag : Flag) : Bool := flag = .ascii || flag = .unicode

/-- The flags from `flag` on that are turned on, and the unit behind them. -/
def flagsOn (fuel : Nat) (on : List Flag) (flag : Flag) : Reads (List Flag × Sign) := do
  let on := on ++ [flag]
  if flag.isAlphabet && on.any fun other => other.isAlphabet && other != flag then
    failBack 0 .exclusiveFlags
  match fuel, ← take with
  | fuel + 1, some sign =>
    if sign.is fun c => c = ')' || c = '-' || c = ':' then return (on, sign)
    match sign.flag? with
    | some flag => flagsOn fuel on flag
    | none => noFlagHere sign .endlessFlags
  | _, _ => failBack 0 .endlessFlags

/-- The flags from `flag` on that are turned off, up to the colon behind them. -/
def flagsOff (fuel : Nat) (off : List Flag) (flag : Flag) : Reads (List Flag) := do
  if flag.isAlphabet then failBack 0 .permanentFlags
  let off := off ++ [flag]
  match fuel, ← take with
  | fuel + 1, some sign =>
    if sign = .plain ':' then return off
    match sign.flag? with
    | some flag => flagsOff fuel off flag
    | none => noFlagHere sign .noFlagColon
  | _, _ => failBack 0 .noFlagColon

/-- The flags that a group turns on and off, from its first one or the minus on; the group was
opened at `start`. Flags for a whole pattern stand at its start only, and no pattern here starts
with them. -/
def groupFlags (fuel start : Nat) (first : Sign) : Reads (List Flag × List Flag) := do
  let (on, close) ← match first.flag? with
    | some flag => flagsOn fuel [] flag
    | none => pure ([], first)
  if close = .plain ')' then failAt start .lateFlags
  if on.contains .template then failBack 1 .globalFlagOn
  if close = .plain ':' then return (on, [])
  match ← take with
  | none => failBack 0 .noFlag
  | some sign =>
    match sign.flag? with
    | none => noFlagHere sign .noFlag
    | some flag =>
      let off ← flagsOff fuel [] flag
      if off.contains .template then failBack 1 .globalFlagOff
      if off.any on.contains then failBack 1 .flagOnAndOff
      return (on, off)

/-- Flags after some are turned on and some off. -/
def Flags.change (flags : Flags) (on off : List Flag) : Flags where
  ignoreCase := (flags.ignoreCase || on.contains .ignoreCase) && !off.contains .ignoreCase
  multiline := (flags.multiline || on.contains .multiline) && !off.contains .multiline
  dotAll := (flags.dotAll || on.contains .dotAll) && !off.contains .dotAll
  ascii := on.contains .ascii || (flags.ascii && !on.contains .unicode)

/-- The text up to the closing parenthesis behind a name. -/
def nameText (fuel : Nat) (name : List Char) : Reads (List Char) := do
  match fuel, ← take with
  | fuel + 1, some sign =>
    if sign = .plain ')' then
      if name.isEmpty then failBack 1 .namelessGroup else return name
    else nameText fuel (name ++ sign.text)
  | _, _ =>
    if name.isEmpty then failBack 0 .namelessGroup else failBack name.length .unclosedName

/-- The number that decimal digits of any script write, white space around them, a sign and single
underscores between them allowed. -/
def loneNumber? (text : List Char) : Option Nat :=
  let (minus, digits) := match trim text with
    | '-' :: rest => (true, rest)
    | '+' :: rest => (false, rest)
    | rest => (false, rest)
  let wellPlaced := digits.head?.any isDecimal && digits.getLast?.any isDecimal &&
    (digits.zip (digits.drop 1)).all fun (a, b) => a != '_' || b != '_'
  let values := (digits.filter (· != '_')).map decimalValue?
  if wellPlaced && values.all Option.isSome && values.length ≤ maxDigits then
    let n := values.foldl (fun n v => 10 * n + v.getD 0) 0
    if minus && n != 0 then none else some n
  else none

/-- The group that a choice asks for. -/
def choiceGroup (fuel : Nat) : Reads Nat := do
  let name ← nameText fuel []
  let back := name.length + 1
  if isIdentifier name then failBack back (.unknownName name)
  else
    match loneNumber? name with
    | none => failBack back (.badName name)
    | some 0 => failBack back .groupZero
    | some wanted =>
      if 1073741823 ≤ wanted then failBack back (.noSuchGroup wanted)
      else
        let position ← position
        modify fun r =>
          if (r.asked.lookup wanted).isSome then r
          else { r with asked := r.asked ++ [(wanted, position - back)] }
        return wanted

def ofItems (reversed : List Pattern) : Pattern :=
  reversed.foldl (fun later item => match later with
    | nothing => item
    | _ => seq item later) nothing

/-- What closes a group that was opened at `start`. -/
def closeGroup (start : Nat) : Reads Unit := do
  if !(← accept ')') then failAt start .unclosedGroup

/-- Passes over a comment that was opened at `start`. -/
def passComment (fuel start : Nat) : Reads Unit := do
  match fuel, ← take with
  | fuel + 1, some sign => if sign = .plain ')' then return else passComment fuel start
  | _, _ => failAt start .unclosedComment

/-- White space, or the rest of a line behind a number sign, where both are passed over. -/
def isLayout (c : Char) : Bool := c == ' ' || (9 ≤ c.toNat && c.toNat ≤ 13)

mutual

/-- Alternatives up to a closing parenthesis or the end. -/
def alternatives (fuel : Nat) (flags : Flags) (verbose : Bool) : Reads Pattern := do
  match fuel with
  | 0 => return nothing
  | fuel + 1 =>
    let first ← sequence fuel flags verbose []
    if ← accept '|' then return alt first (← alternatives fuel flags verbose)
    else return first

/-- A sequence of items after those in `items`, the last of them first. -/
def sequence (fuel : Nat) (flags : Flags) (verbose : Bool) (items : List Pattern) :
    Reads Pattern := do
  match fuel with
  | 0 => return ofItems items
  | fuel + 1 =>
    match ← peek with
    | none => return ofItems items
    | some (.escaped c) =>
      let _ ← take
      let item ← escape flags c
      sequence fuel flags verbose (item :: items)
    | some (.plain c) =>
      if c = '|' || c = ')' then return ofItems items
      let start ← position
      let _ ← take
      if verbose && isLayout c then sequence fuel flags verbose items
      else if verbose && c = '#' then
        modify fun r => { r with rest := (r.rest.dropWhile (· != .plain '\n')).drop 1 }
        sequence fuel flags verbose items
      else if c = '[' then
        let negated ← accept '^'
        let members ← setItems fuel start []
        sequence fuel flags verbose (.set flags negated members :: items)
      else if c = '*' then
        sequence fuel flags verbose (← repeatLast start 0 none items)
      else if c = '+' then
        sequence fuel flags verbose (← repeatLast start 1 none items)
      else if c = '?' then
        sequence fuel flags verbose (← repeatLast start 0 (some 1) items)
      else if c = '\x7b' then
        match ← bounds with
        | none => sequence fuel flags verbose (.set flags false [.range 123 123] :: items)
        | some (least, most) =>
          sequence fuel flags verbose (← repeatLast start least most items)
      else if c = '.' then sequence fuel flags verbose (.any flags :: items)
      else if c = '^' then sequence fuel flags verbose (.textStart flags :: items)
      else if c = '$' then sequence fuel flags verbose (.textStop flags :: items)
      else if c = '(' then
        match ← parenthesis fuel flags verbose start with
        | none => sequence fuel flags verbose items
        | some item => sequence fuel flags verbose (item :: items)
      else sequence fuel flags verbose (.set flags false [.range c.toNat c.toNat] :: items)

/-- What starts with the parenthesis at `start`; a comment is nothing at all. -/
def parenthesis (fuel : Nat) (flags : Flags) (verbose : Bool) (start : Nat) :
    Reads (Option Pattern) := do
  match fuel with
  | 0 => return none
  | fuel + 1 =>
    if !(← accept '?') then
      let number := (← get).groups.length + 1
      modify fun r => { r with groups := r.groups ++ [none] }
      let body ← alternatives fuel flags verbose
      closeGroup start
      modify fun r => { r with groups := r.groups.set (number - 1) (some body.lengths) }
      return some (group (some number) body)
    match ← take with
    | none => failBack 0 .endInGroup
    | some (.plain ':') =>
      let body ← alternatives fuel flags verbose
      closeGroup start
      return some (group none body)
    | some (.plain '#') =>
      passComment fuel start
      return none
    | some (.plain '=') => return some (← look fuel flags verbose start true false)
    | some (.plain '!') => return some (← look fuel flags verbose start true true)
    | some (.plain '<') =>
      match ← take with
      | none => failBack 0 .endInGroup
      | some (.plain '=') => return some (← look fuel flags verbose start false false)
      | some (.plain '!') => return some (← look fuel flags verbose start false true)
      | some sign => failBack (sign.text.length + 2) (.unknownExtension ('<' :: sign.text))
    | some (.plain '(') =>
      let number ← choiceGroup fuel
      checkOutside number
      let yes ← sequence fuel flags verbose []
      let no ← if ← accept '|' then
          let no ← sequence fuel flags verbose []
          if (← peek) = some (.plain '|') then failBack 0 .thirdBranch
          pure no
        else pure nothing
      closeGroup start
      return some (whether number yes no)
    | some sign =>
      if sign.flag?.isSome || sign = .plain '-' then
        let (on, off) ← groupFlags fuel start sign
        let verbose := (verbose || on.contains .verbose) && !off.contains .verbose
        let body ← alternatives fuel (flags.change on off) verbose
        closeGroup start
        return some (group none body)
      else failBack (sign.text.length + 1) (.unknownExtension sign.text)

/-- What stands ahead of a place or behind it. -/
def look (fuel : Nat) (flags : Flags) (verbose : Bool) (start : Nat) (isAhead negated : Bool) :
    Reads Pattern := do
  match fuel with
  | 0 => return nothing
  | fuel + 1 =>
    let outside := (← get).outside
    if !isAhead then
      modify fun r => { r with outside := some (outside.getD r.groups.length) }
    let body ← alternatives fuel flags verbose
    if !isAhead then modify fun r => { r with outside }
    closeGroup start
    return if isAhead then ahead negated body else behind negated body

end

/-- What is wrong with the first look-behind that takes no fixed number of characters, or too many
of them. -/
def lookFault? : Pattern → Option PatternFault
  | behind _ body =>
    let (least, most) := body.lengths
    if 4294967295 < least then some .farLookBehind
    else if least ≠ most then some .unboundedLookBehind
    else body.lookFault?
  | seq first second | alt first second | whether _ first second =>
    first.lookFault?.or second.lookFault?
  | repeated _ _ _ body | group _ body | ahead _ body => body.lookFault?
  | _ => none

def readAll (fuel : Nat) : Reads Pattern := do
  let pattern ← alternatives fuel {} false
  if (← peek).isSome then failBack 0 .strayParenthesis
  let r ← get
  match r.asked.find? fun (wanted, _) => r.groups.length < wanted with
  | some (wanted, position) => failAt position (.noSuchGroup wanted)
  | none =>
    match pattern.lookFault? with
    | some fault => failAnywhere fault
    | none => return pattern

def read (text : List Char) : Except PatternError Pattern :=
  match signs? text with
  | none => .error ⟨.endInEscape, some (text.length - 1)⟩
  | some signs =>
    match (readAll (2 * text.length + 4)).run { total := text.length, rest := signs } with
    | .ok (pattern, _) => .ok pattern
    | .error e => .error e

end ComponentSplit.Pattern
