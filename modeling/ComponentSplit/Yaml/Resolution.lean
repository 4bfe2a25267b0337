import ComponentSplit.Text.Digits

namespace ComponentSplit.Yaml

/-- The full name of one of the usual tags. -/
def usualTag (name : String) : String := "tag:yaml.org,2002:" ++ name

/-- A text without a sign in front of it. -/
def dropSign : List Char → List Char
  | '-' :: rest | '+' :: rest => rest
  | text => text

def isSpacedDigit (c : Char) : Bool := c.isDigit || c == '_'

def isDigits : List Char → Bool
  | c :: rest => c.isDigit && rest.all isSpacedDigit
  | [] => false

/-- Digits and underscores that start with another digit than zero. -/
def isCount (text : List Char) : Bool := isDigits text && text.head? != some '0'

/-- The places behind a point, with their exponent: that has a sign. -/
def isFraction (text : List Char) : Bool :=
  match text.dropWhile isSpacedDigit with
  | [] => true
  | e :: sign :: exponent =>
    (e == 'e' || e == 'E') && (sign == '-' || sign == '+') && !exponent.isEmpty &&
      exponent.all Char.isDigit
  | _ => false

/-- A digit, or two of which the first is below six. -/
def isSixtieth : List Char → Bool
  | [a] => a.isDigit
  | [a, b] => '0' ≤ a && a ≤ '5' && b.isDigit
  | _ => false

def colonParts (text : List Char) : List (List Char) :=
  text.foldr (fun c parts =>
    match parts with
    | part :: more => if c = ':' then [] :: part :: more else (c :: part) :: more
    | [] => []) [[]]

def isSixties (first : List Char → Bool) (text : List Char) : Bool :=
  match colonParts text with
  | head :: next :: rest => first head && (next :: rest).all isSixtieth
  | _ => false

def isInteger (text : List Char) : Bool :=
  match dropSign text with
  | '0' :: 'b' :: digits => !digits.isEmpty && digits.all fun c => c == '0' || c == '1' || c == '_'
  | '0' :: 'x' :: digits => !digits.isEmpty && digits.all fun c => isHexDigit c || c == '_'
  | '0' :: digits => digits.all fun c => isOctalDigit c || c == '_'
  | digits => isCount digits || isSixties isCount digits

def isFloat (text : List Char) : Bool :=
  let number := dropSign text
  let whole := number.takeWhile (· != '.')
  match number.dropWhile (· != '.') with
  | '.' :: places =>
    (isDigits whole && isFraction places) ||
      (isSixties isDigits whole && places.all isSpacedDigit) ||
      (whole.isEmpty && number == text && places.head?.any Char.isDigit && isFraction places) ||
      (whole.isEmpty && ["inf", "Inf", "INF"].contains (String.ofList places)) ||
      (whole.isEmpty && number == text &&
        ["nan", "NaN", "NAN"].contains (String.ofList places))
  | _ => false

/-- One or two digits at the start of a text, and what follows them. -/
def upToTwo : List Char → Option (List Char × List Char)
  | a :: b :: rest =>
    if a.isDigit then if b.isDigit then some ([a, b], rest) else some ([a], b :: rest) else none
  | [a] => if a.isDigit then some ([a], []) else none
  | [] => none

/-- Some digits at the start of a text, as many as are asked for, and what follows them. -/
def exactly (count : Nat) (text : List Char) : Option (List Char × List Char) :=
  if count ≤ text.length && (text.take count).all Char.isDigit then
    some (text.take count, text.drop count)
  else none

/-- A character at the start of a text, and what follows it. -/
def past (c : Char) : List Char → Option (List Char)
  | d :: rest => if c = d then some rest else none
  | [] => none

/-- The parts of a moment in time, as digits. -/
structure MomentText where
  year : List Char
  month : List Char
  day : List Char
  /-- Hour, minute and second, and the digits of its fraction. -/
  time : Option (List Char × List Char × List Char × List Char) := none
  /-- The sign, hours and minutes of the place's distance from the universal time; no sign stands
  for the universal time itself. -/
  zone : Option (Option Char × List Char × List Char) := none

def isInlineSpace (c : Char) : Bool := c == ' ' || c == '\t'

/-- The distance from the universal time, at the end of a moment. -/
def zoneText? (text : List Char) :
    Option (Option (Option Char × List Char × List Char)) :=
  match text.dropWhile isInlineSpace with
  | [] => if text.isEmpty then some none else none
  | ['Z'] => some (some (none, [], []))
  | sign :: rest =>
    if sign = '-' ∨ sign = '+' then
      match upToTwo rest with
      | some (hours, []) => some (some (some sign, hours, []))
      | some (hours, ':' :: rest) =>
        match exactly 2 rest with
        | some (minutes, []) => some (some (some sign, hours, minutes))
        | _ => none
      | _ => none
    else none

def momentText? (text : List Char) : Option MomentText := do
  let (year, rest) ← exactly 4 text
  let (month, rest) ← upToTwo (← past '-' rest)
  let (day, rest) ← upToTwo (← past '-' rest)
  match rest with
  | [] => some { year, month, day }
  | c :: others =>
    let rest ←
      if c = 'T' ∨ c = 't' then some others
      else if isInlineSpace c then some (others.dropWhile isInlineSpace)
      else none
    let (hour, rest) ← upToTwo rest
    let (minute, rest) ← exactly 2 (← past ':' rest)
    let (second, rest) ← exactly 2 (← past ':' rest)
    let places := match rest with
      | '.' :: places => places.takeWhile Char.isDigit
      | _ => []
    let rest := match rest with
      | '.' :: places => places.dropWhile Char.isDigit
      | rest => rest
    let zone ← zoneText? rest
    some { year, month, day, time := some (hour, minute, second, places), zone }

/-- A plain scalar that is a moment in time: a day alone is written in full. -/
def isMoment (text : List Char) : Bool :=
  match momentText? text with
  | some m => m.time.isSome || (m.month.length == 2 && m.day.length == 2)
  | none => false

/-- Words with a meaning, and the tags they have. -/
def words : List (String × List String) :=
  [("bool", ["yes", "Yes", "YES", "no", "No", "NO", "true", "True", "TRUE", "false", "False",
      "FALSE", "on", "On", "ON", "off", "Off", "OFF"]),
    ("null", ["", "~", "null", "Null", "NULL"]),
    ("merge", ["<<"]),
    ("value", ["="])]

def plainTag (text : String) : String :=
  let cs := text.toList
  usualTag (match words.find? fun entry => entry.2.contains text with
    | some (name, _) => name
    | none =>
      if isFloat cs then "float"
      else if isInteger cs then "int"
      else if isMoment cs then "timestamp"
      else "str")

end ComponentSplit.Yaml
