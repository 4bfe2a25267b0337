import ComponentSplit.Markup.Entities
import ComponentSplit.Text.Digits

namespace ComponentSplit

/-- What the code points from 128 to 159 are taken for. -/
def c1Characters : List Nat :=
  [0x20ac, 0x81, 0x201a, 0x192, 0x201e, 0x2026, 0x2020, 0x2021, 0x2c6, 0x2030, 0x160, 0x2039, 0x152,
    0x8d, 0x17d, 0x8f, 0x90, 0x2018, 0x2019, 0x201c, 0x201d, 0x2022, 0x2013, 0x2014, 0x2dc, 0x2122,
    0x161, 0x203a, 0x153, 0x9d, 0x17e, 0x178]

/-- Code points that stand for nothing: controls and noncharacters. -/
def isNoncharacter (n : Nat) : Bool :=
  (1 ≤ n && n ≤ 8) || n == 11 || (14 ≤ n && n ≤ 31) || n == 127 || (0xFDD0 ≤ n && n ≤ 0xFDEF) ||
    n % 0x10000 == 0xFFFE || n % 0x10000 == 0xFFFF

def ofReferenceNumber (n : Nat) : List Char :=
  if n = 0 then ['\ufffd']
  else if 128 ≤ n ∧ n < 160 then [Char.ofNat (c1Characters.getD (n - 128) 0)]
  else if (0xD800 ≤ n ∧ n ≤ 0xDFFF) ∨ 0x10FFFF < n then ['\ufffd']
  else if isNoncharacter n then []
  else [Char.ofNat n]

/-- The text that a name stands for when no semicolon follows it. -/
def bareEntity? (name : List Char) : Option (List Char) :=
  let key := String.ofList name
  if bareEntityNames.contains key then (entities.lookup key).map String.toList else none

/-- The longest beginning of a name, of at most `length` and at least two characters, that stands
for something, together with what follows it. -/
def longestBareEntity (name : List Char) (length : Nat) : Option (List Char) :=
  match length with
  | 0 | 1 => none
  | n + 1 =>
    match bareEntity? (name.take (n + 1)) with
    | some text => some (text ++ name.drop (n + 1))
    | none => longestBareEntity name n

/-- A character that can stand in the name of a reference. -/
def isReferenceChar (c : Char) : Bool := !("\t\n\x0c <&#;".toList.contains c)

/-- What a name behind an ampersand stands for; the flag says that a semicolon follows. -/
def ofReferenceName (name : List Char) (closed : Bool) : List Char :=
  let tail := if closed then [';'] else []
  let whole := if closed then (entities.lookup (String.ofList name)).map String.toList
    else bareEntity? name
  match whole with
  | some text => text
  | none =>
    match longestBareEntity name (if closed then name.length else name.length - 1) with
    | some text => text ++ tail
    | none => '&' :: name ++ tail

/-- The reference behind an ampersand: what it stands for and how many characters it takes. -/
def reference? (text : List Char) : Option (List Char × Nat) :=
  match text with
  | '#' :: x :: rest =>
    let hex := (x = 'x' || x = 'X') && rest.head?.any isHexDigit
    let digits := if hex then rest.takeWhile isHexDigit else (x :: rest).takeWhile (·.isDigit)
    if digits.isEmpty then none
    else
      let length := digits.length + if hex then 2 else 1
      let closed := if (text.drop length).head? = some ';' then 1 else 0
      some (ofReferenceNumber (ofDigits (if hex then 16 else 10) digits), length + closed)
  | _ =>
    let name := (text.take 32).takeWhile isReferenceChar
    if name.isEmpty then none
    else
      let closed := (text.drop name.length).head? = some ';'
      some (ofReferenceName name closed, name.length + if closed then 1 else 0)

/-- A text with all its references replaced by what they stand for; `skip` characters of it belong
to a reference already replaced. -/
def unescapeFrom (skip : Nat) : List Char → List Char
  | [] => []
  | c :: rest =>
    match skip with
    | n + 1 => unescapeFrom n rest
    | 0 =>
      if c = '&' then
        match reference? rest with
        | some (text, length) => text ++ unescapeFrom length rest
        | none => c :: unescapeFrom 0 rest
      else c :: unescapeFrom 0 rest

/-- A text with all its references replaced by what they stand for. -/
def unescape (text : List Char) : List Char := unescapeFrom 0 text

/-- The number of digits in the first decimal reference that has too many of them. -/
def longReference? : List Char → Option Nat
  | [] => none
  | c :: rest =>
    let count := match rest with
      | '#' :: more => (more.takeWhile Char.isDigit).length
      | _ => 0
    if c = '&' ∧ maxDigits < count then some count else longReference? rest

theorem unescape_eq_self {text : List Char} (h : '&' ∉ text) : unescape text = text := by
  unfold unescape
  induction text with
  | nil => rfl
  | cons c rest ih =>
    rw [List.mem_cons, not_or] at h
    rw [unescapeFrom, if_neg (Ne.symm h.1), ih h.2]

end ComponentSplit
