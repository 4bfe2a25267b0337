import ComponentSplit.Text.Alphanumeric
import ComponentSplit.Text.Blank
import ComponentSplit.Text.Lowercase
import ComponentSplit.Text.Numeral

namespace ComponentSplit.Pattern

/-- How a part of a pattern reads characters. -/
structure Flags where
  ignoreCase : Bool := true
  multiline : Bool := false
  dotAll : Bool := false
  ascii : Bool := false
deriving DecidableEq, Repr

def smallForm (n : Nat) : Nat :=
  if n < 128 then if 65 ≤ n && n ≤ 90 then n + 32 else n
  else if n = 0x130 then 105
  else lowerInRuns lowercaseRuns n

/-- The code points in runs of capitals with a given small form. -/
def capitalsInRuns (runs : List (Nat × Nat × Nat × Int)) (n : Nat) : List Nat :=
  runs.filterMap fun (first, count, stride, shift) =>
    let u := (n - shift : Int).toNat
    if first ≤ u && u < first + count * stride && (u - first) % stride == 0 then some u else none

/-- All other code points with a given small form. -/
def capitalsOf (n : Nat) : List Nat :=
  (if 97 ≤ n && n ≤ 122 then [n - 32] else []) ++ (if n = 105 then [0x130] else []) ++
    capitalsInRuns lowercaseRuns n

/-- Small letters that share a capital. -/
def sharedCapitals : List (List Nat) :=
  [[0x69, 0x131], [0x73, 0x17f], [0xb5, 0x3bc], [0x345, 0x3b9, 0x1fbe], [0x390, 0x1fd3],
    [0x3b0, 0x1fe3], [0x3b2, 0x3d0], [0x3b5, 0x3f5], [0x3b8, 0x3d1], [0x3ba, 0x3f0],
    [0x3c0, 0x3d6], [0x3c1, 0x3f1], [0x3c2, 0x3c3], [0x3c6, 0x3d5], [0x432, 0x1c80],
    [0x434, 0x1c81], [0x43e, 0x1c82], [0x441, 0x1c83], [0x442, 0x1c84, 0x1c85], [0x44a, 0x1c86],
    [0x463, 0x1c87], [0x1c88, 0xa64b], [0x1e61, 0x1e9b], [0xfb05, 0xfb06]]

/-- The small letters that count as one with a small letter, itself included. -/
def alikeLetters (n : Nat) : List Nat := (sharedCapitals.find? (·.contains n)).getD [n]

/-- The form of a character that comparison looks at. -/
def Flags.fold (flags : Flags) (c : Char) : Nat :=
  if !flags.ignoreCase then c.toNat
  else if flags.ascii then (asciiLower c).toNat
  else smallForm c.toNat

/-- The code points that count as one with a folded one. -/
def Flags.alike (flags : Flags) (folded : Nat) : List Nat :=
  if !flags.ignoreCase then [folded]
  else if flags.ascii then
    if 97 ≤ folded && folded ≤ 122 then [folded, folded - 32] else [folded]
  else (alikeLetters folded).flatMap fun m => m :: capitalsOf m

/-- The classes of characters that have an escape of their own. -/
inductive CharClass
  | digit
  | blank
  | word
deriving DecidableEq, Repr

/-- The members of a class, all of them ASCII characters when that is asked for. -/
def CharClass.holds (cls : CharClass) (ascii : Bool) (c : Char) : Bool :=
  if ascii && 128 ≤ c.toNat then false
  else
    match cls with
    | digit => isDecimal c
    | blank => if ascii then c == ' ' || (9 ≤ c.toNat && c.toNat ≤ 13) else isBlank c
    | word => isWordChar c

/-- A member of a character set. -/
inductive SetItem
  | range (first last : Nat)
  | cls (c : CharClass)
deriving DecidableEq, Repr

def Flags.holds (flags : Flags) (items : List SetItem) (c : Char) : Bool :=
  let forms := flags.alike (flags.fold c)
  items.any fun
    | .range first last => forms.any fun n => first ≤ n && n ≤ last
    | .cls kind => kind.holds flags.ascii c

end ComponentSplit.Pattern
