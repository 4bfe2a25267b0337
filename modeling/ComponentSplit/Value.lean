import ComponentSplit.Text.Quoted

namespace ComponentSplit

/-- A floating-point number that no decimal writes. -/
inductive Extreme
  | negativeZero
  | infinite (negative : Bool)
  | noNumber
deriving DecidableEq, Repr

def Extreme.text : Extreme → String
  | negativeZero => "-0.0"
  | infinite negative => if negative then "-inf" else "inf"
  | noNumber => "nan"

/-- A value of any kind. A decimal is a number of units of a power of ten below one. -/
inductive Value
  | null
  | bool (b : Bool)
  | int (n : Int)
  | decimal (units : Int) (places : Nat)
  | extreme (x : Extreme)
  | text (s : String)
  | bytes (b : ByteArray)
  | list (items : List Value)
  | record (fields : List (String × Value))
deriving Inhabited, BEq

namespace Value

def kindName : Value → String
  | null => "NoneType"
  | bool _ => "bool"
  | int _ => "int"
  | decimal .. | extreme _ => "float"
  | text _ => "str"
  | bytes _ => "bytes"
  | list _ => "list"
  | record _ => "dict"

/-- A value that says nothing: no value, no, zero, or nothing inside. -/
def isEmpty : Value → Bool
  | null => true
  | bool b => !b
  | int n => n == 0
  | decimal units _ => units == 0
  | extreme x => x = .negativeZero
  | text s => s == ""
  | bytes b => b.size == 0
  | list items => items.isEmpty
  | record fields => fields.isEmpty

/-- Digits with a point behind the first `whole` of them; a number has at least one digit on each
side of its point. -/
def withPoint (digits : List Char) (whole : Nat) : List Char :=
  let front := digits.take whole ++ List.replicate (whole - digits.length) '0'
  let back := digits.drop whole
  (if front.isEmpty then ['0'] else front) ++ '.' :: (if back.isEmpty then ['0'] else back)

/-- The text of a decimal: positional from a ten-thousandth up to sixteen digits before the point,
and with an exponent of at least two digits elsewhere. -/
def decimalText (units : Int) (places : Nat) : List Char :=
  let all := (toString units.natAbs).toList
  let digits := (all.reverse.dropWhile (· == '0')).reverse
  let sign := if units < 0 then ['-'] else []
  let exponent : Int := all.length - places - 1
  if digits.isEmpty then sign ++ "0.0".toList
  else if -4 ≤ exponent ∧ exponent < 0 then
    sign ++ '0' :: '.' :: List.replicate (-exponent - 1).toNat '0' ++ digits
  else if 0 ≤ exponent ∧ exponent < 16 then sign ++ withPoint digits (exponent.toNat + 1)
  else
    let tail := digits.drop 1
    let size := (toString exponent.natAbs).toList
    sign ++ digits.take 1 ++ (if tail.isEmpty then [] else '.' :: tail) ++ 'e' ::
      (if exponent < 0 then '-' else '+') :: (if size.length < 2 then '0' :: size else size)

def quotedByte (quote : Char) (b : UInt8) : List Char :=
  let n := b.toNat
  if n < 128 then quotedChar quote (Char.ofNat n) else codeEscape n

def quotedBytes (b : ByteArray) : List Char :=
  let bs := b.data.toList
  let quote := if bs.contains 39 ∧ !bs.contains 34 then '"' else '\''
  'b' :: quote :: bs.flatMap (quotedByte quote) ++ [quote]

mutual

/-- The text that stands for a value inside another. -/
def shown : Value → List Char
  | null => "None".toList
  | bool b => (if b then "True" else "False").toList
  | int n => (toString n).toList
  | decimal units places => decimalText units places
  | extreme x => x.text.toList
  | text s => (quoted s).toList
  | bytes b => quotedBytes b
  | list items => '[' :: shownItems items ++ [']']
  | record fields => '\x7b' :: shownFields fields ++ ['\x7d']

def shownItems : List Value → List Char
  | [] => []
  | [v] => shown v
  | v :: rest => shown v ++ ',' :: ' ' :: shownItems rest

def shownFields : List (String × Value) → List Char
  | [] => []
  | [(name, v)] => (quoted name).toList ++ ':' :: ' ' :: shown v
  | (name, v) :: rest =>
    (quoted name).toList ++ ':' :: ' ' :: shown v ++ ',' :: ' ' :: shownFields rest

end

/-- The text that stands for a value by itself. -/
def display : Value → String
  | text s => s
  | v => String.ofList v.shown

end Value

end ComponentSplit
