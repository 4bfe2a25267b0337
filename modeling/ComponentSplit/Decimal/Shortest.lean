namespace ComponentSplit.Decimal

/-- A positive fraction. -/
structure Fraction where
  num : Nat
  den : Nat
deriving DecidableEq, Repr

def sizeOf (x : Float) : Fraction :=
  let bits := x.toBits.toNat
  let hidden := 0x10000000000000
  let exponent := bits / hidden % 2048
  let tail := bits % hidden
  let m := if exponent = 0 then tail else hidden + tail
  let shift := max exponent 1
  if 1075 ≤ shift then ⟨m * Nat.pow 2 (shift - 1075), 1⟩ else ⟨m, Nat.pow 2 (1075 - shift)⟩

/-- How many times ten a fraction below one has to be taken to reach one. -/
def shiftToOne (fuel : Nat) (f : Fraction) : Nat :=
  match fuel with
  | 0 => 0
  | fuel + 1 => if f.den ≤ f.num then 0 else shiftToOne fuel ⟨10 * f.num, f.den⟩ + 1

/-- The power of ten of the first digit of a fraction that is not too small for a number. -/
def topExponent (f : Fraction) : Int :=
  if f.den ≤ f.num then (toString (f.num / f.den)).length - 1 else -(shiftToOne 400 f : Int)

/-- A fraction in units of a power of ten. -/
def Fraction.scale (f : Fraction) (exponent : Int) : Fraction :=
  if 0 ≤ exponent then ⟨f.num, f.den * Nat.pow 10 exponent.toNat⟩
  else ⟨f.num * Nat.pow 10 (-exponent).toNat, f.den⟩

def read (units : Nat) (exponent : Int) : Float :=
  Float.ofScientific units (exponent < 0) exponent.natAbs

/-- The number that a decimal of some digits reads as, whatever its exponent: beyond all numbers it
is infinite, and below them nothing. -/
def readAny (units digits : Nat) (exponent : Int) : Float :=
  read units (max (min exponent 400) (-400 - digits))

/-- The decimal with some number of digits that reads back as a number, if there is one. -/
def withDigits? (x : Float) (size : Fraction) (top : Int) (count : Nat) : Option (Nat × Int) :=
  let exponent := top - (count - 1)
  let scaled := size.scale exponent
  let below := scaled.num / scaled.den
  let isNearer := decide (2 * scaled.num ≤ (2 * below + 1) * scaled.den)
  let readsBack (units : Nat) : Bool := (read units exponent).toBits == x.toBits
  match readsBack below, readsBack (below + 1) with
  | true, true => some (if isNearer then below else below + 1, exponent)
  | true, false => some (below, exponent)
  | false, true => some (below + 1, exponent)
  | false, false => none

/-- A finite number as units of a power of ten below one, the shortest that reads back. -/
def shortest (x : Float) : Int × Nat :=
  if x == 0.0 then (0, 1)
  else
    let size := sizeOf x
    let top := topExponent size
    let (units, exponent) :=
      ((List.range 17).findSome? fun i => withDigits? x.abs size top (i + 1)).getD (0, 0)
    let signed : Int := if x < 0.0 then -(units : Int) else units
    if exponent < 0 then (signed, (-exponent).toNat) else (signed * Int.pow 10 (exponent.toNat + 1), 1)

end ComponentSplit.Decimal
