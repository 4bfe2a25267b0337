import ComponentSplit.Decimal.Shortest
import ComponentSplit.Text.Blank
import ComponentSplit.Text.Numeral
import ComponentSplit.Value
import ComponentSplit.Yaml.Fault
import ComponentSplit.Yaml.Resolution

namespace ComponentSplit.Yaml

def digitBelow? (base : Nat) (c : Char) : Option Nat :=
  let value := (decimalValue? c).or (if isHexDigit c then some (digitValue c) else none)
  value.filter (· < base)

/-- A sign in front of a text, and the rest of it. -/
def takeSign : List Char → Bool × List Char
  | '-' :: rest => (true, rest)
  | '+' :: rest => (false, rest)
  | text => (false, text)

def dropBase (base : Nat) (text : List Char) : List Char :=
  match base, text with
  | 2, '0' :: 'b' :: rest | 2, '0' :: 'B' :: rest => rest
  | 8, '0' :: 'o' :: rest | 8, '0' :: 'O' :: rest => rest
  | 16, '0' :: 'x' :: rest | 16, '0' :: 'X' :: rest => rest
  | _, text => text

/-- The integer that a text writes in a base, with white space around it. -/
def integerIn (base : Nat) (text : List Char) : Except BadScalar Int :=
  let (negative, digits) := takeSign (trim text)
  let digits := dropBase base digits
  match digits.mapM (digitBelow? base) with
  | none | some [] => .error (.number base (String.ofList text))
  | some values =>
    if base = 10 ∧ maxDigits < values.length then .error (.longNumber values.length)
    else
      let size := values.foldl (fun n v => n * base + v) 0
      .ok (if negative then -(size : Int) else size)

/-- A number of which every part but the last counts sixty times the next one. -/
def sixties [Add α] [Mul α] (zero sixty : α) (parts : List α) : α :=
  parts.foldl (fun n part => n * sixty + part) zero

def integer (text : List Char) : Except BadScalar Int := do
  let (negative, digits) := takeSign (text.filter (· != '_'))
  let size ← match digits with
    | [] => throw .empty
    | ['0'] => pure 0
    | '0' :: 'b' :: rest => integerIn 2 rest
    | '0' :: 'x' :: rest => integerIn 16 rest
    | '0' :: _ => integerIn 8 digits
    | _ =>
      if digits.contains ':' then (sixties 0 60) <$> (colonParts digits).mapM (integerIn 10)
      else integerIn 10 digits
  pure (if negative then -size else size)

/-- The number that a decimal text writes, with white space around it. -/
def floatIn (text : List Char) : Except BadScalar Float :=
  let (negative, number) := takeSign (trim text)
  let signed (x : Float) : Float := if negative then -x else x
  let whole := number.takeWhile isDecimal
  let rest := number.dropWhile isDecimal
  let (places, rest) := match rest with
    | '.' :: rest => (rest.takeWhile isDecimal, rest.dropWhile isDecimal)
    | rest => ([], rest)
  let digits := (whole ++ places).filterMap decimalValue?
  let units := digits.foldl (fun n v => 10 * n + v) 0
  let result (exponent : Int) : Except BadScalar Float :=
    if digits.isEmpty then .error (.float (String.ofList text))
    else .ok (signed (Decimal.readAny units digits.length (exponent - places.length)))
  match rest with
  | [] => result 0
  | 'e' :: exponent =>
    match integerIn 10 exponent with
    | .ok n => if exponent.any isBlank then .error (.float (String.ofList text)) else result n
    | .error _ => .error (.float (String.ofList text))
  | _ =>
    if ["inf", "infinity"].contains (String.ofList number) then .ok (signed (1.0 / 0.0))
    else if number = "nan".toList then .ok (0.0 / 0.0)
    else .error (.float (String.ofList text))

def float (text : List Char) : Except BadScalar Float := do
  let (negative, number) := takeSign ((text.filter (· != '_')).map Char.toLower)
  let size ←
    if number.isEmpty then throw .empty
    else if number = ".inf".toList then pure (1.0 / 0.0)
    else if number = ".nan".toList then pure (0.0 / 0.0)
    else if number.contains ':' then do
      let parts ← (colonParts number).mapM floatIn
      let step (sum : Float × Float) (part : Float) : Float × Float :=
        (sum.1 + part * sum.2, sum.2 * 60.0)
      pure (parts.reverse.foldl step (0.0, 1.0)).1
    else floatIn number
  pure (if negative then -size else size)

def floatValue (x : Float) : Value :=
  if x.isNaN then .extreme .noNumber
  else if x.isInf then .extreme (.infinite (x < 0.0))
  else if x == 0.0 && x.toBits != 0 then .extreme .negativeZero
  else
    let (units, places) := Decimal.shortest x
    .decimal units places

def daysIn (year month : Nat) : Nat :=
  let isLeap := year % 4 == 0 && (year % 100 != 0 || year % 400 == 0)
  if month = 2 then if isLeap then 29 else 28
  else if [4, 6, 9, 11].contains month then 30 else 31

/-- A number in digits, at least as many as asked for. -/
def padded (width n : Nat) : String :=
  let digits := toString n
  String.ofList (List.replicate (width - digits.length) '0') ++ digits

/-- A distance from the universal time, in minutes: less than a day. -/
def zoneText (minutes : Int) : String :=
  let size := minutes.natAbs
  (if minutes < 0 then "-" else "+") ++ padded 2 (size / 60) ++ ":" ++ padded 2 (size % 60)

/-- The fault of a distance of a day or more. -/
def zoneFault (minutes : Int) : BadScalar :=
  let days := minutes.fdiv 1440
  let seconds := minutes.fmod 1440 * 60
  let tail := if seconds = 0 then "" else s!", seconds={seconds}"
  .field ("offset must be a timedelta strictly between -timedelta(hours=24) and " ++
    s!"timedelta(hours=24), not datetime.timedelta(days={days}{tail})")

/-- The day that digits write, which has to exist. -/
def dayText (m : MomentText) : Except BadScalar String :=
  let (year, month, day) := (ofDigits 10 m.year, ofDigits 10 m.month, ofDigits 10 m.day)
  if year = 0 then .error (.field "year 0 is out of range")
  else if month < 1 ∨ 12 < month then .error (.field "month must be in 1..12")
  else if day < 1 ∨ daysIn year month < day then .error (.field "day is out of range for month")
  else .ok (padded 4 year ++ "-" ++ padded 2 month ++ "-" ++ padded 2 day)

def moment (text : List Char) : Except BadScalar String := do
  match momentText? text with
  | none => throw .noTimestamp
  | some m =>
    match m.time with
    | none => dayText m
    | some (hour, minute, second, places) =>
      let zone ← match m.zone with
        | none => pure ""
        | some (none, _, _) => pure "+00:00"
        | some (some sign, hours, minutes) =>
          let size : Int := 60 * ofDigits 10 hours + ofDigits 10 minutes
          let minutes := if sign = '-' then -size else size
          if 1440 ≤ minutes.natAbs then throw (zoneFault minutes) else pure (zoneText minutes)
      let day ← dayText m
      let (hour, minute, second) := (ofDigits 10 hour, ofDigits 10 minute, ofDigits 10 second)
      if 23 < hour then throw (.field "hour must be in 0..23")
      if 59 < minute then throw (.field "minute must be in 0..59")
      if 59 < second then throw (.field "second must be in 0..59")
      let fraction := (places ++ List.replicate 6 '0').take 6
      let tail := if fraction.all (· == '0') then "" else "." ++ String.ofList fraction
      pure (day ++ " " ++ padded 2 hour ++ ":" ++ padded 2 minute ++ ":" ++ padded 2 second ++
        tail ++ zone)

end ComponentSplit.Yaml
