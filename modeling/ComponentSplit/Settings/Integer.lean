import ComponentSplit.FieldError
import ComponentSplit.Text.Digits

namespace ComponentSplit.SettingInteger

/-- The integer that a text writes in plain digits, without needless zeros. -/
def plain (text : List Char) : Except FieldFault Int :=
  let (negative, digits) := match text with
    | '-' :: rest => (true, rest)
    | rest => (false, rest)
  let run := digits.takeWhile Char.isDigit
  let rest := digits.drop run.length
  let isFraction := rest.head?.any fun c => c == '.' || c == 'e' || c == 'E'
  if run.isEmpty || (run.head? = some '0' && run != ['0']) then .error .notInteger
  else if maxDigits < text.length - rest.length && !isFraction then .error .tooLong
  else if !rest.isEmpty then .error .notInteger
  else .ok (if negative then -(ofDigits 10 run : Int) else ofDigits 10 run)

def isPadding (c : Char) : Bool :=
  let n := c.toNat
  (9 ≤ n && n ≤ 13) || n == 32 || n == 0x85 || n == 0xA0 || n == 0x1680 ||
    (0x2000 ≤ n && n ≤ 0x200A) || n == 0x2028 || n == 0x2029 || n == 0x202F || n == 0x205F ||
    n == 0x3000

/-- What remains behind zeros, among which underscores may stand; a zero in front of a full stop
and the last character of all stay. -/
def behindZeros (last : Char) : List Char → Option (List Char)
  | [] => some [last]
  | c :: rest =>
    if c = '0' || c = '_' then behindZeros c rest
    else if c.isDigit || c = '-' then some (c :: rest)
    else if c = '.' then some (last :: c :: rest)
    else none

/-- A text without leading zeros, if it can be a number at all. -/
def dropZeros : List Char → Option (List Char)
  | [] => none
  | c :: rest =>
    if c = '0' then behindZeros c rest
    else if c.isDigit || c = '-' then some (c :: rest)
    else none

def dropFraction (text : List Char) : List Char :=
  let whole := text.takeWhile (· != '.')
  match text.drop whole.length with
  | _ :: zeros => if !zeros.isEmpty && zeros.all (· == '0') then whole else text
  | [] => text

/-- A text without single underscores inside it; others stay. -/
def dropUnderscores (text : List Char) : List Char :=
  let doubled := (text.zip (text.drop 1)).any fun (a, b) => a == '_' && b == '_'
  if text.head? = some '_' || text.getLast? = some '_' || doubled then text
  else text.filter (· != '_')

/-- A text without all that a number may carry. -/
def clean (text : List Char) : Option (List Char) :=
  let padded := text.dropWhile isPadding
  let trimmed := (padded.reverse.dropWhile isPadding).reverse
  let unsigned := match trimmed with
    | '+' :: '-' :: _ => none
    | '+' :: rest => some rest
    | rest => some rest
  (unsigned.bind dropZeros).map fun digits => dropUnderscores (dropFraction digits)

/-- The integer of a setting: written plainly, or else once the text is cleaned. -/
def read (text : List Char) : Except FieldFault Int :=
  match plain text with
  | .error .notInteger =>
    match clean text with
    | some digits => plain digits
    | none => .error .notInteger
  | result => result

end ComponentSplit.SettingInteger
