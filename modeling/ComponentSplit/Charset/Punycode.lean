import ComponentSplit.Charset.Fault

/-!
Texts in ASCII letters, digits and hyphens: the ASCII characters come first, and numbers behind them
say where the others are to be put in, in the order of their code points. The numbers are written
with digits of base 36 and thresholds that adapt to the numbers before.
-/

namespace ComponentSplit.Charset.Punycode

/-- The digit of a value below 36: letters, then decimal digits. -/
def digitChar (d : Nat) : Char :=
  if d < 26 then Char.ofNat (0x61 + d) else Char.ofNat (0x30 + (d - 26))

/-- The value of a digit, which may be a capital letter. -/
def digitValue? (c : Char) : Option Nat :=
  if c.isUpper then some (c.toNat - 0x41)
  else if c.isLower then some (c.toNat - 0x61)
  else if c.isDigit then some (c.toNat - 0x30 + 26)
  else none

/-- The threshold of a digit: a value below it ends the number. `weight` is 36 for the first digit
and grows by 36. -/
def threshold (weight bias : Nat) : Nat :=
  if weight ≤ bias then 1 else if bias + 26 ≤ weight then 26 else weight - bias

theorem threshold_pos (weight bias : Nat) : 1 ≤ threshold weight bias := by
  unfold threshold
  split
  · exact Nat.le_refl 1
  · split <;> omega

/-- Scale a number down until it is below the limit, and count the steps in multiples of 36. -/
def scale (delta steps : Nat) : Nat × Nat :=
  if 455 < delta then scale (delta / 35) (steps + 36) else (delta, steps)
termination_by delta
decreasing_by omega

/-- The bias after a number, with the count of characters after it. -/
def adapt (delta count : Nat) (isFirst : Bool) : Nat :=
  let delta := if isFirst then delta / 700 else delta / 2
  let (delta, steps) := scale (delta + delta / count) 0
  steps + 36 * delta / (delta + 38)

/-- The digits of a number, the least significant first. -/
def digitsOf (bias weight n : Nat) : List Char :=
  let t := threshold weight bias
  if n < t then [digitChar n]
  else digitChar (t + (n - t) % (36 - t)) :: digitsOf bias (weight + 36) ((n - t) / (36 - t))
termination_by n
decreasing_by
  have ht := threshold_pos weight bias
  exact Nat.lt_of_le_of_lt (Nat.div_le_self _ _) (by omega)

/-- A text being written: the number that the next character is going to have, the bias, and how many
characters are in place. -/
structure Progress where
  delta : Nat
  bias : Nat
  placed : Nat

/-- Go past a character while all of one code point are put in. `basic` is the number of ASCII
characters. -/
def step (basic code : Nat) (p : Progress) (c : Char) : List Char × Progress :=
  if c.toNat < code then ([], { p with delta := p.delta + 1 })
  else if c.toNat = code then
    (digitsOf p.bias 36 p.delta,
      ⟨0, adapt p.delta (p.placed + 1) (p.placed = basic), p.placed + 1⟩)
  else ([], p)

def steps (basic code : Nat) (p : Progress) : List Char → List Char × Progress
  | [] => ([], p)
  | c :: rest =>
    let (digits, next) := step basic code p c
    let (more, last) := steps basic code next rest
    (digits ++ more, last)

/-- The numbers of all code points in a list, which is in order and starts at `from` or above. -/
def numbers (text : List Char) (basic : Nat) (start : Nat) (p : Progress) : List Nat → List Char
  | [] => []
  | code :: codes =>
    let p := { p with delta := p.delta + (code - start) * (p.placed + 1) }
    let (digits, p) := steps basic code p text
    digits ++ numbers text basic (code + 1) { p with delta := p.delta + 1 } codes

/-- The text in ASCII, with a hyphen behind the ASCII characters if there are some. -/
def encode (text : List Char) : List Char :=
  let basic := text.filter (·.toNat < 0x80)
  let codes := ((text.filter (0x80 ≤ ·.toNat)).map Char.toNat).mergeSort.eraseReps
  basic ++ (if basic.isEmpty then [] else ['-']) ++
    numbers text basic.length 0x80 ⟨0, 72, basic.length⟩ codes

/-- A number at the head of the digits, and the digits behind it. -/
def number (bias weight value factor : Nat) : List Char → Except TextFault (Nat × List Char)
  | [] => .error .shortPunycode
  | c :: rest =>
    match digitValue? c with
    | none => .error (.badPunycodeDigit c)
    | some d =>
      if d < threshold weight bias then .ok (value + d * factor, rest)
      else
        number bias (weight + 36) (value + d * factor) (factor * (36 - threshold weight bias)) rest

theorem length_number {bias weight value factor : Nat} {digits : List Char} {n : Nat}
    {rest : List Char} (h : number bias weight value factor digits = .ok (n, rest)) :
    rest.length < digits.length := by
  induction digits generalizing weight value factor with
  | nil => simp [number] at h
  | cons c digits ih =>
    unfold number at h
    split at h
    · simp at h
    · split at h
      · cases h
        simp
      · have := ih h
        simp only [List.length_cons]
        omega

/-- Put characters into a text. `place` is where the last one went, and `code` is its code point. -/
def insertAll (bias code : Nat) (place : Option Nat) (text digits : List Char) :
    Except TextFault (List Char) :=
  match digits with
  | [] => .ok text
  | c :: cs =>
    match _h : number bias 36 0 1 (c :: cs) with
    | .error fault => .error fault
    | .ok (delta, rest) =>
      let total := (match place with | none => 0 | some place => place + 1) + delta
      let count := text.length + 1
      let code := code + total / count
      if 0x10FFFF < code then .error (.codeBeyondRange code)
      else
        let place' := total % count
        let new := if code.isValidChar then Char.ofNat code else '\ufffd'
        insertAll (adapt delta count place.isNone) code (some place')
          (text.take place' ++ new :: text.drop place') rest
termination_by digits.length
decreasing_by
  have := length_number _h
  simpa using this

/-- The text of an ASCII form whose characters before the last hyphen are `basic`. -/
def decode (basic digits : List Char) : Except TextFault (List Char) :=
  insertAll 72 0x80 none basic (digits.map Char.toUpper)

end ComponentSplit.Charset.Punycode
