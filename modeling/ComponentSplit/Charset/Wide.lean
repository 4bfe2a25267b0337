import ComponentSplit.Charset.Fault

namespace ComponentSplit.Charset

/-- The order of the bytes in a unit. -/
inductive ByteOrder
  | little
  | big
deriving DecidableEq, Repr

def littleBytes (count n : Nat) : List UInt8 :=
  match count with
  | 0 => []
  | k + 1 => UInt8.ofNat (n % 256) :: littleBytes k (n / 256)

/-- A number from its bytes, the least significant first. -/
def ofLittleBytes : List UInt8 → Nat
  | [] => 0
  | b :: rest => b.toNat + 256 * ofLittleBytes rest

def unitBytes (order : ByteOrder) (count n : Nat) : List UInt8 :=
  match order with
  | .little => littleBytes count n
  | .big => (littleBytes count n).reverse

def ofUnitBytes (order : ByteOrder) (bytes : List UInt8) : Nat :=
  match order with
  | .little => ofLittleBytes bytes
  | .big => ofLittleBytes bytes.reverse

/-- The byte order mark in units of `count` bytes. -/
def orderMark (order : ByteOrder) (count : Nat) : List UInt8 := unitBytes order count 0xFEFF

/-- The name of a set with a given order, which faults carry. -/
def orderedName (family : String) : ByteOrder → String
  | .little => family ++ "-le"
  | .big => family ++ "-be"

/-- A unit that opens, or closes, a pair which makes a character beyond the first plane. -/
def isHighUnit (n : Nat) : Bool := 0xD800 ≤ n && n < 0xDC00
def isLowUnit (n : Nat) : Bool := 0xDC00 ≤ n && n < 0xE000

def utf16Units (c : Char) : List Nat :=
  let n := c.toNat
  if n < 0x10000 then [n] else [0xD800 + (n - 0x10000) / 0x400, 0xDC00 + (n - 0x10000) % 0x400]

def ofUtf16Pair (high low : Nat) : Char :=
  Char.ofNat (0x10000 + (high - 0xD800) * 0x400 + (low - 0xDC00))

def encodeUtf16 (order : ByteOrder) (cs : List Char) : List UInt8 :=
  (cs.flatMap utf16Units).flatMap (unitBytes order 2)

def encodeUtf32 (order : ByteOrder) (cs : List Char) : List UInt8 :=
  cs.flatMap (unitBytes order 4 ·.toNat)

/-- Characters from pairs of bytes, the first of which is at position `pos`. -/
def decodeUtf16From (order : ByteOrder) (pos : Nat) : List UInt8 → Except DecodeFault (List Char)
  | [] => .ok []
  | [a] => .error ⟨orderedName "utf-16" order, a, pos, pos + 1, .truncated⟩
  | a :: b :: rest =>
    let unit := ofUnitBytes order [a, b]
    let fault (length : Nat) (bad : BadBytes) : DecodeFault :=
      ⟨orderedName "utf-16" order, a, pos, pos + length, bad⟩
    if isLowUnit unit then .error (fault 2 .invalidUnit)
    else if isHighUnit unit then
      match rest with
      | c :: d :: more =>
        let low := ofUnitBytes order [c, d]
        if isLowUnit low then
          match decodeUtf16From order (pos + 4) more with
          | .ok cs => .ok (ofUtf16Pair unit low :: cs)
          | .error e => .error e
        else .error (fault 2 .loneSurrogate)
      | more => .error (fault (2 + more.length) .endOfData)
    else
      match decodeUtf16From order (pos + 2) rest with
      | .ok cs => .ok (Char.ofNat unit :: cs)
      | .error e => .error e

/-- Characters from groups of four bytes, the first of which is at position `pos`. -/
def decodeUtf32From (order : ByteOrder) (pos : Nat) : List UInt8 → Except DecodeFault (List Char)
  | [] => .ok []
  | a :: b :: c :: d :: rest =>
    let n := ofUnitBytes order [a, b, c, d]
    if n.isValidChar then
      match decodeUtf32From order (pos + 4) rest with
      | .ok cs => .ok (Char.ofNat n :: cs)
      | .error e => .error e
    else
      .error ⟨orderedName "utf-32" order, a, pos, pos + 4,
        if n < 0xE000 then .surrogateCode else .codeBeyondRange⟩
  | a :: rest =>
    .error ⟨orderedName "utf-32" order, a, pos, pos + 1 + rest.length, .truncated⟩

end ComponentSplit.Charset
