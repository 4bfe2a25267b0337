import ComponentSplit.Charset.Fault

/-!
Character sets whose characters take one or more bytes each, some with a state that bytes before have
set. A set is given by a step of reading and a step of writing; the laws of the walk along a text or
along bytes are the same for all.
-/

namespace ComponentSplit.Charset

/-- What stands at the head of bytes: characters, a number of bytes that no character is written
with, or the first bytes of a character whose others are missing. -/
inductive Found (σ : Type)
  | characters (cs : List Char) (width : Nat) (state : σ)
  | unassigned (width : Nat)
  | incomplete

/-- A way to write characters as bytes. `read` is asked about the bytes that are left, one at least,
and `write` about the characters that are left, the first of which it writes or refuses; it says how
many characters behind the first it has written too. -/
structure Scheme (σ : Type) where
  codec : String
  start : σ
  read : σ → (first : UInt8) → (rest : List UInt8) → Found σ
  write : σ → (first : Char) → (rest : List Char) → Option (List UInt8 × Nat × σ)
  finish : σ → List UInt8 := fun _ => []

namespace Scheme

variable {σ : Type}

/-- Characters from bytes, the first of which is at position `pos`. -/
def decodeFrom (s : Scheme σ) (state : σ) (pos : Nat) (bytes : List UInt8) :
    Except DecodeFault (List Char) :=
  match bytes with
  | [] => .ok []
  | b :: rest =>
    match s.read state b rest with
    | .characters cs width next =>
      match decodeFrom s next (pos + 1 + (width - 1)) (rest.drop (width - 1)) with
      | .ok more => .ok (cs ++ more)
      | .error fault => .error fault
    | .unassigned width => .error ⟨s.codec, b, pos, pos + width, .unassigned⟩
    | .incomplete => .error ⟨s.codec, b, pos, pos + 1 + rest.length, .incomplete⟩
termination_by bytes.length
decreasing_by
  simp only [List.length_drop, List.length_cons]
  omega

def decode (s : Scheme σ) (bytes : List UInt8) : Except DecodeFault (List Char) :=
  s.decodeFrom s.start 0 bytes

/-- Bytes of characters, the first of which is at position `pos`. -/
def encodeFrom (s : Scheme σ) (state : σ) (pos : Nat) (cs : List Char) :
    Except EncodeFault (List UInt8) :=
  match cs with
  | [] => .ok (s.finish state)
  | c :: rest =>
    match s.write state c rest with
    | none => .error ⟨s.codec, [c], pos, .unassigned⟩
    | some (bytes, more, next) =>
      match encodeFrom s next (pos + 1 + more) (rest.drop more) with
      | .ok tail => .ok (bytes ++ tail)
      | .error fault => .error fault
termination_by cs.length
decreasing_by
  simp only [List.length_drop, List.length_cons]
  omega

def encode (s : Scheme σ) (cs : List Char) : Except EncodeFault (List UInt8) :=
  s.encodeFrom s.start 0 cs

/-- The bytes of a code, the most significant first. -/
def codeBytes (code : Nat) : List UInt8 :=
  if code < 0x100 then [UInt8.ofNat code]
  else if code < 0x10000 then [UInt8.ofNat (code / 0x100), UInt8.ofNat code]
  else if code < 0x1000000 then
    [UInt8.ofNat (code / 0x10000), UInt8.ofNat (code / 0x100), UInt8.ofNat code]
  else
    [UInt8.ofNat (code / 0x1000000), UInt8.ofNat (code / 0x10000), UInt8.ofNat (code / 0x100),
      UInt8.ofNat code]

/-- A set without states, given by the characters at the head of bytes and the bytes of characters.
ASCII characters are written as in ASCII. -/
def stateless (codec : String) (read : (first : Nat) → (rest : List UInt8) → Found Unit)
    (write : (first : Char) → (rest : List Char) → Option (Nat × Nat)) : Scheme Unit where
  codec := codec
  start := ()
  read _ b rest := if b < 0x80 then .characters [Char.ofNat b.toNat] 1 () else read b.toNat rest
  write _ c rest :=
    if c.toNat < 0x80 then some ([UInt8.ofNat c.toNat], 0, ())
    else (write c rest).map fun (code, more) => (codeBytes code, more, ())

end Scheme

/-- Two bytes at the head of bytes stand for what their code stands for. -/
def Found.pair (character : Nat → Option (List Char)) (first : Nat) (rest : List UInt8) :
    Found Unit :=
  match rest with
  | [] => .incomplete
  | second :: _ =>
    match character (first * 0x100 + second.toNat) with
    | some cs => .characters cs 2 ()
    | none => .unassigned 1

end ComponentSplit.Charset
