import ComponentSplit.Charset.Fault

namespace ComponentSplit

def isTail (b : UInt8) : Bool := 0x80 ≤ b && b ≤ 0xBF

/-- A byte that may follow the lead byte; four of the lead bytes narrow the range. -/
def isSecond (lead b : UInt8) : Bool :=
  isTail b &&
    (if lead = 0xE0 then 0xA0 ≤ b else if lead = 0xED then b < 0xA0
    else if lead = 0xF0 then 0x90 ≤ b else if lead = 0xF4 then b < 0x90 else true)

/-- How many bytes follow a lead byte, if the byte can start a character. -/
def tailCount (lead : UInt8) : Option Nat :=
  if lead < 0x80 then some 0
  else if 0xC2 ≤ lead && lead ≤ 0xDF then some 1
  else if 0xE0 ≤ lead && lead ≤ 0xEF then some 2
  else if 0xF0 ≤ lead && lead ≤ 0xF4 then some 3
  else none

/-- How many of the bytes after a lead byte can belong to its character, `count` at most. -/
def goodTail (lead : UInt8) (count : Nat) (rest : List UInt8) : Nat :=
  match count, rest with
  | n + 1, b :: more => if isSecond lead b then 1 + (more.take n |>.takeWhile isTail).length else 0
  | _, _ => 0

/-- The first place in the bytes that no character is written with. -/
def utf8FaultFrom (pos : Nat) (bytes : List UInt8) : Option DecodeFault :=
  match bytes with
  | [] => none
  | lead :: rest =>
    match tailCount lead with
    | none => some ⟨"utf-8", lead, pos, pos + 1, .invalidStart⟩
    | some count =>
      let good := goodTail lead count rest
      if good = count then utf8FaultFrom (pos + 1 + count) (rest.drop count)
      else if good = rest.length then some ⟨"utf-8", lead, pos, pos + 1 + good, .endOfData⟩
      else some ⟨"utf-8", lead, pos, pos + 1 + good, .invalidContinuation⟩
termination_by bytes.length
decreasing_by
  simp only [List.length_drop, List.length_cons]
  omega

def utf8Fault (bytes : ByteArray) : DecodeFault :=
  (utf8FaultFrom 0 bytes.data.toList).getD ⟨"utf-8", 0, 0, 1, .invalidStart⟩

def decodeUtf8 (bytes : ByteArray) : Except DecodeFault String :=
  match String.fromUTF8? bytes with
  | some text => .ok text
  | none => .error (utf8Fault bytes)

end ComponentSplit
