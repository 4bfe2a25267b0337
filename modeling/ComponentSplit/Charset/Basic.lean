import ComponentSplit.Charset.Designated
import ComponentSplit.Charset.Escaped
import ComponentSplit.Charset.HostName
import ComponentSplit.Charset.Utf7
import ComponentSplit.Text.Utf8

namespace ComponentSplit

namespace Charset

/-- A seven-bit way to write several sets. -/
inductive DesignatedSets
  | korean
  | japanese
  | japanese1
  | japanese2
  | japanese3
  | japanese2004
  | japaneseExtended
deriving DecidableEq, Repr

def DesignatedSets.designations : DesignatedSets → Designations
  | korean => .korean
  | japanese => .japanese
  | japanese1 => .japanese1
  | japanese2 => .japanese2
  | japanese3 => .japanese3
  | japanese2004 => .japanese2004
  | japaneseExtended => .japaneseExtended

/-- A Chinese, Korean or Japanese set. -/
inductive EastAsian
  | gb2312
  | gbk
  | gb18030
  | hz
  | big5
  | codePage950
  | hkscs
  | eucKr
  | codePage949
  | johab
  | shiftJis
  | codePage932
  | eucJp
  | extendedEuc (e : Edition)
  | extendedShifted (e : Edition)
  | designated (sets : DesignatedSets)
deriving DecidableEq, Repr

namespace EastAsian

/-- The name that faults give the extended Japanese set. -/
def editionName (base2000 base2004 : String) : Edition → String
  | .of2000 => base2000
  | .of2004 => base2004

/-- The way of writing without states, if the set has one. -/
def plainScheme? : EastAsian → Option (Scheme Unit)
  | gb2312 => some gb2312Scheme
  | gbk => some gbkScheme
  | gb18030 => some gb18030Scheme
  | big5 => some big5Scheme
  | codePage950 => some codePage950Scheme
  | hkscs => some hkscsScheme
  | eucKr => some eucKrScheme
  | codePage949 => some codePage949Scheme
  | johab => some johabScheme
  | shiftJis => some shiftJisScheme
  | codePage932 => some codePage932Scheme
  | eucJp => some eucJpSets.scheme
  | extendedEuc e => some (extendedEucSets (editionName "euc_jisx0213" "euc_jis_2004" e) e).scheme
  | extendedShifted e =>
    some (extendedShiftedScheme (editionName "shift_jisx0213" "shift_jis_2004" e) e)
  | hz | designated _ => none

/-- Do something with the way of writing, whatever its states are. -/
def withScheme {α : Type} (e : EastAsian) (f : {σ : Type} → Scheme σ → α) : α :=
  match e with
  | hz => f hzScheme
  | designated sets => f sets.designations.scheme
  | e => f (e.plainScheme?.getD gb2312Scheme)

end EastAsian

end Charset

open Charset in
/-- A character set with the rule that turns characters into bytes. Sets with units of several bytes
that have no order of their own are little-endian behind a byte order mark. -/
inductive Charset
  | utf8
  | utf8Marked
  | utf16 (order : Option ByteOrder)
  | utf32 (order : Option ByteOrder)
  | utf7
  | latin1
  | ascii
  | table (t : ByteTable)
  | escaped
  | rawEscaped
  | punycode
  | hostName
  | undefined
  | eastAsian (e : EastAsian)
deriving DecidableEq, Repr

namespace Charset

/-- One byte for each character. The fault covers all neighbours that have none. -/
def encodeEach (codec : String) (reason : Unwritable) (byte? : Char → Option UInt8) (pos : Nat) :
    List Char → Except EncodeFault (List UInt8)
  | [] => .ok []
  | c :: rest =>
    match byte? c with
    | some b =>
      match encodeEach codec reason byte? (pos + 1) rest with
      | .ok bytes => .ok (b :: bytes)
      | .error fault => .error fault
    | none => .error ⟨codec, c :: rest.takeWhile fun c => (byte? c).isNone, pos, reason⟩

/-- The byte of a character whose code point lies below a limit. -/
def byteBelow? (limit : Nat) (c : Char) : Option UInt8 :=
  if c.toNat < limit then some (UInt8.ofNat c.toNat) else none

def encodeBytes (charset : Charset) (cs : List Char) : Except WriteFault (List UInt8) :=
  let mark (order : Option ByteOrder) (count : Nat) : List UInt8 :=
    if order.isNone then orderMark .little count else []
  match charset with
  | utf8 => .ok (String.ofList cs).toUTF8.data.toList
  | utf8Marked => .ok ([0xEF, 0xBB, 0xBF] ++ (String.ofList cs).toUTF8.data.toList)
  | utf16 order => .ok (mark order 2 ++ encodeUtf16 (order.getD .little) cs)
  | utf32 order => .ok (mark order 4 ++ encodeUtf32 (order.getD .little) cs)
  | utf7 => .ok (Utf7.encode cs)
  | latin1 =>
    (encodeEach "latin-1" (.outOfRange 256) (byteBelow? 256) 0 cs).mapError .at
  | ascii => (encodeEach "ascii" (.outOfRange 128) (byteBelow? 128) 0 cs).mapError .at
  | table t => (encodeEach "charmap" .undefined t.byte? 0 cs).mapError .at
  | escaped => .ok (encodeEscaped cs)
  | rawEscaped => .ok (encodeRawEscaped cs)
  | punycode => .ok (asciiBytes (Punycode.encode cs))
  | hostName => ((HostName.encode cs).map asciiBytes).mapError .whole
  | undefined => .error (.whole .undefined)
  | eastAsian e => (e.withScheme fun s => s.encode cs).mapError .at

def encode (charset : Charset) (text : String) : Except WriteFault ByteArray :=
  (charset.encodeBytes text.toList).map fun bytes => ⟨bytes.toArray⟩

def decodeEach (codec : String) (bad : BadBytes) (character? : UInt8 → Option Char) (pos : Nat) :
    List UInt8 → Except DecodeFault (List Char)
  | [] => .ok []
  | b :: rest =>
    match character? b with
    | some c =>
      match decodeEach codec bad character? (pos + 1) rest with
      | .ok cs => .ok (c :: cs)
      | .error e => .error e
    | none => .error ⟨codec, b, pos, pos + 1, bad⟩

def characterBelow? (limit : Nat) (b : UInt8) : Option Char :=
  if b.toNat < limit then some (Char.ofNat b.toNat) else none

def decodeAscii (bytes : List UInt8) : Except DecodeFault (List Char) :=
  decodeEach "ascii" (.outOfRange 128) (characterBelow? 128) 0 bytes

def decodeUtf8List (bytes : List UInt8) : Except DecodeFault (List Char) :=
  (decodeUtf8 ⟨bytes.toArray⟩).map String.toList

/-- Units of `count` bytes behind a byte order mark. Without a mark the bytes have to be well-formed
all the same, and can be no text unless there are none. -/
def decodeMarked (family : String) (count : Nat)
    (decode : ByteOrder → Nat → List UInt8 → Except DecodeFault (List Char))
    (bytes : List UInt8) : Except ReadFault (List Char) :=
  if (orderMark .big count).isPrefixOf bytes then
    (decode .big count (bytes.drop count)).mapError .at
  else if (orderMark .little count).isPrefixOf bytes then
    (decode .little count (bytes.drop count)).mapError .at
  else
    match decode .little 0 bytes with
    | .error fault => .error (.at fault)
    | .ok [] => .ok []
    | .ok _ => .error (.whole (.noMark family))

/-- ASCII characters, the part behind the last hyphen of which says where others belong. -/
def decodePunycode (bytes : List UInt8) : Except ReadFault (List Char) := do
  let (basic, digits) :=
    if bytes.contains 0x2D then
      ((bytes.reverse.dropWhile (· != 0x2D)).drop 1 |>.reverse,
        (bytes.reverse.takeWhile (· != 0x2D)).reverse)
    else ([], bytes)
  let basic ← (decodeAscii basic).mapError .at
  let digits ← (decodeAscii digits).mapError .at
  (Punycode.decode basic digits).mapError .whole

def decodeBytes (charset : Charset) (bytes : List UInt8) : Except ReadFault (List Char) :=
  match charset with
  | utf8 => (decodeUtf8List bytes).mapError .at
  | utf8Marked =>
    let mark : List UInt8 := [0xEF, 0xBB, 0xBF]
    if bytes.isPrefixOf mark then .ok []
    else
      (decodeUtf8List (if mark.isPrefixOf bytes then bytes.drop 3 else bytes)).mapError .at
  | utf16 none => decodeMarked "UTF-16" 2 decodeUtf16From bytes
  | utf16 (some order) => (decodeUtf16From order 0 bytes).mapError .at
  | utf32 none => decodeMarked "UTF-32" 4 decodeUtf32From bytes
  | utf32 (some order) => (decodeUtf32From order 0 bytes).mapError .at
  | utf7 => (Utf7.decode bytes).mapError .at
  | latin1 => (decodeEach "latin-1" (.outOfRange 256) (characterBelow? 256) 0 bytes).mapError .at
  | ascii => (decodeAscii bytes).mapError .at
  | table t => (decodeEach "charmap" .undefined t.character? 0 bytes).mapError .at
  | escaped => (decodeEscaped bytes).mapError .at
  | rawEscaped => (decodeRawEscaped bytes).mapError .at
  | punycode => decodePunycode bytes
  | hostName => do
    let name ← (decodeAscii bytes).mapError .at
    (HostName.decode name).mapError .whole
  | undefined => .error (.whole .undefined)
  | eastAsian e => (e.withScheme fun s => s.decode bytes).mapError .at

def decode (charset : Charset) (bytes : ByteArray) : Except ReadFault String :=
  (charset.decodeBytes bytes.data.toList).map String.ofList

end Charset

end ComponentSplit
