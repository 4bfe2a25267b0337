import ComponentSplit.Yaml.Node
import ComponentSplit.Yaml.Number

/-!
The values that nodes stand for. Collections are filled level by level: what they hold directly
comes before what is inside of that, and so do the faults.
-/

namespace ComponentSplit.Yaml

/-- What a tag makes of its node. -/
inductive Meaning
  | null
  | bool
  | int
  | float
  | binary
  | timestamp
  | text
  | sequence
  | mapping
  | set
  | orderedMap
  | pairs
deriving DecidableEq, Repr

def meanings : List (String × Meaning) :=
  [("null", .null), ("bool", .bool), ("int", .int), ("float", .float), ("binary", .binary),
    ("timestamp", .timestamp), ("str", .text), ("seq", .sequence), ("map", .mapping),
    ("set", .set), ("omap", .orderedMap), ("pairs", .pairs)]

def Meaning.ofTag? (tag : String) : Option Meaning :=
  (meanings.find? fun (name, _) => usualTag name == tag).map Prod.snd

/-- A collection, which is made before what it holds. -/
def Meaning.isCollection : Meaning → Bool
  | sequence | mapping | set | orderedMap | pairs => true
  | _ => false

namespace Node

def fault (context : Option (Context × Mark)) (problem : Problem) (mark : Mark) : Fault :=
  .marked .values (context.map fun (context, place) => (context, some place)) problem mark

/-- The text of a scalar; a mapping may hold one under its default key. -/
def scalarText (fuel : Nat) (n : Node) : Except Fault String :=
  match fuel, n with
  | _, scalar _ text _ => .ok text
  | fuel + 1, mapping _ entries mark =>
    match entries.find? fun (key, _) => key.tag == usualTag "value" with
    | some (_, value) => scalarText fuel value
    | none => .error (fault none (.badNode "a scalar node" "mapping") mark)
  | _, n => .error (fault none (.badNode "a scalar node" n.kindName) n.mark)

/-- The value of one of the digits of base 64. -/
def digit64? (c : Char) : Option Nat :=
  if c.isUpper then some (c.toNat - 65) else if c.isLower then some (c.toNat - 71)
  else if c.isDigit then some (c.toNat + 4) else if c = '+' then some 62
  else if c = '/' then some 63 else none

/-- Bytes from digits of base 64, three from every four digits; the bits that fill no byte at the
end are left out. -/
def bytes64 : List Nat → List UInt8
  | a :: b :: c :: d :: rest =>
    let n := ((a * 64 + b) * 64 + c) * 64 + d
    UInt8.ofNat (n / 65536) :: UInt8.ofNat (n / 256) :: UInt8.ofNat n :: bytes64 rest
  | [a, b, c] =>
    let n := (a * 64 + b) * 64 + c
    [UInt8.ofNat (n / 1024), UInt8.ofNat (n / 4)]
  | [a, b] => [UInt8.ofNat ((a * 64 + b) / 16)]
  | _ => []

/-- The digits of base 64 in a text up to the padding that completes a group of four, and how much
padding there is then. -/
def digits64 (count padding : Nat) : List Char → List Nat × Nat
  | [] => ([], padding)
  | c :: rest =>
    if c = '=' then
      if 2 ≤ count % 4 ∧ 4 ≤ count % 4 + (padding + 1) then ([], padding + 1)
      else digits64 count (padding + 1) rest
    else
      match digit64? c with
      | none => digits64 count padding rest
      | some d =>
        let (digits, padding) := digits64 (count + 1) 0 rest
        (d :: digits, padding)

/-- The bytes that a text writes in base 64. -/
def binary (text : List Char) (mark : Mark) : Except Fault ByteArray :=
  let fail (message : String) : Except Fault ByteArray := .error (fault none (.badBase64 message) mark)
  match text.findIdx? fun c => 128 ≤ c.toNat with
  | some start =>
    let missing := (text.drop start).takeWhile fun c => 128 ≤ c.toNat
    let place := match missing with
      | [c] => s!"character '{String.ofList (codeEscape c.toNat)}' in position {start}"
      | cs => s!"characters in position {start}-{start + cs.length - 1}"
    fail (s!"failed to convert base64 data into ascii: 'ascii' codec can't encode {place}: " ++
      "ordinal not in range(128)")
  | none =>
    let (digits, padding) := digits64 0 0 text
    let rest := digits.length % 4
    if rest = 1 then
      fail ("failed to decode base64 data: Invalid base64-encoded string: number of data characters " ++
        s!"({digits.length}) cannot be 1 more than a multiple of 4")
    else if rest ≠ 0 ∧ rest + padding < 4 then
      fail "failed to decode base64 data: Incorrect padding"
    else .ok ⟨(bytes64 digits).toArray⟩

def scalarValue (meaning : Meaning) (text : String) (mark : Mark) : Except Fault Value :=
  let cs := text.toList
  let checked (found : Except BadScalar Value) : Except Fault Value := found.mapError .scalar
  match meaning with
  | .null => .ok .null
  | .bool =>
    let word := String.ofList (cs.map Char.toLower)
    if ["yes", "true", "on"].contains word then .ok (.bool true)
    else if ["no", "false", "off"].contains word then .ok (.bool false)
    else .error (.scalar (.truth word))
  | .int => checked (Value.int <$> integer cs)
  | .float => checked (floatValue <$> float cs)
  | .binary => Value.bytes <$> binary cs mark
  | .timestamp => checked (Value.text <$> moment cs)
  | _ => .ok (.text text)

/-- The value of a node that is no collection; of a collection there is none yet. -/
def ownValue (fuel : Nat) (n : Node) : Except Fault (Option Value) :=
  match n with
  | within mark => .error (fault none .recursiveNode mark)
  | n =>
    match Meaning.ofTag? n.tag with
    | none => .error (fault none (.unknownTag n.tag) n.mark)
    | some meaning =>
      if meaning.isCollection then .ok none
      else do
        let text ← n.scalarText fuel
        some <$> scalarValue meaning text n.mark

/-- The entries of a mapping with those of other mappings merged into it in front of its own. The
mark for a default value counts as text when it is a key. -/
def mergedEntries (fuel : Nat) (start : Mark) (entries : List (Node × Node)) :
    Except Fault (List (Node × Node)) :=
  match fuel with
  | 0 => .ok entries
  | fuel + 1 => do
    let context := some (Context.constructing "a mapping", start)
    let ofMapping : Node → Except Fault (List (Node × Node))
      | mapping _ entries mark => mergedEntries fuel mark entries
      | n => .error (fault context (.badNode "a mapping for merging" n.kindName) n.mark)
    let steps ← entries.mapM fun ((key, value) : Node × Node) =>
      if key.tag == usualTag "merge" then
        match value with
        | mapping _ entries mark => do
          pure (← mergedEntries fuel mark entries, [])
        | sequence _ items _ => do
          let parts ← items.mapM ofMapping
          pure (parts.reverse.flatten, [])
        | n =>
          throw (fault context (.badNode "a mapping or list of mappings for merging" n.kindName)
            n.mark)
      else if key.tag == usualTag "value" then
        pure ([], [(match key with
          | scalar _ text mark => scalar (usualTag "str") text mark
          | key => key, value)])
      else pure ([], [(key, value)])
    pure (steps.flatMap Prod.fst ++ steps.flatMap Prod.snd)

/-- The nodes that a collection holds, in the order in which they get their values; the entries of
a mapping are merged first. The first of a pair may have to be a key. -/
def held (fuel : Nat) (n : Node) : Except Fault (List (Node × Bool)) :=
  let pairsOf (what : String) (n : Node) : Except Fault (List (Node × Bool)) :=
    let context := some (Context.constructing what, n.mark)
    match n with
    | sequence _ items _ =>
      List.flatten <$> items.mapM fun
        | mapping _ [(key, value)] _ => .ok [(key, false), (value, false)]
        | mapping _ entries mark => .error (fault context (.badCount entries.length) mark)
        | other => .error (fault context (.badNode "a mapping of length 1" other.kindName) other.mark)
    | n => .error (fault context (.badNode "a sequence" n.kindName) n.mark)
  match Meaning.ofTag? n.tag, n with
  | some .sequence, sequence _ items _ => .ok (items.map fun item => (item, false))
  | some .sequence, n => .error (fault none (.badNode "a sequence node" n.kindName) n.mark)
  | some .orderedMap, n => pairsOf "an ordered map" n
  | some .pairs, n => pairsOf "pairs" n
  | _, mapping _ entries mark => do
    let entries ← mergedEntries fuel mark entries
    pure (entries.flatMap fun (key, value) => [(key, true), (value, false)])
  | _, n => .error (fault none (.badNode "a mapping node" n.kindName) n.mark)

/-- The collections that a collection holds, if nothing it holds is faulty. -/
def inner (fuel : Nat) (n : Node) : Except Fault (List Node) := do
  let found ← (← n.held fuel).mapM fun (child, isKey) => do
    match ← child.ownValue fuel with
    | some _ => pure []
    | none =>
      if isKey then
        throw (fault (some (.constructing "a mapping", n.mark)) .unhashableKey child.mark)
      else pure [child]
  pure found.flatten

def checkLevels (fuel : Nat) (level : List Node) : Except Fault Unit :=
  match fuel with
  | 0 => .ok ()
  | fuel + 1 => do
    let next ← level.mapM (inner fuel)
    if next.flatten.isEmpty then pure () else checkLevels fuel next.flatten

end Node

/-- Keys that count as the same: numbers by their size, truth values being one and zero. -/
def sameKey (a b : Value) : Bool :=
  let size : Value → Option (Int × Nat)
    | .bool b => some (if b then 1 else 0, 0)
    | .int n => some (n, 0)
    | .decimal units places => some (units, places)
    | .extreme .negativeZero => some (0, 0)
    | _ => none
  match size a, size b with
  | some (m, p), some (n, q) => m * Int.pow 10 q == n * Int.pow 10 p
  | none, none => a == b && a != .extreme .noNumber
  | _, _ => false

/-- The text that stands for a key in a record. -/
def keyText : Value → String
  | .text s => s
  | .null => "null"
  | .bool b => if b then "true" else "false"
  | .extreme (.infinite negative) => if negative then "-Infinity" else "Infinity"
  | .extreme .noNumber => "NaN"
  | v => v.display

/-- Entries of which each key has one: its first place, with its last value. -/
def putEntry (entries : List (Value × Value)) (key value : Value) : List (Value × Value) :=
  if entries.any fun entry => sameKey entry.1 key then
    entries.map fun entry => if sameKey entry.1 key then (entry.1, value) else entry
  else entries ++ [(key, value)]

/-- The record of some entries. Of keys with the same text the last one counts. -/
def recordOf (entries : List (Value × Value)) : Value :=
  let distinct := entries.foldl (fun all (key, value) => putEntry all key value) []
  .record (distinct.foldr (fun (key, value) fields =>
    if (fields.lookup (keyText key)).isSome then fields else (keyText key, value) :: fields) [])

def Node.value (fuel : Nat) (n : Node) : Value :=
  match fuel with
  | 0 => .null
  | fuel + 1 =>
    match n.ownValue fuel with
    | .ok (some v) => v
    | _ =>
      let pair (n : Node) : Value :=
        match n with
        | mapping _ [(key, value)] _ => .list [key.value fuel, value.value fuel]
        | n => n.value fuel
      match Meaning.ofTag? n.tag, n with
      | some .orderedMap, sequence _ items _ | some .pairs, sequence _ items _ =>
        .list (items.map pair)
      | some meaning, mapping _ entries mark =>
        let merged := (mergedEntries fuel mark entries).toOption.getD []
        let entries := merged.map fun (key, value) => (key.value fuel, value.value fuel)
        if meaning = .set then .list ((entries.foldl (fun all (k, v) => putEntry all k v) []).map
          Prod.fst)
        else recordOf entries
      | _, sequence _ items _ => .list (items.map (Node.value fuel))
      | _, _ => .null

def isReadable (c : Char) : Bool :=
  let n := c.toNat
  n == 9 || n == 10 || n == 13 || (0x20 ≤ n && n < 0x7F) || n == 0x85 || (0xA0 ≤ n && n < 0xFFFE) ||
    0x10000 ≤ n

/-- The value that a text holds; a text without a document holds none. -/
def read (text : String) : Except Fault Value := do
  let cs := text.toList
  match cs.findIdx? fun c => !isReadable c with
  | some i => throw (.unprintable (cs.getD i ' ') i)
  | none =>
    match ← node? cs with
    | none => pure .null
    | some root =>
      let fuel := cs.length + 2
      if (← root.ownValue fuel).isNone then Node.checkLevels fuel [root]
      pure (root.value fuel)

end ComponentSplit.Yaml
