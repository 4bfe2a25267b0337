import ComponentSplit.Text.Digits

namespace ComponentSplit
namespace Sha256

/-- The words that the eight registers start with. -/
def initial : List UInt32 :=
  [0x6a09e667, 0xbb67ae85, 0x3c6ef372, 0xa54ff53a, 0x510e527f, 0x9b05688c, 0x1f83d9ab, 0x5be0cd19]

/-- The constants of the sixty-four rounds. -/
def roundConstants : List UInt32 :=
  [0x428a2f98, 0x71374491, 0xb5c0fbcf, 0xe9b5dba5, 0x3956c25b, 0x59f111f1, 0x923f82a4, 0xab1c5ed5,
    0xd807aa98, 0x12835b01, 0x243185be, 0x550c7dc3, 0x72be5d74, 0x80deb1fe, 0x9bdc06a7, 0xc19bf174,
    0xe49b69c1, 0xefbe4786, 0x0fc19dc6, 0x240ca1cc, 0x2de92c6f, 0x4a7484aa, 0x5cb0a9dc, 0x76f988da,
    0x983e5152, 0xa831c66d, 0xb00327c8, 0xbf597fc7, 0xc6e00bf3, 0xd5a79147, 0x06ca6351, 0x14292967,
    0x27b70a85, 0x2e1b2138, 0x4d2c6dfc, 0x53380d13, 0x650a7354, 0x766a0abb, 0x81c2c92e, 0x92722c85,
    0xa2bfe8a1, 0xa81a664b, 0xc24b8b70, 0xc76c51a3, 0xd192e819, 0xd6990624, 0xf40e3585, 0x106aa070,
    0x19a4c116, 0x1e376c08, 0x2748774c, 0x34b0bcb5, 0x391c0cb3, 0x4ed8aa4a, 0x5b9cca4f, 0x682e6ff3,
    0x748f82ee, 0x78a5636f, 0x84c87814, 0x8cc70208, 0x90befffa, 0xa4506ceb, 0xbef9a3f7, 0xc67178f2]

def rotateRight (x : UInt32) (n : UInt32) : UInt32 := (x >>> n) ||| (x <<< (32 - n))

/-- The word that follows a window of sixteen words. -/
def nextWord (window : List UInt32) : UInt32 :=
  let w (i : Nat) := window.getD i 0
  let early := rotateRight (w 1) 7 ^^^ rotateRight (w 1) 18 ^^^ (w 1 >>> 3)
  let late := rotateRight (w 14) 17 ^^^ rotateRight (w 14) 19 ^^^ (w 14 >>> 10)
  w 0 + early + w 9 + late

/-- The first `count` words of the schedule that starts with a window. -/
def schedule (window : List UInt32) : Nat → List UInt32
  | 0 => []
  | count + 1 => window.getD 0 0 :: schedule (window.tail ++ [nextWord window]) count

def round (registers : List UInt32) (constant word : UInt32) : List UInt32 :=
  match registers with
  | [a, b, c, d, e, f, g, h] =>
    let big := rotateRight e 6 ^^^ rotateRight e 11 ^^^ rotateRight e 25
    let choice := (e &&& f) ^^^ (~~~e &&& g)
    let t := h + big + choice + constant + word
    let small := rotateRight a 2 ^^^ rotateRight a 13 ^^^ rotateRight a 22
    let majority := (a &&& b) ^^^ (a &&& c) ^^^ (b &&& c)
    [t + small + majority, a, b, c, d + t, e, f, g]
  | other => other

def compress (registers block : List UInt32) : List UInt32 :=
  let rounds := roundConstants.zip (schedule block 64)
  let mixed := rounds.foldl (fun state step => round state step.1 step.2) registers
  List.zipWith (· + ·) registers mixed

/-- Bytes in groups of four as words, the most significant byte first. -/
def words : List UInt8 → List UInt32
  | a :: b :: c :: d :: rest =>
    (a.toUInt32 <<< 24 ||| b.toUInt32 <<< 16 ||| c.toUInt32 <<< 8 ||| d.toUInt32) :: words rest
  | _ => []

/-- A number as eight bytes, the most significant first. -/
def lengthBytes (n : Nat) : List UInt8 :=
  (List.range 8).reverse.map fun i => UInt8.ofNat (n / Nat.pow 256 i % 256)

/-- The message, a closing bit, zeros to a whole number of blocks, and the length in bits. -/
def padded (message : List UInt8) : List UInt8 :=
  let zeros := (119 - message.length % 64) % 64
  message ++ 0x80 :: List.replicate zeros 0 ++ lengthBytes (8 * message.length)

/-- The registers after all blocks of a message in words. -/
def absorb (registers words : List UInt32) : List UInt32 :=
  if words.isEmpty then registers
  else absorb (compress registers (words.take 16)) (words.drop 16)
termination_by words.length
decreasing_by
  cases words with
  | nil => contradiction
  | cons w ws =>
    simp only [List.length_drop, List.length_cons]
    omega

/-- The eight words of the digest of a message. -/
def digest (message : List UInt8) : List UInt32 := absorb initial (words (padded message))

def hex (message : List UInt8) : List Char := (digest message).flatMap (hexDigits 8 ·.toNat)

end Sha256
end ComponentSplit
