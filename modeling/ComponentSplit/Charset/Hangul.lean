namespace ComponentSplit.Charset

/-- The parts of a syllable by their ranks; tail 0 is no tail. -/
structure Syllable where
  lead : Nat
  vowel : Nat
  tail : Nat
deriving DecidableEq, Repr

namespace Syllable

/-- Letters that can lead a syllable, in the order of their ranks. -/
def leads : List Char := "ㄱㄲㄴㄷㄸㄹㅁㅂㅃㅅㅆㅇㅈㅉㅊㅋㅌㅍㅎ".toList

def vowels : List Char := "ㅏㅐㅑㅒㅓㅔㅕㅖㅗㅘㅙㅚㅛㅜㅝㅞㅟㅠㅡㅢㅣ".toList

/-- Letters and pairs of letters that can end a syllable; that of rank 1 comes first. -/
def tails : List Char := "ㄱㄲㄳㄴㄵㄶㄷㄹㄺㄻㄼㄽㄾㄿㅀㅁㅂㅄㅅㅆㅇㅈㅊㅋㅌㅍㅎ".toList

def base : Nat := 0xAC00
def count : Nat := 11172

def isSyllable (c : Char) : Bool := base ≤ c.toNat && c.toNat < base + count

def toChar (s : Syllable) : Char := Char.ofNat (base + (s.lead * 21 + s.vowel) * 28 + s.tail)

def ofChar? (c : Char) : Option Syllable :=
  if isSyllable c then
    let rank := c.toNat - base
    some ⟨rank / 588, rank / 28 % 21, rank % 28⟩
  else none

end Syllable

end ComponentSplit.Charset
