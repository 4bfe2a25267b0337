import ComponentSplit.Pattern.Letter

namespace ComponentSplit

/-- Which ways to repeat come first; a possessive repetition never gives back what it took. -/
inductive Greed
  | greedy
  | lazy
  | possessive
deriving DecidableEq, Repr

/-- A pattern over characters. A group without a number takes nothing down; `again` stands for what
a group took, together with the least and the greatest length of that. -/
inductive Pattern
  | nothing
  | any (flags : Pattern.Flags)
  | set (flags : Pattern.Flags) (negated : Bool) (items : List Pattern.SetItem)
  | seq (first second : Pattern)
  | alt (first second : Pattern)
  | repeated (least : Nat) (most : Option Nat) (greed : Greed) (body : Pattern)
  | group (number : Option Nat) (body : Pattern)
  | textStart (flags : Pattern.Flags)
  | textStop (flags : Pattern.Flags)
  | wordEdge (flags : Pattern.Flags)
  | ahead (negated : Bool) (body : Pattern)
  | behind (negated : Bool) (body : Pattern)
  | again (flags : Pattern.Flags) (number : Nat) (lengths : Nat × Nat)
  | whether (number : Nat) (yes no : Pattern)
deriving Repr

namespace Pattern

/-- A length that stands for all greater ones. -/
def unbounded : Nat := 0x10000000000000000

/-- The least and the greatest number of characters that a pattern takes, before capping. -/
def lengths : Pattern → Nat × Nat
  | nothing | textStart _ | textStop _ | wordEdge _ | ahead .. | behind .. => (0, 0)
  | any _ | set .. => (1, 1)
  | seq first second =>
    let (a, b) := first.lengths
    let (c, d) := second.lengths
    (min (a + c) unbounded, min (b + d) unbounded)
  | alt first second | whether _ first second =>
    let (a, b) := first.lengths
    let (c, d) := second.lengths
    (min a c, max b d)
  | repeated least most _ body =>
    let (a, b) := body.lengths
    let most := match most with
      | some n => b * n
      | none => if b = 0 then 0 else unbounded
    (min (a * least) unbounded, min most unbounded)
  | group _ body => body.lengths
  | again _ _ lengths => lengths

/-- A bound on the depth of matching for each character of a text. -/
def size : Pattern → Nat
  | seq first second | alt first second | whether _ first second => first.size + second.size + 1
  | repeated least _ _ body => body.size + least + 3
  | group _ body | ahead _ body | behind _ body => body.size + 1
  | _ => 1

end Pattern

end ComponentSplit
