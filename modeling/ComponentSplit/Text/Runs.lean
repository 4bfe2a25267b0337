/-!
Sets of code points written as the list of places where membership changes, so that a Unicode
property is one ascending list of numbers.
-/

namespace ComponentSplit

/-- Membership in the set whose ascending boundaries alternate between the first code point inside
and the first code point outside: a number is inside when an odd number of them lies at or below. -/
def inRuns (bounds : List Nat) (n : Nat) : Bool :=
  match bounds with
  | [] => false
  | b :: rest => if b ≤ n then !inRuns rest n else false

end ComponentSplit
