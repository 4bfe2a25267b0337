namespace ComponentSplit.Charset

/-- Numbers from `first` on without those of the runs, each of which is given by its first number and
its length. The runs are in order and apart. -/
structure Gaps where
  first : Nat
  runs : List (Nat × Nat)

namespace Gaps

/-- The gaps that some numbers leave, whatever their order. -/
def without (first : Nat) (numbers : List Nat) : Gaps :=
  ⟨first, (numbers.mergeSort).map fun n => (n, 1)⟩

/-- How many numbers come before one that is outside the runs. -/
def rank (g : Gaps) (n : Nat) : Nat :=
  g.runs.foldl (fun left (start, length) => left - min length (n - start)) (n - g.first)

/-- The number of a rank: each run that starts at or before it moves it on. -/
def nth (g : Gaps) (rank : Nat) : Nat :=
  g.runs.foldl (fun n (start, length) => if start ≤ n then n + length else n) (g.first + rank)

end Gaps

end ComponentSplit.Charset
