namespace ComponentSplit

/-- Characters with marks between them; `none` is a mark. -/
abbrev MarkedText := List (Option Char)

namespace MarkedText

def plain (text : List Char) : MarkedText := text.map some

def unmarked (t : MarkedText) : List Char := t.filterMap id

def fill (insertion : List Char) (t : MarkedText) : List Char :=
  t.flatMap fun
    | some c => [c]
    | none => insertion

/-- The offsets of the marks among the characters, after `pos` characters. -/
def offsetsFrom (pos : Nat) : MarkedText → List Nat
  | [] => []
  | some _ :: rest => offsetsFrom (pos + 1) rest
  | none :: rest => pos :: offsetsFrom pos rest

def offsets (t : MarkedText) : List Nat := offsetsFrom 0 t

@[simp]
theorem fill_append (insertion : List Char) (s t : MarkedText) :
    fill insertion (s ++ t) = fill insertion s ++ fill insertion t := by
  simp [fill]

@[simp]
theorem fill_plain (insertion text : List Char) : fill insertion (plain text) = text := by
  induction text with
  | nil => rfl
  | cons c rest ih => simpa [fill, plain] using ih

@[simp]
theorem unmarked_append (s t : MarkedText) : unmarked (s ++ t) = unmarked s ++ unmarked t := by
  simp [unmarked]

@[simp]
theorem unmarked_plain (text : List Char) : unmarked (plain text) = text := by
  simp [unmarked, plain, List.filterMap_map]

end MarkedText

end ComponentSplit
