namespace ComponentSplit

/-- White space of any script: the Unicode property, with the four information separators. -/
def isBlank (c : Char) : Bool :=
  let n := c.toNat
  (9 ≤ n && n ≤ 13) || (28 ≤ n && n ≤ 32) || n == 0x85 || n == 0xA0 || n == 0x1680 ||
    (0x2000 ≤ n && n ≤ 0x200A) || n == 0x2028 || n == 0x2029 || n == 0x202F || n == 0x205F ||
    n == 0x3000

/-- A text without the white space it starts with. -/
def trimStart (text : List Char) : List Char := text.dropWhile isBlank

/-- A text without the white space it ends with. -/
def trimEnd (text : List Char) : List Char := (text.reverse.dropWhile isBlank).reverse

/-- A text without the white space at both ends. -/
def trim (text : List Char) : List Char := trimEnd (trimStart text)

def leadingBlanks (text : List Char) : List Char := text.takeWhile isBlank

/-- The white space a text ends with. -/
def trailingBlanks (text : List Char) : List Char := (text.reverse.takeWhile isBlank).reverse

theorem trimStart_suffix (text : List Char) : trimStart text <:+ text :=
  List.dropWhile_suffix _

theorem leadingBlanks_append_trimStart (text : List Char) :
    leadingBlanks text ++ trimStart text = text :=
  List.takeWhile_append_dropWhile

theorem trimEnd_append_trailingBlanks (text : List Char) :
    trimEnd text ++ trailingBlanks text = text := by
  rw [trimEnd, trailingBlanks, ← List.reverse_append, List.takeWhile_append_dropWhile,
    List.reverse_reverse]

end ComponentSplit
