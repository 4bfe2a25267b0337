import ComponentSplit.Text.Fields

namespace ComponentSplit

def dropTrailingSlashes (path : List Char) : List Char :=
  (path.reverse.dropWhile (· == '/')).reverse

/-- The part of a path up to its last slash. -/
def headOf (path : List Char) : List Char := (path.reverse.dropWhile (· != '/')).reverse

/-- The part of a path behind its last slash. -/
def baseName (path : List Char) : List Char := (path.reverse.takeWhile (· != '/')).reverse

/-- The directory of a path: what comes before its last slash, unless that is a root of slashes
alone. -/
def directoryOf (path : List Char) : List Char :=
  let head := headOf path
  if head.all (· == '/') then head else dropTrailingSlashes head

/-- A name without its extension, which starts at the last dot that other characters precede. -/
def stemOf (name : List Char) : List Char :=
  let dots := name.takeWhile (· == '.')
  let core := name.dropWhile (· == '.')
  if core.contains '.' then dots ++ ((core.reverse.dropWhile (· != '.')).drop 1).reverse else name

/-- A path behind a directory; an absolute path takes its place. -/
def joinPath (directory path : List Char) : List Char :=
  if path.head? = some '/' then path
  else if directory.isEmpty ∨ directory.getLast? = some '/' then directory ++ path
  else directory ++ '/' :: path

end ComponentSplit
