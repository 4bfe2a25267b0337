namespace ComponentSplit

/-- How many documents may be in flight at once, the character set of outputs, and the extension
that takes the place of one that is not given. -/
structure Settings where
  maxConcurrentDocuments : Nat := 4
  outputEncoding : String := "utf-8"
  fallbackExtension : String := "txt"
deriving DecidableEq, Repr

/-- The character set of an output for which one may be given; an empty name gives none. -/
def Settings.charsetOr (s : Settings) (given : Option String) : String :=
  (given.filter (· != "")).getD s.outputEncoding

end ComponentSplit
