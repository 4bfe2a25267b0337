namespace ComponentSplit

inductive Level
  | debug
  | info
  | warning
  | error
deriving DecidableEq, Repr

def Level.name : Level → String
  | debug => "DEBUG"
  | info => "INFO"
  | warning => "WARNING"
  | error => "ERROR"

/-- A message and its level. -/
structure Entry where
  level : Level
  message : String
deriving DecidableEq, Repr

/-- Messages in the order in which they were reported. -/
abbrev Log := List Entry

end ComponentSplit
