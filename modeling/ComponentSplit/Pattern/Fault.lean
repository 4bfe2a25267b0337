import ComponentSplit.Text.Quoted

namespace ComponentSplit

/-- What is wrong with a written pattern. -/
inductive PatternFault
  | unclosedGroup
  | unclosedSet
  | unclosedComment
  | strayParenthesis
  | nothingToRepeat
  | repeatedRepeat
  | emptyBounds
  | badRange (text : List Char)
  | badEscape (text : List Char)
  | endInEscape
  | endInGroup
  | shortEscape (text : List Char)
  | bigOctal (text : List Char)
  | noSuchGroup (number : Nat)
  | openGroup
  | ownLookBehind
  | unknownExtension (text : List Char)
  | lateFlags
  | unknownFlag
  | endlessFlags
  | noFlag
  | noFlagColon
  | exclusiveFlags
  | permanentFlags
  | globalFlagOn
  | globalFlagOff
  | flagOnAndOff
  | namelessGroup
  | unclosedName
  | badName (name : List Char)
  | unknownName (name : List Char)
  | groupZero
  | thirdBranch
  | unboundedLookBehind
  | farLookBehind
  /-- A number of repetitions beyond all that can be counted, which no position goes with. -/
  | bigBounds
  /-- A number of more digits than are read. -/
  | longNumber (count : Nat)
deriving DecidableEq, Repr

/-- A fault and its position, if it has one. -/
structure PatternError where
  fault : PatternFault
  position : Option Nat
deriving DecidableEq, Repr

def PatternFault.message : PatternFault → String
  | unclosedGroup => "missing ), unterminated subpattern"
  | unclosedSet => "unterminated character set"
  | unclosedComment => "missing ), unterminated comment"
  | strayParenthesis => "unbalanced parenthesis"
  | nothingToRepeat => "nothing to repeat"
  | repeatedRepeat => "multiple repeat"
  | emptyBounds => "min repeat greater than max repeat"
  | badRange text => "bad character range " ++ String.ofList text
  | badEscape text => "bad escape " ++ String.ofList text
  | endInEscape => "bad escape (end of pattern)"
  | endInGroup => "unexpected end of pattern"
  | shortEscape text => "incomplete escape " ++ String.ofList text
  | bigOctal text => s!"octal escape value {String.ofList text} outside of range 0-0o377"
  | noSuchGroup number => s!"invalid group reference {number}"
  | openGroup => "cannot refer to an open group"
  | ownLookBehind => "cannot refer to group defined in the same lookbehind subpattern"
  | unknownExtension text => "unknown extension ?" ++ String.ofList text
  | lateFlags => "global flags not at the start of the expression"
  | unknownFlag => "unknown flag"
  | endlessFlags => "missing -, : or )"
  | noFlag => "missing flag"
  | noFlagColon => "missing :"
  | exclusiveFlags => "bad inline flags: flags 'a', 'u' and 'L' are incompatible"
  | permanentFlags => "bad inline flags: cannot turn off flags 'a', 'u' and 'L'"
  | globalFlagOn => "bad inline flags: cannot turn on global flag"
  | globalFlagOff => "bad inline flags: cannot turn off global flag"
  | flagOnAndOff => "bad inline flags: flag turned on and off"
  | namelessGroup => "missing group name"
  | unclosedName => "missing ), unterminated name"
  | badName name => "bad character in group name " ++ quoted (String.ofList name)
  | unknownName name => "unknown group name " ++ quoted (String.ofList name)
  | groupZero => "bad group number"
  | thirdBranch => "conditional backref with more than two branches"
  | unboundedLookBehind => "look-behind requires fixed-width pattern"
  | farLookBehind => "looks too much behind"
  | bigBounds => "the repetition number is too large"
  | longNumber count => longNumberMessage count

def PatternError.message (e : PatternError) : String :=
  match e.position with
  | some n => s!"{e.fault.message} at position {n}"
  | none => e.fault.message

end ComponentSplit
