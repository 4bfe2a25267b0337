import ComponentSplit.Stylesheet.Selector
import ComponentSplit.Text.Lowercase

/-!
Scoping of stylesheets. A stylesheet is read as runs of text, each ended by a brace, a semicolon
or a comment that follows nothing but white space. A run before an opening brace is a selector
list where style rules may stand, that is at top level and directly inside grouping rules.
-/

namespace ComponentSplit

/-- What ends a run of a stylesheet. -/
inductive RunEnd
  | opening
  | closing
  | semicolon
  | comment (text : List Char)
  | sheet
deriving DecidableEq, Repr

def RunEnd.text : RunEnd → List Char
  | opening => ['\x7b']
  | closing => ['\x7d']
  | semicolon => [';']
  | comment text => text
  | sheet => []

/-- A run of a stylesheet and what ends it. -/
structure Run where
  text : List Char
  stop : RunEnd
deriving DecidableEq, Repr

/-- A text put before the first of some runs. -/
def Run.prepend (text : List Char) : List Run → List Run
  | [] => [⟨text, .sheet⟩]
  | first :: others => { first with text := text ++ first.text } :: others

/-- The runs of a stylesheet; `blank` says that the first run has held white space alone so far. -/
def runs (blank : Bool) : List Piece → List Run
  | [] => [⟨[], .sheet⟩]
  | .comment text :: rest =>
    if blank then ⟨[], .comment text⟩ :: runs true rest
    else Run.prepend text (runs false rest)
  | .string text :: rest => Run.prepend text (runs false rest)
  | .char c :: rest =>
    if c = '\x7b' then ⟨[], .opening⟩ :: runs true rest
    else if c = '\x7d' then ⟨[], .closing⟩ :: runs true rest
    else if c = ';' then ⟨[], .semicolon⟩ :: runs true rest
    else Run.prepend [c] (runs (blank && isBlank c) rest)

/-- The first word of a run, in small letters. -/
def firstWord (text : List Char) : List Char :=
  ((trimStart text).takeWhile fun c => !isBlank c).map asciiLower

/-- The at-rules whose blocks hold style rules. -/
def groupingRules : List String := ["@media", "@supports", "@document", "@layer", "@container"]

/-- The block behind a run holds style rules, given that such rules may stand where the run does. -/
def opensRules (allowed : Bool) (text : List Char) : Bool :=
  allowed && groupingRules.contains (String.ofList (firstWord text))

/-- The run is a selector list, given that style rules may stand where it does. -/
def isSelectorList (allowed : Bool) (text : List Char) : Bool :=
  allowed && !(firstWord text).isEmpty && (firstWord text).head? != some '@'

/-- Runs with their marks. The stack tells of each open block, the innermost first, whether style
rules may stand in it; they may at top level. -/
def markRuns (stack : List Bool) : List Run → MarkedText
  | [] => []
  | ⟨text, stop⟩ :: rest =>
    let allowed := stack.head?.getD true
    match stop with
    | .opening =>
      (if isSelectorList allowed text then markSelectors text else MarkedText.plain text) ++
        MarkedText.plain stop.text ++ markRuns (opensRules allowed text :: stack) rest
    | .closing => MarkedText.plain (text ++ stop.text) ++ markRuns stack.tail rest
    | _ => MarkedText.plain (text ++ stop.text) ++ markRuns stack rest

/-- A stylesheet with a mark in each selector of each style rule. -/
def markStylesheet (css : List Char) : MarkedText := markRuns [] (runs true (pieces true css))

/-- A stylesheet whose rules match only elements that carry an attribute. -/
def scopeStylesheet (css attr : List Char) : List Char :=
  MarkedText.fill ('[' :: attr ++ [']']) (markStylesheet css)

end ComponentSplit
