import ComponentSplit.Text.Blank
import ComponentSplit.Text.Lines

/-!
Files of environment variables: names, equals signs and values, one binding after the other. Names
and values may stand in quotes, quoted values may go over several lines, and comments start with a
number sign. What is no binding is passed over to the end of its line. A value may refer to other
variables.
-/

namespace ComponentSplit.DotEnv

/-- A variable of a file, with its value if it is given one. -/
structure Binding where
  name : String
  value : Option String
deriving DecidableEq, Repr

def isInlineBlank (c : Char) : Bool := isBlank c && c != '\n'

def dropInline (text : List Char) : List Char := text.dropWhile isInlineBlank

/-- A text without the word `export` and the white space behind it, if it starts with both. -/
def dropExport (text : List Char) : List Char :=
  let rest := text.drop 6
  if "export".toList.isPrefixOf text && rest.head?.any isInlineBlank then dropInline rest else text

/-- The text before the first closing quote that no backslash precedes, and the text behind it;
`escaped` says that a backslash was just read. -/
def cutQuote (quote : Char) (escaped : Bool) : List Char → Option (List Char × List Char)
  | [] => none
  | c :: rest =>
    if c = quote && !escaped then some ([], rest)
    else (cutQuote quote (c == '\\') rest).map fun (inside, after) => (c :: inside, after)

/-- The inside of a quoted value and the text behind its closing quote: a quote behind a backslash
closes the value only when no other quote does, and then the last one does. -/
def quotedValue? (quote : Char) (text : List Char) : Option (List Char × List Char) :=
  match cutQuote quote false text with
  | some found => some found
  | none =>
    let after := (text.reverse.takeWhile (· != quote)).reverse
    if after.length < text.length then some (text.take (text.length - after.length - 1), after)
    else none

/-- The characters that escapes in double quotes stand for. -/
def escapes : List (Char × Char) :=
  [('\\', '\\'), ('\'', '\''), ('"', '"'), ('a', '\x07'), ('b', '\x08'), ('f', '\x0c'), ('n', '\n'),
    ('r', '\r'), ('t', '\t'), ('v', '\x0b')]

/-- A text with the escapes of a list replaced by what they stand for. -/
def unescapeBy (known : List (Char × Char)) : List Char → List Char
  | '\\' :: c :: rest =>
    match known.lookup c with
    | some d => d :: unescapeBy known rest
    | none => '\\' :: unescapeBy known (c :: rest)
  | c :: rest => c :: unescapeBy known rest
  | [] => []
termination_by text => text.length

/-- A value without quotes, up to a number sign behind white space. -/
def bareValue (blank : Bool) : List Char → List Char
  | [] => []
  | c :: rest => if c = '#' && blank then [] else c :: bareValue (isBlank c) rest

/-- The value at the start of a text and the text behind it. -/
def value? (text : List Char) : Option (List Char × List Char) :=
  match text with
  | '\'' :: rest =>
    (quotedValue? '\'' rest).map fun (inside, after) =>
      (unescapeBy [('\\', '\\'), ('\'', '\'')] inside, after)
  | '"' :: rest =>
    (quotedValue? '"' rest).map fun (inside, after) => (unescapeBy escapes inside, after)
  | _ =>
    some (trimEnd (bareValue false (text.takeWhile (· != '\n'))), text.dropWhile (· != '\n'))

/-- The name at the start of a text and the text behind it. -/
def name? (text : List Char) : Option (List Char × List Char) :=
  match text with
  | '\'' :: rest =>
    let name := rest.takeWhile (· != '\'')
    match rest.drop name.length with
    | _ :: after => if name.isEmpty then none else some (name, after)
    | [] => none
  | _ =>
    let name := text.takeWhile fun c => c != '=' && c != '#' && !isBlank c
    if name.isEmpty then none else some (name, text.drop name.length)

/-- The text behind the end of a line, if nothing but white space and a comment comes before it. -/
def endOfLine? (text : List Char) : Option (List Char) :=
  let behind := match dropInline text with
    | '#' :: rest => rest.dropWhile (· != '\n')
    | rest => rest
  match dropInline behind with
  | [] => some []
  | c :: rest => if c = '\n' then some rest else none

/-- The text behind the line that it starts with. -/
def restOfLine (text : List Char) : List Char := (text.dropWhile (· != '\n')).drop 1

/-- The binding at the start of a text that does not start with white space, if there is one, and
the text behind it or behind the line at which it went wrong. -/
def binding (text : List Char) : Option Binding × List Char :=
  let close (b : Option Binding) (rest : List Char) : Option Binding × List Char :=
    match endOfLine? rest with
    | some after => (b, after)
    | none => (none, restOfLine rest)
  let start := dropExport text
  if start.head? = some '#' then close none start
  else
    match name? start with
    | none => (none, restOfLine start)
    | some (name, afterName) =>
      let name := String.ofList name
      match dropInline afterName with
      | '=' :: rest =>
        match value? (dropInline rest) with
        | some (value, after) => close (some ⟨name, some (String.ofList value)⟩) after
        | none => (none, restOfLine (dropInline rest))
      | rest => close (some ⟨name, none⟩) rest

/-- The bindings of a text, at most `fuel` of them. -/
def bindings (fuel : Nat) (text : List Char) : List Binding :=
  match fuel, trimStart text with
  | 0, _ | _, [] => []
  | fuel + 1, start =>
    let (found, rest) := binding start
    found.toList ++ bindings fuel rest

/-- A reference to a variable behind a dollar sign: its name, what stands in when it is not set, and
the text behind it. -/
def reference? (text : List Char) : Option (List Char × List Char × List Char) :=
  match text with
  | '\x7b' :: rest =>
    let name := rest.takeWhile fun c => c != '\x7d' && c != ':'
    match rest.drop name.length with
    | '\x7d' :: after => some (name, [], after)
    | ':' :: '-' :: more =>
      let otherwise := more.takeWhile (· != '\x7d')
      match more.drop otherwise.length with
      | _ :: after => some (name, otherwise, after)
      | [] => none
    | _ => none
  | _ => none

/-- A value with its references replaced. The text that replaces a reference is not looked at
again. -/
def expand (fuel : Nat) (known : String → Option String) (text : List Char) : List Char :=
  match fuel, text with
  | fuel + 1, c :: rest =>
    match if c = '$' then reference? rest else none with
    | some (name, otherwise, after) =>
      ((known (String.ofList name)).map String.toList).getD otherwise ++ expand fuel known after
    | none => c :: expand fuel known rest
  | _, text => text

/-- The variables that bindings set when some are set already; those bound before count first. A
variable without a value stands for nothing. -/
def resolve (env : List (String × String)) (bs : List Binding) : List (String × Option String) :=
  bs.foldl (fun done b =>
    let known (name : String) : Option String :=
      match done.lookup name with
      | some value => some (value.getD "")
      | none => env.lookup name
    let value := b.value.map fun text =>
      String.ofList (expand text.length known text.toList)
    if (done.lookup b.name).isSome then
      done.map fun (name, old) => (name, if name = b.name then value else old)
    else done ++ [(b.name, value)]) []

/-- The variables that a file sets where some are set already, in the order of their first
bindings. A byte order mark at its start does not count. -/
def read (env : List (String × String)) (text : String) : List (String × Option String) :=
  let cs := match unifyNewlines text.toList with
    | '\ufeff' :: rest => rest
    | cs => cs
  resolve env (bindings cs.length cs)

end ComponentSplit.DotEnv
