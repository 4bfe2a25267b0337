import ComponentSplit.Text.Numeral

namespace ComponentSplit.Command

/-- What the arguments ask for. The output directory is missing when the mark in front of plain
words stands in its place. -/
inductive Invocation
  | split (source : String) (output : Option String)
  | help
  | misuse
deriving DecidableEq, Repr

/-- A number with a sign is no option; a newline at its end does not count. -/
def isNegativeNumber (arg : List Char) : Bool :=
  match if arg.getLast? = some '\n' then arg.dropLast else arg with
  | '-' :: rest =>
    match rest.dropWhile isDecimal with
    | [] => !rest.isEmpty
    | c :: places => c == '.' && !places.isEmpty && places.all isDecimal
  | _ => false

/-- What a word in front of the mark stands for. -/
inductive Word
  | plain
  | help
  | badHelp
  | unknown
deriving DecidableEq, Repr

/-- The short way to ask for help with text behind it, which may only ask for it again. -/
def Word.ofLetters (behind : List Char) : Word :=
  if !behind.isEmpty && behind.all (· == 'h') then .help else .badHelp

/-- What a word in front of the mark stands for. Any beginning of the long word asks for help, but
nothing can be assigned to it. -/
def Word.ofText (arg : List Char) : Word :=
  let name := arg.takeWhile (· != '=')
  match arg with
  | [] | ['-'] => .plain
  | ['-', 'h'] => .help
  | '-' :: '-' :: _ =>
    if name.isPrefixOf "--help".toList then
      if name.length = arg.length then .help else .badHelp
    else if arg.contains ' ' then .plain
    else .unknown
  | '-' :: 'h' :: '=' :: behind => .ofLetters behind
  | '-' :: 'h' :: behind => .ofLetters behind
  | '-' :: _ => if isNegativeNumber arg || arg.contains ' ' then .plain else .unknown
  | _ => .plain

/-- What plain words ask for; `marked` of them stand behind the mark. -/
def ofWords (words : List String) (marked : Nat) : Invocation :=
  match words with
  | [source, output] =>
    .split source (if output = "--" ∧ 0 < marked then none else some output)
  | _ => .misuse

/-- What the arguments ask for, after the plain words met so far. Behind a double dash all words
are plain. -/
def readArguments (words : List String) : List String → Invocation
  | [] => ofWords words 0
  | arg :: rest =>
    if arg = "--" then ofWords (words ++ rest) rest.length
    else
      match Word.ofText arg.toList with
      | .plain => readArguments (words ++ [arg]) rest
      | .help => .help
      | .badHelp => .misuse
      | .unknown =>
        match readArguments words rest with
        | .help => .help
        | _ => .misuse

def Invocation.ofArguments (args : List String) : Invocation := readArguments [] args

def usage (program : String) : String := s!"usage: {program} [-h] source_dir output_dir\n"

def helpText (program : String) : String :=
  usage program ++ "\nSplit single file components into per-section files\n\n" ++
    "positional arguments:\n  source_dir\n  output_dir\n\n" ++
    "options:\n  -h, --help  show this help message and exit\n"

end ComponentSplit.Command
