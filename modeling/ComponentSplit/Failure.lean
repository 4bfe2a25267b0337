import ComponentSplit.Section.Basic
import ComponentSplit.Charset.Name
import ComponentSplit.Yaml.Fault

namespace ComponentSplit

/-- Why a file or directory cannot be used. -/
inductive FileFault
  | notFound
  | alreadyThere
  | notDirectory
  | isDirectory
  | nameTooLong
deriving DecidableEq, Repr

def FileFault.message : FileFault → String
  | notFound => "[Errno 2] No such file or directory"
  | alreadyThere => "[Errno 17] File exists"
  | notDirectory => "[Errno 20] Not a directory"
  | isDirectory => "[Errno 21] Is a directory"
  | nameTooLong => "[Errno 36] File name too long"

/-- Why a logging configuration cannot be used: a file without content or one that cannot be read,
a value of the wrong kind in some place, or a level that has no name. -/
inductive LoggingFault
  | emptyFile
  | unreadable (file : String) (fault : Yaml.Fault)
  | notRecord (kind : String)
  | notCollection (kind : String)
  /-- The entry of a logger is looked for in a list, in a text, or in bytes. -/
  | listByName
  | textByName
  | bytesByText
  | notText (kind : String)
  | unknownLevel (name : String)
deriving DecidableEq, Repr

def LoggingFault.message : LoggingFault → String
  | emptyFile => ""
  | unreadable file fault => fault.message file
  | notRecord kind => s!"'{kind}' object has no attribute 'get'"
  | notCollection kind => s!"argument of type '{kind}' is not iterable"
  | listByName => "list indices must be integers or slices, not str"
  | textByName => "string indices must be integers, not 'str'"
  | bytesByText => "a bytes-like object is required, not 'str'"
  | notText kind => s!"str expected, not {kind}"
  | unknownLevel name => s!"Unknown level: {quoted name}"

/-- Why a document cannot be split. `uncompiled` is the report of a section compiler. -/
inductive DocumentFault
  | general (message : String)
  | invalid (message : String)
  | malformed (message : String) (line column : Option Int)
  | tooMany (kind : String) (count : Int)
  | uncompiled (message : String)
  | unsupported (message : String)
  | undecodable (fault : DecodeFault)
deriving DecidableEq, Repr

def DocumentFault.message : DocumentFault → String
  | general message | invalid message | uncompiled message | unsupported message => message
  | malformed message line column =>
    match line with
    | none => message
    | some line =>
      let column := match column with
        | some column => toString column
        | none => "None"
      s!"{message} (line {line}, column {column})"
  | tooMany kind count =>
    s!"Only one <{kind}> section is allowed per component file, found {count}."
  | undecodable fault => s!"Document is not valid UTF-8 text: {fault.message}"

/-- Why a piece of work fails. -/
inductive Failure
  /-- A setting that a function from outside cannot work with. -/
  | configuration (message : String)
  /-- A failure of the library with no more specific kind. -/
  | general (message : String)
  | document (fault : DocumentFault) (path : Option String)
  /-- A failure met in a document, which messages name by its display path. -/
  | inDocument (display : String) (path : Option String) (cause : Failure)
  /-- A failure of a function from outside: the name of its kind, and its text. -/
  | raised (kind message : String)
  | markup (fault : MarkupFault)
  | unknownTag (tag : String)
  /-- A compiler gave a value that is no text; `owner` names what the compiler is for. -/
  | noText (owner kind : String)
  /-- A value stands where one that can do something is needed, such as to be encoded or to get an
  entry by its name. -/
  | unableTo (kind ability : String)
  /-- A value that is no function stands where one is needed. -/
  | notFunction (kind : String)
  | unknownCharset (name : String)
  /-- A name of something that turns bytes into bytes stands where one of a character set is needed;
  `instead` is what could be used. -/
  | noCharset (name instead : String)
  /-- A text cannot be written in the character set of a name. -/
  | encoding (charset : String) (fault : WriteFault)
  | decoding (fault : ReadFault)
  | noSource (src : String)
  | file (fault : FileFault) (path : String)
  | emptyPath
  /-- A path or name holds a null, one of the units that names are made of. -/
  | embeddedNull (unit : String)
  | negativeLimit
  | outsideDirectory (path : String)
  /-- No path stands where a directory for outputs has to be given. -/
  | noDirectory
  | logging (fault : LoggingFault)
  /-- A name that no variable of the environment can have. -/
  | variableName (name : String)
deriving DecidableEq, Repr

namespace Failure

def message : Failure → String
  | configuration message | general message | raised _ message => message
  | document fault _ => fault.message
  | inDocument display _ cause => s!"In file {display}:\n{cause.message}"
  | markup fault => fault.message
  | unknownTag tag => quoted tag
  | noText owner kind => s!"Compiler for {owner} returned {kind}, expected str"
  | unableTo kind ability => s!"'{kind}' object has no attribute '{ability}'"
  | notFunction kind => s!"'{kind}' object is not callable"
  | unknownCharset name => s!"unknown encoding: {name}"
  | noCharset name instead =>
    s!"'{name}' is not a text encoding; use {instead} to handle arbitrary codecs"
  | encoding _ (.at fault) => fault.message
  | encoding charset (.whole fault) =>
    s!"encoding with '{charset}' codec failed (UnicodeError: {fault.message})"
  | decoding (.at fault) => fault.message
  | decoding (.whole fault) => fault.message
  | noSource src => s!"No such source: {src}"
  | file fault path => s!"{fault.message}: {quoted path}"
  | emptyPath => "no path specified"
  | embeddedNull unit => s!"embedded null {unit}"
  | negativeLimit => "Semaphore initial value must be >= 0"
  | outsideDirectory path => s!"Artifact path escapes output directory: {quoted path}"
  | noDirectory => "unsupported operand type(s) for /: 'list' and 'PosixPath'"
  | logging fault => fault.message
  | variableName name =>
    if name = "" then "[Errno 22] Invalid argument" else "illegal environment variable name"

/-- The character set of a name. `instead` is what could be used for names of other things. -/
def charsetOf (name instead : String) : Except Failure Charset :=
  match Charset.ofName name with
  | .ok charset => .ok charset
  | .error .unknown => .error (.unknownCharset name)
  | .error .notText => .error (.noCharset name instead)
  | .error .null => .error (.embeddedNull "character")

def isDocument : Failure → Bool
  | document .. | inDocument .. => true
  | _ => false

/-- The sections of a document break a rule about their number or kind. -/
def isValidation : Failure → Bool
  | document (.invalid _) _ | document (.tooMany ..) _ => true
  | _ => false

/-- A failure of one of the library's own kinds. -/
def isOwn : Failure → Bool
  | configuration _ | general _ => true
  | failure => failure.isDocument

/-- The path of the document that the failure concerns. -/
def path? : Failure → Option String
  | document _ path | inDocument _ path _ => path
  | _ => none

/-- The failure that a fault of a document's text amounts to. -/
def ofSectionFault (source : List Char) (path : Option String) : SectionFault → Failure
  | .markup fault => .markup fault
  | fault =>
    let position := (fault.position? (Source.ofText source)).getD .first
    .document (.malformed fault.message (some position.line) (some position.column)) path

end Failure

end ComponentSplit
