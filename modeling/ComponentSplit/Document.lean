import ComponentSplit.Digest.Sha256
import ComponentSplit.FieldError
import ComponentSplit.Failure
import ComponentSplit.Path.Lexical
import ComponentSplit.Value

namespace ComponentSplit

instance decEqBytes : DecidableEq ByteArray := ByteArray.decEq

/-- What a document holds: nothing, a stream that cannot be split, or bytes. -/
inductive Content
  | missing
  | stream
  | bytes (b : ByteArray)
deriving DecidableEq

/-- A component document. `base` is the directory its outputs are laid out from. -/
structure Document where
  path : Option String := none
  base : Option String := none
  content : Content := .missing
deriving DecidableEq

/-- The scope id of a path, or of a text when the path is absent or empty: the first eight digits
of the digest. -/
def scopeId (path : Option String) (text : String) : String :=
  let seed := (path.filter (· != "")).getD text
  String.ofList ((Sha256.hex seed.toUTF8.data.toList).take 8)

namespace Document

def ofText (text : String) (path base : Option String) : Document :=
  ⟨path, base, .bytes text.toUTF8⟩

def text (d : Document) : Except Failure String :=
  match d.content with
  | .missing => .error (.document (.unsupported "Document has no contents") d.path)
  | .stream => .error (.document (.unsupported "Streams are not supported") d.path)
  | .bytes b =>
    match decodeUtf8 b with
    | .ok text => .ok text
    | .error fault => .error (.document (.undecodable fault) d.path)

def path? (d : Document) : Option String := d.path.filter (· != "")

def directory (d : Document) : String :=
  match d.path? with
  | some path => String.ofList (directoryOf path.toList)
  | none => ""

def stem (d : Document) : String :=
  match d.path? with
  | some path => String.ofList (stemOf (baseName path.toList))
  | none => "component"

/-- The path as messages show it, seen from the working directory. -/
def display (cwd : Place) (d : Document) : String :=
  match d.path? with
  | some path => String.ofList ((relativePath? cwd path.toList ['.']).getD path.toList)
  | none => "<memory>"

/-- The id that ties the styles of the document to its template. -/
def scopeIdWith (d : Document) (text : String) : String := scopeId d.path text

/-- The scope id that the document has by its own text. -/
def ownScopeId (d : Document) : Except Failure String := d.text.map d.scopeIdWith

end Document

/-- A value given for the content of a document. -/
inductive ContentField
  | stream
  | value (v : Value)

/-- The fields a document is built from. -/
structure DocumentFields where
  path : Value := .null
  base : Value := .null
  content : ContentField := .value .null
  others : List String := []

/-- The text in a field that may be left out. -/
def optionalText (name : String) : Value → Except FieldError (Option String)
  | .null => .ok none
  | .text s => .ok (some s)
  | _ => .error ⟨[name], .notText⟩

def faultsOf (e : Except FieldError α) : List FieldError :=
  match e with
  | .ok _ => []
  | .error fault => [fault]

def ContentField.toContent : ContentField → Except FieldError Content
  | stream => .ok .stream
  | value .null => .ok .missing
  | value (.text s) => .ok (.bytes s.toUTF8)
  | value (.bytes b) => .ok (.bytes b)
  | value _ => .error ⟨["content"], .badContent⟩

/-- The document that the fields describe, or all their faults. -/
def DocumentFields.toDocument (f : DocumentFields) : Except (List FieldError) Document :=
  let path := optionalText "path" f.path
  let base := optionalText "base" f.base
  let content := f.content.toContent
  match path, base, content, f.others with
  | .ok path, .ok base, .ok content, [] => .ok ⟨path, base, content⟩
  | _, _, _, _ =>
    .error (faultsOf path ++ faultsOf base ++ faultsOf content ++
      unknownFields f.others)

end ComponentSplit
