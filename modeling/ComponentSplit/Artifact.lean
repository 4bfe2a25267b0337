import ComponentSplit.Document

namespace ComponentSplit

/-- An output file. `base` is the directory that the path is laid out from. -/
structure Artifact where
  path : String
  tag : String
  extension : String
  content : ByteArray
  base : Option String := none
deriving DecidableEq

/-- The path of an output: directory, stem and extension. -/
def outputPath (directory stem extension : String) : String :=
  String.ofList (joinPath directory.toList (stem ++ "." ++ extension).toList)

namespace Artifact

def name (a : Artifact) : String := String.ofList (baseName a.path.toList)

def text (a : Artifact) : Except Failure String :=
  match decodeUtf8 a.content with
  | .ok text => .ok text
  | .error fault => .error (.decoding (.at fault))

def size (a : Artifact) : Nat := a.content.size

/-- The path seen from the base directory; without a base, the path itself. -/
def relativePath (cwd : Place) (a : Artifact) : Except Failure String :=
  match a.base.filter (· != "") with
  | none => .ok a.path
  | some base =>
    match relativePath? cwd a.path.toList base.toList with
    | some path => .ok (String.ofList path)
    | none => .error .emptyPath

end Artifact

/-- The fields an artifact is built from; all but the base must be given. -/
structure ArtifactFields where
  path : Option Value := none
  tag : Option Value := none
  extension : Option Value := none
  content : Option Value := none
  base : Value := .null
  others : List String := []

/-- The text in a field that must be given. -/
def requiredText (name : String) : Option Value → Except FieldError String
  | none => .error ⟨[name], .missing⟩
  | some (.text s) => .ok s
  | some _ => .error ⟨[name], .notText⟩

/-- The bytes in a field that must be given; a text stands for its encoding. -/
def requiredBytes (name : String) : Option Value → Except FieldError ByteArray
  | none => .error ⟨[name], .missing⟩
  | some (.text s) => .ok s.toUTF8
  | some (.bytes b) => .ok b
  | some _ => .error ⟨[name], .badContent⟩

/-- The artifact that the fields describe, or all their faults. -/
def ArtifactFields.toArtifact (f : ArtifactFields) : Except (List FieldError) Artifact :=
  let path := requiredText "path" f.path
  let tag := requiredText "tag" f.tag
  let extension := requiredText "extension" f.extension
  let content := requiredBytes "content" f.content
  let base := optionalText "base" f.base
  match path, tag, extension, content, base, f.others with
  | .ok path, .ok tag, .ok extension, .ok content, .ok base, [] =>
    .ok ⟨path, tag, extension, content, base⟩
  | _, _, _, _, _, _ =>
    .error (faultsOf path ++ faultsOf tag ++ faultsOf extension ++
      faultsOf content ++ faultsOf base ++ unknownFields f.others)

end ComponentSplit
