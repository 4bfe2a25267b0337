import ComponentSplit.Artifact
import ComponentSplit.Merge

namespace ComponentSplit

/-- Changes the merged content of a tag, given its language, before it is written. -/
abbrev Modifier := (content : String) → (lang : Option String) → Except Failure Value

/-- The content of a tag after its modifier, if it has one. -/
def applyModifier (modifiers : List (String × Modifier)) (tag content : String)
    (lang : Option String) : Except Failure Value :=
  match modifiers.lookup tag with
  | none => .ok (.text content)
  | some modifier => modifier content lang

/-- The bytes of a value in a character set given by its name. -/
def encodeValue (charset : String) : Value → Except Failure ByteArray
  | .text s => do
    let c ← Failure.charsetOf charset "codecs.encode()"
    (c.encode s).mapError (.encoding charset)
  | v => .error (.unableTo v.kindName "encode")

def artifactOf (d : Document) (modifiers : List (String × Modifier)) (charset : String)
    (m : MergedSection) : Except Failure Artifact := do
  let value ← applyModifier modifiers m.tag m.content m.lang
  let content ← encodeValue charset value
  pure ⟨outputPath d.directory d.stem m.extension, m.tag, m.extension, content, d.base⟩

/-- One artifact for each registered tag with content, in the order of the registry. -/
def buildArtifacts (d : Document) (merged : List MergedSection) (registry : Registry)
    (modifiers : List (String × Modifier)) (charset : String) : Except Failure (List Artifact) :=
  let present := registry.names.filterMap fun tag =>
    (mergedFor? merged tag).filter fun m => m.content != ""
  present.mapM (artifactOf d modifiers charset)

/-- A place that takes artifacts, with a state. It may refuse one, and it may report messages. -/
structure Sink (σ : Type) where
  accept : σ → Artifact → σ × Log × Option Failure

/-- What became of a delivery. -/
structure Delivery (σ : Type) where
  state : σ
  log : Log
  failure : Option Failure

/-- Hand all artifacts to the sink, in their order. All are handed over even when the sink refuses
some; the first refusal counts. -/
def deliver (sink : Sink σ) (state : σ) : List Artifact → Delivery σ
  | [] => ⟨state, [], none⟩
  | a :: rest =>
    let (state, log, failure) := sink.accept state a
    let after := deliver sink state rest
    ⟨after.state, log ++ after.log, failure.or after.failure⟩

/-- A sink that keeps the artifacts it does not refuse. -/
def memorySink (refuse : Artifact → Option Failure) : Sink (List Artifact) where
  accept kept a :=
    match refuse a with
    | some failure => (kept, [], some failure)
    | none => (kept ++ [a], [], none)

/-- Artifacts by their path, each path at its first place with the last artifact of that path. -/
def byPath (artifacts : List Artifact) : List (String × Artifact) :=
  (artifacts.map (·.path)).eraseDups.filterMap fun path =>
    (artifacts.reverse.find? (·.path == path)).map fun a => (path, a)

end ComponentSplit
