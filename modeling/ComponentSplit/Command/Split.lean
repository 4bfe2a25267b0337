import ComponentSplit.Command.Arguments
import ComponentSplit.Command.Recipes
import ComponentSplit.Files.Loader
import ComponentSplit.Files.Sink
import ComponentSplit.Pipeline.Run

namespace ComponentSplit

namespace FileTree

/-- Every place of the tree: its files, its directories, and all directories on the way to them. -/
def places (t : FileTree) : List Place :=
  ((t.files.map Prod.fst ++ t.directories).flatMap (passed [])).eraseDups

/-- The paths below a directory whose names end in some text, in the order of their components. -/
def pathsEndingIn (t : FileTree) (directory : FilePath) (ending : String) :
    Except Failure (List FilePath) := do
  match ← t.find? directory with
  | none => pure []
  | some top =>
    let found := t.places.filterMap fun place =>
      if top.isPrefixOf place && (place.drop top.length).getLast?.any (·.endsWith ending) then
        some (place.drop top.length)
      else none
    pure ((found.mergeSort comesBefore).map fun names =>
      directory.join (.ofText (pathOfComponents names)))

def readDocument (t : FileTree) (path : FilePath) (base : Option String) :
    Except Failure Document := do
  let bytes ← t.read path
  pure ⟨some path.toString, base, .bytes bytes⟩

end FileTree

namespace Command

/-- What the program leaves: how it ends, what it writes to its two outputs, the files and the
messages. -/
structure Ending where
  code : Nat
  output : String := ""
  errors : String := ""
  tree : FileTree
  log : Log := []

def outcomeLine (o : Outcome) : String :=
  let status := o.status.name
  let padding := String.ofList (List.replicate (8 - status.length) ' ')
  let names := ", ".intercalate (o.artifacts.map Artifact.name)
  status ++ padding ++ " " ++ o.path.getD "None" ++ ": " ++ (if names = "" then "-" else names) ++
    "\n"

def failureText (o : Outcome) : String :=
  match o.error with
  | some failure => s!"\n{failure.message}\n"
  | none => "\n\n"

/-- The ending that a report and what came with it amount to. -/
def Ending.ofRun (log : Log) (r : RunResult FileTree) : Ending where
  code := if r.report.isOk then 0 else 1
  output := String.join (r.report.outcomes.map outcomeLine)
  errors := String.join (r.report.failed.map failureText)
  tree := r.state
  log := log ++ r.log

/-- Split all components below a directory. `announced` is the limit that the first message
tells. -/
def splitAll (tree : FileTree) (settings : Settings) (announced : Nat)
    (source : FilePath) (output : Option FilePath) : Except Failure Ending := do
  let documents ← (← tree.pathsEndingIn source ".vue").mapM fun path =>
    tree.readDocument path source.toString
  let loader : FileLoader := { root := .ofPlace tree.cwd }
  let pipeline := Pipeline.ofOptions options (loader.toLoader tree) settings tree.cwd
  let sink : Sink FileTree := match output with
    | some directory => FileSink.toSink ⟨directory⟩
    | none => ⟨fun tree _ => (tree, [], some .noDirectory)⟩
  let message := s!"Splitting {documents.length} components with up to {announced} in flight"
  pure (Ending.ofRun [⟨.info, message⟩]
    (pipeline.run settings.maxConcurrentDocuments sink tree documents))

def run (program : String) (tree : FileTree) (settings : Settings) (announced : Nat)
    (args : List String) : Except Failure Ending :=
  match Invocation.ofArguments args with
  | .split source output =>
    splitAll tree settings announced (.ofText source.toList)
      (output.map fun path => .ofText path.toList)
  | .help => .ok { code := 0, output := helpText program, tree }
  | .misuse => .ok { code := 2, errors := usage program, tree }

end Command

end ComponentSplit
