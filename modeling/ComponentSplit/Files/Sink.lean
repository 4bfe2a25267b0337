import ComponentSplit.Emit
import ComponentSplit.Files.Tree

namespace ComponentSplit

/-- Where a file sink puts artifacts. -/
structure FileSink where
  directory : Option FilePath := none

namespace FileSink

/-- The file that an artifact is written to. A path that leads out of the output directory is
refused. -/
def target (s : FileSink) (cwd : Place) (a : Artifact) : Except Failure FilePath :=
  match s.directory with
  | none => .ok (.ofText a.path.toList)
  | some directory => do
    let relative ← a.relativePath cwd
    let target := directory.join (FilePath.ofText relative.toList).dropRoot
    FileTree.checkNull target
    if (directory.place cwd).isPrefixOf (target.place cwd) then pure target
    else .error (.outsideDirectory a.path)

def toSink (s : FileSink) : Sink FileTree where
  accept tree a :=
    match s.target tree.cwd a with
    | .error failure => (tree, [], some failure)
    | .ok target =>
      match tree.write target a.content with
      | (tree, .ok ()) =>
        (tree, [⟨.debug, s!"Wrote {target.toString} ({a.size} bytes)"⟩], none)
      | (tree, .error failure) => (tree, [], some failure)

end FileSink

end ComponentSplit
