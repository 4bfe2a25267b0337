import ComponentSplit.Compile
import ComponentSplit.Files.Tree
import ComponentSplit.Text.Lines

namespace ComponentSplit

/-- A loader's directory, and the character set of the files it reads. -/
structure FileLoader where
  root : FilePath
  charset : String := "utf-8"

namespace FileLoader

def target (l : FileLoader) (src : String) (path : Option String) : FilePath :=
  let base := match path.filter (· != "") with
    | some path => FilePath.ofText (directoryOf path.toList)
    | none => l.root
  base.join (.ofText src.toList)

/-- The text of a file, every line ending of which counts as a newline. A null in the name of the
character set is noticed before the file is opened, and whether there is such a set after that. The
set of the place where the work is done is UTF-8. -/
def readText (t : FileTree) (charset : String) (path : FilePath) : Except Failure String := do
  if charset.contains '\x00' then throw (.embeddedNull "character")
  let bytes ← t.read path
  let c ← Failure.charsetOf (if charset = "locale" then "utf-8" else charset) "codecs.open()"
  let text ← (c.decode bytes).mapError .decoding
  pure (String.ofList (unifyNewlines text.toList))

/-- The loader over a tree of files. Reading a file takes a turn. -/
def toLoader (l : FileLoader) (t : FileTree) : Loader where
  load src path :=
    let target := l.target src path
    { log := [⟨.debug, s!"Loading external section source {target.toString}"⟩]
      turns := 1
      result := readText t l.charset target }

end FileLoader

end ComponentSplit
