import ComponentSplit.Options
import ComponentSplit.Text.Lines

namespace ComponentSplit.Command

/-- The extension of a configuration section: `config.php` for PHP, else `ini`. -/
def configExtension (lang : Option String) : String :=
  if lang = some "php" then "config.php" else "ini"

/-- A configuration section without the white space around it; PHP gets its opening tag. -/
def compileConfig (content : String) (lang : Option String) : String :=
  let body := String.ofList (trim content.toList)
  if lang = some "php" then "<?php\n" ++ body ++ "\n" else body

/-- A line that is only a comment, which starts with two slashes. -/
def isCommentLine (line : List Char) : Bool := "//".toList.isPrefixOf (trimStart line)

/-- A text without the lines that are only comments. -/
def dropCommentLines (content : String) : String :=
  String.ofList (joinLines ((displayLines content.toList).filter fun line => !isCommentLine line))

/-- A script inside a function of its own, unless it is in a language other than the plain one. -/
def wrapPlainScript (content : String) (lang : Option String) : String :=
  match lang.filter (· != "") with
  | some _ => content
  | none => "(function () \x7b\n" ++ content ++ "\n\x7d)();\n"

def options : Options where
  tags := [("config", fun lang _ _ => .ok (.text (configExtension lang)))]
  compilers := [("config", fun _ content lang _ => pure (.text (compileConfig content lang)))]
  modifiers := [("script", fun content lang => .ok (.text (wrapPlainScript content lang)))]
  config := [("compilers", .languages
    [("scss", .compiler fun content _ => pure (.text (dropCommentLines content)))])]

end ComponentSplit.Command
