import ComponentSplit.Registry
import ComponentSplit.Stylesheet.Scope
import ComponentSplit.Template.Scope
import ComponentSplit.Text.Indent

namespace ComponentSplit

/-- Loads the file that a section refers to, given the path of its document. -/
structure Loader where
  load : (src : String) → (path : Option String) → Job String

def Loader.ofTexts (texts : List (String × String)) : Loader where
  load src _ :=
    match texts.lookup src with
    | some text => pure text
    | none => Job.fail (.noSource src)

/-- Compiles text in some language, given the path of the document. -/
abbrev LanguageCompiler := (content : String) → (path : Option String) → Job Value

/-- An entry of the compilers by language: a compiler, or another value in its place. -/
inductive LanguageEntry
  | compiler (c : LanguageCompiler)
  | value (v : Value)

/-- An entry of the configuration that is passed on to the section compilers. -/
inductive ConfigEntry
  | languages (compilers : List (String × LanguageEntry))
  | value (v : Value)

abbrev CompilerConfig := List (String × ConfigEntry)

/-- The compiler that an entry gives; an entry without a value gives none. -/
def LanguageEntry.compiler? : LanguageEntry → Except Failure (Option LanguageCompiler)
  | compiler c => .ok (some c)
  | value .null => .ok none
  | value v => .error (.notFunction v.kindName)

/-- The compiler of a language. An empty value stands for no compilers at all; any other has to be
a record of compilers by their languages. -/
def CompilerConfig.language? (config : CompilerConfig) (lang : Option String) :
    Except Failure (Option LanguageCompiler) :=
  match lang.filter (· != ""), config.lookup "compilers" with
  | some lang, some (.languages compilers) =>
    ((compilers.lookup lang).getD (.value .null)).compiler?
  | some lang, some (.value (.record fields)) =>
    (LanguageEntry.value ((fields.lookup lang).getD .null)).compiler?
  | some _, some (.value v) =>
    if v.isEmpty then .ok none else .error (.unableTo v.kindName "get")
  | _, _ => .ok none

/-- What a section compiler may need besides the section: among it, the text of the whole
document. -/
structure CompileRequest where
  path : Option String
  scopeId : String
  hasScopedStyle : Bool
  source : String
  loader : Loader
  config : CompilerConfig

abbrev SectionCompilers := BuiltinKind → Section → CompileRequest → Job Value

/-- The attribute that ties styles to the elements of a template. -/
def scopeAttribute (id : String) : String := "data-v-" ++ id

/-- The text that a compiler gave, which `owner` names in the failure when it is none. -/
def textOf (owner : String) : Value → Except Failure String
  | .text s => .ok s
  | v => .error (.noText owner v.kindName)

/-- The body of a section without the indentation that its lines share. -/
def loadBody (s : Section) (r : CompileRequest) : Job String := do
  let content ← match s.src with
    | some src => r.loader.load src r.path
    | none => pure s.content
  pure (String.ofList (deindent content.toList))

/-- The text given to the compiler of its language; without one it stays as it is. -/
def compileLanguage (config : CompilerConfig) (lang : Option String) (content : String)
    (path : Option String) : Job String := do
  match ← Job.done (config.language? lang) with
  | none => pure content
  | some compiler =>
    let value ← compiler content path
    Job.done (textOf ("lang=\"" ++ lang.getD "" ++ "\"") value)

def compileBody (s : Section) (r : CompileRequest) : Job String := do
  let content ← loadBody s r
  let compiled ← compileLanguage r.config s.lang content r.path
  pure (String.ofList (trim compiled.toList))

/-- A compiled body with the scope of its document. Styles ask for it themselves; a template is
scoped when it is plain HTML and any style of the document is. -/
def scopeBody (kind : BuiltinKind) (s : Section) (r : CompileRequest) (content : String) : String :=
  let attr := (scopeAttribute r.scopeId).toList
  match kind with
  | .template =>
    if r.hasScopedStyle && (s.lang == none || s.lang == some "html") then
      String.ofList (scopeTemplate content.toList attr)
    else content
  | .script => content
  | .style => if s.isScoped then String.ofList (scopeStylesheet content.toList attr) else content

/-- The section compilers that are used when no others are given. -/
def defaultCompilers : SectionCompilers := fun kind s r => do
  let content ← compileBody s r
  pure (.text (scopeBody kind s r content))

/-- A section with all that is decided about it before it is compiled. -/
structure ResolvedSection where
  node : Section
  kind : SectionKind
  lang : Option String
  extension : String
  index : Int

/-- A compiled section, with its place among the sections of the document. -/
structure Part where
  tag : String
  content : String
  lang : Option String := none
  extension : String := ""
  index : Int := 0
deriving DecidableEq, Repr

/-- The value that the compiler of a section gives. -/
def sectionValue (registry : Registry) (compilers : SectionCompilers) (r : CompileRequest)
    (s : ResolvedSection) : Job Value :=
  let tag := s.node.tag
  match s.kind with
  | .builtin kind => compilers kind s.node r
  | .custom _ =>
    match registry.find? tag with
    | none => Job.fail (.unknownTag tag)
    | some d =>
      match d.compiler with
      | none =>
        Job.fail (.document (.uncompiled s!"No custom compiler registered for <{tag}>") r.path)
      | some compiler => do
        let content ← loadBody s.node r
        compiler tag content s.lang r.path

def compileSection (registry : Registry) (compilers : SectionCompilers) (r : CompileRequest)
    (s : ResolvedSection) : Job Part := do
  let tag := s.node.tag
  let value ← sectionValue registry compilers r s
  let content ← Job.done (textOf s!"<{tag}>" value)
  pure ⟨tag, content, s.lang, s.extension, s.index⟩

end ComponentSplit
