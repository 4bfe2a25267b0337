import ComponentSplit.Job
import ComponentSplit.Settings.Basic
import ComponentSplit.Value

namespace ComponentSplit

/-- The kinds of section that are always known. -/
inductive BuiltinKind
  | template
  | script
  | style
deriving DecidableEq, Repr

namespace BuiltinKind

def name : BuiltinKind → String
  | template => "template"
  | script => "script"
  | style => "style"

/-- All built-in kinds, in the order in which they are registered. -/
def all : List BuiltinKind := [template, script, style]

def ofName? (name : String) : Option BuiltinKind := all.find? (·.name == name)

end BuiltinKind

/-- The kind of a section, by its tag. -/
inductive SectionKind
  | builtin (kind : BuiltinKind)
  | custom (name : String)
deriving DecidableEq, Repr

namespace SectionKind

def ofTag (tag : String) : SectionKind :=
  match BuiltinKind.ofName? tag with
  | some kind => .builtin kind
  | none => .custom tag

def name : SectionKind → String
  | builtin kind => kind.name
  | custom name => name

def isBuiltin : SectionKind → Bool
  | builtin _ => true
  | custom _ => false

end SectionKind

/-- Decides the extension of the output for a section, given its language and the document's
path. -/
abbrev Resolver := (lang path : Option String) → Section → Except Failure Value

/-- Compiles the body of a section of a custom kind. -/
abbrev CustomCompiler := (tag content : String) → (lang path : Option String) → Job Value

/-- A registered kind of section. -/
structure Descriptor where
  kind : SectionKind
  resolver : Resolver
  compiler : Option CustomCompiler := none

def Descriptor.name (d : Descriptor) : String := d.kind.name

/-- The registered kinds, built-in ones first, then custom ones in the order of their resolvers. -/
structure Registry where
  entries : List Descriptor

/-- The resolver that a built-in kind has when none is given. -/
def BuiltinKind.resolver (kind : BuiltinKind) : Resolver := fun lang _ _ =>
  .ok (.text (match kind with
    | .template => (lang.filter (· != "")).getD "html"
    | .script => "js"
    | .style => "css"))

namespace Registry

/-- The entry of a built-in kind, with the resolver given for its name, if any. -/
def builtinEntry (tags : List (String × Resolver)) (kind : BuiltinKind) : Descriptor :=
  { kind := .builtin kind, resolver := (tags.lookup kind.name).getD kind.resolver }

def isBuiltinName (name : String) : Bool := (BuiltinKind.ofName? name).isSome

/-- The resolvers and compilers given by name become entries. -/
def ofParts (tags : List (String × Resolver)) (compilers : List (String × CustomCompiler)) :
    Registry where
  entries :=
    BuiltinKind.all.map (builtinEntry tags) ++
      tags.filterMap fun (name, resolver) =>
        if isBuiltinName name then none
        else (compilers.lookup name).map fun compiler => ⟨.custom name, resolver, some compiler⟩

/-- What the building of a registry reports: names that have no effect. -/
def buildLog (tags : List (String × Resolver)) (compilers : List (String × CustomCompiler)) :
    Log :=
  let warn (message : String → String) (name : String) : Entry := ⟨.warning, message name⟩
  let tagNames := tags.map Prod.fst
  let compilerNames := compilers.map Prod.fst
  (compilerNames.filter isBuiltinName).map
      (warn fun name => s!"Ignoring custom compiler for built-in section <{name}>") ++
    (tagNames.filter fun name => !isBuiltinName name && !compilerNames.contains name).map
      (warn fun name =>
        s!"Tag <{name}> has no custom compiler registered; its sections will be skipped") ++
    (compilerNames.filter fun name => !isBuiltinName name && !tagNames.contains name).map
      (warn fun name => s!"Custom compiler for <{name}> has no extension resolver in tags; " ++
        "its sections will be skipped")

def names (r : Registry) : List String := r.entries.map Descriptor.name

def find? (r : Registry) (name : String) : Option Descriptor :=
  r.entries.find? (·.name == name)

def contains (r : Registry) (name : String) : Bool := (r.find? name).isSome

/-- The extension of the output for a section. A resolver that gives nothing, or that reports a
setting it cannot work with, leaves the choice to the settings. -/
def resolveExtension (r : Registry) (settings : Settings) (tag : String)
    (lang path : Option String) (s : Section) : Job String :=
  let fallback := settings.fallbackExtension
  match r.find? tag with
  | none => Job.fail (.unknownTag tag)
  | some d =>
    match d.resolver lang path s with
    | .error (.configuration message) =>
      { log := [⟨.warning, s!"Extension resolver for <{tag}> failed: {message}; using .{fallback}"⟩]
        result := .ok fallback }
    | .error failure => Job.fail failure
    | .ok value =>
      if value.isEmpty then
        { log := [⟨.warning, s!"Extension resolver for <{tag}> returned nothing; using .{fallback}"⟩]
          result := .ok fallback }
      else pure value.display

end Registry

end ComponentSplit
