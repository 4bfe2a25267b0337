import ComponentSplit.Options
import ComponentSplit.Section.Census
import ComponentSplit.Section.Parse

namespace ComponentSplit

/-- A pipeline. It keeps nothing about the documents that pass through it. -/
structure Pipeline where
  registry : Registry
  modifiers : List (String × Modifier) := []
  compilers : SectionCompilers := defaultCompilers
  config : CompilerConfig := []
  loader : Loader
  settings : Settings := {}
  cwd : Place

def Pipeline.ofOptions (o : Options) (loader : Loader) (settings : Settings) (cwd : Place) :
    Pipeline where
  registry := Registry.ofParts o.tags o.compilers
  modifiers := o.modifiers
  config := o.config
  loader
  settings
  cwd

/-- All that is known about a document before its sections are compiled. -/
structure Context where
  document : Document
  source : String
  scopeId : String
  sections : List Section
  census : Census
  resolved : List ResolvedSection

namespace Pipeline

/-- A section with its place in the document, resolved. -/
def resolveSection (p : Pipeline) (path : Option String) (s : Section) (index : Nat) :
    Job ResolvedSection := do
  let extension ← p.registry.resolveExtension p.settings s.tag s.lang path s
  pure ⟨s, .ofTag s.tag, s.lang, extension, index⟩

/-- The registered sections among those from a place on, resolved in order. -/
def resolveSections (p : Pipeline) (path : Option String) (index : Nat) :
    List Section → Job (List ResolvedSection)
  | [] => pure []
  | s :: rest =>
    if p.registry.contains s.tag then do
      let first ← p.resolveSection path s index
      let others ← p.resolveSections path (index + 1) rest
      pure (first :: others)
    else p.resolveSections path (index + 1) rest

def readSections (d : Document) : Except Failure (String × List Section × Census) := do
  let text ← d.text
  let sections ← (parseSections text.toList).mapError (Failure.ofSectionFault text.toList d.path)
  let census ← validateSections sections d.path
  pure (text, sections, census)

/-- Parse and count a document, and resolve every registered section. -/
def prepare (p : Pipeline) (d : Document) : Job Context := do
  let (text, sections, census) ← Job.done (readSections d)
  let resolved ← p.resolveSections d.path 0 sections
  pure ⟨d, text, d.scopeIdWith text, sections, census, resolved⟩

def request (p : Pipeline) (c : Context) : CompileRequest :=
  ⟨c.document.path, c.scopeId, c.census.hasScopedStyle, c.source, p.loader, p.config⟩

/-- The report about sections of kinds that are not registered. -/
def skipLog (p : Pipeline) (c : Context) : Log :=
  let skipped := (c.sections.map (·.tag)).filter fun tag => !p.registry.contains tag
  if skipped.isEmpty then []
  else [⟨.debug, s!"Skipping unregistered sections in {c.document.display p.cwd}: " ++
    ", ".intercalate skipped⟩]

def sectionJobs (p : Pipeline) (c : Context) : List (Job Part) :=
  c.resolved.map (compileSection p.registry p.compilers (p.request c))

/-- Compile the sections of a document side by side. The first failure fails the document. -/
def compileSections (p : Pipeline) (c : Context) : Job (List Part) :=
  let job := Job.gather (p.sectionJobs c)
  { job with
    log := p.skipLog c ++ job.log
    result := job.result.mapError (.inDocument (c.document.display p.cwd) c.document.path) }

def compile (p : Pipeline) (d : Document) : Job (List MergedSection) := do
  let context ← p.prepare d
  let parts ← p.compileSections context
  pure (mergeParts parts)

def split (p : Pipeline) (d : Document) : Job (List Artifact) := do
  let merged ← p.compile d
  Job.done (buildArtifacts d merged p.registry p.modifiers p.settings.outputEncoding)

end Pipeline

end ComponentSplit
