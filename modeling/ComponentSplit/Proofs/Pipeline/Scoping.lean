import ComponentSplit.Proofs.Pipeline.Precedence

namespace ComponentSplit

namespace BuiltinKind

theorem ofName?_eq_some {name : String} {kind : BuiltinKind} :
    ofName? name = some kind ↔ name = kind.name := by
  constructor
  · intro h
    have hname := List.find?_some h
    exact (beq_iff_eq.mp hname).symm
  · rintro rfl
    cases kind <;> decide

end BuiltinKind

theorem Registry.name_of_find? {registry : Registry} {tag : String} {e : Descriptor}
    (h : registry.find? tag = some e) : e.name = tag := by
  rw [find?] at h
  have hname := List.find?_some h
  exact beq_iff_eq.mp hname

namespace Section

/-- The section asks for its styles to be scoped. -/
def AsksForScope (s : Section) : Prop := ∃ a ∈ s.attrs, a.name = "scoped"

instance (s : Section) : Decidable s.AsksForScope := inferInstanceAs (Decidable (∃ a ∈ s.attrs, _))

/-- The section is one of styles that asks for its styles to be scoped. -/
def IsScopedStyle (s : Section) : Prop := s.tag = "style" ∧ s.AsksForScope

instance (s : Section) : Decidable s.IsScopedStyle := inferInstanceAs (Decidable (_ ∧ _))

/-- The section is in no language but HTML. -/
def IsHtml (s : Section) : Prop :=
  s.attr? "lang" = none ∨ s.attr? "lang" = some "" ∨ s.attr? "lang" = some "html"

instance (s : Section) : Decidable s.IsHtml := inferInstanceAs (Decidable (_ ∨ _ ∨ _))

/-- The section without what asks for scoping in vain. -/
def withoutStrayScope (s : Section) : Section :=
  if s.tag = "style" then s else { s with attrs := s.attrs.filter (·.name != "scoped") }

variable {s : Section}

theorem isScoped_iff : s.isScoped = true ↔ s.AsksForScope := by
  simp [isScoped, hasAttr, AsksForScope]

theorem isHtml_iff : s.lang = none ∨ s.lang = some "html" ↔ s.IsHtml := by
  rw [lang, nonemptyAttr?, IsHtml]
  cases s.attr? "lang" with
  | none => simp
  | some lang =>
    by_cases hlang : lang = ""
    · simp [hlang]
    · simp [hlang, Option.filter_some]

@[simp]
theorem withoutStrayScope_tag (s : Section) : s.withoutStrayScope.tag = s.tag := by
  rw [withoutStrayScope]
  split <;> rfl

@[simp]
theorem withoutStrayScope_content (s : Section) : s.withoutStrayScope.content = s.content := by
  rw [withoutStrayScope]
  split <;> rfl

theorem withoutStrayScope_attr? (s : Section) {name : String} (h : name ≠ "scoped") :
    s.withoutStrayScope.attr? name = s.attr? name := by
  rw [withoutStrayScope]
  split
  next => rfl
  next =>
    rw [attr?, attr?, List.find?_filter]
    congr 2
    funext a
    by_cases ha : a.name = name <;> simp [ha, h]

@[simp]
theorem withoutStrayScope_lang (s : Section) : s.withoutStrayScope.lang = s.lang := by
  rw [lang, lang, nonemptyAttr?, nonemptyAttr?, withoutStrayScope_attr? s (by decide)]

@[simp]
theorem withoutStrayScope_src (s : Section) : s.withoutStrayScope.src = s.src := by
  rw [src, src, nonemptyAttr?, nonemptyAttr?, withoutStrayScope_attr? s (by decide)]

theorem withoutStrayScope_of_style (h : s.tag = "style") : s.withoutStrayScope = s := if_pos h

end Section

theorem hasScopedStyle_iff {sections : List Section} :
    (Census.ofSections sections).hasScopedStyle = true ↔ ∃ s ∈ sections, s.IsScopedStyle := by
  simp [Census.ofSections, Section.IsScopedStyle, Section.isScoped_iff]

theorem ofSections_withoutStrayScope (sections : List Section) :
    Census.ofSections (sections.map Section.withoutStrayScope) = Census.ofSections sections := by
  have htags : (sections.map Section.withoutStrayScope).map (·.tag) = sections.map (·.tag) := by
    simp
  have hstyle : (sections.map Section.withoutStrayScope).any
      (fun s => s.tag == "style" && s.isScoped) =
        sections.any fun s => s.tag == "style" && s.isScoped := by
    rw [List.any_map]
    congr 1
    funext s
    by_cases hs : s.tag = "style"
    · simp [Section.withoutStrayScope_of_style hs]
    · simp [beq_eq_false_iff_ne.mpr hs]
  rw [Census.ofSections, Census.ofSections, htags, hstyle]

namespace Pipeline

variable {p : Pipeline} {path : Option String} {s : Section}

section Bases

/-- The text of a section, inline or from the file that it refers to. -/
def sourceOf (p : Pipeline) (path : Option String) (s : Section) : Except Failure String :=
  match s.src with
  | some src => (p.loader.load src path).result
  | none => .ok s.content

/-- The text of the section without common indentation, compiled by the compiler of its language
if there is one, and trimmed. -/
def IsBase (p : Pipeline) (path : Option String) (s : Section) (base : String) : Prop :=
  ∃ content compiled, p.sourceOf path s = .ok content ∧
    (compileLanguage p.config s.lang (String.ofList (deindent content.toList)) path).result =
      .ok compiled ∧ base = String.ofList (trim compiled.toList)

variable {r : CompileRequest}

theorem loadBody_eq_ok (hpath : r.path = path) (hloader : r.loader = p.loader) {body : String} :
    (loadBody s r).result = .ok body ↔ ∃ content, p.sourceOf path s = .ok content ∧
      body = String.ofList (deindent content.toList) := by
  rw [loadBody, sourceOf, hpath, hloader]
  cases s.src <;>
    simp only [Job.bind_result, Job.pure_result, bind_eq_ok, Except.ok.injEq, @eq_comm _ body]

theorem compileBody_eq_ok (hpath : r.path = path) (hloader : r.loader = p.loader)
    (hconfig : r.config = p.config) {base : String} :
    (compileBody s r).result = .ok base ↔ p.IsBase path s base := by
  rw [compileBody, Job.bind_result, bind_eq_ok, IsBase]
  simp only [loadBody_eq_ok hpath hloader, Job.bind_result, bind_eq_ok, hpath, hconfig]
  constructor
  · rintro ⟨body, ⟨content, hcontent, rfl⟩, compiled, hcompiled, hpure⟩
    cases hpure
    exact ⟨content, compiled, hcontent, hcompiled, rfl⟩
  · rintro ⟨content, compiled, hcontent, hcompiled, rfl⟩
    exact ⟨_, ⟨content, hcontent, rfl⟩, compiled, hcompiled, rfl⟩

end Bases

/-- What a section of a document compiles to, where `attr` is the attribute of the document and
`sections` are all its sections. -/
structure HasContent (p : Pipeline) (path : Option String) (sections : List Section)
    (attr : String) (s : Section) (content : String) : Prop where
  style : s.tag = "style" → ∃ base, p.IsBase path s base ∧ content =
    if s.AsksForScope then String.ofList (scopeStylesheet base.toList attr.toList) else base
  template : s.tag = "template" → ∃ base, p.IsBase path s base ∧ content =
    if (∃ t ∈ sections, t.IsScopedStyle) ∧ s.IsHtml then
      String.ofList (scopeTemplate base.toList attr.toList)
    else base
  script : s.tag = "script" → p.IsBase path s content
  custom : BuiltinKind.ofName? s.tag = none → ∃ e compiler source,
    p.registry.find? s.tag = some e ∧ e.compiler = some compiler ∧
      p.sourceOf path s = .ok source ∧
      (compiler s.tag (String.ofList (deindent source.toList)) s.lang path).result =
        .ok (.text content)

/-- None of the functions given to the pipeline fails for these sections of a document at this
path, unless a resolver does over a setting. -/
structure Succeeds (p : Pipeline) (path : Option String) (sections : List Section) : Prop where
  resolvers : ∀ s ∈ sections, ∀ cause, ¬ p.ResolverRaises path s cause
  loader : ∀ s ∈ sections, ∃ source, p.sourceOf path s = .ok source
  languages : ∀ s ∈ sections, BuiltinKind.ofName? s.tag ≠ none →
    ∃ found, p.config.language? s.lang = .ok found ∧ ∀ compiler, found = some compiler →
      ∀ content, ∃ text, (compiler content path).result = .ok (.text text)
  customCompilers : ∀ s ∈ sections, BuiltinKind.ofName? s.tag = none → ∀ e compiler,
    p.registry.find? s.tag = some e → e.compiler = some compiler →
      ∀ content, ∃ text, (compiler s.tag content s.lang path).result = .ok (.text text)

section Contents

variable {sections : List Section} {r : CompileRequest}

theorem compileLanguage_succeeds {config : CompilerConfig} {lang : Option String}
    (h : ∃ found, config.language? lang = .ok found ∧ ∀ compiler, found = some compiler →
      ∀ content, ∃ text, (compiler content path).result = .ok (.text text)) (content : String) :
    ∃ compiled, (compileLanguage config lang content path).result = .ok compiled := by
  obtain ⟨found, hfound, hcompiler⟩ := h
  rw [compileLanguage, Job.bind_result, Job.done_result, hfound]
  cases found with
  | none => exact ⟨content, rfl⟩
  | some compiler =>
    obtain ⟨text, htext⟩ := hcompiler compiler rfl content
    refine ⟨text, bind_eq_ok.mpr ⟨some compiler, rfl, ?_⟩⟩
    rw [Job.bind_result]
    exact bind_eq_ok.mpr ⟨.text text, htext, rfl⟩

theorem Succeeds.exists_base (h : p.Succeeds path sections) (hs : s ∈ sections)
    (hbuiltin : BuiltinKind.ofName? s.tag ≠ none) : ∃ base, p.IsBase path s base := by
  obtain ⟨source, hsource⟩ := h.loader s hs
  obtain ⟨compiled, hcompiled⟩ := compileLanguage_succeeds (h.languages s hs hbuiltin)
    (String.ofList (deindent source.toList))
  exact ⟨_, source, compiled, hsource, hcompiled, rfl⟩

theorem hasContent_scopeBody {kind : BuiltinKind} {base : String} (hkind : s.tag = kind.name)
    (hbase : p.IsBase path s base)
    (hscoped : r.hasScopedStyle = true ↔ ∃ t ∈ sections, t.IsScopedStyle) :
    p.HasContent path sections (scopeAttribute r.scopeId) s (scopeBody kind s r base) := by
  have hnot : ∀ other : BuiltinKind, kind ≠ other → s.tag ≠ other.name := by
    intro other hne heq
    have hsame := BuiltinKind.ofName?_eq_some.mpr (hkind.symm.trans heq)
    rw [BuiltinKind.ofName?_eq_some.mpr rfl] at hsame
    exact hne (Option.some.inj hsame)
  have hcustom : BuiltinKind.ofName? s.tag ≠ none := by
    rw [BuiltinKind.ofName?_eq_some.mpr hkind]
    exact Option.some_ne_none kind
  cases kind with
  | template =>
    refine ⟨fun h => absurd h (hnot .style nofun), fun _ => ⟨base, hbase, ?_⟩,
      fun h => absurd h (hnot .script nofun), fun h => absurd h hcustom⟩
    rw [scopeBody]
    refine if_congr ?_ rfl rfl
    rw [Bool.and_eq_true, hscoped, Bool.or_eq_true, beq_iff_eq, beq_iff_eq, Section.isHtml_iff]
  | script =>
    exact ⟨fun h => absurd h (hnot .style nofun), fun h => absurd h (hnot .template nofun),
      fun _ => hbase, fun h => absurd h hcustom⟩
  | style =>
    refine ⟨fun _ => ⟨base, hbase, ?_⟩, fun h => absurd h (hnot .template nofun),
      fun h => absurd h (hnot .script nofun), fun h => absurd h hcustom⟩
    rw [scopeBody]
    exact if_congr Section.isScoped_iff rfl rfl

theorem ofTag_of_ofName? {tag : String} {kind : BuiltinKind}
    (h : BuiltinKind.ofName? tag = some kind) : SectionKind.ofTag tag = .builtin kind := by
  rw [SectionKind.ofTag, h]

theorem ofTag_of_not_builtin {tag : String} (h : BuiltinKind.ofName? tag = none) :
    SectionKind.ofTag tag = .custom tag := by
  rw [SectionKind.ofTag, h]

end Contents

section Compiling

variable {o : Options} {loader : Loader} {settings : Settings} {cwd : Place}
  {sections : List Section} {r : CompileRequest}

/-- A kind that is registered without being built in has a compiler. -/
theorem exists_customCompiler
    (hs : (ofOptions o loader settings cwd).registry.contains s.tag = true)
    (hcustom : BuiltinKind.ofName? s.tag = none) : ∃ e compiler,
      (ofOptions o loader settings cwd).registry.find? s.tag = some e ∧
        e.compiler = some compiler := by
  obtain ⟨e, he⟩ := Option.isSome_iff_exists.mp hs
  have hname := Registry.name_of_find? he
  rcases Registry.mem_ofParts (List.mem_of_find?_eq_some he) with
    ⟨kind, rfl⟩ | ⟨name, resolver, compiler, -, -, rfl⟩
  · rw [BuiltinKind.ofName?_eq_some.mpr hname.symm] at hcustom
    cases hcustom
  · exact ⟨_, compiler, he, rfl⟩

theorem sectionValue_hasContent
    (h : (ofOptions o loader settings cwd).Succeeds path sections) (hs : s ∈ sections)
    (hregistered : (ofOptions o loader settings cwd).registry.contains s.tag = true)
    (hpath : r.path = path) (hloader : r.loader = loader) (hconfig : r.config = o.config)
    (hscoped : r.hasScopedStyle = true ↔ ∃ t ∈ sections, t.IsScopedStyle)
    (extension : String) (index : Int) :
    ∃ content, (sectionValue (ofOptions o loader settings cwd).registry defaultCompilers r
        ⟨s, .ofTag s.tag, s.lang, extension, index⟩).result = .ok (.text content) ∧
      (ofOptions o loader settings cwd).HasContent path sections (scopeAttribute r.scopeId) s
        content := by
  cases hname : BuiltinKind.ofName? s.tag with
  | some kind =>
    obtain ⟨base, hbase⟩ := h.exists_base hs (by simp [hname])
    have hkind := BuiltinKind.ofName?_eq_some.mp hname
    refine ⟨scopeBody kind s r base, ?_, hasContent_scopeBody hkind hbase hscoped⟩
    rw [sectionValue, ofTag_of_ofName? hname]
    change (defaultCompilers kind s r).result = _
    rw [defaultCompilers, Job.bind_result]
    exact bind_eq_ok.mpr ⟨base, (compileBody_eq_ok hpath hloader hconfig).mpr hbase, rfl⟩
  | none =>
    obtain ⟨e, compiler, he, hcompiler⟩ := exists_customCompiler hregistered hname
    obtain ⟨source, hsource⟩ := h.loader s hs
    obtain ⟨content, hcontent⟩ := h.customCompilers s hs hname e compiler he hcompiler
      (String.ofList (deindent source.toList))
    refine ⟨content, ?_, ?_⟩
    · rw [sectionValue, ofTag_of_not_builtin hname]
      simp only [he, hcompiler, Job.bind_result]
      refine bind_eq_ok.mpr ⟨_, (loadBody_eq_ok hpath hloader).mpr ⟨source, hsource, rfl⟩, ?_⟩
      rw [hpath]
      exact hcontent
    · have hnot : ∀ kind : BuiltinKind, s.tag ≠ kind.name := by
        intro kind heq
        rw [BuiltinKind.ofName?_eq_some.mpr heq] at hname
        cases hname
      exact ⟨fun h => absurd h (hnot .style), fun h => absurd h (hnot .template),
        fun h => absurd h (hnot .script),
        fun _ => ⟨e, compiler, source, he, hcompiler, hsource, hcontent⟩⟩

/-- A registered section is resolved and compiled. -/
theorem compileAt_hasContent
    (h : (ofOptions o loader settings cwd).Succeeds path sections) (hs : s ∈ sections)
    (hregistered : (ofOptions o loader settings cwd).registry.contains s.tag = true)
    (hpath : r.path = path) (hloader : r.loader = loader) (hconfig : r.config = o.config)
    (hscoped : r.hasScopedStyle = true ↔ ∃ t ∈ sections, t.IsScopedStyle) (index : Nat) :
    ∃ part, (ofOptions o loader settings cwd).compileAt r (s, index) = .ok part ∧
      part.tag = s.tag ∧ part.index = index ∧
      (ofOptions o loader settings cwd).HasContent path sections (scopeAttribute r.scopeId) s
        part.content := by
  cases hresolve :
      ((ofOptions o loader settings cwd).resolveSection r.path s index).result with
  | error cause =>
    rw [hpath] at hresolve
    exact absurd ((resolveSection_eq_error hregistered).mp hresolve) (h.resolvers s hs cause)
  | ok q =>
    obtain ⟨extension, -, rfl⟩ := resolveSection_eq_ok.mp hresolve
    obtain ⟨content, hvalue, hcontent⟩ := sectionValue_hasContent h hs hregistered hpath hloader
      hconfig hscoped extension index
    refine ⟨⟨s.tag, content, s.lang, extension, index⟩, ?_, rfl, rfl, hcontent⟩
    refine bind_eq_ok.mpr ⟨_, hresolve, ?_⟩
    rw [compileSection, Job.bind_result]
    refine bind_eq_ok.mpr ⟨_, hvalue, ?_⟩
    rw [Job.bind_result]
    exact bind_eq_ok.mpr ⟨content, rfl, rfl⟩

theorem compileSections_of_places {d : Document} {text : String} {census : Census}
    {parts : List Part} (hread : readSections d = .ok (text, sections, census))
    (h : List.Forall₂ (fun place part => p.compileAt (p.requestFor d text census) place = .ok part)
      (p.registered sections 0) parts) :
    ∃ c, (p.prepare d).result = .ok c ∧ (p.compileSections c).result = .ok parts := by
  simp only [compileAt, bind_eq_ok, forall₂_comp] at h
  obtain ⟨resolved, hresolved, hjobs⟩ := h
  refine ⟨⟨d, text, d.scopeIdWith text, sections, census, resolved⟩, prepare_eq_ok.mpr
    ⟨text, sections, census, resolved, hread, resolveSections_eq_ok.mpr hresolved, rfl⟩, ?_⟩
  refine mapError_eq_ok.mpr (Job.gather_eq_ok.mpr ?_)
  rw [sectionJobs, List.forall₂_map_left_iff]
  exact hjobs

theorem registered_of_builtin {place : Section × Nat} (hplace : place ∈ sections.zipIdx)
    (hbuiltin : BuiltinKind.ofName? place.1.tag ≠ none) :
    place ∈ (ofOptions o loader settings cwd).registered sections 0 := by
  obtain ⟨kind, hkind⟩ := Option.ne_none_iff_exists'.mp hbuiltin
  refine List.mem_filter.mpr ⟨hplace, Registry.contains_iff.mpr ?_⟩
  rw [BuiltinKind.ofName?_eq_some.mp hkind]
  refine List.mem_map.mpr ⟨Registry.builtinEntry o.tags kind, ?_, rfl⟩
  refine List.mem_append.mpr (.inl (List.mem_map_of_mem ?_))
  cases kind <;> simp [BuiltinKind.all]

theorem loadBody_withoutStrayScope (s : Section) (r : CompileRequest) :
    loadBody s.withoutStrayScope r = loadBody s r := by
  rw [loadBody, loadBody, Section.withoutStrayScope_src, Section.withoutStrayScope_content]

/-- The compilers do not see a request for scoping that is made in vain. -/
theorem sectionValue_withoutStrayScope (registry : Registry) (s : Section) (r : CompileRequest)
    (extension : String) (index : Int) :
    sectionValue registry defaultCompilers r
        ⟨s.withoutStrayScope, .ofTag s.tag, s.lang, extension, index⟩ =
      sectionValue registry defaultCompilers r ⟨s, .ofTag s.tag, s.lang, extension, index⟩ := by
  by_cases hstyle : s.tag = "style"
  · rw [Section.withoutStrayScope_of_style hstyle]
  · rw [sectionValue, sectionValue]
    cases hname : BuiltinKind.ofName? s.tag with
    | some kind =>
      rw [ofTag_of_ofName? hname]
      have hbody : compileBody s.withoutStrayScope r = compileBody s r := by
        rw [compileBody, compileBody, loadBody_withoutStrayScope, Section.withoutStrayScope_lang]
      have hscope : scopeBody kind s.withoutStrayScope r = scopeBody kind s r := by
        funext content
        cases kind with
        | template => rw [scopeBody, scopeBody, Section.withoutStrayScope_lang]
        | script => rfl
        | style => exact absurd (BuiltinKind.ofName?_eq_some.mp hname) hstyle
      change defaultCompilers kind s.withoutStrayScope r = defaultCompilers kind s r
      rw [defaultCompilers, defaultCompilers, hbody, hscope]
    | none =>
      rw [ofTag_of_not_builtin hname]
      simp only [Section.withoutStrayScope_tag, loadBody_withoutStrayScope]

end Compiling

/-- The sections of a document are compiled, and scoped alike. -/
structure ScopesAlike (p : Pipeline) (d : Document) (text : String) (sections : List Section) :
    Prop where
  compiles : ∃ c parts, (p.prepare d).result = .ok c ∧ (p.compileSections c).result = .ok parts ∧
    List.Forall₂ (fun place part => part.tag = place.1.tag ∧ part.index = place.2 ∧
      p.HasContent d.path sections (scopeAttribute (scopeId d.path text)) place.1 part.content)
      (p.registered sections 0) parts
  /-- No section of a built-in kind is left out. -/
  registered : ∀ place ∈ sections.zipIdx, BuiltinKind.ofName? place.1.tag ≠ none →
    place ∈ p.registered sections 0
  /-- Where a section asks for scoping that is not one of styles, this changes nothing. -/
  stray : ∀ s ∈ sections, ∀ extension index,
    sectionValue p.registry p.compilers
        (p.requestFor d text (Census.ofSections (sections.map Section.withoutStrayScope)))
        ⟨s.withoutStrayScope, .ofTag s.tag, s.lang, extension, index⟩ =
      sectionValue p.registry p.compilers (p.requestFor d text (Census.ofSections sections))
        ⟨s, .ofTag s.tag, s.lang, extension, index⟩

/-- With the section compilers that the library has, one attribute ties the styles of a document to
its template, and both get it by what the document's style sections ask for. -/
theorem compile_scopesAlike (o : Options) (loader : Loader) (settings : Settings) (cwd : Place)
    {d : Document} {text : String} {sections : List Section} {census : Census}
    (hread : readSections d = .ok (text, sections, census))
    (h : (ofOptions o loader settings cwd).Succeeds d.path sections) :
    (ofOptions o loader settings cwd).ScopesAlike d text sections := by
  obtain rfl := (readSections_eq_ok hread).2.1
  refine ⟨?_, fun place => registered_of_builtin, fun s _ extension index => ?_⟩
  · have hcompiles : ∀ place ∈ (ofOptions o loader settings cwd).registered sections 0, ∃ part,
        (ofOptions o loader settings cwd).compileAt
            ((ofOptions o loader settings cwd).requestFor d text (Census.ofSections sections))
            place = .ok part ∧ part.tag = place.1.tag ∧ part.index = place.2 ∧
          (ofOptions o loader settings cwd).HasContent d.path sections
            (scopeAttribute (scopeId d.path text)) place.1 part.content := by
      intro place hplace
      obtain ⟨hmem, hregistered⟩ := List.mem_filter.mp hplace
      exact compileAt_hasContent h (List.fst_mem_of_mem_zipIdx hmem) hregistered rfl rfl rfl
        hasScopedStyle_iff place.2
    obtain ⟨parts, hparts⟩ := forall₂_exists hcompiles
    obtain ⟨c, hprepare, hsections⟩ := compileSections_of_places hread (hparts.imp fun _ _ h => h.1)
    exact ⟨c, parts, hprepare, hsections, hparts.imp fun _ _ h => h.2⟩
  · rw [ofSections_withoutStrayScope]
    exact sectionValue_withoutStrayScope _ s _ extension index

/-- Options without a function that fails are as good for every document. -/
theorem ofOptions_succeeds {o : Options} {loader : Loader}
    (hresolvers : ∀ r ∈ o.tags, ∀ lang path s, ∃ value, r.2 lang path s = .ok value)
    (hloader : ∀ src path, ∃ text, (loader.load src path).result = .ok text)
    (hlanguages : ∀ lang, ∃ found, o.config.language? lang = .ok found ∧ ∀ compiler,
      found = some compiler → ∀ content path, ∃ text, (compiler content path).result =
        .ok (.text text))
    (hcompilers : ∀ c ∈ o.compilers, ∀ tag content lang path, ∃ text,
      (c.2 tag content lang path).result = .ok (.text text))
    (settings : Settings) (cwd : Place) (path : Option String) (sections : List Section) :
    (ofOptions o loader settings cwd).Succeeds path sections := by
  constructor
  case resolvers =>
    rintro s - cause ⟨e, he, hraises, -⟩
    have hvalue : ∃ value, e.resolver s.lang path s = .ok value := by
      rcases Registry.mem_ofParts (List.mem_of_find?_eq_some he) with
        ⟨kind, rfl⟩ | ⟨name, resolver, compiler, hmem, -, rfl⟩
      · rw [Registry.builtinEntry]
        cases hlookup : o.tags.lookup kind.name with
        | none => exact ⟨_, rfl⟩
        | some resolver => exact hresolvers _ (mem_of_lookup hlookup) _ _ _
      · exact hresolvers _ hmem _ _ _
    obtain ⟨value, hvalue⟩ := hvalue
    rw [hvalue] at hraises
    cases hraises
  case loader =>
    intro s _
    rw [sourceOf]
    cases s.src with
    | none => exact ⟨s.content, rfl⟩
    | some src => exact hloader src path
  case languages =>
    intro s _ _
    obtain ⟨found, hfound, hcompiler⟩ := hlanguages s.lang
    exact ⟨found, hfound, fun compiler hc content => hcompiler compiler hc content path⟩
  case customCompilers =>
    intro s _ _ e compiler he hcompiler content
    rcases Registry.mem_ofParts (List.mem_of_find?_eq_some he) with
      ⟨kind, rfl⟩ | ⟨name, resolver, given, -, hmem, rfl⟩
    · cases hcompiler
    · cases hcompiler
      exact hcompilers _ hmem _ _ _ _

def scopedDocument : Document :=
  .ofText "<template><p/></template><style scoped>p\x7b\x7d</style>" (some "a.vue") none

def scopedSections : List Section :=
  [{ tag := "template", content := "<p/>", stop := 25, bodyStart := 10, bodyStop := 14 },
    { tag := "style", attrs := [⟨"scoped", none⟩], content := "p\x7b\x7d", start := 25, stop := 50,
      bodyStart := 39, bodyStop := 42, position := ⟨1, 25⟩ }]

theorem readSections_scoped : readSections scopedDocument =
    .ok ("<template><p/></template><style scoped>p\x7b\x7d</style>", scopedSections,
      ⟨[("template", 1), ("style", 1)], true⟩) := by
  decide +kernel

theorem docsOptions_succeeds (path : Option String) (sections : List Section) :
    (ofOptions docsOptions ⟨fun _ _ => pure ""⟩ {} []).Succeeds path sections := by
  refine ofOptions_succeeds ?_ (fun _ _ => ⟨"", rfl⟩) (fun lang => ⟨none, ?_, nofun⟩) ?_ _ _ _ _
  · simp [docsOptions]
  · exact CompilerConfig.language?_nil lang
  · simp [docsOptions]

theorem compile_scopesAlike_docs :
    readSections scopedDocument =
        .ok ("<template><p/></template><style scoped>p\x7b\x7d</style>", scopedSections,
          ⟨[("template", 1), ("style", 1)], true⟩) ∧
      (ofOptions docsOptions ⟨fun _ _ => pure ""⟩ {} []).Succeeds scopedDocument.path
        scopedSections ∧
      (ofOptions docsOptions ⟨fun _ _ => pure ""⟩ {} []).ScopesAlike scopedDocument
        "<template><p/></template><style scoped>p\x7b\x7d</style>" scopedSections :=
  ⟨readSections_scoped, docsOptions_succeeds _ _,
    compile_scopesAlike docsOptions _ {} [] readSections_scoped (docsOptions_succeeds _ _)⟩

end Pipeline

end ComponentSplit
