import Mathlib.Data.List.Nodup
import ComponentSplit.Proofs.Path.Output
import ComponentSplit.Proofs.Pipeline.Delivery
import ComponentSplit.Proofs.Pipeline.InOrder

namespace ComponentSplit

namespace BuiltinKind

/-- The extension that the built-in resolver of a kind gives. -/
def extension (kind : BuiltinKind) (lang : Option String) : String :=
  match kind with
  | template => (lang.filter (· != "")).getD "html"
  | script => "js"
  | style => "css"

theorem resolver_eq (kind : BuiltinKind) (lang path : Option String) (s : Section) :
    kind.resolver lang path s = .ok (.text (kind.extension lang)) := rfl

theorem extension_ne_empty (kind : BuiltinKind) (lang : Option String) :
    kind.extension lang ≠ "" := by
  cases kind with
  | template =>
    cases hlang : lang.filter (· != "") with
    | none => simp [extension, hlang]
    | some given =>
      have hgiven := (Option.filter_eq_some_iff.mp hlang).2
      simpa [extension, hlang] using hgiven
  | script => simp [extension]
  | style => simp [extension]

/-- A template has another extension than `html` only where its language is just that. -/
theorem extension_template_eq {lang : Option String} {given : String} (hempty : given ≠ "")
    (hhtml : given ≠ "html") : template.extension lang = given ↔ lang = some given := by
  cases lang with
  | none => simpa [extension] using Ne.symm hhtml
  | some other =>
    by_cases hother : other = ""
    · simp [extension, Option.filter_some, hother, Ne.symm hhtml, Ne.symm hempty]
    · simp [extension, Option.filter_some, hother]

theorem template_meets {other : BuiltinKind} {lang lang' : Option String}
    (hother : other ≠ template) : template.extension lang = other.extension lang' ↔
      other = script ∧ lang = some "js" ∨ other = style ∧ lang = some "css" := by
  cases other with
  | template => exact absurd rfl hother
  | script =>
    change template.extension lang = "js" ↔ _
    rw [extension_template_eq (by decide) (by decide)]
    simp
  | style =>
    change template.extension lang = "css" ↔ _
    rw [extension_template_eq (by decide) (by decide)]
    simp

/-- Of two kinds of one extension, one is the template. -/
theorem eq_template_of_extension {kind other : BuiltinKind} {lang lang' : Option String}
    (hne : kind ≠ other) (h : kind.extension lang = other.extension lang') :
    kind = template ∨ other = template := by
  cases kind with
  | template => exact .inl rfl
  | script =>
    cases other with
    | template => exact .inr rfl
    | script => exact absurd rfl hne
    | style => simp [extension] at h
  | style =>
    cases other with
    | template => exact .inr rfl
    | script => simp [extension] at h
    | style => exact absurd rfl hne

/-- A slash in an extension comes from the language of a template. -/
theorem slash_mem_extension {kind : BuiltinKind} {lang : Option String} :
    '/' ∈ (kind.extension lang).toList ↔ kind = template ∧ ∃ given ∈ lang, '/' ∈ given.toList := by
  cases kind with
  | template =>
    cases lang with
    | none => simp [extension]
    | some given =>
      by_cases hgiven : given = ""
      · simp [extension, Option.filter_some, hgiven]
      · simp [extension, Option.filter_some, hgiven]
  | script => simp [extension]
  | style => simp [extension]

end BuiltinKind

namespace Registry

variable (compilers : List (String × CustomCompiler))

theorem names_ofParts_nil : (ofParts [] compilers).names = BuiltinKind.all.map BuiltinKind.name :=
  rfl

/-- Without resolvers of one's own the extension is that of the kind, and nothing is reported. -/
theorem resolveExtension_builtin (settings : Settings) (kind : BuiltinKind)
    (lang path : Option String) (s : Section) :
    ((ofParts [] compilers).resolveExtension settings kind.name lang path s).result =
      .ok (kind.extension lang) := by
  have hfind : (ofParts [] compilers).find? kind.name = some (builtinEntry [] kind) := by
    cases kind <;> rfl
  have hresolver : (builtinEntry [] kind).resolver lang path s =
      .ok (.text (kind.extension lang)) := kind.resolver_eq lang path s
  have hvalue : (Value.text (kind.extension lang)).isEmpty = false := by
    simpa [Value.isEmpty] using kind.extension_ne_empty lang
  rw [resolveExtension, hfind]
  simp only [hresolver, hvalue]
  rfl

end Registry

section Census

theorem count_ofSections (sections : List Section) (tag : String) :
    (Census.ofSections sections).count tag = (sections.map (·.tag)).count tag := by
  have hlookup : ∀ (f : String → Nat) (tags : List String),
      (tags.map fun t => (t, f t)).lookup tag = if tag ∈ tags then some (f tag) else none := by
    intro f tags
    induction tags with
    | nil => rfl
    | cons t tags ih =>
      rw [List.map_cons, List.lookup_cons]
      by_cases htag : tag = t
      · simp [htag]
      · rw [beq_eq_false_iff_ne.mpr htag, ih]
        simp [htag]
  rw [Census.count, Census.ofSections, hlookup]
  simp only [List.mem_eraseDups]
  split
  next => rfl
  next hmem => exact (List.count_eq_zero_of_not_mem hmem).symm

/-- A document that can be read has one template at most. -/
theorem Pipeline.template_unique {d : Document} {text : String} {sections : List Section}
    {census : Census} (h : readSections d = .ok (text, sections, census)) {s other : Section}
    (hs : s ∈ sections) (hother : other ∈ sections) (htag : s.tag = "template")
    (htag' : other.tag = "template") : s = other := by
  obtain ⟨-, rfl, hkinds⟩ := readSections_eq_ok h
  have hlimit := List.find?_eq_none.mp hkinds "template" (by decide)
  rw [count_ofSections, List.count, List.countP_map, List.countP_eq_length_filter] at hlimit
  have hown : ∀ t ∈ sections, t.tag = "template" →
      t ∈ sections.filter ((· == "template") ∘ (·.tag)) := by
    intro t ht htemplate
    simp [ht, htemplate]
  have hfirst := hown s hs htag
  have hsecond := hown other hother htag'
  have hone : (sections.filter ((· == "template") ∘ (·.tag))).length = 1 := by
    have hpos := List.length_pos_of_mem hfirst
    simp only [decide_eq_true_eq] at hlimit
    omega
  obtain ⟨only, honly⟩ := List.length_eq_one_iff.mp hone
  rw [honly, List.mem_singleton] at hfirst hsecond
  rw [hfirst, hsecond]

end Census

section ByPath

variable {α : Type} [BEq α] [LawfulBEq α] {artifacts : List Artifact}

theorem eraseDups_of_nodup {xs : List α} (h : xs.Nodup) : xs.eraseDups = xs := by
  induction xs with
  | nil => rfl
  | cons x xs ih =>
    obtain ⟨hx, hxs⟩ := List.nodup_cons.mp h
    have hkept : xs.filter (fun y => !y == x) = xs := by
      rw [List.filter_eq_self]
      intro y hy
      have hne : y ≠ x := by
        rintro rfl
        exact hx hy
      simpa using hne
    rw [List.eraseDups_cons, hkept, ih hxs]

theorem nodup_eraseDups : ∀ xs : List α, xs.eraseDups.Nodup
  | [] => List.nodup_nil
  | x :: xs => by
    have hlength := List.length_filter_le (fun y => !y == x) xs
    have hrest := nodup_eraseDups (xs.filter fun y => !y == x)
    rw [List.eraseDups_cons, List.nodup_cons, List.mem_eraseDups]
    exact ⟨by simp, hrest⟩
termination_by xs => xs.length
decreasing_by
  rw [List.length_cons]
  omega

theorem exists_lastOfPath {path : String} (h : path ∈ artifacts.map Artifact.path) :
    ∃ a ∈ artifacts, artifacts.reverse.find? (·.path == path) = some a ∧ a.path = path := by
  obtain ⟨b, hb, rfl⟩ := List.mem_map.mp h
  have hsome : (artifacts.reverse.find? (·.path == b.path)).isSome := by
    rw [List.find?_isSome]
    exact ⟨b, List.mem_reverse.mpr hb, beq_self_eq_true _⟩
  obtain ⟨a, ha⟩ := Option.isSome_iff_exists.mp hsome
  have hpath := List.find?_some ha
  exact ⟨a, List.mem_reverse.mp (List.mem_of_find?_eq_some ha), ha, beq_iff_eq.mp hpath⟩

theorem map_fst_byPath (artifacts : List Artifact) :
    (byPath artifacts).map Prod.fst = (artifacts.map Artifact.path).eraseDups := by
  have hkeys : ∀ paths : List String, (∀ path ∈ paths, path ∈ artifacts.map Artifact.path) →
      (paths.filterMap fun path => (artifacts.reverse.find? (·.path == path)).map
        fun a => (path, a)).map Prod.fst = paths := by
    intro paths hpaths
    induction paths with
    | nil => rfl
    | cons path paths ih =>
      rw [List.forall_mem_cons] at hpaths
      obtain ⟨a, -, ha, -⟩ := exists_lastOfPath hpaths.1
      rw [List.filterMap_cons, ha]
      exact congrArg (path :: ·) (ih hpaths.2)
  exact hkeys _ fun path hpath => List.mem_eraseDups.mp hpath

/-- What is read by path holds all artifacts when their paths differ, and only then. -/
theorem byPath_eq_iff : byPath artifacts = artifacts.map (fun a => (a.path, a)) ↔
    (artifacts.map Artifact.path).Nodup := by
  constructor
  · intro h
    have hkeys := map_fst_byPath artifacts
    rw [h, List.map_map] at hkeys
    change artifacts.map Artifact.path = _ at hkeys
    rw [hkeys]
    exact nodup_eraseDups _
  · intro h
    rw [byPath, eraseDups_of_nodup h, List.filterMap_map, ← List.filterMap_eq_map]
    refine List.filterMap_congr fun a ha => ?_
    obtain ⟨b, hb, hfound, hpath⟩ := exists_lastOfPath (List.mem_map_of_mem ha)
    have hsame := List.inj_on_of_nodup_map h hb ha hpath
    simp [hfound, hsame]

end ByPath

section Encoding

theorem Charset.ofName_utf8 : Charset.ofName "utf-8" = .ok .utf8 := by
  rw [Charset.ofName, if_neg (by simp)]
  decide +kernel

theorem encodeValue_utf8 (text : String) : encodeValue "utf-8" (.text text) = .ok text.toUTF8 := by
  rw [encodeValue, Failure.charsetOf, Charset.ofName_utf8]
  have hencode : Charset.utf8.encode text = .ok text.toUTF8 := by
    rw [Charset.encode, Charset.encodeBytes, String.ofList_toList]
    rfl
  exact congrArg (Except.mapError (Failure.encoding "utf-8")) hencode

end Encoding

namespace Pipeline

/-- What the artifact of a built-in kind takes its path from: the document and the last section of
the kind. -/
structure NamedAfter (d : Document) (sections : List Section) (a : Artifact) (kind : BuiltinKind)
    (s : Section) : Prop where
  mem : s ∈ sections
  tag : s.tag = kind.name
  artifact : a.tag = kind.name
  extension : a.extension = kind.extension s.lang
  path : a.path = outputPath d.directory d.stem a.extension

variable {p : Pipeline} {d : Document} {artifacts : List Artifact}
  {compilers : List (String × CustomCompiler)}

theorem artifactAlone_eq_some {r : CompileRequest} {tag : String} {own : List Section}
    {a : Artifact} (h : p.artifactAlone d r tag own = .ok (some a)) :
    ∃ last ∈ own, a.tag = tag ∧ a.path = outputPath d.directory d.stem a.extension ∧
      (p.registry.resolveExtension p.settings last.tag last.lang d.path last).result =
        .ok a.extension := by
  obtain ⟨text, -, h⟩ := bind_eq_ok.mp h
  cases hlast : own.getLast? with
  | none =>
    rw [hlast] at h
    cases h
  | some last =>
    simp only [hlast] at h
    by_cases hempty : text = ""
    · rw [if_pos hempty] at h
      cases h
    · rw [if_neg hempty] at h
      obtain ⟨extension, hextension, h⟩ := bind_eq_ok.mp h
      obtain ⟨value, -, h⟩ := bind_eq_ok.mp h
      obtain ⟨content, -, h⟩ := bind_eq_ok.mp h
      cases h
      exact ⟨last, List.mem_of_getLast? hlast, rfl, rfl, hextension⟩

/-- Without modifiers, and in the encoding that the settings have when none is given, an artifact
holds the text of its sections as it is. -/
theorem artifactAlone_utf8 (hmodifiers : p.modifiers = [])
    (hencoding : p.settings.outputEncoding = "utf-8") (r : CompileRequest) (tag : String)
    (own : List Section) : p.artifactAlone d r tag own =
      ((p.joinAlone r own).bind fun text =>
        match own.getLast? with
        | none => .ok none
        | some last =>
          if text = "" then .ok none
          else (p.registry.resolveExtension p.settings last.tag last.lang d.path last).result.map
            fun extension => some ⟨outputPath d.directory d.stem extension, tag, extension,
              text.toUTF8, d.base⟩) := by
  rw [artifactAlone, hmodifiers, hencoding]
  cases p.joinAlone r own with
  | error failure => rfl
  | ok text =>
    cases own.getLast? with
    | none => rfl
    | some last =>
      by_cases htext : text = ""
      · simp [htext, bind, Except.bind, pure, Except.pure]
      · simp only [htext, bind, Except.bind, ↓reduceIte, applyModifier, List.lookup_nil,
          encodeValue_utf8]
        cases (p.registry.resolveExtension p.settings last.tag last.lang d.path last).result <;> rfl

/-- The artifacts of a document are of different kinds, and each is named after one section. -/
theorem namedAfter_of_split (hp : p.registry = .ofParts [] compilers)
    (h : (p.split d).result = .ok artifacts) : ∃ text sections census,
      readSections d = .ok (text, sections, census) ∧ (artifacts.map Artifact.tag).Nodup ∧
      ∀ a ∈ artifacts, ∃ kind s, NamedAfter d sections a kind s := by
  have hsplit := split_eq_ok_inOrder.mp h
  obtain ⟨⟨text, sections, census⟩, hread, hartifacts⟩ := bind_eq_ok.mp hsplit
  have hnames : p.registry.names.Nodup := by
    rw [hp]
    exact Registry.nodup_names_ofParts compilers List.nodup_nil
  have htags : (artifacts.map Artifact.tag).Nodup := by
    rw [artifacts_tags hartifacts]
    exact hnames.filter _
  refine ⟨text, sections, census, hread, htags, fun a ha => ?_⟩
  obtain ⟨found, hfound, rfl⟩ := filterMapM_eq_ok.mp hartifacts
  obtain ⟨tag, htag, halone⟩ := exists_of_mem_forall₂ hfound (List.reduceOption_mem_iff.mp ha)
  obtain ⟨s, hs, hartifact, hpath, hextension⟩ := artifactAlone_eq_some halone
  rw [hp, Registry.names_ofParts_nil] at htag
  obtain ⟨kind, -, rfl⟩ := List.mem_map.mp htag
  rw [List.mem_filter, beq_iff_eq] at hs
  rw [hp, hs.2, Registry.resolveExtension_builtin] at hextension
  exact ⟨kind, s, hs.1, hs.2, hartifact, (Except.ok.inj hextension).symm, hpath⟩

/-- The languages of the templates hold no slash. -/
def TemplatesAreNamed (sections : List Section) : Prop :=
  ∀ s ∈ sections, s.tag = "template" → ∀ lang ∈ s.lang, '/' ∉ lang.toList

/-- With the built-in resolvers every artifact lies in the directory of its document and is named
after it, but for that of a template whose language holds a slash. -/
theorem split_isBeside_iff (hp : p.registry = .ofParts [] compilers)
    (h : (p.split d).result = .ok artifacts) : ∃ text sections census,
      readSections d = .ok (text, sections, census) ∧ ∀ a ∈ artifacts,
        (a.IsBeside d ↔ (a.tag = "template" → TemplatesAreNamed sections)) := by
  obtain ⟨text, sections, census, hread, -, hnamed⟩ := namedAfter_of_split hp h
  refine ⟨text, sections, census, hread, fun a ha => ?_⟩
  obtain ⟨kind, s, hs⟩ := hnamed a ha
  rw [Artifact.isBeside_iff hs.path, hs.extension, BuiltinKind.slash_mem_extension, hs.artifact]
  constructor
  · intro hslash htemplate other hother htag lang hlang hmem
    have hkind : kind = .template := by
      cases kind with
      | template => rfl
      | script => exact absurd htemplate (by decide)
      | style => exact absurd htemplate (by decide)
    -- the template is the only one, so that its language is the one of the artifact
    have hsame : s = other := by
      have hstag := hs.tag
      rw [hkind] at hstag
      exact template_unique hread hs.mem hother hstag htag
    exact hslash ⟨hkind, lang, hsame ▸ hlang, hmem⟩
  · rintro hstays ⟨rfl, lang, hlang, hmem⟩
    exact hstays rfl s hs.mem hs.tag lang hlang hmem

/-- A pipeline without options. -/
def plainPipeline : Pipeline := ofOptions {} (.ofTexts []) {} []

def pugDocument : Document :=
  .ofText "<style>b</style><template lang=\"pug\">p</template>" (some "src/a.vue") none

def pugArtifacts : List Artifact :=
  [⟨"src/a.pug", "template", "pug", "p".toUTF8, none⟩,
    ⟨"src/a.css", "style", "css", "b".toUTF8, none⟩]

theorem split_pug : (plainPipeline.split pugDocument).result = .ok pugArtifacts := by
  rw [split_eq_ok_inOrder, splitInOrder]
  simp only [artifactAlone_utf8 (p := plainPipeline) rfl rfl]
  decide +kernel

theorem split_isBeside_iff_pug : plainPipeline.registry = .ofParts [] [] ∧
    (plainPipeline.split pugDocument).result = .ok pugArtifacts ∧
    ∃ text sections census, readSections pugDocument = .ok (text, sections, census) ∧
      ∀ a ∈ pugArtifacts,
        (a.IsBeside pugDocument ↔ (a.tag = "template" → TemplatesAreNamed sections)) :=
  ⟨rfl, split_pug, split_isBeside_iff rfl split_pug⟩

/-- A slash in the language of the template. -/
def nestedDocument : Document :=
  .ofText "<template lang=\"x/y\">p</template>" (some "src/a.vue") none

/-- The artifact is put in a directory below that of its document. -/
theorem nested_not_isBeside : ∃ a : Artifact, plainPipeline.registry = .ofParts [] [] ∧
    nestedDocument.path = some "src/a.vue" ∧
    (plainPipeline.split nestedDocument).result = .ok [a] ∧ a.path = "src/a.x/y" ∧
    directoryOf a.path.toList = "src/a.x".toList ∧ ¬ a.IsBeside nestedDocument := by
  refine ⟨⟨"src/a.x/y", "template", "x/y", "p".toUTF8, none⟩, rfl, rfl, ?_, rfl, by decide, ?_⟩
  · rw [split_eq_ok_inOrder, splitInOrder]
    simp only [artifactAlone_utf8 (p := plainPipeline) rfl rfl]
    decide +kernel
  · rintro ⟨hdirectory, -⟩
    revert hdirectory
    decide

/-- Two of the artifacts are the template's and another whose extension is the language of the
template. -/
def TemplateCollides (sections : List Section) (artifacts : List Artifact) : Prop :=
  ∃ a ∈ artifacts, ∃ b ∈ artifacts, ∃ s ∈ sections, a.tag = "template" ∧ s.tag = "template" ∧
    (b.tag = "script" ∧ s.lang = some "js" ∨ b.tag = "style" ∧ s.lang = some "css")

theorem NamedAfter.kind_iff {sections : List Section} {a : Artifact} {kind other : BuiltinKind}
    {s : Section} (h : NamedAfter d sections a kind s) : a.tag = other.name ↔ kind = other := by
  rw [h.artifact]
  cases kind <;> cases other <;> decide

theorem extension_eq_iff {sections : List Section} {a b : Artifact} {other : BuiltinKind}
    {s t : Section} (hs : NamedAfter d sections a .template s)
    (ht : NamedAfter d sections b other t) (hother : other ≠ .template) :
    a.extension = b.extension ↔
      b.tag = "script" ∧ s.lang = some "js" ∨ b.tag = "style" ∧ s.lang = some "css" := by
  rw [hs.extension, ht.extension, BuiltinKind.template_meets hother]
  exact or_congr (and_congr_left' ht.kind_iff.symm) (and_congr_left' ht.kind_iff.symm)

theorem NamedAfter.path_eq_iff {sections : List Section} {a b : Artifact}
    {kind other : BuiltinKind} {s t : Section} (hs : NamedAfter d sections a kind s)
    (ht : NamedAfter d sections b other t) : a.path = b.path ↔ a.extension = b.extension := by
  rw [hs.path, ht.path, d.outputPath_inj]

/-- Where two artifacts of different kinds have one path, the template is one of them. -/
theorem templateCollides_of_path_eq {sections : List Section} {a b : Artifact}
    {kind other : BuiltinKind} {s t : Section} (ha : a ∈ artifacts) (hb : b ∈ artifacts)
    (hs : NamedAfter d sections a kind s) (ht : NamedAfter d sections b other t)
    (hkinds : kind ≠ other) (hpath : a.path = b.path) : TemplateCollides sections artifacts := by
  have hextension := (hs.path_eq_iff ht).mp hpath
  have htemplate : kind = .template ∨ other = .template := by
    apply BuiltinKind.eq_template_of_extension hkinds
    rw [← hs.extension, hextension, ht.extension]
  rcases htemplate with rfl | rfl
  · have hmeet := (extension_eq_iff hs ht hkinds.symm).mp hextension
    exact ⟨a, ha, b, hb, s, hs.mem, hs.artifact, hs.tag, hmeet⟩
  · have hmeet := (extension_eq_iff ht hs hkinds).mp hextension.symm
    exact ⟨b, hb, a, ha, t, ht.mem, ht.artifact, ht.tag, hmeet⟩

/-- A template that collides has the path of another artifact. -/
theorem TemplateCollides.exists_path_eq {text : String} {sections : List Section}
    {census : Census} (h : TemplateCollides sections artifacts)
    (hread : readSections d = .ok (text, sections, census))
    (hnamed : ∀ a ∈ artifacts, ∃ kind s, NamedAfter d sections a kind s) :
    ∃ a ∈ artifacts, ∃ b ∈ artifacts, a ≠ b ∧ a.path = b.path := by
  obtain ⟨a, ha, b, hb, s, hs, hatag, hstag, hmeet⟩ := h
  obtain ⟨kind, s', hs'⟩ := hnamed a ha
  obtain ⟨other, t, ht⟩ := hnamed b hb
  obtain rfl : kind = .template := hs'.kind_iff.mp hatag
  obtain rfl : s' = s := template_unique hread hs'.mem hs hs'.tag hstag
  have hother : other ≠ .template := by
    rintro rfl
    have hbtag : b.tag = "template" := ht.artifact
    simp [hbtag] at hmeet
  have hextension := (extension_eq_iff hs' ht hother).mpr hmeet
  refine ⟨a, ha, b, hb, ?_, (hs'.path_eq_iff ht).mpr hextension⟩
  rintro rfl
  exact hother (ht.kind_iff.mp hatag)

/-- With the built-in resolvers the artifacts of a document have different paths, and what is read
of them by path is all of them, unless the template is in a language whose name is the extension
of another artifact. -/
theorem split_paths_nodup_iff (hp : p.registry = .ofParts [] compilers)
    (h : (p.split d).result = .ok artifacts) : ∃ text sections census,
      readSections d = .ok (text, sections, census) ∧
      ((artifacts.map Artifact.path).Nodup ↔ ¬ TemplateCollides sections artifacts) ∧
      (byPath (deliver (memorySink fun _ => none) [] artifacts).state =
        artifacts.map (fun a => (a.path, a)) ↔ ¬ TemplateCollides sections artifacts) := by
  obtain ⟨text, sections, census, hread, htags, hnamed⟩ := namedAfter_of_split hp h
  have hpaths : (artifacts.map Artifact.path).Nodup ↔ ¬ TemplateCollides sections artifacts := by
    rw [List.nodup_map_iff_inj_on (htags.of_map _)]
    constructor
    · intro hinj hcollides
      obtain ⟨a, ha, b, hb, hne, hpath⟩ := hcollides.exists_path_eq hread hnamed
      exact hne (hinj a ha b hb hpath)
    · intro hcollides a ha b hb hpath
      obtain ⟨kind, s, hs⟩ := hnamed a ha
      obtain ⟨other, t, ht⟩ := hnamed b hb
      by_contra hne
      have hkinds : kind ≠ other := by
        rintro rfl
        have htag : a.tag = b.tag := by rw [hs.artifact, ht.artifact]
        exact hne (List.inj_on_of_nodup_map htags ha hb htag)
      exact hcollides (templateCollides_of_path_eq ha hb hs ht hkinds hpath)
  refine ⟨text, sections, census, hread, hpaths, ?_⟩
  have hstate : (deliver (memorySink fun _ => none) [] artifacts).state = artifacts := by
    simp [deliver_memorySink]
  rw [hstate, byPath_eq_iff, hpaths]

theorem split_paths_nodup_iff_pug : plainPipeline.registry = .ofParts [] [] ∧
    (plainPipeline.split pugDocument).result = .ok pugArtifacts ∧
    ∃ text sections census, readSections pugDocument = .ok (text, sections, census) ∧
      ((pugArtifacts.map Artifact.path).Nodup ↔ ¬ TemplateCollides sections pugArtifacts) ∧
      (byPath (deliver (memorySink fun _ => none) [] pugArtifacts).state =
        pugArtifacts.map (fun a => (a.path, a)) ↔ ¬ TemplateCollides sections pugArtifacts) :=
  ⟨rfl, split_pug, split_paths_nodup_iff rfl split_pug⟩

/-- A template and a script that both come out as `js`. -/
def twiceDocument : Document :=
  .ofText "<template lang=\"js\">p</template><script>s</script>" (some "src/a.vue") none

/-- Both artifacts have one path, and only the second is found by it. -/
theorem twice_path_not_nodup : ∃ a b : Artifact, plainPipeline.registry = .ofParts [] [] ∧
    (plainPipeline.split twiceDocument).result = .ok [a, b] ∧ a ≠ b ∧ a.path = b.path ∧
    byPath (deliver (memorySink fun _ => none) [] [a, b]).state = [(b.path, b)] := by
  refine ⟨⟨"src/a.js", "template", "js", "p".toUTF8, none⟩,
    ⟨"src/a.js", "script", "js", "s".toUTF8, none⟩, rfl, ?_, by decide, rfl, by decide +kernel⟩
  rw [split_eq_ok_inOrder, splitInOrder]
  simp only [artifactAlone_utf8 (p := plainPipeline) rfl rfl]
  decide +kernel

end Pipeline

end ComponentSplit
