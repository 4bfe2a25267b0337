import ComponentSplit.Proofs.Pipeline.Result

namespace ComponentSplit

/-- The content of the document is a text, in UTF-8. -/
def Document.IsText (d : Document) : Prop := ∃ text : String, d.content = .bytes text.toUTF8

/-- A document cannot be read as a text. -/
def Failure.IsUnreadable : Failure → Prop
  | document (.unsupported _) _ | document (.undecodable _) _ => True
  | _ => False

theorem Failure.not_isUnreadable {failure : Failure} (h : failure.isDocument = false) :
    ¬ failure.IsUnreadable := by
  cases failure <;> simp_all [isDocument, IsUnreadable]

theorem decodeUtf8_eq_ok {b : ByteArray} {text : String} :
    decodeUtf8 b = .ok text ↔ b = text.toUTF8 := by
  rw [decodeUtf8, String.fromUTF8?]
  by_cases h : b.IsValidUTF8
  · rw [dif_pos h]
    constructor
    · intro htext
      cases htext
      rfl
    · rintro rfl
      rfl
  · rw [dif_neg h]
    constructor
    · intro htext
      cases htext
    · rintro rfl
      exact absurd text.isValidUTF8 h

namespace Document

variable {d : Document}

theorem text_eq_ok {text : String} : d.text = .ok text ↔ d.content = .bytes text.toUTF8 := by
  rw [Document.text]
  cases d.content with
  | missing => simp
  | stream => simp
  | bytes b =>
    rw [Content.bytes.injEq, ← decodeUtf8_eq_ok]
    cases hb : decodeUtf8 b <;> simp [hb]

theorem isText_iff : d.IsText ↔ ∃ text, d.text = .ok text := by
  simp only [IsText, text_eq_ok]

theorem text_unreadable {failure : Failure} (h : d.text = .error failure) :
    failure.IsUnreadable := by
  rw [Document.text] at h
  cases hcontent : d.content with
  | missing =>
    rw [hcontent] at h
    cases h
    trivial
  | stream =>
    rw [hcontent] at h
    cases h
    trivial
  | bytes b =>
    rw [hcontent] at h
    cases hb : decodeUtf8 b with
    | ok text => simp [hb] at h
    | error fault =>
      simp only [hb] at h
      cases h
      trivial

end Document

theorem not_isUnreadable_ofSectionFault (source : List Char) (path : Option String)
    (fault : SectionFault) : ¬ (Failure.ofSectionFault source path fault).IsUnreadable := by
  cases fault <;> exact not_false

theorem validateSections_not_isUnreadable {sections : List Section} {path : Option String}
    {failure : Failure} (h : validateSections sections path = .error failure) :
    ¬ failure.IsUnreadable := by
  rw [validateSections] at h
  cases hkind : (Census.ofSections sections).exceeded? with
  | none => simp [hkind] at h
  | some kind =>
    simp only [hkind] at h
    cases h
    exact not_false

/-- An entry of a registry is that of a built-in kind, or that of a name for which a resolver and a
compiler are given. -/
theorem Registry.mem_ofParts {tags : List (String × Resolver)}
    {compilers : List (String × CustomCompiler)} {e : Descriptor}
    (h : e ∈ (ofParts tags compilers).entries) :
    (∃ kind, e = builtinEntry tags kind) ∨ ∃ name resolver compiler, (name, resolver) ∈ tags ∧
      (name, compiler) ∈ compilers ∧ e = ⟨.custom name, resolver, some compiler⟩ := by
  rcases List.mem_append.mp h with hbuiltin | hcustom
  · obtain ⟨kind, -, rfl⟩ := List.mem_map.mp hbuiltin
    exact .inl ⟨kind, rfl⟩
  · obtain ⟨⟨name, resolver⟩, hmem, hentry⟩ := List.mem_filterMap.mp hcustom
    by_cases hname : isBuiltinName name = true
    · simp [hname] at hentry
    · obtain ⟨compiler, hcompiler, rfl⟩ :=
        Option.map_eq_some_iff.mp (by simpa [hname] using hentry)
      exact .inr ⟨name, resolver, compiler, hmem, mem_of_lookup hcompiler, rfl⟩

namespace Pipeline

theorem isText_of_readSections {d : Document} {text : String} {sections : List Section}
    {census : Census} (h : readSections d = .ok (text, sections, census)) : d.IsText :=
  Document.isText_iff.mpr ⟨text, (readSections_eq_ok h).1⟩

/-- A document that is no text fails as unreadable, and no other fails that way when it is read. -/
theorem readSections_isUnreadable_iff {d : Document} {failure : Failure}
    (h : readSections d = .error failure) : failure.IsUnreadable ↔ ¬ d.IsText := by
  rw [readSections] at h
  rcases bind_eq_error.mp h with htext | ⟨text, htext, hrest⟩
  · refine iff_of_true (Document.text_unreadable htext) ?_
    rw [Document.isText_iff]
    rintro ⟨text, hok⟩
    rw [htext] at hok
    cases hok
  · have hisText : d.IsText := Document.isText_iff.mpr ⟨text, htext⟩
    refine iff_of_false ?_ (not_not.mpr hisText)
    rcases bind_eq_error.mp hrest with hparse | ⟨sections, -, hvalidate⟩
    · obtain ⟨fault, -, rfl⟩ := mapError_eq_error.mp hparse
      exact not_isUnreadable_ofSectionFault _ _ fault
    · rcases bind_eq_error.mp hvalidate with hcensus | ⟨census, -, hpure⟩
      · exact validateSections_not_isUnreadable hcensus
      · cases hpure

/-- A function from outside gives any value, or fails with a failure of its own and not with one
that the library makes for documents. -/
def IsPlain (result : Except Failure Value) : Prop :=
  ∀ failure, result = .error failure → failure.isDocument = false

/-- The resolvers of extensions and the modifiers of outputs fail with failures of their own.
Nothing is asked of compilers and loaders. -/
structure FailsPlainly (p : Pipeline) : Prop where
  resolvers : ∀ e ∈ p.registry.entries, ∀ lang path s, IsPlain (e.resolver lang path s)
  modifiers : ∀ m ∈ p.modifiers, ∀ content lang, IsPlain (m.2 content lang)

theorem ofOptions_failsPlainly {o : Options}
    (hr : ∀ r ∈ o.tags, ∀ lang path s, IsPlain (r.2 lang path s))
    (hm : ∀ m ∈ o.modifiers, ∀ content lang, IsPlain (m.2 content lang))
    (loader : Loader) (settings : Settings) (cwd : Place) :
    (ofOptions o loader settings cwd).FailsPlainly := by
  refine ⟨?_, hm⟩
  intro e he lang path s
  rcases Registry.mem_ofParts he with ⟨kind, rfl⟩ | ⟨name, resolver, compiler, hmem, -, rfl⟩
  · rw [Registry.builtinEntry]
    cases hlookup : o.tags.lookup kind.name with
    | none =>
      intro failure hfailure
      cases hfailure
    | some resolver => exact hr _ (mem_of_lookup hlookup) lang path s
  · exact hr _ hmem lang path s

/-- The resolver of a section fails, and not over a setting. -/
def ResolverRaises (p : Pipeline) (path : Option String) (s : Section) (failure : Failure) :
    Prop :=
  ∃ e, p.registry.find? s.tag = some e ∧ e.resolver s.lang path s = .error failure ∧
    ∀ message, failure ≠ .configuration message

/-- The modifier of an output fails, or what it gives cannot be written as bytes. -/
def OutputRaises (p : Pipeline) (m : MergedSection) (failure : Failure) : Prop :=
  applyModifier p.modifiers m.tag m.content m.lang = .error failure ∨
    ∃ value, applyModifier p.modifiers m.tag m.content m.lang = .ok value ∧
      encodeValue p.settings.outputEncoding value = .error failure

/-- A resolver, for a document at this path, or a modifier of the pipeline fails with the
failure. -/
def RaisesDirectly (p : Pipeline) (path : Option String) (failure : Failure) : Prop :=
  (∃ e ∈ p.registry.entries, ∃ lang s, e.resolver lang path s = .error failure) ∨
    ∃ m ∈ p.modifiers, ∃ content lang, m.2 content lang = .error failure

theorem FailsPlainly.not_isDocument {p : Pipeline} {path : Option String} {failure : Failure}
    (hp : p.FailsPlainly) (h : failure.isDocument = false ∨ p.RaisesDirectly path failure) :
    failure.isDocument = false := by
  rcases h with hplain | ⟨e, he, lang, s, hresolve⟩ | ⟨m, hm, content, lang, hmodify⟩
  · exact hplain
  · exact hp.resolvers e he lang path s failure hresolve
  · exact hp.modifiers m hm content lang failure hmodify

section Failures

variable {p : Pipeline} {d : Document} {failure : Failure}

theorem resolveExtension_eq_error {path : Option String} {s : Section}
    (hs : p.registry.contains s.tag = true) :
    (p.registry.resolveExtension p.settings s.tag s.lang path s).result = .error failure ↔
      p.ResolverRaises path s failure := by
  obtain ⟨e, he⟩ := Option.isSome_iff_exists.mp hs
  have hraises : p.ResolverRaises path s failure ↔
      e.resolver s.lang path s = .error failure ∧ ∀ message, failure ≠ .configuration message := by
    simp [ResolverRaises, he]
  rw [hraises, Registry.resolveExtension, he]
  dsimp only
  cases e.resolver s.lang path s with
  | ok value =>
    dsimp only
    split <;> simp
  | error cause =>
    cases cause with
    | configuration message =>
      simp only [reduceCtorEq, Except.error.injEq, ne_eq, false_iff, not_and, not_forall, not_not]
      exact fun h => ⟨message, h.symm⟩
    | _ =>
      simp only [Job.fail, Job.done_result, Except.error.injEq, ne_eq, iff_self_and]
      rintro rfl message
      simp

theorem resolveSection_eq_error {path : Option String} {s : Section} {index : Nat}
    (hs : p.registry.contains s.tag = true) :
    (p.resolveSection path s index).result = .error failure ↔ p.ResolverRaises path s failure := by
  rw [resolveSection, Job.bind_result, bind_eq_error, resolveExtension_eq_error hs]
  exact or_iff_left nofun

/-- Resolving fails with what the resolver of some section raises. -/
theorem resolveSections_raises {path : Option String} {index : Nat} {sections : List Section}
    (h : (p.resolveSections path index sections).result = .error failure) :
    ∃ s ∈ sections, p.ResolverRaises path s failure := by
  induction sections generalizing index with
  | nil => cases h
  | cons s sections ih =>
    rw [resolveSections] at h
    by_cases hcontains : p.registry.contains s.tag = true
    · rw [if_pos hcontains, Job.bind_result] at h
      rcases bind_eq_error.mp h with hfirst | ⟨first, -, hrest⟩
      · exact ⟨s, List.mem_cons_self, (resolveSection_eq_error hcontains).mp hfirst⟩
      · rw [Job.bind_result] at hrest
        rcases bind_eq_error.mp hrest with hothers | ⟨others, -, hpure⟩
        · obtain ⟨t, ht, hraises⟩ := ih hothers
          exact ⟨t, List.mem_cons_of_mem s ht, hraises⟩
        · cases hpure
    · rw [if_neg hcontains] at h
      obtain ⟨t, ht, hraises⟩ := ih h
      exact ⟨t, List.mem_cons_of_mem s ht, hraises⟩

theorem ResolverRaises.raisesDirectly {path : Option String} {s : Section}
    (h : p.ResolverRaises path s failure) : p.RaisesDirectly path failure := by
  obtain ⟨e, he, hraises, -⟩ := h
  exact .inl ⟨e, List.mem_of_find?_eq_some he, s.lang, s, hraises⟩

theorem charsetOf_error {name instead : String}
    (h : Failure.charsetOf name instead = .error failure) : failure.isDocument = false := by
  rw [Failure.charsetOf] at h
  split at h <;> cases h <;> rfl

theorem encodeValue_error {charset : String} {value : Value}
    (h : encodeValue charset value = .error failure) : failure.isDocument = false := by
  cases value with
  | text s =>
    rw [encodeValue] at h
    rcases bind_eq_error.mp h with hcharset | ⟨c, -, hencode⟩
    · exact charsetOf_error hcharset
    · obtain ⟨fault, -, rfl⟩ := mapError_eq_error.mp hencode
      rfl
  | _ =>
    cases h
    rfl

theorem artifactOf_eq_error {m : MergedSection} :
    artifactOf d p.modifiers p.settings.outputEncoding m = .error failure ↔
      p.OutputRaises m failure := by
  rw [artifactOf, bind_eq_error, OutputRaises]
  refine or_congr_right (exists_congr fun value => and_congr_right fun _ => ?_)
  rw [bind_eq_error]
  exact or_iff_left nofun

theorem buildArtifacts_error {merged : List MergedSection}
    (h : buildArtifacts d merged p.registry p.modifiers p.settings.outputEncoding =
      .error failure) (path : Option String) :
    failure.isDocument = false ∨ p.RaisesDirectly path failure := by
  obtain ⟨m, -, hm⟩ := mapM_eq_error h
  rcases artifactOf_eq_error.mp hm with hmodify | ⟨value, -, hencode⟩
  · rw [applyModifier] at hmodify
    cases hlookup : p.modifiers.lookup m.tag with
    | none => simp [hlookup] at hmodify
    | some modifier =>
      simp only [hlookup] at hmodify
      exact .inr (.inr ⟨_, mem_of_lookup hlookup, m.content, m.lang, hmodify⟩)
  · exact .inl (encodeValue_error hencode)

theorem isText_of_prepare {c : Context} (h : (p.prepare d).result = .ok c) : d.IsText := by
  obtain ⟨text, sections, census, resolved, hread, -⟩ := prepare_eq_ok.mp h
  exact isText_of_readSections hread

/-- Only a document that is no text fails as unreadable, at whatever step it fails. -/
theorem split_isUnreadable_iff (hp : p.FailsPlainly) (h : (p.split d).result = .error failure) :
    failure.IsUnreadable ↔ ¬ d.IsText := by
  rcases split_eq_error h with hprepare | ⟨c, hc, hcause | ⟨merged, hbuild⟩⟩
  · rcases prepare_eq_error hprepare with hread | ⟨text, sections, census, hread, hresolve⟩
    · exact readSections_isUnreadable_iff hread
    · obtain ⟨s, -, hraises⟩ := resolveSections_raises hresolve
      refine iff_of_false (Failure.not_isUnreadable ?_) (not_not.mpr (isText_of_readSections hread))
      exact hp.not_isDocument (.inr hraises.raisesDirectly)
  · obtain ⟨cause, rfl⟩ := hcause
    exact iff_of_false not_false (not_not.mpr (isText_of_prepare hc))
  · refine iff_of_false (Failure.not_isUnreadable ?_) (not_not.mpr (isText_of_prepare hc))
    exact hp.not_isDocument (buildArtifacts_error hbuild d.path)

end Failures

end Pipeline

end ComponentSplit
