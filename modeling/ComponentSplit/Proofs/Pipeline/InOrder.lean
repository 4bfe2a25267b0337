import ComponentSplit.Proofs.Pipeline.Merge

/-!
A document split in order. What the pipeline does side by side, over sections with their places,
comes to the same as going through the tags of the registry one after the other and compiling the
sections of each tag alone.
-/

namespace ComponentSplit

namespace Registry

theorem contains_iff {registry : Registry} {tag : String} :
    registry.contains tag = true ↔ tag ∈ registry.names := by
  rw [contains, find?, names, List.find?_isSome, List.mem_map]
  simp only [beq_iff_eq]

theorem map_filterMap_sublist {α β γ : Type} {g : α → Option β} {f : β → γ} {k : α → γ}
    (h : ∀ a b, g a = some b → f b = k a) (xs : List α) :
    ((xs.filterMap g).map f).Sublist (xs.map k) := by
  induction xs with
  | nil => exact List.Sublist.slnil
  | cons x xs ih =>
    rw [List.filterMap_cons, List.map_cons]
    cases hx : g x with
    | none => exact ih.cons _
    | some b =>
      rw [List.map_cons, h x b hx]
      exact ih.cons_cons _

/-- Names that are given once are registered once, also when they are built in. -/
theorem nodup_names_ofParts {tags : List (String × Resolver)}
    (compilers : List (String × CustomCompiler)) (h : (tags.map Prod.fst).Nodup) :
    (ofParts tags compilers).names.Nodup := by
  have hbuiltins : (BuiltinKind.all.map (Descriptor.name ∘ builtinEntry tags)).Nodup := by
    change ["template", "script", "style"].Nodup
    decide
  rw [names, ofParts, List.map_append, List.map_map]
  refine List.nodup_append.mpr ⟨hbuiltins, (map_filterMap_sublist (k := Prod.fst) ?_ tags).nodup h,
    ?_⟩
  · rintro ⟨name, resolver⟩ d hd
    by_cases hname : isBuiltinName name = true
    · simp [hname] at hd
    · obtain ⟨compiler, -, rfl⟩ := Option.map_eq_some_iff.mp (by simpa [hname] using hd)
      rfl
  · intro builtin hb custom hc heq
    obtain ⟨kind, -, rfl⟩ := List.mem_map.mp hb
    obtain ⟨d, hd, rfl⟩ := List.mem_map.mp hc
    obtain ⟨⟨name, resolver⟩, -, hentry⟩ := List.mem_filterMap.mp hd
    by_cases hname : isBuiltinName name = true
    · simp [hname] at hentry
    · obtain ⟨compiler, -, rfl⟩ := Option.map_eq_some_iff.mp (by simpa [hname] using hentry)
      have hkind : isBuiltinName kind.name = true := by cases kind <;> decide
      change kind.name = name at heq
      rw [heq] at hkind
      exact hname hkind

end Registry

namespace Pipeline

/-- What the sections of a document are compiled with. -/
def requestFor (p : Pipeline) (d : Document) (text : String) (census : Census) : CompileRequest :=
  ⟨d.path, d.scopeIdWith text, census.hasScopedStyle, text, p.loader, p.config⟩

/-- A section, resolved and compiled, at its place. -/
def compileAt (p : Pipeline) (r : CompileRequest) (place : Section × Nat) :
    Except Failure Part := do
  let resolved ← (p.resolveSection r.path place.1 place.2).result
  (compileSection p.registry p.compilers r resolved).result

/-- The compiled text of a section alone. -/
def compileAlone (p : Pipeline) (r : CompileRequest) (s : Section) : Except Failure String := do
  let part ← p.compileAt r (s, 0)
  pure part.content

/-- The texts of the sections of a tag, joined. -/
def joinAlone (p : Pipeline) (r : CompileRequest) (own : List Section) : Except Failure String := do
  let texts ← own.mapM (p.compileAlone r)
  pure ("\n".intercalate texts)

/-- The artifact of a tag, from the sections of that tag alone. There is none without a text. -/
def artifactAlone (p : Pipeline) (d : Document) (r : CompileRequest) (tag : String)
    (own : List Section) : Except Failure (Option Artifact) := do
  let text ← p.joinAlone r own
  match own.getLast? with
  | none => pure none
  | some last =>
    if text = "" then pure none
    else
      let extension ← (p.registry.resolveExtension p.settings last.tag last.lang d.path last).result
      let value ← applyModifier p.modifiers tag text last.lang
      let content ← encodeValue p.settings.outputEncoding value
      pure (some ⟨outputPath d.directory d.stem extension, tag, extension, content, d.base⟩)

/-- The artifacts of a document, one tag of the registry after the other. -/
def splitInOrder (p : Pipeline) (d : Document) : Except Failure (List Artifact) := do
  let (text, sections, census) ← readSections d
  p.registry.names.filterMapM fun tag =>
    p.artifactAlone d (p.requestFor d text census) tag (sections.filter (·.tag == tag))

/-- The registered sections of a document with their places. -/
def registered (p : Pipeline) (sections : List Section) (index : Nat) : List (Section × Nat) :=
  (sections.zipIdx index).filter fun place => p.registry.contains place.1.tag

section Sections

variable {p : Pipeline} {r : CompileRequest}

theorem resolveSections_eq_ok {path : Option String} {index : Nat} {sections : List Section}
    {resolved : List ResolvedSection} :
    (p.resolveSections path index sections).result = .ok resolved ↔
      List.Forall₂ (fun place q => (p.resolveSection path place.1 place.2).result = .ok q)
        (p.registered sections index) resolved := by
  induction sections generalizing index resolved with
  | nil =>
    rw [resolveSections, Job.pure_result, registered, List.zipIdx_nil, List.filter_nil,
      List.forall₂_nil_left_iff]
    simp [eq_comm]
  | cons s sections ih =>
    simp only [registered] at ih
    rw [resolveSections, registered, List.zipIdx_cons, List.filter_cons]
    by_cases hs : p.registry.contains s.tag = true
    · rw [if_pos hs, if_pos hs, Job.bind_result, bind_eq_ok, List.forall₂_cons_left_iff]
      constructor
      · rintro ⟨first, hfirst, hrest⟩
        rw [Job.bind_result] at hrest
        obtain ⟨others, hothers, hpure⟩ := bind_eq_ok.mp hrest
        cases hpure
        exact ⟨first, others, hfirst, ih.mp hothers, rfl⟩
      · rintro ⟨first, others, hfirst, hothers, rfl⟩
        refine ⟨first, hfirst, ?_⟩
        rw [Job.bind_result]
        exact bind_eq_ok.mpr ⟨others, ih.mpr hothers, rfl⟩
    · rw [if_neg hs, if_neg hs]
      exact ih

/-- What a document is compiled to, from its registered sections compiled each at its place. -/
theorem compile_eq_ok_places {d : Document} {merged : List MergedSection} :
    (p.compile d).result = .ok merged ↔ ∃ text sections census parts,
      readSections d = .ok (text, sections, census) ∧
      List.Forall₂ (fun place part => p.compileAt (p.requestFor d text census) place = .ok part)
        (p.registered sections 0) parts ∧
      merged = mergeParts parts := by
  simp only [compile_eq_ok, prepare_eq_ok, compileAt, bind_eq_ok, forall₂_comp]
  constructor
  · rintro ⟨c, parts, ⟨text, sections, census, resolved, hread, hresolved, rfl⟩, hjobs, hmerged⟩
    refine ⟨text, sections, census, parts, hread, ⟨resolved, ?_, ?_⟩, hmerged⟩
    · exact resolveSections_eq_ok.mp hresolved
    · rw [sectionJobs, List.forall₂_map_left_iff] at hjobs
      exact hjobs
  · rintro ⟨text, sections, census, parts, hread, ⟨resolved, hresolved, hjobs⟩, hmerged⟩
    refine ⟨⟨d, text, d.scopeIdWith text, sections, census, resolved⟩, parts,
      ⟨text, sections, census, resolved, hread, ?_, rfl⟩, ?_, hmerged⟩
    · exact resolveSections_eq_ok.mpr hresolved
    · rw [sectionJobs, List.forall₂_map_left_iff]
      exact hjobs

/-- What a document is split into, from its registered sections compiled each at its place. -/
theorem split_eq_ok_places {d : Document} {artifacts : List Artifact} :
    (p.split d).result = .ok artifacts ↔ ∃ text sections census parts,
      readSections d = .ok (text, sections, census) ∧
      List.Forall₂ (fun place part => p.compileAt (p.requestFor d text census) place = .ok part)
        (p.registered sections 0) parts ∧
      buildArtifacts d (mergeParts parts) p.registry p.modifiers p.settings.outputEncoding =
        .ok artifacts := by
  rw [split, Job.bind_result, bind_eq_ok]
  constructor
  · rintro ⟨merged, hcompile, hbuild⟩
    obtain ⟨text, sections, census, parts, hread, hparts, rfl⟩ := compile_eq_ok_places.mp hcompile
    exact ⟨text, sections, census, parts, hread, hparts, hbuild⟩
  · rintro ⟨text, sections, census, parts, hread, hparts, hbuild⟩
    exact ⟨_, compile_eq_ok_places.mpr ⟨text, sections, census, parts, hread, hparts, rfl⟩, hbuild⟩

theorem compileSection_fields {registry : Registry} {compilers : SectionCompilers}
    {q : ResolvedSection} {part : Part}
    (h : (compileSection registry compilers r q).result = .ok part) :
    part = ⟨q.node.tag, part.content, q.lang, q.extension, q.index⟩ := by
  rw [compileSection, Job.bind_result] at h
  obtain ⟨value, -, h⟩ := bind_eq_ok.mp h
  rw [Job.bind_result] at h
  obtain ⟨content, -, h⟩ := bind_eq_ok.mp h
  cases h
  rfl

/-- A section does not compile differently at another place. -/
theorem compileSection_moved {registry : Registry} {compilers : SectionCompilers}
    {q : ResolvedSection} {part : Part} (index : Int)
    (h : (compileSection registry compilers r q).result = .ok part) :
    (compileSection registry compilers r { q with index }).result = .ok { part with index } := by
  rw [compileSection, Job.bind_result] at h ⊢
  obtain ⟨value, hvalue, h⟩ := bind_eq_ok.mp h
  rw [Job.bind_result] at h
  obtain ⟨content, hcontent, h⟩ := bind_eq_ok.mp h
  cases h
  refine bind_eq_ok.mpr ⟨value, hvalue, ?_⟩
  rw [Job.bind_result]
  exact bind_eq_ok.mpr ⟨content, hcontent, rfl⟩

theorem resolveSection_eq_ok {path : Option String} {s : Section} {index : Nat}
    {q : ResolvedSection} :
    (p.resolveSection path s index).result = .ok q ↔ ∃ extension,
      (p.registry.resolveExtension p.settings s.tag s.lang path s).result = .ok extension ∧
        q = ⟨s, .ofTag s.tag, s.lang, extension, index⟩ := by
  rw [resolveSection, Job.bind_result, bind_eq_ok]
  refine exists_congr fun extension => and_congr_right fun _ => ?_
  rw [Job.pure_result, Except.ok.injEq, eq_comm]

theorem compileAt_moved {s : Section} {index : Nat} {part : Part} (place : Nat)
    (h : p.compileAt r (s, index) = .ok part) :
    p.compileAt r (s, place) = .ok { part with index := place } := by
  obtain ⟨q, hq, hpart⟩ := bind_eq_ok.mp h
  obtain ⟨extension, hextension, rfl⟩ := resolveSection_eq_ok.mp hq
  refine bind_eq_ok.mpr ⟨⟨s, .ofTag s.tag, s.lang, extension, place⟩, ?_, ?_⟩
  · exact resolveSection_eq_ok.mpr ⟨extension, hextension, rfl⟩
  · exact compileSection_moved _ hpart

/-- The part of a section: its tag, its text compiled alone, its language, its extension and its
place. -/
theorem compileAt_eq_ok {s : Section} {index : Nat} {part : Part} :
    p.compileAt r (s, index) = .ok part ↔ ∃ extension text,
      (p.registry.resolveExtension p.settings s.tag s.lang r.path s).result = .ok extension ∧
      p.compileAlone r s = .ok text ∧ part = ⟨s.tag, text, s.lang, extension, index⟩ := by
  constructor
  · intro h
    have halone : p.compileAlone r s = .ok part.content :=
      bind_eq_ok.mpr ⟨_, compileAt_moved 0 h, rfl⟩
    obtain ⟨q, hq, hpart⟩ := bind_eq_ok.mp h
    obtain ⟨extension, hextension, rfl⟩ := resolveSection_eq_ok.mp hq
    exact ⟨extension, part.content, hextension, halone, compileSection_fields hpart⟩
  · rintro ⟨extension, text, hextension, halone, rfl⟩
    obtain ⟨part, hpart, hcontent⟩ := bind_eq_ok.mp halone
    cases hcontent
    have hmoved := compileAt_moved index hpart
    obtain ⟨q, hq, hcompiled⟩ := bind_eq_ok.mp hmoved
    obtain ⟨found, hfound, rfl⟩ := resolveSection_eq_ok.mp hq
    have hsame : found = extension := by
      rw [hextension] at hfound
      cases hfound
      rfl
    rw [hmoved, compileSection_fields hcompiled, hsame]

theorem compileAlone_eq_ok {s : Section} {text : String} :
    p.compileAlone r s = .ok text ↔
      ∃ part, p.compileAt r (s, 0) = .ok part ∧ part.content = text := by
  rw [compileAlone, bind_eq_ok]
  refine exists_congr fun part => and_congr_right fun _ => ?_
  constructor
  · intro hpure
    cases hpure
    rfl
  · rintro rfl
    rfl

/-- The parts stand in the order of their places. -/
theorem sortParts_parts {sections : List Section} {index : Nat} {parts : List Part}
    (h : List.Forall₂ (fun place part => p.compileAt r place = .ok part)
      (p.registered sections index) parts) : sortParts parts = parts := by
  have hindex : parts.map (·.index) =
      (p.registered sections index).map fun place => (place.2 : Int) := by
    generalize p.registered sections index = places at h
    induction h with
    | nil => rfl
    | @cons place part places parts hpart _ ih =>
      obtain ⟨s, i⟩ := place
      obtain ⟨extension, text, -, -, rfl⟩ := compileAt_eq_ok.mp hpart
      rw [List.map_cons, List.map_cons, ih]
  have hplaces : (sections.zipIdx index).Pairwise fun a b => a.2 < b.2 := by
    have hrange := List.pairwise_lt_range' (s := index) (n := sections.length)
    rwa [← List.zipIdx_map_snd index sections, List.pairwise_map] at hrange
  have hsorted : (parts.map (·.index)).Pairwise (· < ·) := by
    rw [hindex, List.pairwise_map]
    refine (hplaces.filter _).imp ?_
    intro a b hlt
    exact Int.ofNat_lt.mpr hlt
  exact sortParts_eq_self (List.pairwise_map.mp hsorted)

/-- The parts of a tag are those of its sections, in their order. -/
theorem parts_of_tag {sections : List Section} {index : Nat} {parts : List Part} {tag : String}
    (h : List.Forall₂ (fun place part => p.compileAt r place = .ok part)
      (p.registered sections index) parts) (htag : tag ∈ p.registry.names) :
    List.Forall₂ (fun s part => ∃ i, p.compileAt r (s, i) = .ok part)
      (sections.filter (·.tag == tag)) (parts.filter (·.tag == tag)) := by
  have hplaces : (p.registered sections index).filter (fun place => place.1.tag == tag) =
      (sections.zipIdx index).filter fun place => place.1.tag == tag := by
    rw [registered, List.filter_filter]
    refine List.filter_congr fun place _ => ?_
    by_cases heq : place.1.tag = tag
    · have hcontains : p.registry.contains tag = true := Registry.contains_iff.mpr htag
      simp [heq, hcontains]
    · simp [heq]
  have hown := List.rel_filter (p := fun place => place.1.tag == tag) (q := (·.tag == tag))
    (R := fun place part => p.compileAt r place = .ok part) (by
      rintro ⟨s, i⟩ part hpart
      obtain ⟨extension, text, -, -, rfl⟩ := compileAt_eq_ok.mp hpart
      rfl) h
  rw [hplaces] at hown
  have hsections : sections.filter (·.tag == tag) =
      ((sections.zipIdx index).filter fun place => place.1.tag == tag).map Prod.fst := by
    conv_lhs => rw [← List.zipIdx_map_fst index sections]
    rw [List.filter_map]
    rfl
  rw [hsections, List.forall₂_map_left_iff]
  exact hown.imp fun place part hpart => ⟨place.2, hpart⟩

theorem joinAlone_eq_ok {own : List Section} {parts : List Part}
    (h : List.Forall₂ (fun s part => ∃ i, p.compileAt r (s, i) = .ok part) own parts) :
    p.joinAlone r own = .ok ("\n".intercalate (parts.map (·.content))) := by
  refine bind_eq_ok.mpr ⟨parts.map (·.content), ?_, rfl⟩
  rw [mapM_eq_ok, List.forall₂_map_right_iff]
  refine h.imp ?_
  rintro s part ⟨i, hpart⟩
  obtain ⟨extension, text, -, halone, rfl⟩ := compileAt_eq_ok.mp hpart
  exact halone

/-- What the pipeline builds for a tag is what the sections of that tag come to alone. -/
theorem artifactAlone_eq {d : Document} {own : List Section} {parts : List Part} {tag : String}
    (hpath : r.path = d.path)
    (h : List.Forall₂ (fun s part => ∃ i, p.compileAt r (s, i) = .ok part) own
      (parts.filter (·.tag == tag))) :
    p.artifactAlone d r tag own = ((mergeTag tag parts).filter (·.content != "")).mapM
      (artifactOf d p.modifiers p.settings.outputEncoding) := by
  rw [artifactAlone, joinAlone_eq_ok h, mergeTag]
  rcases getLast?_of_forall₂ h with ⟨rfl, hnil⟩ | ⟨last, part, hlast, hpart, i, hcompile⟩
  · rw [hnil]
    rfl
  · obtain ⟨extension, text, hextension, -, rfl⟩ := compileAt_eq_ok.mp hcompile
    rw [hlast, hpart, ← hpath]
    generalize "\n".intercalate ((parts.filter (·.tag == tag)).map (·.content)) = joined
    by_cases hempty : joined = ""
    · simp [hempty, Option.filter_some, bind, Except.bind, pure, Except.pure]
    · simp only [hempty, hextension, bind, Except.bind, pure, Except.pure, ↓reduceIte,
        Option.map_some, Option.filter_some, bne_iff_ne, ne_eq, not_false_eq_true,
        Option.mapM_some, artifactOf]
      cases applyModifier p.modifiers tag joined last.lang with
      | error failure => rfl
      | ok value =>
        dsimp only
        cases encodeValue p.settings.outputEncoding value <;> rfl

/-- Merging and building go tag by tag. -/
theorem buildArtifacts_eq {d : Document} {sections : List Section} {index : Nat}
    {parts : List Part} (hpath : r.path = d.path)
    (h : List.Forall₂ (fun place part => p.compileAt r place = .ok part)
      (p.registered sections index) parts) :
    buildArtifacts d (mergeParts parts) p.registry p.modifiers p.settings.outputEncoding =
      p.registry.names.filterMapM fun tag =>
        p.artifactAlone d r tag (sections.filter (·.tag == tag)) := by
  rw [buildArtifacts, mapM_filterMap]
  refine filterMapM_congr fun tag htag => ?_
  rw [mergedFor?_mergeParts, sortParts_parts h, artifactAlone_eq hpath (parts_of_tag h htag)]

theorem exists_parts {d : Document} {sections : List Section} {artifacts : List Artifact}
    (h : (p.registry.names.filterMapM fun tag =>
      p.artifactAlone d r tag (sections.filter (·.tag == tag))) = .ok artifacts) :
    ∃ parts, List.Forall₂ (fun place part => p.compileAt r place = .ok part)
      (p.registered sections 0) parts := by
  obtain ⟨found, hfound, -⟩ := filterMapM_eq_ok.mp h
  apply forall₂_exists
  -- a registered section is compiled for its own tag, at some other place
  rintro ⟨s, index⟩ hplace
  rw [registered, List.mem_filter] at hplace
  obtain ⟨hzip, hcontains⟩ := hplace
  have hs : s ∈ sections := by
    rw [← List.zipIdx_map_fst 0 sections]
    exact List.mem_map_of_mem hzip
  obtain ⟨artifact, hartifact⟩ := exists_of_forall₂ hfound (Registry.contains_iff.mp hcontains)
  obtain ⟨text, htext, -⟩ := bind_eq_ok.mp hartifact
  obtain ⟨texts, htexts, -⟩ := bind_eq_ok.mp htext
  have hown : s ∈ sections.filter (·.tag == s.tag) := by simp [hs]
  obtain ⟨content, hcontent⟩ := exists_of_forall₂ (mapM_eq_ok.mp htexts) hown
  obtain ⟨part, hpart, -⟩ := compileAlone_eq_ok.mp hcontent
  exact ⟨_, compileAt_moved index hpart⟩

theorem split_eq_ok_inOrder {d : Document} {artifacts : List Artifact} :
    (p.split d).result = .ok artifacts ↔ p.splitInOrder d = .ok artifacts := by
  rw [split_eq_ok_places, splitInOrder, bind_eq_ok]
  constructor
  · rintro ⟨text, sections, census, parts, hread, hparts, hbuild⟩
    refine ⟨(text, sections, census), hread, ?_⟩
    exact (buildArtifacts_eq rfl hparts).symm.trans hbuild
  · rintro ⟨⟨text, sections, census⟩, hread, hartifacts⟩
    obtain ⟨parts, hparts⟩ := exists_parts hartifacts
    refine ⟨text, sections, census, parts, hread, hparts, ?_⟩
    exact (buildArtifacts_eq rfl hparts).trans hartifacts

end Sections

section Groups

/-- Each section of one of the tags stands in one group, as often as in the document. -/
theorem groups_perm {tags : List String} (htags : tags.Nodup) (sections : List Section) :
    (tags.flatMap fun tag => sections.filter (·.tag == tag)).Perm
      (sections.filter fun s => decide (s.tag ∈ tags)) := by
  induction tags with
  | nil => simp
  | cons tag tags ih =>
    obtain ⟨hnot, hnodup⟩ := List.nodup_cons.mp htags
    have hparted := List.filter_append_perm (fun s : Section => s.tag == tag)
      (sections.filter fun s => decide (s.tag ∈ tag :: tags))
    have hown : (sections.filter fun s => decide (s.tag ∈ tag :: tags)).filter (·.tag == tag) =
        sections.filter (·.tag == tag) := by
      rw [List.filter_filter]
      refine List.filter_congr fun s _ => ?_
      by_cases heq : s.tag = tag <;> simp [heq]
    have hothers : (sections.filter fun s => decide (s.tag ∈ tag :: tags)).filter
        (fun s => !(s.tag == tag)) = sections.filter fun s => decide (s.tag ∈ tags) := by
      rw [List.filter_filter]
      refine List.filter_congr fun s _ => ?_
      by_cases heq : s.tag = tag
      · simp [heq, hnot]
      · simp [heq]
    rw [hown, hothers] at hparted
    rw [List.flatMap_cons]
    exact ((ih hnodup).append_left _).trans hparted

theorem artifactAlone_tag {p : Pipeline} {d : Document} {r : CompileRequest} {tag : String}
    {own : List Section} {found : Option Artifact}
    (h : p.artifactAlone d r tag own = .ok found) :
    found.map Artifact.tag = if p.joinAlone r own = .ok "" then none else some tag := by
  obtain ⟨text, htext, hrest⟩ := bind_eq_ok.mp h
  rw [htext]
  cases hlast : own.getLast? with
  | none =>
    obtain rfl : own = [] := List.getLast?_eq_none_iff.mp hlast
    cases htext
    cases hrest
    rfl
  | some last =>
    simp only [hlast] at hrest
    by_cases hempty : text = ""
    · rw [if_pos hempty] at hrest
      cases hrest
      rw [hempty, if_pos rfl]
      rfl
    · rw [if_neg hempty] at hrest
      obtain ⟨extension, -, hrest⟩ := bind_eq_ok.mp hrest
      obtain ⟨value, -, hrest⟩ := bind_eq_ok.mp hrest
      obtain ⟨content, -, hrest⟩ := bind_eq_ok.mp hrest
      cases hrest
      rw [if_neg (by simpa using hempty)]
      rfl

theorem artifacts_tags {p : Pipeline} {d : Document} {r : CompileRequest}
    {sections : List Section} {artifacts : List Artifact}
    (h : (p.registry.names.filterMapM fun tag =>
      p.artifactAlone d r tag (sections.filter (·.tag == tag))) = .ok artifacts) :
    artifacts.map Artifact.tag = p.registry.names.filter fun tag =>
      p.joinAlone r (sections.filter (·.tag == tag)) ≠ .ok "" := by
  obtain ⟨found, hfound, rfl⟩ := filterMapM_eq_ok.mp h
  clear h
  generalize p.registry.names = names at hfound
  induction hfound with
  | nil => rfl
  | @cons tag artifact names found hartifact _ ih =>
    have htag := artifactAlone_tag hartifact
    rw [List.filter_cons, ← ih]
    by_cases hempty : p.joinAlone r (sections.filter (·.tag == tag)) = .ok ""
    · rw [if_pos hempty] at htag
      obtain rfl : artifact = none := Option.map_eq_none_iff.mp htag
      simp [hempty]
    · rw [if_neg hempty] at htag
      obtain ⟨a, rfl, rfl⟩ := Option.map_eq_some_iff.mp htag
      simp [hempty]

end Groups

/-- A document is split as if its tags were taken one after the other, each with its sections alone,
in the order of the registry. There is an artifact for exactly the tags with a text, and every
section of a registered tag goes into the text of its own tag and no other, once. -/
theorem split_inOrder {p : Pipeline} (hnames : p.registry.names.Nodup) (d : Document)
    (artifacts : List Artifact) :
    ((p.split d).result = .ok artifacts ↔ p.splitInOrder d = .ok artifacts) ∧
    ((p.split d).result = .ok artifacts → ∃ text sections census,
      readSections d = .ok (text, sections, census) ∧
      (artifacts.map Artifact.tag = p.registry.names.filter fun tag =>
        p.joinAlone (p.requestFor d text census) (sections.filter (·.tag == tag)) ≠ .ok "") ∧
      (p.registry.names.flatMap fun tag => sections.filter (·.tag == tag)).Perm
        (sections.filter fun s => p.registry.contains s.tag)) := by
  refine ⟨split_eq_ok_inOrder, fun h => ?_⟩
  have hsplit := split_eq_ok_inOrder.mp h
  obtain ⟨⟨text, sections, census⟩, hread, hartifacts⟩ := bind_eq_ok.mp hsplit
  refine ⟨text, sections, census, hread, artifacts_tags hartifacts, ?_⟩
  have hregistered : (sections.filter fun s => p.registry.contains s.tag) =
      sections.filter fun s => decide (s.tag ∈ p.registry.names) := by
    refine List.filter_congr fun s _ => ?_
    rw [Bool.eq_iff_iff, Registry.contains_iff, decide_eq_true_iff]
  rw [hregistered]
  exact groups_perm hnames sections

/-- Options that name the extension of styles, and that add a kind of section. -/
def docsOptions : Options where
  tags := [("style", fun _ _ _ => .ok (.text "scss")),
    ("docs", fun lang _ _ => .ok (.text (lang.getD "md")))]
  compilers := [("docs", fun _ content _ _ => pure (.text content))]

def docsPipeline : Pipeline := ofOptions docsOptions (.ofTexts []) {} []

def docsDocument : Document := .ofText "<docs>a</docs><i/><docs lang=\"txt\">b</docs>" none none

def docsArtifact : Artifact := ⟨"component.txt", "docs", "txt", "a\nb".toUTF8, none⟩

theorem split_inOrder_docs : docsPipeline.registry.names.Nodup ∧
    ((docsPipeline.split docsDocument).result = .ok [docsArtifact] ↔
      docsPipeline.splitInOrder docsDocument = .ok [docsArtifact]) := by
  have hnames : docsPipeline.registry.names.Nodup :=
    Registry.nodup_names_ofParts docsOptions.compilers (by decide)
  exact ⟨hnames, (split_inOrder hnames docsDocument [docsArtifact]).1⟩

end Pipeline

end ComponentSplit
