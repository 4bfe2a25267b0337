import ComponentSplit.Proofs.Pipeline.Naming
import ComponentSplit.Proofs.Pipeline.Outcome

namespace ComponentSplit

theorem intercalate_nil (c : Char) (n : Nat) :
    [c].intercalate (List.replicate n []) = List.replicate (n - 1) c := by
  cases n with
  | zero => rfl
  | succ n =>
    induction n with
    | zero => rfl
    | succ n ih =>
      rw [List.replicate_succ, List.replicate_succ, List.intercalate_cons_cons,
        ← List.replicate_succ, ih]
      rfl

/-- Empty texts, joined, are as many line ends as there are gaps between them. -/
theorem intercalate_empty (n : Nat) : "\n".intercalate (List.replicate n "") =
    String.ofList (List.replicate (n - 1) '\n') := by
  rw [← intercalate_nil, ← String.toList_inj, String.toList_intercalate, List.map_replicate]
  simp

namespace Pipeline

section Tags

variable {p : Pipeline} {d : Document} {r : CompileRequest} {sections own : List Section}
  {tag : String}

/-- A tag has sections, and each of them compiles to the empty text. -/
def IsEmptyTag (p : Pipeline) (r : CompileRequest) (sections : List Section) (tag : String) :
    Prop :=
  sections.filter (·.tag == tag) ≠ [] ∧
    ∀ s ∈ sections.filter (·.tag == tag), p.compileAlone r s = .ok ""

/-- Splitting a document gives no artifact of a tag, whatever the modifier of the tag is. -/
structure LeavesOut (p : Pipeline) (d : Document) (tag : String) : Prop where
  artifact : ∀ artifacts, (p.split d).result = .ok artifacts → tag ∉ artifacts.map Artifact.tag
  modifier : ∀ modifiers,
    (∀ other, other ≠ tag → modifiers.lookup other = p.modifiers.lookup other) →
      (Pipeline.split { p with modifiers } d).result = (p.split d).result

theorem joinAlone_of_empty (h : ∀ s ∈ own, p.compileAlone r s = .ok "") :
    p.joinAlone r own = .ok (String.ofList (List.replicate (own.length - 1) '\n')) := by
  refine bind_eq_ok.mpr ⟨own.map fun _ => "", ?_, ?_⟩
  · exact mapM_eq_ok.mpr (List.forall₂_map_right_iff.mpr (List.forall₂_same.mpr h))
  · rw [List.map_const', intercalate_empty]
    rfl

theorem joinAlone_eq_empty (h : ∀ s ∈ own, p.compileAlone r s = .ok "") :
    p.joinAlone r own = .ok "" ↔ own.length ≤ 1 := by
  rw [joinAlone_of_empty h, Except.ok.injEq, ← String.toList_eq_nil_iff, String.toList_ofList,
    List.replicate_eq_nil_iff, Nat.sub_eq_zero_iff_le]

theorem artifactAlone_of_empty (h : p.joinAlone r own = .ok "") :
    p.artifactAlone d r tag own = .ok none := by
  rw [artifactAlone, h]
  cases own.getLast? <;> rfl

theorem artifactAlone_modifiers {modifiers : List (String × Modifier)}
    (h : modifiers.lookup tag = p.modifiers.lookup tag) :
    artifactAlone { p with modifiers } d r tag own = p.artifactAlone d r tag own := by
  simp only [artifactAlone, applyModifier, h]
  rfl

theorem resolveSections_modifiers (modifiers : List (String × Modifier)) (path : Option String)
    (index : Nat) : resolveSections { p with modifiers } path index sections =
      p.resolveSections path index sections := by
  induction sections generalizing index with
  | nil => rfl
  | cons s sections ih =>
    rw [resolveSections, resolveSections, ih]
    rfl

/-- What a document is compiled to does not depend on the modifiers. -/
theorem compile_modifiers (modifiers : List (String × Modifier)) :
    compile { p with modifiers } d = p.compile d := by
  have hprepare : prepare { p with modifiers } d = p.prepare d := by
    simp only [prepare, resolveSections_modifiers]
  rw [compile, hprepare]
  rfl

theorem split_of_compile {merged : List MergedSection} (h : (p.compile d).result = .ok merged) :
    (p.split d).result =
      buildArtifacts d merged p.registry p.modifiers p.settings.outputEncoding := by
  rw [split, Job.bind_result, h]
  rfl

/-- A tag without a text is left out. -/
theorem leavesOut_of_empty {text : String} {census : Census}
    (hread : readSections d = .ok (text, sections, census)) {merged : List MergedSection}
    (hcompile : (p.compile d).result = .ok merged)
    (h : p.joinAlone (p.requestFor d text census) (sections.filter (·.tag == tag)) = .ok "") :
    p.LeavesOut d tag := by
  constructor
  case artifact =>
    intro artifacts hsplit hmem
    obtain ⟨⟨text', sections', census'⟩, hread', hartifacts⟩ :=
      bind_eq_ok.mp (split_eq_ok_inOrder.mp hsplit)
    cases hread.symm.trans hread'
    rw [artifacts_tags hartifacts, List.mem_filter] at hmem
    simp [h] at hmem
  case modifier =>
    intro modifiers hmodifiers
    obtain ⟨text', sections', census', parts, hread', hparts, rfl⟩ :=
      compile_eq_ok_places.mp hcompile
    cases hread.symm.trans hread'
    have hcompile' : (compile { p with modifiers } d).result = .ok (mergeParts parts) := by
      rw [compile_modifiers, hcompile]
    rw [split_of_compile hcompile, split_of_compile hcompile', buildArtifacts_eq rfl hparts,
      buildArtifacts_eq (p := { p with modifiers }) rfl hparts]
    refine filterMapM_congr fun other _ => ?_
    by_cases hother : other = tag
    · subst hother
      rw [artifactAlone_of_empty h, artifactAlone_of_empty (p := { p with modifiers }) h]
    · exact artifactAlone_modifiers (hmodifiers other hother)

theorem split_nil {text : String} {census : Census}
    (hread : readSections d = .ok (text, sections, census))
    (h : ∀ tag ∈ p.registry.names, p.joinAlone (p.requestFor d text census)
      (sections.filter (·.tag == tag)) = .ok "") : (p.split d).result = .ok [] := by
  refine split_eq_ok_inOrder.mpr (bind_eq_ok.mpr ⟨_, hread, filterMapM_eq_ok.mpr
    ⟨p.registry.names.map fun _ => none, ?_, ?_⟩⟩)
  · exact List.forall₂_map_right_iff.mpr (List.forall₂_same.mpr fun tag htag =>
      artifactAlone_of_empty (h tag htag))
  · rw [List.map_const', List.reduceOption_replicate_none]

/-- A document has nothing to deliver exactly when it is split into nothing. -/
theorem outcome_empty_iff {σ : Type} (sink : Sink σ) (state : σ) :
    (p.outcome sink state d).status = .empty ↔ (p.split d).result = .ok [] := by
  cases hattempt : (p.attempt d).result with
  | error o =>
    rw [(process_of_error hattempt sink state).2]
    refine iff_of_false ?_ fun hsplit => ?_
    · rcases attempt_eq_error.mp hattempt with ⟨-, rfl⟩ | ⟨-, failure, -, rfl⟩
      · exact fun h => by cases h
      · rcases (explain_status p d failure).2 with ⟨h, -⟩ | ⟨h, -⟩ <;> simp [h]
    · rw [attempt_of_ok hsplit] at hattempt
      cases hattempt
  | ok artifacts =>
    have hsplit : (p.split d).result = .ok artifacts := by
      rw [attempt_result] at hattempt
      split at hattempt
      · cases hattempt
      · exact mapError_eq_ok.mp hattempt
    cases artifacts with
    | nil => exact iff_of_true (by rw [(process_of_nil hattempt sink state).2]) hsplit
    | cons a artifacts =>
      rw [(process_of_cons hattempt sink state).2, hsplit]
      cases (deliver sink state (a :: artifacts)).failure <;> simp

/-- What becomes of sections that compile to nothing. A tag with one such section is left out; with
more of them it has an artifact, made from the line ends between them. -/
structure SettlesEmptyTags (p : Pipeline) (d : Document) (r : CompileRequest)
    (sections : List Section) : Prop where
  single : ∀ tag ∈ p.registry.names, p.IsEmptyTag r sections tag →
    (sections.filter (·.tag == tag)).length = 1 → p.LeavesOut d tag
  joined : ∀ tag ∈ p.registry.names, p.IsEmptyTag r sections tag →
    p.joinAlone r (sections.filter (·.tag == tag)) =
      .ok (String.ofList (List.replicate ((sections.filter (·.tag == tag)).length - 1) '\n'))
  several : ∀ tag ∈ p.registry.names, p.IsEmptyTag r sections tag →
    ∀ artifacts, (p.split d).result = .ok artifacts →
      (tag ∈ artifacts.map Artifact.tag ↔ 2 ≤ (sections.filter (·.tag == tag)).length)
  document : (∀ s ∈ sections, s.tag ∈ p.registry.names → p.compileAlone r s = .ok "") →
    ∀ (σ : Type) (sink : Sink σ) (state : σ), (p.outcome sink state d).status = .empty ↔
      ∀ tag ∈ p.registry.names, (sections.filter (·.tag == tag)).length ≤ 1

theorem compile_settlesEmptyTags {merged : List MergedSection}
    (h : (p.compile d).result = .ok merged) : ∃ text sections census,
      readSections d = .ok (text, sections, census) ∧
        p.SettlesEmptyTags d (p.requestFor d text census) sections := by
  obtain ⟨text, sections, census, parts, hread, -, -⟩ := compile_eq_ok_places.mp h
  refine ⟨text, sections, census, hread, ?_⟩
  have htags : ∀ artifacts, (p.split d).result = .ok artifacts →
      artifacts.map Artifact.tag = p.registry.names.filter fun tag =>
        p.joinAlone (p.requestFor d text census) (sections.filter (·.tag == tag)) ≠ .ok "" := by
    intro artifacts hsplit
    obtain ⟨found, hread', hartifacts⟩ := bind_eq_ok.mp (split_eq_ok_inOrder.mp hsplit)
    cases hread.symm.trans hread'
    exact artifacts_tags hartifacts
  constructor
  case single =>
    intro tag _ hempty hsingle
    exact leavesOut_of_empty hread h ((joinAlone_eq_empty hempty.2).mpr (by omega))
  case joined => exact fun tag _ hempty => joinAlone_of_empty hempty.2
  case several =>
    intro tag htag hempty artifacts hsplit
    rw [htags artifacts hsplit, List.mem_filter, decide_eq_true_iff, ne_eq,
      joinAlone_eq_empty hempty.2, Nat.not_le]
    exact and_iff_right htag
  case document =>
    intro hall σ sink state
    have hempty : ∀ tag ∈ p.registry.names,
        (p.joinAlone (p.requestFor d text census) (sections.filter (·.tag == tag)) = .ok "" ↔
          (sections.filter (·.tag == tag)).length ≤ 1) := by
      intro tag htag
      refine joinAlone_eq_empty fun s hs => ?_
      obtain ⟨hmem, heq⟩ := List.mem_filter.mp hs
      exact hall s hmem ((beq_iff_eq.mp heq).symm ▸ htag)
    rw [outcome_empty_iff]
    constructor
    · intro hsplit tag htag
      refine (hempty tag htag).mp (by_contra fun hjoin => ?_)
      have hmem : tag ∈ ([] : List Artifact).map Artifact.tag := by
        rw [htags [] hsplit]
        exact List.mem_filter.mpr ⟨htag, decide_eq_true hjoin⟩
      cases hmem
    · exact fun hsingle => split_nil hread fun tag htag => (hempty tag htag).mpr (hsingle tag htag)

end Tags

theorem compile_of_split {p : Pipeline} {d : Document} {artifacts : List Artifact}
    (h : (p.split d).result = .ok artifacts) : ∃ merged, (p.compile d).result = .ok merged := by
  rw [split, Job.bind_result, bind_eq_ok] at h
  obtain ⟨merged, hcompile, -⟩ := h
  exact ⟨merged, hcompile⟩

/-- A script, and a section of styles that compiles to nothing. -/
def blankDocument : Document :=
  .ofText "<script>s</script><style> </style>" (some "a.vue") none

theorem split_blank : (plainPipeline.split blankDocument).result =
    .ok [⟨"a.js", "script", "js", "s".toUTF8, none⟩] := by
  rw [split_eq_ok_inOrder, splitInOrder]
  simp only [artifactAlone_utf8 (p := plainPipeline) rfl rfl]
  decide +kernel

def blankSections : List Section :=
  [{ tag := "script", content := "s", stop := 18, bodyStart := 8, bodyStop := 9 },
    { tag := "style", content := " ", start := 18, stop := 34, bodyStart := 25, bodyStop := 26,
      position := ⟨1, 18⟩ }]

theorem readSections_blank : readSections blankDocument =
    .ok ("<script>s</script><style> </style>", blankSections, .ofSections blankSections) := by
  decide +kernel

theorem compile_settlesEmptyTags_blank : ∃ merged r,
    (plainPipeline.compile blankDocument).result = .ok merged ∧
    plainPipeline.SettlesEmptyTags blankDocument r blankSections ∧
    plainPipeline.IsEmptyTag r blankSections "style" ∧
    plainPipeline.LeavesOut blankDocument "style" := by
  obtain ⟨merged, hcompile⟩ := compile_of_split split_blank
  obtain ⟨text, sections, census, hread, hsettles⟩ := compile_settlesEmptyTags hcompile
  cases readSections_blank.symm.trans hread
  have hempty : plainPipeline.IsEmptyTag (plainPipeline.requestFor blankDocument
      "<script>s</script><style> </style>" (.ofSections blankSections)) blankSections "style" :=
    ⟨by decide, by decide +kernel⟩
  exact ⟨merged, _, hcompile, hsettles, hempty, hsettles.single "style" (by decide) hempty rfl⟩

/-- Two sections of styles that compile to nothing. -/
def blanksDocument : Document := .ofText "<style></style><style></style>" (some "a.vue") none

def blankStyles : List Section :=
  [{ tag := "style", start := 0, stop := 15, bodyStart := 7, bodyStop := 7 },
    { tag := "style", start := 15, stop := 30, bodyStart := 22, bodyStop := 22,
      position := ⟨1, 15⟩ }]

theorem readSections_blanks : readSections blanksDocument =
    .ok ("<style></style><style></style>", blankStyles, .ofSections blankStyles) := by
  decide +kernel

theorem split_blanks : (plainPipeline.split blanksDocument).result =
    .ok [⟨"a.css", "style", "css", "\n".toUTF8, none⟩] := by
  rw [split_eq_ok_inOrder, splitInOrder]
  simp only [artifactAlone_utf8 (p := plainPipeline) rfl rfl]
  decide +kernel

/-- Two empty sections of styles come out as a file with a line end, and the document is not taken
for an empty one. -/
theorem blanks_emitted : ∃ text sections census merged,
    readSections blanksDocument = .ok (text, sections, census) ∧
    (plainPipeline.compile blanksDocument).result = .ok merged ∧
    (∀ s ∈ sections,
      plainPipeline.compileAlone (plainPipeline.requestFor blanksDocument text census) s =
        .ok "") ∧
    "style" ∈ plainPipeline.registry.names ∧
    plainPipeline.IsEmptyTag (plainPipeline.requestFor blanksDocument text census) sections
      "style" ∧
    (plainPipeline.split blanksDocument).result =
      .ok [⟨"a.css", "style", "css", "\n".toUTF8, none⟩] ∧
    ¬ plainPipeline.LeavesOut blanksDocument "style" ∧
    ∀ (σ : Type) (sink : Sink σ) (state : σ),
      (plainPipeline.outcome sink state blanksDocument).status ≠ .empty := by
  obtain ⟨merged, hcompile⟩ := compile_of_split split_blanks
  refine ⟨_, _, _, merged, readSections_blanks, hcompile, by decide +kernel, by decide,
    ⟨by decide, by decide +kernel⟩, split_blanks, fun h => ?_, fun σ sink state => ?_⟩
  · exact h.artifact _ split_blanks (by decide)
  · rw [ne_eq, outcome_empty_iff, split_blanks]
    exact fun h => by cases h

end Pipeline

end ComponentSplit
