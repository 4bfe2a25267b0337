import ComponentSplit.Proofs.Pipeline.Rounds
import ComponentSplit.Proofs.Pipeline.Traced

namespace ComponentSplit

/-- The first of the elements that raises, and what it raises. -/
inductive FirstRaised {α ε : Type} (Raises : α → ε → Prop) : List α → α → ε → Prop
  | head {x xs e} : Raises x e → FirstRaised Raises (x :: xs) x e
  | tail {y xs x e} : (∀ cause, ¬ Raises y cause) → FirstRaised Raises xs x e →
    FirstRaised Raises (y :: xs) x e

section First

variable {α β ε : Type} {Raises : α → ε → Prop} {xs : List α}

theorem FirstRaised.exists_of_mem {y : α} {cause : ε} (hy : y ∈ xs) (h : Raises y cause) :
    ∃ x e, FirstRaised Raises xs x e := by
  induction xs with
  | nil => cases hy
  | cons z xs ih =>
    by_cases hz : ∃ e, Raises z e
    · obtain ⟨e, he⟩ := hz
      exact ⟨z, e, .head he⟩
    · rcases List.mem_cons.mp hy with rfl | hrest
      · exact absurd ⟨cause, h⟩ hz
      · obtain ⟨x, e, hx⟩ := ih hrest
        exact ⟨x, e, .tail (not_exists.mp hz) hx⟩

theorem FirstRaised.congr {Raises' : α → ε → Prop}
    (h : ∀ y ∈ xs, ∀ cause, Raises y cause ↔ Raises' y cause) {x : α} {e : ε}
    (hx : FirstRaised Raises xs x e) : FirstRaised Raises' xs x e := by
  induction hx with
  | head hx => exact .head ((h _ List.mem_cons_self _).mp hx)
  | tail hnone _ ih =>
    obtain ⟨hy, hrest⟩ := List.forall_mem_cons.mp h
    exact .tail (fun cause hcause => hnone cause ((hy cause).mpr hcause)) (ih hrest)

theorem mapM_of_firstRaised {f : α → Except ε β} {x : α} {e : ε}
    (h : FirstRaised (fun x e => f x = .error e) xs x e) : xs.mapM f = .error e := by
  induction h with
  | head hx =>
    rw [List.mapM_cons]
    exact bind_eq_error.mpr (.inl hx)
  | @tail y xs x e hnone _ ih =>
    rw [List.mapM_cons]
    cases hy : f y with
    | error cause => exact absurd hy (hnone cause)
    | ok b => exact bind_eq_error.mpr (.inr ⟨b, rfl, bind_eq_error.mpr (.inl ih)⟩)

end First

namespace Job

variable {α : Type}

/-- The jobs wait equally often and come to the same end. -/
def Alike (job other : Job α) : Prop := job.turns = other.turns ∧ job.result = other.result

theorem exists_failsFirst {jobs : List (Job α)} {job : Job α} {cause : Failure} (hjob : job ∈ jobs)
    (h : job.result = .error cause) :
    ∃ place first failure, FailsFirst jobs place first failure := by
  cases hgather : (gather jobs).result with
  | error failure =>
    obtain ⟨place, first, hfirst⟩ := gather_eq_error.mp hgather
    exact ⟨place, first, failure, hfirst⟩
  | ok as =>
    obtain ⟨a, ha⟩ := (values_eq (gather_eq_ok.mp hgather)).1 job hjob
    rw [ha] at h
    cases h

theorem gather_result_of_alike {jobs others : List (Job α)} (h : List.Forall₂ Alike jobs others) :
    (gather jobs).result = (gather others).result := by
  have hfirst : firstFailure? jobs = firstFailure? others := by
    induction h with
    | nil => rfl
    | cons hjob _ ih => rw [firstFailure?, firstFailure?, hjob.1, hjob.2, ih]
  have hvalues : values jobs = values others := by
    clear hfirst
    induction h with
    | nil => rfl
    | cons hjob _ ih =>
      rw [values, values] at ih ⊢
      rw [List.filterMap_cons, List.filterMap_cons, hjob.2, ih]
  rw [gather, gather, hfirst, hvalues]
  cases firstFailure? others <;> rfl

end Job

/-- The outcomes have one status and one error. -/
def Outcome.EndsAs (o other : Outcome) : Prop := o.status = other.status ∧ o.error = other.error

namespace Pipeline

/-- The tags of the registry that have content, in its order, each with its content. -/
def outputs (p : Pipeline) (parts : List Part) : List MergedSection :=
  p.registry.names.filterMap fun tag =>
    (mergedFor? (mergeParts parts) tag).filter fun m => m.content != ""

variable {p : Pipeline} {d : Document} {failure : Failure}

section Steps

/-- Sections are resolved in the order of the document, and the first one decides whose resolver
fails. -/
theorem resolveSections_of_firstRaised {path : Option String} {sections : List Section}
    {s : Section} (h : FirstRaised (p.ResolverRaises path) sections s failure) (index : Nat) :
    (p.resolveSections path index sections).result = .error failure := by
  induction h generalizing index with
  | @head s sections failure hs =>
    have hcontains : p.registry.contains s.tag = true := by
      obtain ⟨e, he, -⟩ := hs
      simp [Registry.contains, he]
    rw [resolveSections, if_pos hcontains, Job.bind_result]
    exact bind_eq_error.mpr (.inl ((resolveSection_eq_error hcontains).mpr hs))
  | @tail t sections s failure hnone _ ih =>
    rw [resolveSections]
    by_cases hcontains : p.registry.contains t.tag = true
    · rw [if_pos hcontains, Job.bind_result]
      cases hfirst : (p.resolveSection path t index).result with
      | error cause =>
        exact absurd ((resolveSection_eq_error hcontains).mp hfirst) (hnone cause)
      | ok first =>
        refine bind_eq_error.mpr (.inr ⟨first, rfl, ?_⟩)
        rw [Job.bind_result]
        exact bind_eq_error.mpr (.inl (ih (index + 1)))
    · rw [if_neg hcontains]
      exact ih (index + 1)

theorem buildArtifacts_of_firstRaised {parts : List Part} {m : MergedSection}
    (h : FirstRaised p.OutputRaises (p.outputs parts) m failure) :
    buildArtifacts d (mergeParts parts) p.registry p.modifiers p.settings.outputEncoding =
      .error failure :=
  mapM_of_firstRaised (h.congr fun _ _ _ => artifactOf_eq_error.symm)

end Steps

section Stopping

variable {σ τ : Type}

/-- The document ends with this failure: its outcome has it as its error, itself or as the cause,
and the sink is not called. -/
structure StopsWith (p : Pipeline) (sink : Sink σ) (state : σ) (d : Document)
    (failure : Failure) : Prop where
  error : (p.outcome sink state d).error = some (p.documentFailure d failure)
  skipped : (p.outcome sink state d).status = .skipped ↔ failure.IsUnreadable
  failed : (p.outcome sink state d).status = .failed ↔ ¬ failure.IsUnreadable
  untouched : p.calls sink state d = []

theorem explain_error (p : Pipeline) (d : Document) (failure : Failure) :
    (p.explain d failure).2.error = some (p.documentFailure d failure) := by
  cases failure with
  | document fault path => cases fault <;> rfl
  | _ => rfl

theorem stopsWith_of_split (h : (p.split d).result = .error failure)
    (hmissing : d.content ≠ .missing) (sink : Sink σ) (state : σ) :
    p.StopsWith sink state d failure := by
  have hattempt : (p.attempt d).result = .error (p.explain d failure).2 := by
    rw [attempt_result, if_neg hmissing, h]
    rfl
  have houtcome := (process_of_error hattempt sink state).2
  have hcalls : p.calls sink state d = [] := by
    rw [calls, (process_of_error hattempt sink.recorded (state, [])).1]
  refine ⟨by rw [houtcome, explain_error], ?_, ?_, hcalls⟩
  all_goals
    rw [houtcome]
    rcases (explain_status p d failure).2 with ⟨hstatus, hunreadable⟩ | ⟨hstatus, hreadable⟩
  · exact iff_of_true hstatus hunreadable
  · exact iff_of_false (by simp [hstatus]) hreadable
  · exact iff_of_false (by simp [hstatus]) (not_not.mpr hunreadable)
  · exact iff_of_true hstatus hreadable

theorem StopsWith.endsAs {q : Pipeline} (hcwd : p.cwd = q.cwd) {sink : Sink σ} {state : σ}
    {sink' : Sink τ} {state' : τ} (hp : p.StopsWith sink state d failure)
    (hq : q.StopsWith sink' state' d failure) :
    (p.outcome sink state d).EndsAs (q.outcome sink' state' d) := by
  refine ⟨?_, ?_⟩
  · by_cases hreadable : failure.IsUnreadable
    · rw [hp.skipped.mpr hreadable, hq.skipped.mpr hreadable]
    · rw [hp.failed.mpr hreadable, hq.failed.mpr hreadable]
  · rw [hp.error, hq.error, documentFailure, documentFailure, hcwd]

end Stopping

section Deciding

variable {σ τ : Type}

theorem prepare_of_firstRaised {text : String} {sections : List Section} {census : Census}
    (hread : readSections d = .ok (text, sections, census)) {s : Section}
    (h : FirstRaised (p.ResolverRaises d.path) sections s failure) :
    (p.prepare d).result = .error failure := by
  rw [prepare, Job.bind_result, Job.done_result, hread]
  change ((p.resolveSections d.path 0 sections >>= _).result) = _
  rw [Job.bind_result]
  exact bind_eq_error.mpr (.inl (resolveSections_of_firstRaised h 0))

/-- A document that is read is prepared unless a resolver fails. -/
theorem exists_prepared {text : String} {sections : List Section} {census : Census}
    (hread : readSections d = .ok (text, sections, census))
    (h : ∀ s ∈ sections, ∀ cause, ¬ p.ResolverRaises d.path s cause) :
    ∃ resolved, (p.prepare d).result =
      .ok ⟨d, text, d.scopeIdWith text, sections, census, resolved⟩ := by
  cases hresolve : (p.resolveSections d.path 0 sections).result with
  | ok resolved =>
    exact ⟨resolved, prepare_eq_ok.mpr ⟨text, sections, census, resolved, hread, hresolve, rfl⟩⟩
  | error cause =>
    obtain ⟨s, hs, hraises⟩ := resolveSections_raises hresolve
    exact absurd hraises (h s hs cause)

/-- What decides about the failure of a document: reading it, then resolving its sections, then
compiling them, then making its outputs. Beside each step stand the pipelines that end the same way,
whatever becomes of the steps behind it. -/
structure EarlierDecides (p q : Pipeline) (sink : Sink σ) (state : σ) (sink' : Sink τ) (state' : τ)
    (d : Document) : Prop where
  reading : ∀ failure, readSections d = .error failure →
    (d.content ≠ .missing → p.StopsWith sink state d failure) ∧
      (p.outcome sink state d).EndsAs (q.outcome sink' state' d)
  /-- The first section counts whose resolver fails. -/
  resolving : ∀ text sections census, readSections d = .ok (text, sections, census) →
    (∃ s ∈ sections, ∃ cause, p.ResolverRaises d.path s cause) →
    ∃ s failure, FirstRaised (p.ResolverRaises d.path) sections s failure ∧
      p.StopsWith sink state d failure ∧
      ((∀ t ∈ sections, ∀ cause,
          p.ResolverRaises d.path t cause ↔ q.ResolverRaises d.path t cause) →
        (p.outcome sink state d).EndsAs (q.outcome sink' state' d))
  /-- The first section counts that fails to compile. -/
  compiling : ∀ text sections census, readSections d = .ok (text, sections, census) →
    (∀ s ∈ sections, ∀ cause, ¬ p.ResolverRaises d.path s cause) →
    ∃ resolved, let c : Context := ⟨d, text, d.scopeIdWith text, sections, census, resolved⟩
      (p.prepare d).result = .ok c ∧
      ((∃ job ∈ p.sectionJobs c, ∃ cause, job.result = .error cause) →
        ∃ place job cause, Job.FailsFirst (p.sectionJobs c) place job cause ∧
          p.StopsWith sink state d (.inDocument (d.display p.cwd) d.path cause) ∧
          ∀ c', (q.prepare d).result = .ok c' →
            List.Forall₂ Job.Alike (p.sectionJobs c) (q.sectionJobs c') →
            (p.outcome sink state d).EndsAs (q.outcome sink' state' d))
  /-- The first tag of the registry with content counts whose output cannot be made. -/
  building : ∀ c parts, (p.prepare d).result = .ok c →
    List.Forall₂ (fun job part => job.result = .ok part) (p.sectionJobs c) parts →
    (∃ m ∈ p.outputs parts, ∃ cause, p.OutputRaises m cause) →
    ∃ m failure, FirstRaised p.OutputRaises (p.outputs parts) m failure ∧
      p.StopsWith sink state d failure ∧
      ∀ c', (q.prepare d).result = .ok c' →
        List.Forall₂ Job.Alike (p.sectionJobs c) (q.sectionJobs c') →
        p.registry.names = q.registry.names →
        (∀ m ∈ p.outputs parts, ∀ cause, p.OutputRaises m cause ↔ q.OutputRaises m cause) →
        (p.outcome sink state d).EndsAs (q.outcome sink' state' d)

theorem content_of_readSections {text : String} {sections : List Section} {census : Census}
    (h : readSections d = .ok (text, sections, census)) : d.content ≠ .missing := by
  obtain ⟨text, hcontent⟩ := isText_of_readSections h
  simp [hcontent]

theorem content_of_prepare {c : Context} (h : (p.prepare d).result = .ok c) :
    d.content ≠ .missing := by
  obtain ⟨text, sections, census, resolved, hread, -⟩ := prepare_eq_ok.mp h
  exact content_of_readSections hread

theorem document_of_prepare {c : Context} (h : (p.prepare d).result = .ok c) :
    c.document = d := by
  obtain ⟨text, sections, census, resolved, -, -, rfl⟩ := prepare_eq_ok.mp h
  rfl

theorem split_of_read_error (h : readSections d = .error failure) :
    (p.split d).result = .error failure := by
  rw [split_result, prepare, Job.bind_result, Job.done_result, h]
  rfl

theorem split_of_prepare_error (h : (p.prepare d).result = .error failure) :
    (p.split d).result = .error failure := by
  rw [split_result, h]
  rfl

theorem split_of_failsFirst {c : Context} (hc : (p.prepare d).result = .ok c) {place : Nat}
    {job : Job Part} {cause : Failure} (h : Job.FailsFirst (p.sectionJobs c) place job cause) :
    (p.split d).result = .error (.inDocument (d.display p.cwd) d.path cause) := by
  have hgather := Job.gather_eq_error.mpr ⟨place, job, h⟩
  rw [split_result, hc]
  change ((Job.gather (p.sectionJobs c)).result.mapError _ >>= _) = _
  rw [hgather, document_of_prepare hc]
  rfl

theorem split_of_parts {c : Context} {parts : List Part} (hc : (p.prepare d).result = .ok c)
    (hparts : (Job.gather (p.sectionJobs c)).result = .ok parts) : (p.split d).result =
      buildArtifacts d (mergeParts parts) p.registry p.modifiers p.settings.outputEncoding := by
  rw [split_result, hc]
  change ((Job.gather (p.sectionJobs c)).result.mapError _ >>= _) = _
  rw [hparts]
  rfl

/-- Of two pipelines in one working directory, whatever their functions do, the failure that counts
is that of the earliest step, and later steps have no part in it. -/
theorem process_earlierDecides (p q : Pipeline) (hcwd : p.cwd = q.cwd) (sink : Sink σ) (state : σ)
    (sink' : Sink τ) (state' : τ) (d : Document) :
    p.EarlierDecides q sink state sink' state' d := by
  constructor
  case reading =>
    intro failure hread
    by_cases hmissing : d.content = .missing
    · have hattempt : ∀ r : Pipeline,
          (r.attempt d).result = .error { path := d.path, status := .skipped } :=
        fun r => attempt_eq_error.mpr (.inl ⟨hmissing, rfl⟩)
      rw [(process_of_error (hattempt p) sink state).2,
        (process_of_error (hattempt q) sink' state').2]
      exact ⟨fun hne => absurd hmissing hne, rfl, rfl⟩
    · have hp := stopsWith_of_split (p := p) (split_of_read_error hread) hmissing sink state
      have hq := stopsWith_of_split (p := q) (split_of_read_error hread) hmissing sink' state'
      exact ⟨fun _ => hp, hp.endsAs hcwd hq⟩
  case resolving =>
    rintro text sections census hread ⟨s, hs, cause, hraises⟩
    have hmissing := content_of_readSections hread
    obtain ⟨first, failure, hfirst⟩ := FirstRaised.exists_of_mem hs hraises
    have hp := stopsWith_of_split (split_of_prepare_error (prepare_of_firstRaised hread hfirst))
      hmissing sink state
    refine ⟨first, failure, hfirst, hp, fun hsame => hp.endsAs hcwd ?_⟩
    exact stopsWith_of_split (split_of_prepare_error
      (prepare_of_firstRaised hread (hfirst.congr hsame))) hmissing sink' state'
  case compiling =>
    intro text sections census hread hnone
    have hmissing := content_of_readSections hread
    obtain ⟨resolved, hc⟩ := exists_prepared hread hnone
    refine ⟨resolved, hc, ?_⟩
    rintro ⟨job, hjob, cause, hfails⟩
    obtain ⟨place, first, failure, hfirst⟩ := Job.exists_failsFirst hjob hfails
    have hp := stopsWith_of_split (split_of_failsFirst hc hfirst) hmissing sink state
    refine ⟨place, first, failure, hfirst, hp, fun c' hc' halike => hp.endsAs hcwd ?_⟩
    -- Which job fails first is a matter of how often each of them waits.
    have hgather := Job.gather_eq_error.mpr ⟨place, first, hfirst⟩
    rw [Job.gather_result_of_alike halike] at hgather
    obtain ⟨place', first', hfirst'⟩ := Job.gather_eq_error.mp hgather
    have hsplit := split_of_failsFirst hc' hfirst'
    rw [← hcwd] at hsplit
    exact stopsWith_of_split hsplit hmissing sink' state'
  case building =>
    rintro c parts hc hparts ⟨m, hm, cause, hraises⟩
    have hmissing := content_of_prepare hc
    have hgather := Job.gather_eq_ok.mpr hparts
    obtain ⟨first, failure, hfirst⟩ := FirstRaised.exists_of_mem hm hraises
    have hp := stopsWith_of_split ((split_of_parts hc hgather).trans
      (buildArtifacts_of_firstRaised hfirst)) hmissing sink state
    refine ⟨first, failure, hfirst, hp, fun c' hc' halike hnames hsame => hp.endsAs hcwd ?_⟩
    rw [Job.gather_result_of_alike halike] at hgather
    have houtputs : p.outputs parts = q.outputs parts := by rw [outputs, outputs, hnames]
    have hfirst' := hfirst.congr hsame
    rw [houtputs] at hfirst'
    exact stopsWith_of_split ((split_of_parts hc' hgather).trans
      (buildArtifacts_of_firstRaised hfirst')) hmissing sink' state'

def lettersDocument : Document := .ofText "<docs>x</docs>" none none

def lettersSection : Section :=
  { tag := "docs", content := "x", stop := 14, bodyStart := 6, bodyStop := 7 }

theorem readSections_letters : readSections lettersDocument =
    .ok ("<docs>x</docs>", [lettersSection], ⟨[("docs", 1)], false⟩) := by
  decide +kernel

theorem resolverRaises_letters : namelessPipeline.ResolverRaises lettersDocument.path lettersSection
    (.raised "ValueError" "no name") :=
  ⟨_, rfl, rfl, nofun⟩

theorem process_earlierDecides_letters : namelessPipeline.cwd = docsPipeline.cwd ∧
    ∃ s failure, FirstRaised (namelessPipeline.ResolverRaises lettersDocument.path)
        [lettersSection] s failure ∧
      namelessPipeline.StopsWith (memorySink fun _ => none) [] lettersDocument failure := by
  refine ⟨rfl, ?_⟩
  obtain ⟨s, failure, hfirst, hstops, -⟩ := (process_earlierDecides namelessPipeline docsPipeline
    rfl (memorySink fun _ => none) [] (memorySink refuseStyles) [] lettersDocument).resolving _ _ _
      readSections_letters ⟨lettersSection, by simp, _, resolverRaises_letters⟩
  exact ⟨s, failure, hfirst, hstops⟩

end Deciding

end Pipeline

end ComponentSplit
