import Mathlib.Data.List.Forall2
import ComponentSplit.Pipeline.Context

namespace ComponentSplit

section Pairs

variable {α β γ : Type}

/-- Two relations one after the other, over lists. -/
theorem forall₂_comp {R : α → β → Prop} {S : β → γ → Prop} {xs : List α}
    {zs : List γ} :
    List.Forall₂ (fun x z => ∃ y, R x y ∧ S y z) xs zs ↔
      ∃ ys, List.Forall₂ R xs ys ∧ List.Forall₂ S ys zs := by
  constructor
  · intro h
    induction h with
    | nil => exact ⟨[], .nil, .nil⟩
    | cons hxz _ ih =>
      obtain ⟨y, hxy, hyz⟩ := hxz
      obtain ⟨ys, hxs, hzs⟩ := ih
      exact ⟨y :: ys, .cons hxy hxs, .cons hyz hzs⟩
  · rintro ⟨ys, hxs, hzs⟩
    induction hxs generalizing zs with
    | nil =>
      cases hzs
      exact .nil
    | @cons x y xs ys hxy _ ih =>
      obtain ⟨z, zs, hyz, hrest, rfl⟩ := List.forall₂_cons_left_iff.mp hzs
      exact .cons ⟨y, hxy, hyz⟩ (ih hrest)

theorem forall₂_exists {R : α → β → Prop} {xs : List α}
    (h : ∀ x ∈ xs, ∃ y, R x y) : ∃ ys, List.Forall₂ R xs ys := by
  induction xs with
  | nil => exact ⟨[], .nil⟩
  | cons x xs ih =>
    rw [List.forall_mem_cons] at h
    obtain ⟨⟨y, hy⟩, hrest⟩ := h
    obtain ⟨ys, hys⟩ := ih hrest
    exact ⟨y :: ys, .cons hy hys⟩

theorem exists_of_forall₂ {R : α → β → Prop} {xs : List α} {ys : List β} {x : α}
    (h : List.Forall₂ R xs ys) (hx : x ∈ xs) : ∃ y, R x y := by
  induction h with
  | nil => cases hx
  | @cons x' y' xs ys hxy _ ih =>
    rcases List.mem_cons.mp hx with rfl | hrest
    · exact ⟨y', hxy⟩
    · exact ih hrest

theorem exists_of_mem_forall₂ {R : α → β → Prop} {xs : List α} {ys : List β} {y : β}
    (h : List.Forall₂ R xs ys) (hy : y ∈ ys) : ∃ x ∈ xs, R x y := by
  induction h with
  | nil => cases hy
  | @cons x' y' xs ys hxy _ ih =>
    rcases List.mem_cons.mp hy with rfl | hrest
    · exact ⟨x', List.mem_cons_self, hxy⟩
    · obtain ⟨x, hx, hR⟩ := ih hrest
      exact ⟨x, List.mem_cons_of_mem _ hx, hR⟩

theorem getLast?_of_forall₂ {R : α → β → Prop} {xs : List α} {ys : List β}
    (h : List.Forall₂ R xs ys) : xs = [] ∧ ys = [] ∨
      ∃ x y, xs.getLast? = some x ∧ ys.getLast? = some y ∧ R x y := by
  induction h with
  | nil => exact .inl ⟨rfl, rfl⟩
  | @cons x y xs ys hxy _ ih =>
    right
    rcases ih with ⟨rfl, rfl⟩ | ⟨x', y', hx, hy, hR⟩
    · exact ⟨x, y, rfl, rfl, hxy⟩
    · refine ⟨x', y', ?_, ?_, hR⟩
      · rw [List.getLast?_cons, hx]
        rfl
      · rw [List.getLast?_cons, hy]
        rfl

theorem mem_of_lookup {entries : List (String × α)} {name : String} {a : α}
    (h : entries.lookup name = some a) : (name, a) ∈ entries := by
  obtain ⟨front, back, rfl, -⟩ := List.lookup_eq_some_iff.mp h
  simp

theorem lookup_of_mem {κ : Type} [BEq κ] [LawfulBEq κ] {entries : List (κ × α)} {key : κ} {a : α}
    (hnodup : (entries.map Prod.fst).Nodup) (h : (key, a) ∈ entries) :
    entries.lookup key = some a := by
  induction entries with
  | nil => cases h
  | cons e entries ih =>
    obtain ⟨hnew, hrest⟩ := List.nodup_cons.mp hnodup
    rcases List.mem_cons.mp h with rfl | hmem
    · exact List.lookup_cons_self
    · have hne : (key == e.1) = false := by
        refine beq_eq_false_iff_ne.mpr fun heq => hnew ?_
        exact heq ▸ List.mem_map_of_mem hmem
      rw [List.lookup_cons, hne]
      exact ih hrest hmem

end Pairs

section Results

variable {ε α β : Type}

theorem bind_eq_ok {x : Except ε α} {f : α → Except ε β} {b : β} :
    (x >>= f) = .ok b ↔ ∃ a, x = .ok a ∧ f a = .ok b := by
  cases x with
  | ok a => simp [bind, Except.bind]
  | error e => simp [bind, Except.bind]

theorem bind_eq_error {x : Except ε α} {f : α → Except ε β} {e : ε} :
    (x >>= f) = .error e ↔ x = .error e ∨ ∃ a, x = .ok a ∧ f a = .error e := by
  cases x with
  | ok a => simp [bind, Except.bind]
  | error e => simp [bind, Except.bind]

theorem mapM_eq_ok {f : α → Except ε β} {xs : List α} {ys : List β} :
    xs.mapM f = .ok ys ↔ List.Forall₂ (fun x y => f x = .ok y) xs ys := by
  induction xs generalizing ys with
  | nil =>
    rw [List.mapM_nil, List.forall₂_nil_left_iff]
    constructor
    · intro h
      cases h
      rfl
    · rintro rfl
      rfl
  | cons x xs ih =>
    rw [List.mapM_cons, bind_eq_ok, List.forall₂_cons_left_iff]
    constructor
    · rintro ⟨y, hy, hrest⟩
      obtain ⟨ys', hys, h⟩ := bind_eq_ok.mp hrest
      cases h
      exact ⟨y, ys', hy, ih.mp hys, rfl⟩
    · rintro ⟨y, ys', hy, hys, rfl⟩
      exact ⟨y, hy, bind_eq_ok.mpr ⟨ys', ih.mpr hys, rfl⟩⟩

theorem mapM_eq_error {f : α → Except ε β} {xs : List α} {e : ε} (h : xs.mapM f = .error e) :
    ∃ x ∈ xs, f x = .error e := by
  induction xs with
  | nil => cases h
  | cons x xs ih =>
    rw [List.mapM_cons] at h
    rcases bind_eq_error.mp h with hx | ⟨y, -, hrest⟩
    · exact ⟨x, by simp, hx⟩
    · rcases bind_eq_error.mp hrest with hxs | ⟨ys, -, hpure⟩
      · obtain ⟨x', hx', he⟩ := ih hxs
        exact ⟨x', by simp [hx'], he⟩
      · cases hpure

theorem mapError_eq_ok {ε' : Type} {x : Except ε α} {f : ε → ε'} {a : α} :
    x.mapError f = .ok a ↔ x = .ok a := by
  cases x with
  | ok b => simp [Except.mapError]
  | error e => simp [Except.mapError]

theorem mapError_eq_error {ε' : Type} {x : Except ε α} {f : ε → ε'} {e' : ε'} :
    x.mapError f = .error e' ↔ ∃ e, x = .error e ∧ f e = e' := by
  cases x with
  | ok b => simp [Except.mapError]
  | error e => simp [Except.mapError]

end Results

theorem CompilerConfig.language?_nil (lang : Option String) :
    CompilerConfig.language? [] lang = .ok none := by
  rw [CompilerConfig.language?]
  cases lang.filter (· != "") <;> rfl

namespace Job

variable {α β : Type}

@[simp]
theorem done_result (result : Except Failure α) : (done result).result = result := rfl

theorem bind_result (job : Job α) (next : α → Job β) :
    (job >>= next).result = job.result >>= fun a => (next a).result := by
  cases h : job.result with
  | ok a => exact (bind_of_ok next h).1
  | error failure => exact (bind_of_error next h).1

theorem firstFailure?_eq_none {jobs : List (Job α)} :
    firstFailure? jobs = none ↔ ∀ job ∈ jobs, ∃ a, job.result = .ok a := by
  induction jobs with
  | nil => simp [firstFailure?]
  | cons job jobs ih =>
    rw [List.forall_mem_cons, ← ih, firstFailure?]
    cases job.result with
    | ok a => simp
    | error failure => cases firstFailure? jobs <;> simp

theorem forall₂_values {jobs : List (Job α)} (h : ∀ job ∈ jobs, ∃ a, job.result = .ok a) :
    List.Forall₂ (fun job a => job.result = .ok a) jobs (values jobs) := by
  induction jobs with
  | nil => exact .nil
  | cons job jobs ih =>
    rw [List.forall_mem_cons] at h
    obtain ⟨⟨a, ha⟩, hrest⟩ := h
    have htail := ih hrest
    rw [values] at htail ⊢
    rw [List.filterMap_cons, ha]
    exact .cons ha htail

theorem values_eq {jobs : List (Job α)} {as : List α}
    (h : List.Forall₂ (fun job a => job.result = .ok a) jobs as) :
    (∀ job ∈ jobs, ∃ a, job.result = .ok a) ∧ values jobs = as := by
  induction h with
  | nil => simp [values]
  | @cons job a jobs as hjob _ ih =>
    obtain ⟨hall, hvalues⟩ := ih
    rw [values] at hvalues
    refine ⟨List.forall_mem_cons.mpr ⟨⟨a, hjob⟩, hall⟩, ?_⟩
    rw [values, List.filterMap_cons, hjob, hvalues]
    rfl

/-- Jobs done side by side succeed exactly when each of them does, with their values in order. -/
theorem gather_eq_ok {jobs : List (Job α)} {as : List α} :
    (gather jobs).result = .ok as ↔ List.Forall₂ (fun job a => job.result = .ok a) jobs as := by
  constructor
  · intro h
    cases hfirst : firstFailure? jobs with
    | some first =>
      rw [gather, hfirst] at h
      cases h
    | none =>
      rw [gather, hfirst] at h
      cases h
      exact forall₂_values (firstFailure?_eq_none.mp hfirst)
  · intro h
    obtain ⟨hall, hvalues⟩ := values_eq h
    rw [gather, firstFailure?_eq_none.mpr hall, hvalues]

end Job

namespace Pipeline

variable {p : Pipeline} {d : Document}

/-- A document that can be read has a text, and no kind of section occurs too often in it. -/
theorem readSections_eq_ok {text : String} {sections : List Section} {census : Census}
    (h : readSections d = .ok (text, sections, census)) :
    d.text = .ok text ∧ census = Census.ofSections sections ∧ census.exceeded? = none := by
  rw [readSections] at h
  obtain ⟨source, htext, h⟩ := bind_eq_ok.mp h
  obtain ⟨found, -, h⟩ := bind_eq_ok.mp h
  obtain ⟨counted, hcounted, hpure⟩ := bind_eq_ok.mp h
  cases hpure
  rw [validateSections] at hcounted
  split at hcounted
  next => cases hcounted
  next hkinds =>
    cases hcounted
    exact ⟨htext, rfl, hkinds⟩

theorem prepare_eq_ok {c : Context} :
    (p.prepare d).result = .ok c ↔ ∃ text sections census resolved,
      readSections d = .ok (text, sections, census) ∧
      (p.resolveSections d.path 0 sections).result = .ok resolved ∧
      c = ⟨d, text, d.scopeIdWith text, sections, census, resolved⟩ := by
  rw [prepare, Job.bind_result, Job.done_result, bind_eq_ok]
  constructor
  · rintro ⟨⟨text, sections, census⟩, hread, h⟩
    rw [Job.bind_result] at h
    obtain ⟨resolved, hresolved, hc⟩ := bind_eq_ok.mp h
    cases hc
    exact ⟨text, sections, census, resolved, hread, hresolved, rfl⟩
  · rintro ⟨text, sections, census, resolved, hread, hresolved, rfl⟩
    refine ⟨(text, sections, census), hread, ?_⟩
    rw [Job.bind_result]
    exact bind_eq_ok.mpr ⟨resolved, hresolved, rfl⟩

theorem prepare_eq_error {failure : Failure} (h : (p.prepare d).result = .error failure) :
    readSections d = .error failure ∨ ∃ text sections census,
      readSections d = .ok (text, sections, census) ∧
        (p.resolveSections d.path 0 sections).result = .error failure := by
  rw [prepare, Job.bind_result, Job.done_result] at h
  rcases bind_eq_error.mp h with hread | ⟨⟨text, sections, census⟩, hread, hrest⟩
  · exact .inl hread
  · rw [Job.bind_result] at hrest
    rcases bind_eq_error.mp hrest with hresolve | ⟨resolved, -, hpure⟩
    · exact .inr ⟨text, sections, census, hread, hresolve⟩
    · cases hpure

/-- What a document is compiled to, from its sections compiled side by side. -/
theorem compile_eq_ok {merged : List MergedSection} :
    (p.compile d).result = .ok merged ↔ ∃ c parts, (p.prepare d).result = .ok c ∧
      List.Forall₂ (fun job part => job.result = .ok part) (p.sectionJobs c) parts ∧
      merged = mergeParts parts := by
  rw [compile, Job.bind_result, bind_eq_ok]
  refine exists_congr fun c => ?_
  rw [exists_and_left]
  refine and_congr_right fun _ => ?_
  rw [Job.bind_result, bind_eq_ok]
  simp only [compileSections, mapError_eq_ok, Job.gather_eq_ok, Job.pure_result,
    Except.ok.injEq, @eq_comm _ merged]

/-- The steps of splitting, of which each gets what the one before gives. -/
theorem split_result (p : Pipeline) (d : Document) : (p.split d).result =
    ((p.prepare d).result >>= fun c => (Job.gather (p.sectionJobs c)).result.mapError
      (.inDocument (c.document.display p.cwd) c.document.path)) >>= fun parts =>
        buildArtifacts d (mergeParts parts) p.registry p.modifiers p.settings.outputEncoding := by
  rw [split, compile, Job.bind_result, Job.bind_result]
  cases (p.prepare d).result with
  | error failure => rfl
  | ok c =>
    simp only [Job.bind_result]
    change (((p.compileSections c).result >>= _) >>= _) = ((p.compileSections c).result >>= _)
    cases (p.compileSections c).result <;> rfl

/-- The artifacts of a document, in three steps of which each gets what the one before gives. -/
theorem split_eq_ok {artifacts : List Artifact} :
    (p.split d).result = .ok artifacts ↔ ∃ c parts, (p.prepare d).result = .ok c ∧
      List.Forall₂ (fun job part => job.result = .ok part) (p.sectionJobs c) parts ∧
      buildArtifacts d (mergeParts parts) p.registry p.modifiers p.settings.outputEncoding =
        .ok artifacts := by
  simp only [split_result, bind_eq_ok, mapError_eq_ok, Job.gather_eq_ok]
  constructor
  · rintro ⟨parts, ⟨c, hc, hparts⟩, hbuild⟩
    exact ⟨c, parts, hc, hparts, hbuild⟩
  · rintro ⟨c, parts, hc, hparts, hbuild⟩
    exact ⟨parts, ⟨c, hc, hparts⟩, hbuild⟩

/-- A document fails before its sections are compiled, in compiling them, or when its artifacts are
built. -/
theorem split_eq_error {failure : Failure} (h : (p.split d).result = .error failure) :
    (p.prepare d).result = .error failure ∨ ∃ c : Context, (p.prepare d).result = .ok c ∧
      ((∃ cause, failure = .inDocument (c.document.display p.cwd) c.document.path cause) ∨
        ∃ merged, buildArtifacts d merged p.registry p.modifiers p.settings.outputEncoding =
          .error failure) := by
  rw [split_result] at h
  rcases bind_eq_error.mp h with hparts | ⟨parts, hparts, hbuild⟩
  · rcases bind_eq_error.mp hparts with hc | ⟨c, hc, hgather⟩
    · exact .inl hc
    · obtain ⟨cause, -, rfl⟩ := mapError_eq_error.mp hgather
      exact .inr ⟨c, hc, .inl ⟨cause, rfl⟩⟩
  · obtain ⟨c, hc, -⟩ := bind_eq_ok.mp hparts
    exact .inr ⟨c, hc, .inr ⟨mergeParts parts, hbuild⟩⟩

end Pipeline

end ComponentSplit
