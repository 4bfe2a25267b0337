import ComponentSplit.Proofs.Pipeline.Traced

namespace ComponentSplit

/-- The message with which a run says how many of its documents failed. -/
def failureEntry (failed all : Nat) : Entry := ⟨.warning, s!"{failed} of {all} documents failed"⟩

/-- A message about the way of a document or a run, and not about its end. -/
structure Entry.IsMinor (e : Entry) : Prop where
  level_ne_error : e.level ≠ .error
  level_ne_info : e.level ≠ .info
  ne_failureEntry : ∀ failed all, e ≠ failureEntry failed all

def OnlyMinor (log : Log) : Prop := ∀ e ∈ log, e.IsMinor

section Entries

theorem onlyMinor_nil : OnlyMinor [] := fun _ h => absurd h List.not_mem_nil

theorem onlyMinor_singleton {e : Entry} (h : e.IsMinor) : OnlyMinor [e] := by
  intro other hother
  rwa [List.mem_singleton.mp hother]

theorem OnlyMinor.append {front back : Log} (hfront : OnlyMinor front) (hback : OnlyMinor back) :
    OnlyMinor (front ++ back) :=
  List.forall_mem_append.mpr ⟨hfront, hback⟩

theorem isMinor_debug (message : String) : Entry.IsMinor ⟨.debug, message⟩ :=
  ⟨nofun, nofun, nofun⟩

/-- The message about the failures of a run starts with their number. -/
theorem isMinor_warning {message : String} {c : Char} (hc : message.toList.head? = some c)
    (hdigit : c.isDigit = false) : Entry.IsMinor ⟨.warning, message⟩ := by
  refine ⟨nofun, nofun, fun failed all heq => ?_⟩
  obtain ⟨digit, digits, hnumber⟩ :=
    List.exists_cons_of_ne_nil (Nat.toDigits_ne_nil (n := failed) (b := 10))
  have hmem : digit ∈ Nat.toDigits 10 failed := by
    rw [hnumber]
    exact List.mem_cons_self
  have hfirst : digit.isDigit = true := Nat.isDigit_of_mem_toDigits (by decide) (by decide) hmem
  rw [(Entry.mk.inj heq).2] at hc
  simp [hnumber] at hc
  rw [← hc, hfirst] at hdigit
  cases hdigit

end Entries

namespace Job

variable {α β : Type}

theorem onlyMinor_pure (a : α) : OnlyMinor (pure a : Job α).log := onlyMinor_nil

theorem onlyMinor_done (result : Except Failure α) : OnlyMinor (done result).log := onlyMinor_nil

theorem onlyMinor_bind {job : Job α} {next : α → Job β} (hjob : OnlyMinor job.log)
    (hnext : ∀ a, job.result = .ok a → OnlyMinor (next a).log) :
    OnlyMinor (job >>= next).log := by
  cases h : job.result with
  | ok a =>
    rw [(bind_of_ok next h).2]
    exact hjob.append (hnext a h)
  | error failure =>
    rw [(bind_of_error next h).2]
    exact hjob

theorem gather_log (jobs : List (Job α)) : (gather jobs).log = jobs.flatMap Job.log := by
  rw [gather]
  cases firstFailure? jobs <;> rfl

theorem onlyMinor_gather {jobs : List (Job α)} (h : ∀ job ∈ jobs, OnlyMinor job.log) :
    OnlyMinor (gather jobs).log := by
  rw [gather_log]
  intro e he
  obtain ⟨job, hjob, hmem⟩ := List.mem_flatMap.mp he
  exact h job hjob e hmem

end Job

/-- The compiler of each language reports minor messages only. -/
def CompilerConfig.WorksQuietly (config : CompilerConfig) : Prop :=
  ∀ lang compiler, config.language? lang = .ok (some compiler) →
    ∀ content path, OnlyMinor (compiler content path).log

/-- The functions given to the pipeline may end in any way, and what they report by themselves are
minor messages. -/
structure Pipeline.WorksQuietly (p : Pipeline) : Prop where
  compilers : ∀ kind s (r : CompileRequest), r.loader = p.loader → r.config = p.config →
    OnlyMinor (p.compilers kind s r).log
  customCompilers : ∀ e ∈ p.registry.entries, ∀ compiler, e.compiler = some compiler →
    ∀ tag content lang path, OnlyMinor (compiler tag content lang path).log
  loader : ∀ src path, OnlyMinor (p.loader.load src path).log

section Sections

variable {s : Section} {r : CompileRequest}

theorem loadBody_onlyMinor (hload : ∀ src path, OnlyMinor (r.loader.load src path).log) :
    OnlyMinor (loadBody s r).log := by
  rw [loadBody]
  cases s.src with
  | none => exact Job.onlyMinor_pure _
  | some src => exact Job.onlyMinor_bind (hload src r.path) fun content _ => Job.onlyMinor_pure _

theorem compileLanguage_onlyMinor {config : CompilerConfig} (hconfig : config.WorksQuietly)
    (lang : Option String) (content : String) (path : Option String) :
    OnlyMinor (compileLanguage config lang content path).log := by
  refine Job.onlyMinor_bind (Job.onlyMinor_done _) fun found hfound => ?_
  cases found with
  | none => exact Job.onlyMinor_pure _
  | some compiler =>
    refine Job.onlyMinor_bind (hconfig lang compiler hfound content path) fun value _ => ?_
    exact Job.onlyMinor_done _

theorem defaultCompilers_onlyMinor (hload : ∀ src path, OnlyMinor (r.loader.load src path).log)
    (hconfig : r.config.WorksQuietly) (kind : BuiltinKind) :
    OnlyMinor (defaultCompilers kind s r).log := by
  refine Job.onlyMinor_bind ?_ fun content _ => Job.onlyMinor_pure _
  refine Job.onlyMinor_bind (loadBody_onlyMinor hload) fun content _ => ?_
  refine Job.onlyMinor_bind (compileLanguage_onlyMinor hconfig _ _ _) fun compiled _ => ?_
  exact Job.onlyMinor_pure _

end Sections

namespace Pipeline

variable {p : Pipeline} {d : Document}

section Splitting

theorem sectionValue_onlyMinor (hp : p.WorksQuietly) (c : Context) (s : ResolvedSection) :
    OnlyMinor (sectionValue p.registry p.compilers (p.request c) s).log := by
  rw [sectionValue]
  cases s.kind with
  | builtin kind => exact hp.compilers kind s.node (p.request c) rfl rfl
  | custom name =>
    dsimp only
    cases hfind : p.registry.find? s.node.tag with
    | none => exact Job.onlyMinor_done _
    | some e =>
      dsimp only
      cases hcompiler : e.compiler with
      | none => exact Job.onlyMinor_done _
      | some compiler =>
        refine Job.onlyMinor_bind (loadBody_onlyMinor hp.loader) fun content _ => ?_
        exact hp.customCompilers e (List.mem_of_find?_eq_some hfind) compiler hcompiler _ _ _ _

theorem compileSection_onlyMinor (hp : p.WorksQuietly) (c : Context) (s : ResolvedSection) :
    OnlyMinor (compileSection p.registry p.compilers (p.request c) s).log := by
  refine Job.onlyMinor_bind (sectionValue_onlyMinor hp c s) fun value _ => ?_
  exact Job.onlyMinor_bind (Job.onlyMinor_done _) fun content _ => Job.onlyMinor_pure _

theorem resolveExtension_onlyMinor (registry : Registry) (settings : Settings) (tag : String)
    (lang path : Option String) (s : Section) :
    OnlyMinor (registry.resolveExtension settings tag lang path s).log := by
  rw [Registry.resolveExtension]
  cases registry.find? tag with
  | none => exact Job.onlyMinor_done _
  | some e =>
    dsimp only
    cases e.resolver lang path s with
    | ok value =>
      dsimp only
      split
      · refine onlyMinor_singleton (isMinor_warning (c := 'E') ?_ (by decide))
        simp [toString]
      · exact Job.onlyMinor_pure _
    | error failure =>
      cases failure with
      | configuration message =>
        refine onlyMinor_singleton (isMinor_warning (c := 'E') ?_ (by decide))
        simp [toString]
      | _ => exact Job.onlyMinor_done _

theorem resolveSections_onlyMinor (p : Pipeline) (path : Option String) (index : Nat)
    (sections : List Section) : OnlyMinor (p.resolveSections path index sections).log := by
  induction sections generalizing index with
  | nil => exact Job.onlyMinor_pure _
  | cons s sections ih =>
    rw [resolveSections]
    split
    · refine Job.onlyMinor_bind ?_ fun first _ => ?_
      · exact Job.onlyMinor_bind (resolveExtension_onlyMinor _ _ _ _ _ _)
          fun extension _ => Job.onlyMinor_pure _
      · exact Job.onlyMinor_bind (ih (index + 1)) fun others _ => Job.onlyMinor_pure _
    · exact ih (index + 1)

theorem prepare_onlyMinor (p : Pipeline) (d : Document) : OnlyMinor (p.prepare d).log := by
  refine Job.onlyMinor_bind (Job.onlyMinor_done _) ?_
  rintro ⟨text, sections, census⟩ -
  exact Job.onlyMinor_bind (resolveSections_onlyMinor p d.path 0 sections)
    fun resolved _ => Job.onlyMinor_pure _

theorem skipLog_onlyMinor (p : Pipeline) (c : Context) : OnlyMinor (p.skipLog c) := by
  rw [skipLog]
  split
  · exact onlyMinor_nil
  · exact onlyMinor_singleton (isMinor_debug _)

theorem compileSections_onlyMinor (hp : p.WorksQuietly) (c : Context) :
    OnlyMinor (p.compileSections c).log := by
  refine (skipLog_onlyMinor p c).append (Job.onlyMinor_gather fun job hjob => ?_)
  obtain ⟨s, -, rfl⟩ := List.mem_map.mp hjob
  exact compileSection_onlyMinor hp c s

theorem split_onlyMinor (hp : p.WorksQuietly) (d : Document) : OnlyMinor (p.split d).log := by
  refine Job.onlyMinor_bind ?_ fun merged _ => Job.onlyMinor_done _
  refine Job.onlyMinor_bind (prepare_onlyMinor p d) fun c _ => ?_
  exact Job.onlyMinor_bind (compileSections_onlyMinor hp c) fun parts _ => Job.onlyMinor_pure _

end Splitting

/-- A pipeline of functions that report minor messages only, with a loader of the same kind, does
its work the same way. -/
theorem ofOptions_worksQuietly {o : Options} {loader : Loader}
    (hc : ∀ c ∈ o.compilers, ∀ tag content lang path,
      OnlyMinor (c.2 tag content lang path).log)
    (hconfig : o.config.WorksQuietly) (hload : ∀ src path, OnlyMinor (loader.load src path).log)
    (settings : Settings) (cwd : Place) : (ofOptions o loader settings cwd).WorksQuietly := by
  refine ⟨?_, ?_, hload⟩
  · intro kind s r hrloader hrconfig
    exact defaultCompilers_onlyMinor (hrloader ▸ hload) (hrconfig ▸ hconfig) kind
  · intro e he compiler hcompiler tag content lang path
    rcases Registry.mem_ofParts he with ⟨kind, rfl⟩ | ⟨name, resolver, given, -, hmem, rfl⟩
    · cases hcompiler
    · cases hcompiler
      exact hc _ hmem tag content lang path

end Pipeline

/-- The sink reports minor messages only. It may refuse what it likes. -/
def Sink.WorksQuietly {σ : Type} (sink : Sink σ) : Prop :=
  ∀ state a, OnlyMinor (sink.accept state a).2.1

theorem memorySink_worksQuietly (refuse : Artifact → Option Failure) :
    (memorySink refuse).WorksQuietly := by
  intro kept a
  rw [memorySink]
  cases hrefuse : refuse a <;> simp [hrefuse, onlyMinor_nil]

theorem deliver_onlyMinor {σ : Type} {sink : Sink σ} (hs : sink.WorksQuietly) (state : σ)
    (artifacts : List Artifact) : OnlyMinor (deliver sink state artifacts).log := by
  induction artifacts generalizing state with
  | nil => exact onlyMinor_nil
  | cons a artifacts ih =>
    rw [deliver]
    exact (hs state a).append (ih _)

/-- The level of the message with which a document in this state is reported, if it is. -/
def Status.level? : Status → Option Level
  | skipped => none
  | failed => some .error
  | empty | emitted => some .info

/-- The messages are minor ones and, behind them, at most the one that the state of the document
asks for. -/
def Status.IsReportedBy (status : Status) (log : Log) : Prop :=
  ∃ (minor : Log) (last : Option Entry), OnlyMinor minor ∧ log = minor ++ last.toList ∧
    last.map Entry.level = status.level?

section Counts

variable {log : Log} {status : Status}

theorem Status.IsReportedBy.of_minor (h : OnlyMinor log) (hstatus : status.level? = none) :
    status.IsReportedBy log :=
  ⟨log, none, h, (List.append_nil log).symm, hstatus.symm⟩

theorem Status.IsReportedBy.of_last {e : Entry} (h : OnlyMinor log)
    (hstatus : status.level? = some e.level) : status.IsReportedBy (log ++ [e]) :=
  ⟨log, some e, h, rfl, hstatus.symm⟩

theorem Status.IsReportedBy.countP_level {level : Level} (h : status.IsReportedBy log)
    (hlevel : ∀ e : Entry, e.IsMinor → e.level ≠ level) :
    log.countP (fun e => e.level = level) = if status.level? = some level then 1 else 0 := by
  obtain ⟨minor, last, hminor, rfl, hlast⟩ := h
  have hnone : minor.countP (fun e => e.level = level) = 0 := by
    rw [List.countP_eq_zero]
    intro e he
    simpa using hlevel e (hminor e he)
  rw [List.countP_append, hnone, ← hlast]
  cases last <;> simp [List.countP_cons]

theorem Status.IsReportedBy.errors (h : status.IsReportedBy log) :
    log.countP (fun e => e.level = .error) = if status = .failed then 1 else 0 := by
  rw [h.countP_level fun _ => Entry.IsMinor.level_ne_error]
  cases status <;> rfl

theorem Status.IsReportedBy.infos (h : status.IsReportedBy log) :
    log.countP (fun e => e.level = .info) =
      if status = .failed ∨ status = .skipped then 0 else 1 := by
  rw [h.countP_level fun _ => Entry.IsMinor.level_ne_info]
  cases status <;> rfl

theorem Status.IsReportedBy.failureEntry_not_mem (h : status.IsReportedBy log)
    (failed all : Nat) : failureEntry failed all ∉ log := by
  obtain ⟨minor, last, hminor, rfl, hlast⟩ := h
  intro hmem
  rcases List.mem_append.mp hmem with hmem | hmem
  · exact (hminor _ hmem).ne_failureEntry failed all rfl
  · obtain rfl := Option.mem_toList.mp hmem
    cases status <;> cases hlast

end Counts

namespace Pipeline

section Processing

variable {σ : Type} {p : Pipeline} {sink : Sink σ} {log : Log}

theorem explain_isReportedBy (d : Document) (failure : Failure) (h : OnlyMinor log) :
    (p.explain d failure).2.status.IsReportedBy (log ++ [(p.explain d failure).1]) := by
  by_cases hreadable : failure.IsUnreadable
  · have hskipping : ∀ cause : Failure, OnlyMinor (log ++
        [⟨.warning, s!"Skipping {d.display p.cwd}: {cause.message}"⟩]) := by
      intro cause
      refine h.append (onlyMinor_singleton (isMinor_warning (c := 'S') ?_ (by decide)))
      simp [toString]
    cases failure with
    | document fault path =>
      cases fault with
      | unsupported | undecodable => exact .of_minor (hskipping _) rfl
      | _ => exact hreadable.elim
    | _ => exact hreadable.elim
  · rw [explain_of_readable hreadable]
    exact .of_last h rfl

/-- The messages about a document tell what became of it. -/
theorem process_isReportedBy (hp : p.WorksQuietly) (hs : sink.WorksQuietly) (state : σ)
    (d : Document) :
    (p.outcome sink state d).status.IsReportedBy (p.process sink state d).2.1 := by
  have hsplit := split_onlyMinor hp d
  rw [outcome, process, attempt]
  by_cases hmissing : d.content = .missing
  · rw [if_pos hmissing]
    exact .of_minor (onlyMinor_singleton (isMinor_debug _)) rfl
  rw [if_neg hmissing]
  cases hresult : (p.split d).result with
  | error failure =>
    simp only [hresult, conclude, List.append_nil]
    exact explain_isReportedBy d failure hsplit
  | ok artifacts =>
    simp only [hresult]
    cases artifacts with
    | nil => exact .of_last hsplit rfl
    | cons a artifacts =>
      have hdelivery := hsplit.append (deliver_onlyMinor hs state (a :: artifacts))
      simp only [conclude]
      cases (deliver sink state (a :: artifacts)).failure with
      | some failure =>
        simp only [← List.append_assoc]
        exact .of_last hdelivery rfl
      | none =>
        simp only [← List.append_assoc]
        exact .of_last hdelivery rfl

end Processing

end Pipeline

end ComponentSplit
