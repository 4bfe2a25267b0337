import ComponentSplit.Proofs.Pipeline.Outcome

namespace ComponentSplit

/-- The failure is that of a section's compiler, which is reported in its own words. -/
def Failure.isCompile : Failure → Bool
  | document (.uncompiled _) _ | inDocument .. => true
  | _ => false

namespace Pipeline

variable {σ : Type} {p : Pipeline} {d : Document} {failure : Failure}

/-- The words with which a report about a document begins. -/
def heading (p : Pipeline) (d : Document) : String := s!"In file {d.display p.cwd}:"

/-- A failure that concerns a document carries its path, and one that is reported in its own words
begins with those that name the document. Of any other failure nothing is asked. -/
def Names (p : Pipeline) (d : Document) (failure : Failure) : Prop :=
  failure.isDocument = true → failure.path? = d.path ∧
    (failure.isCompile = true → (p.heading d).toList <+: failure.message.toList)

/-- Whenever a document fails and the sink was not called for it, the last message is an error that
begins with the words that name the document, and the outcome's error is a failure that concerns a
document and carries this one's path. -/
def IsTraced (p : Pipeline) (sink : Sink σ) (state : σ) (d : Document) : Prop :=
  (p.outcome sink state d).status = .failed → p.calls sink state d = [] →
    (∃ message, (p.process sink state d).2.1 = (p.split d).log ++ [⟨.error, message⟩] ∧
      (p.heading d).toList <+: message.toList) ∧
    ∃ failure, (p.outcome sink state d).error = some failure ∧ failure.isDocument = true ∧
      failure.path? = d.path

section Naming

theorem Names.of_not_isDocument (h : failure.isDocument = false) : p.Names d failure := by
  intro hdocument
  rw [h] at hdocument
  cases hdocument

theorem Names.of_path (hpath : failure.path? = d.path) (h : failure.isCompile = false) :
    p.Names d failure := by
  refine fun _ => ⟨hpath, fun hcompile => ?_⟩
  rw [h] at hcompile
  cases hcompile

theorem heading_begins (p : Pipeline) (d : Document) (message : String) :
    (p.heading d).toList <+: (s!"In file {d.display p.cwd}:\n{message}").toList := by
  refine ⟨("\n" ++ message).toList, ?_⟩
  rw [← String.toList_append]
  change ("In file " ++ d.display p.cwd ++ ":" ++ ("\n" ++ message)).toList =
    ("In file " ++ d.display p.cwd ++ (":" ++ "\n") ++ message).toList
  simp only [String.append_assoc]

theorem Names.inDocument (cause : Failure) :
    p.Names d (.inDocument (d.display p.cwd) d.path cause) :=
  fun _ => ⟨rfl, fun _ => heading_begins p d cause.message⟩

theorem failureMessage_names : (p.heading d).toList <+: (p.failureMessage d failure).toList ↔
    (failure.isCompile = true → (p.heading d).toList <+: failure.message.toList) := by
  cases failure with
  | document fault path =>
    cases fault with
    | uncompiled message => exact ⟨fun h _ => h, fun h => h rfl⟩
    | _ => exact iff_of_true (heading_begins p d _) nofun
  | inDocument display path cause => exact ⟨fun h _ => h, fun h => h rfl⟩
  | _ => exact iff_of_true (heading_begins p d _) nofun

theorem documentFailure_isDocument (p : Pipeline) (d : Document) (failure : Failure) :
    (p.documentFailure d failure).isDocument = true := by
  rw [documentFailure]
  by_cases h : failure.isDocument = true
  · rwa [if_pos h]
  · rw [if_neg h]
    rfl

theorem documentFailure_path : (p.documentFailure d failure).path? = d.path ↔
    (failure.isDocument = true → failure.path? = d.path) := by
  rw [documentFailure]
  by_cases h : failure.isDocument = true
  · rw [if_pos h]
    exact ⟨fun hpath _ => hpath, fun hpath => hpath h⟩
  · rw [if_neg h]
    exact iff_of_true rfl fun hdocument => absurd hdocument h

/-- The document is named in the message and in the outcome when the failure names it, and only
then. -/
theorem names_iff : p.Names d failure ↔
    (p.heading d).toList <+: (p.failureMessage d failure).toList ∧
      (p.documentFailure d failure).path? = d.path := by
  have hcompile : failure.isCompile = true → failure.isDocument = true := by
    cases failure with
    | document | inDocument => exact fun _ => rfl
    | _ => exact nofun
  rw [failureMessage_names, documentFailure_path]
  constructor
  · exact fun h => ⟨fun hc => (h (hcompile hc)).2 hc, fun hd => (h hd).1⟩
  · exact fun h hd => ⟨h.2 hd, h.1⟩

end Naming

section Causes

theorem readSections_names (h : readSections d = .error failure) : p.Names d failure := by
  rw [readSections] at h
  rcases bind_eq_error.mp h with htext | ⟨text, -, hrest⟩
  · rw [Document.text] at htext
    split at htext
    · cases htext
      exact .of_path rfl rfl
    · cases htext
      exact .of_path rfl rfl
    · split at htext
      · cases htext
      · cases htext
        exact .of_path rfl rfl
  · rcases bind_eq_error.mp hrest with hparse | ⟨sections, -, hvalidate⟩
    · obtain ⟨fault, -, rfl⟩ := mapError_eq_error.mp hparse
      cases fault with
      | markup fault => exact .of_not_isDocument rfl
      | _ => exact .of_path rfl rfl
    · rcases bind_eq_error.mp hvalidate with hcensus | ⟨census, -, hpure⟩
      · rw [validateSections] at hcensus
        split at hcensus
        · cases hcensus
          exact .of_path rfl rfl
        · cases hcensus
      · cases hpure

/-- Whatever step a document fails at, the failure names it or was raised by a resolver or a
modifier. -/
theorem split_names (h : (p.split d).result = .error failure) :
    p.Names d failure ∨ p.RaisesDirectly d.path failure := by
  rcases split_eq_error h with hprepare | ⟨c, hc, ⟨cause, rfl⟩ | ⟨merged, hbuild⟩⟩
  · rcases prepare_eq_error hprepare with hread | ⟨text, sections, census, -, hresolve⟩
    · exact .inl (readSections_names hread)
    · obtain ⟨s, -, hraises⟩ := resolveSections_raises hresolve
      exact .inr hraises.raisesDirectly
  · obtain ⟨text, sections, census, resolved, -, -, rfl⟩ := prepare_eq_ok.mp hc
    exact .inl (.inDocument cause)
  · exact (buildArtifacts_error hbuild d.path).imp_left .of_not_isDocument

end Causes

section Failing

/-- A document without contents cannot be read. -/
theorem content_ne_missing (h : (p.split d).result = .error failure)
    (hreadable : ¬ failure.IsUnreadable) : d.content ≠ .missing := by
  intro hmissing
  have hread : readSections d =
      .error (.document (.unsupported "Document has no contents") d.path) := by
    rw [readSections, Document.text, hmissing]
    rfl
  rw [split, compile, prepare, Job.bind_result, Job.bind_result, Job.bind_result, Job.done_result,
    hread] at h
  cases h
  exact hreadable trivial

theorem explain_of_readable (hreadable : ¬ failure.IsUnreadable) :
    p.explain d failure = (⟨.error, p.failureMessage d failure⟩,
      { path := d.path, status := .failed, error := some (p.documentFailure d failure) }) := by
  cases failure with
  | document fault path =>
    cases fault with
    | unsupported | undecodable => exact absurd trivial hreadable
    | _ => rfl
  | _ => rfl

/-- What a document comes to that can be read but not split. -/
theorem process_of_readable (h : (p.split d).result = .error failure)
    (hreadable : ¬ failure.IsUnreadable) (sink : Sink σ) (state : σ) :
    p.process sink state d =
      (state, (p.split d).log ++ [⟨.error, p.failureMessage d failure⟩],
        { path := d.path, status := .failed, error := some (p.documentFailure d failure) }) := by
  have hattempt : p.attempt d = ⟨(p.split d).log ++ [⟨.error, p.failureMessage d failure⟩],
      .error { path := d.path, status := .failed, error := some (p.documentFailure d failure) }⟩ := by
    rw [attempt, if_neg (content_ne_missing h hreadable)]
    simp only [h, explain_of_readable hreadable]
  rw [process, hattempt]
  simp [conclude]

theorem calls_ne_nil {a : Artifact} {artifacts : List Artifact}
    (h : (p.attempt d).result = .ok (a :: artifacts)) (sink : Sink σ) (state : σ) :
    p.calls sink state d ≠ [] := by
  obtain ⟨made, hmade, hrecorded, -⟩ := deliver_calls sink state [] (a :: artifacts)
  rw [calls, (process_of_cons h sink.recorded (state, [])).1, hrecorded]
  rintro hnil
  obtain rfl : made = [] := by simpa using hnil
  cases hmade

/-- A document that fails while its sink is not called can be read but not split. -/
theorem readable_of_failed {sink : Sink σ} {state : σ}
    (hfailed : (p.outcome sink state d).status = .failed) (hcalls : p.calls sink state d = []) :
    ∃ failure, (p.split d).result = .error failure ∧ ¬ failure.IsUnreadable := by
  cases h : (p.attempt d).result with
  | error outcome =>
    rw [(process_of_error h sink state).2] at hfailed
    rcases attempt_eq_error.mp h with ⟨-, rfl⟩ | ⟨-, failure, hsplit, rfl⟩
    · cases hfailed
    · refine ⟨failure, hsplit, ?_⟩
      rcases (explain_status p d failure).2 with ⟨hskipped, -⟩ | ⟨-, hreadable⟩
      · rw [hfailed] at hskipped
        cases hskipped
      · exact hreadable
  | ok artifacts =>
    cases artifacts with
    | nil =>
      rw [(process_of_nil h sink state).2] at hfailed
      cases hfailed
    | cons a artifacts => exact absurd hcalls (calls_ne_nil h sink state)

theorem isTraced_iff (sink : Sink σ) (state : σ) : p.IsTraced sink state d ↔
    ∀ failure, (p.split d).result = .error failure → failure.IsUnreadable ∨ p.Names d failure := by
  constructor
  · intro htraced failure hsplit
    by_cases hreadable : failure.IsUnreadable
    · exact .inl hreadable
    · have hprocess := process_of_readable hsplit hreadable sink state
      have hrecorded := process_of_readable hsplit hreadable sink.recorded (state, [])
      obtain ⟨⟨message, hlog, hheading⟩, found, herror, -, hpath⟩ :=
        htraced (by rw [outcome, hprocess]) (by rw [calls, hrecorded])
      rw [hprocess] at hlog
      rw [outcome, hprocess] at herror
      cases herror
      obtain rfl : p.failureMessage d failure = message := by simpa using hlog
      exact .inr (names_iff.mpr ⟨hheading, hpath⟩)
  · intro hall hfailed hcalls
    obtain ⟨failure, hsplit, hreadable⟩ := readable_of_failed hfailed hcalls
    have hnames := names_iff.mp ((hall failure hsplit).resolve_left hreadable)
    have hprocess := process_of_readable hsplit hreadable sink state
    refine ⟨⟨p.failureMessage d failure, by rw [hprocess], hnames.1⟩,
      p.documentFailure d failure, by rw [outcome, hprocess], ?_, hnames.2⟩
    exact documentFailure_isDocument p d failure

end Failing

/-- A document that fails before its delivery is named in the report and in its outcome exactly when
the failure of its splitting names it, and a failure that does not was raised by a resolver or a
modifier. -/
theorem process_isTraced_iff (p : Pipeline) (sink : Sink σ) (state : σ) (d : Document) :
    (p.IsTraced sink state d ↔ ∀ failure, (p.split d).result = .error failure →
      failure.IsUnreadable ∨ p.Names d failure) ∧
      ∀ failure, (p.split d).result = .error failure →
        p.Names d failure ∨ p.RaisesDirectly d.path failure :=
  ⟨isTraced_iff sink state, fun _ => split_names⟩

/-- A failure of a section's compiler that carries no path. -/
def boom : Failure := .document (.uncompiled "boom") none

/-- The resolver for styles fails with it. -/
def boomPipeline : Pipeline :=
  ofOptions { tags := [("style", fun _ _ _ => .error boom)] } (.ofTexts []) {} []

def boomDocument : Document := .ofText "<style>x</style>" (some "a.vue") none

theorem split_boom : (boomPipeline.split boomDocument).result = .error boom := by
  decide +kernel

theorem process_isTraced_iff_boom : (boomPipeline.split boomDocument).result = .error boom ∧
    (boomPipeline.Names boomDocument boom ∨
      boomPipeline.RaisesDirectly boomDocument.path boom) :=
  ⟨split_boom,
    (process_isTraced_iff boomPipeline (memorySink fun _ => none) [] boomDocument).2 boom
      split_boom⟩

theorem boom_not_isTraced : ¬ boomPipeline.IsTraced (memorySink fun _ => none) [] boomDocument := by
  intro htraced
  rcases (isTraced_iff _ _).mp htraced boom split_boom with hunreadable | hnames
  · exact hunreadable
  · have hpath := (hnames rfl).1
    cases hpath

end Pipeline

end ComponentSplit
