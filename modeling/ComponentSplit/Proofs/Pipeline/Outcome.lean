import ComponentSplit.Pipeline.Outcome
import ComponentSplit.Proofs.Pipeline.Delivery
import ComponentSplit.Proofs.Pipeline.Unreadable

namespace ComponentSplit

namespace Pipeline

theorem explain_status (p : Pipeline) (d : Document) (failure : Failure) :
    (p.explain d failure).2.artifacts = [] ∧
      ((p.explain d failure).2.status = .skipped ∧ failure.IsUnreadable ∨
        (p.explain d failure).2.status = .failed ∧ ¬ failure.IsUnreadable) := by
  cases failure with
  | document fault path =>
    cases fault <;> simp [explain, Failure.IsUnreadable]
  | _ => simp [explain, Failure.IsUnreadable]

section Processing

variable {σ : Type}

theorem attempt_of_ok {p : Pipeline} {d : Document} {artifacts : List Artifact}
    (h : (p.split d).result = .ok artifacts) : (p.attempt d).result = .ok artifacts := by
  obtain ⟨c, -, hc, -, -⟩ := split_eq_ok.mp h
  obtain ⟨text, hcontent⟩ := isText_of_prepare hc
  rw [attempt, if_neg (by simp [hcontent])]
  simp only [h]

/-- A document without contents is not split, and what becomes of any other is what splitting it
comes to. -/
theorem attempt_result (p : Pipeline) (d : Document) :
    (p.attempt d).result =
      if d.content = .missing then .error { path := d.path, status := .skipped }
      else (p.split d).result.mapError fun failure => (p.explain d failure).2 := by
  rw [attempt]
  by_cases hmissing : d.content = .missing
  · rw [if_pos hmissing, if_pos hmissing]
  · rw [if_neg hmissing, if_neg hmissing]
    cases hsplit : (p.split d).result <;> simp [hsplit, Except.mapError]

theorem attempt_eq_error {p : Pipeline} {d : Document} {outcome : Outcome} :
    (p.attempt d).result = .error outcome ↔
      d.content = .missing ∧ outcome = { path := d.path, status := .skipped } ∨
        d.content ≠ .missing ∧ ∃ failure, (p.split d).result = .error failure ∧
          outcome = (p.explain d failure).2 := by
  rw [attempt_result]
  by_cases hmissing : d.content = .missing
  · simp [hmissing, eq_comm]
  · simp only [hmissing, if_false, mapError_eq_error, false_and, false_or, not_false_eq_true,
      true_and, ne_eq, @eq_comm _ outcome]

theorem attempt_artifacts {p : Pipeline} {d : Document} {outcome : Outcome}
    (h : (p.attempt d).result = .error outcome) : outcome.artifacts = [] := by
  rcases attempt_eq_error.mp h with ⟨-, rfl⟩ | ⟨-, failure, -, rfl⟩
  · rfl
  · exact (explain_status p d failure).1

theorem attempt_of_error {p : Pipeline} {d : Document} {failure : Failure} (hp : p.FailsPlainly)
    (h : (p.split d).result = .error failure) :
    ∃ outcome, (p.attempt d).result = .error outcome ∧ outcome.artifacts = [] ∧
      (outcome.status = .skipped ∧ ¬ d.IsText ∨ outcome.status = .failed ∧ d.IsText) := by
  rw [attempt]
  by_cases hmissing : d.content = .missing
  · rw [if_pos hmissing]
    refine ⟨_, rfl, rfl, .inl ⟨rfl, ?_⟩⟩
    rintro ⟨text, hcontent⟩
    rw [hmissing] at hcontent
    cases hcontent
  · rw [if_neg hmissing]
    simp only [h]
    obtain ⟨hnone, hstatus⟩ := explain_status p d failure
    have hiff := split_isUnreadable_iff hp h
    refine ⟨_, rfl, hnone, ?_⟩
    rcases hstatus with ⟨hskipped, hunreadable⟩ | ⟨hfailed, hreadable⟩
    · exact .inl ⟨hskipped, hiff.mp hunreadable⟩
    · exact .inr ⟨hfailed, not_not.mp fun htext => hreadable (hiff.mpr htext)⟩

/-- What processing a document ends with. -/
def outcome (p : Pipeline) (sink : Sink σ) (state : σ) (d : Document) : Outcome :=
  (p.process sink state d).2.2

/-- The calls of a sink that processing a document makes. -/
def calls (p : Pipeline) (sink : Sink σ) (state : σ) (d : Document) : List Call :=
  (p.process sink.recorded (state, []) d).1.2

theorem process_of_error {p : Pipeline} {d : Document} {o : Outcome}
    (h : (p.attempt d).result = .error o) (sink : Sink σ) (state : σ) :
    (p.process sink state d).1 = state ∧ p.outcome sink state d = o := by
  rw [outcome, process, h]
  exact ⟨rfl, rfl⟩

theorem process_of_nil {p : Pipeline} {d : Document} (h : (p.attempt d).result = .ok [])
    (sink : Sink σ) (state : σ) :
    (p.process sink state d).1 = state ∧
      p.outcome sink state d = { path := d.path, status := .empty } := by
  rw [outcome, process, h]
  exact ⟨rfl, rfl⟩

theorem process_of_cons {p : Pipeline} {d : Document} {a : Artifact} {artifacts : List Artifact}
    (h : (p.attempt d).result = .ok (a :: artifacts)) (sink : Sink σ) (state : σ) :
    (p.process sink state d).1 = (deliver sink state (a :: artifacts)).state ∧
      p.outcome sink state d =
        match (deliver sink state (a :: artifacts)).failure with
        | some failure => { path := d.path, status := .failed, error := some failure }
        | none => { path := d.path, status := .emitted, artifacts := a :: artifacts } := by
  rw [outcome, process, h]
  cases hfailure : (deliver sink state (a :: artifacts)).failure <;>
    simp [conclude, hfailure]

/-- What processing a document comes to, for the document and for the sink. -/
structure IsClassified (p : Pipeline) (sink : Sink σ) (state : σ) (d : Document) : Prop where
  skipped : (p.outcome sink state d).status = .skipped ↔ ¬ d.IsText
  empty : (p.outcome sink state d).status = .empty ↔ (p.split d).result = .ok []
  emitted : (p.outcome sink state d).status = .emitted ↔
    ∃ artifacts, (p.split d).result = .ok artifacts ∧ artifacts ≠ [] ∧
      ∀ c ∈ p.calls sink state d, c.refusal = none
  failed : (p.outcome sink state d).status = .failed ↔
    d.IsText ∧ ∀ artifacts, (p.split d).result = .ok artifacts →
      artifacts ≠ [] ∧ ∃ c ∈ p.calls sink state d, c.refusal ≠ none
  emitted_artifacts : (p.outcome sink state d).status = .emitted →
    (p.split d).result = .ok (p.outcome sink state d).artifacts
  other_artifacts : (p.outcome sink state d).status ≠ .emitted →
    (p.outcome sink state d).artifacts = []
  /-- The sink is called for the artifacts of the document, each once and in their order. -/
  delivered : (p.calls sink state d).map Call.artifact = (p.split d).result.toOption.getD []
  /-- The sink is called for a document that is emitted, or that fails because the sink refuses. -/
  delivering : p.calls sink state d ≠ [] → (p.outcome sink state d).status = .emitted ∨
    (p.outcome sink state d).status = .failed ∧ ∃ c ∈ p.calls sink state d, c.refusal ≠ none
  /-- Afterwards a sink that keeps artifacts holds those it did not refuse. -/
  held : ∀ held, sink.Keeps held →
    held (p.process sink state d).1 = held state ++ accepted (p.calls sink state d)

theorem IsClassified.of_error {p : Pipeline} {d : Document} {failure : Failure}
    (hp : p.FailsPlainly) (h : (p.split d).result = .error failure) (sink : Sink σ) (state : σ) :
    p.IsClassified sink state d := by
  obtain ⟨o, hattempt, hnone, hstatus⟩ := attempt_of_error hp h
  obtain ⟨hstate, houtcome⟩ := process_of_error hattempt sink state
  have hcalls : p.calls sink state d = [] := by
    rw [calls, (process_of_error hattempt sink.recorded (state, [])).1]
  constructor
  case skipped =>
    rw [houtcome]
    rcases hstatus with ⟨hs, htext⟩ | ⟨hs, htext⟩ <;> simp [hs, htext]
  case empty =>
    rw [houtcome, h]
    rcases hstatus with ⟨hs, -⟩ | ⟨hs, -⟩ <;> simp [hs]
  case emitted =>
    rw [houtcome, h]
    rcases hstatus with ⟨hs, -⟩ | ⟨hs, -⟩ <;> simp [hs]
  case failed =>
    rw [houtcome, h]
    rcases hstatus with ⟨hs, htext⟩ | ⟨hs, htext⟩ <;> simp [hs, htext]
  case emitted_artifacts =>
    rw [houtcome]
    rcases hstatus with ⟨hs, -⟩ | ⟨hs, -⟩ <;> simp [hs]
  case other_artifacts => exact fun _ => by rw [houtcome, hnone]
  case delivered => simp [hcalls, h, Except.toOption]
  case delivering => exact fun hne => absurd hcalls hne
  case held =>
    intro held _
    simp [hstate, hcalls, accepted]

theorem IsClassified.of_nil {p : Pipeline} {d : Document} (h : (p.split d).result = .ok [])
    (sink : Sink σ) (state : σ) : p.IsClassified sink state d := by
  have hattempt := attempt_of_ok h
  obtain ⟨c, -, hc, -, -⟩ := split_eq_ok.mp h
  have htext := isText_of_prepare hc
  obtain ⟨hstate, houtcome⟩ := process_of_nil hattempt sink state
  have hcalls : p.calls sink state d = [] := by
    rw [calls, (process_of_nil hattempt sink.recorded (state, [])).1]
  constructor
  case delivered => simp [hcalls, h, Except.toOption]
  case held =>
    intro held _
    simp [hstate, hcalls, accepted]
  all_goals simp [houtcome, h, htext, hcalls]

theorem IsClassified.of_cons {p : Pipeline} {d : Document} {a : Artifact}
    {artifacts : List Artifact} (h : (p.split d).result = .ok (a :: artifacts))
    (sink : Sink σ) (state : σ) : p.IsClassified sink state d := by
  have hattempt := attempt_of_ok h
  obtain ⟨c, -, hc, -, -⟩ := split_eq_ok.mp h
  have htext := isText_of_prepare hc
  obtain ⟨made, hmade, hrecorded, hfailure, hheld⟩ :=
    deliver_calls sink state [] (a :: artifacts)
  obtain ⟨hstate, houtcome⟩ := process_of_cons hattempt sink state
  have hcalls : p.calls sink state d = made := by
    rw [calls, (process_of_cons hattempt sink.recorded (state, [])).1, hrecorded]
    simp
  have hne : made ≠ [] := by
    rintro rfl
    cases hmade
  have hholds : ∀ held, sink.Keeps held →
      held (p.process sink state d).1 = held state ++ accepted (p.calls sink state d) := by
    intro held hkeeps
    rw [hstate, hcalls]
    exact hheld held hkeeps
  cases hrefusal : (deliver sink state (a :: artifacts)).failure with
  | none =>
    have hall := hfailure.mp hrefusal
    rw [hrefusal] at houtcome
    constructor
    case delivered => simp [hcalls, hmade, h, Except.toOption]
    case held => exact hholds
    all_goals simp [houtcome, h, htext, hcalls]
    all_goals exact hall
  | some failure =>
    have hsome : ∃ c ∈ made, c.refusal ≠ none := by
      by_contra! hnone
      rw [hfailure.mpr hnone] at hrefusal
      cases hrefusal
    rw [hrefusal] at houtcome
    constructor
    case delivered => simp [hcalls, hmade, h, Except.toOption]
    case held => exact hholds
    all_goals simp [houtcome, h, htext, hcalls, hsome]

/-- Processing a document ends with an outcome in every case, and the outcome tells the cases
apart. -/
theorem process_isClassified {p : Pipeline} (hp : p.FailsPlainly) (sink : Sink σ) (state : σ)
    (d : Document) : p.IsClassified sink state d := by
  cases h : (p.split d).result with
  | error failure => exact .of_error hp h sink state
  | ok artifacts =>
    cases artifacts with
    | nil => exact .of_nil h sink state
    | cons a artifacts => exact .of_cons h sink state

/-- Options with a kind of section for which no extension is ever found. -/
def namelessOptions : Options where
  tags := [("docs", fun _ _ _ => .error (.raised "ValueError" "no name"))]
  compilers := [("docs", fun _ content _ _ => pure (.text content))]
  modifiers := [("style", fun _ _ => .ok .null)]

def namelessPipeline : Pipeline := ofOptions namelessOptions (.ofTexts []) {} []

theorem namelessPipeline_failsPlainly : namelessPipeline.FailsPlainly := by
  refine ofOptions_failsPlainly ?_ ?_ _ _ _
  · intro r hr lang path s failure h
    obtain rfl : r = _ := by simpa [namelessOptions] using hr
    cases h
    rfl
  · intro m hm content lang failure h
    obtain rfl : m = _ := by simpa [namelessOptions] using hm
    cases h

def namelessDocument : Document := .ofText "<docs>x</docs>" none none

theorem process_isClassified_nameless :
    namelessPipeline.FailsPlainly ∧
      namelessPipeline.IsClassified (memorySink fun _ => none) [] namelessDocument ∧
      (namelessPipeline.process (memorySink fun _ => none) [] namelessDocument).1 =
        accepted (namelessPipeline.calls (memorySink fun _ => none) [] namelessDocument) := by
  have hclassified := process_isClassified namelessPipeline_failsPlainly (memorySink fun _ => none)
    [] namelessDocument
  exact ⟨namelessPipeline_failsPlainly, hclassified, hclassified.held id (memorySink_keeps _)⟩

end Processing

end Pipeline

end ComponentSplit
