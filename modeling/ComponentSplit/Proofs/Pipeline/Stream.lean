import ComponentSplit.Proofs.Pipeline.Isolation

namespace ComponentSplit

/-- The artifact that is handed out, if one is. -/
def StreamEvent.artifact? : StreamEvent → Option Artifact
  | pull _ => none
  | artifact a => some a

/-- The artifacts that are handed out, in their order. -/
def yielded (events : List StreamEvent) : List Artifact :=
  events.filterMap StreamEvent.artifact?

theorem yielded_append (front back : List StreamEvent) :
    yielded (front ++ back) = yielded front ++ yielded back :=
  List.filterMap_append

theorem yielded_artifacts (artifacts : List Artifact) :
    yielded (artifacts.map .artifact) = artifacts := by
  rw [yielded, List.filterMap_map]
  exact List.filterMap_some

namespace Pipeline

variable {p : Pipeline}

/-- What the documents that have contents and can be split are split into, one document after the
other. -/
def splitAll (p : Pipeline) (documents : List Document) : List Artifact :=
  (documents.filter fun d => d.content ≠ .missing).flatMap fun d =>
    (p.split d).result.toOption.getD []

theorem streamed_eq (d : Document) :
    p.streamed d = (p.attempt d).result.toOption.getD [] := by
  rw [streamed]
  cases (p.attempt d).result <;> rfl

theorem splitAll_eq_flatMap (documents : List Document) :
    p.splitAll documents = documents.flatMap p.streamed := by
  induction documents with
  | nil => rfl
  | cons d documents ih =>
    rw [List.flatMap_cons, streamed_eq, attempt_result, ← ih, splitAll, splitAll,
      List.filter_cons]
    by_cases hmissing : d.content = .missing
    · simp [hmissing, Except.toOption]
    · cases hsplit : (p.split d).result <;> simp [hmissing, hsplit, Except.mapError, Except.toOption]

/-- Reading on, a stream hands out what the documents from here on have to give. -/
theorem yielded_streamFrom (index : Nat) (documents : List Document) :
    yielded (p.streamFrom none index documents).2 = documents.flatMap p.streamed := by
  induction documents generalizing index with
  | nil => rfl
  | cons d documents ih =>
    have hrest := ih (index + 1)
    rw [List.flatMap_cons, ← hrest]
    simp only [streamFrom, reduceCtorEq, if_false, Option.map_none]
    change yielded (List.map _ _ ++ _) = _
    rw [yielded_append, yielded_artifacts]

/-- What is left to take goes down by all that a document gives, so that the documents behind it
are read only when there is some left. -/
theorem yielded_streamFrom_take (n index : Nat) (documents : List Document) :
    yielded (p.streamFrom (some n) index documents).2 =
      (documents.flatMap p.streamed).take n := by
  induction documents generalizing n index with
  | nil => simp [streamFrom, yielded]
  | cons d documents ih =>
    cases n with
    | zero => simp [streamFrom, yielded]
    | succ n =>
      have hrest := ih (n + 1 - (p.streamed d).length) (index + 1)
      rw [List.flatMap_cons, List.take_append, ← hrest]
      simp only [streamFrom, Option.some.injEq, Nat.succ_ne_zero, if_false, Option.map_some]
      change yielded (List.map _ _ ++ _) = _
      rw [yielded_append, yielded_artifacts]

theorem outcome_artifacts {σ : Type} {sink : Sink σ} (hd : sink.Decides fun _ => none) (state : σ)
    (d : Document) : (p.outcome sink state d).artifacts = p.streamed d := by
  rw [streamed_eq]
  cases h : (p.attempt d).result with
  | error outcome =>
    rw [(process_of_error h sink state).2, attempt_artifacts h]
    rfl
  | ok artifacts =>
    cases artifacts with
    | nil =>
      rw [(process_of_nil h sink state).2]
      rfl
    | cons a artifacts =>
      have hfailure : (deliver sink state (a :: artifacts)).failure = none := by
        rw [deliver_failure hd]
        simp
      rw [(process_of_cons h sink state).2, hfailure]
      rfl

/-- Streams, runs and the splitting of one document after the other give the same artifacts in the
same order. A reader of a stream who stops early has the first of them. -/
theorem stream_run_split_agree (p : Pipeline) (documents : List Document) :
    yielded (p.stream none documents).2 = p.splitAll documents ∧
      (∀ n, yielded (p.stream (some n) documents).2 = (p.splitAll documents).take n) ∧
      ∀ {σ : Type} (sink : Sink σ) (state : σ) (limit : Nat), (sink.Decides fun _ => none) →
        1 ≤ limit → (p.run limit sink state documents).report.artifacts = p.splitAll documents := by
  rw [splitAll_eq_flatMap]
  refine ⟨yielded_streamFrom 0 documents, fun n => yielded_streamFrom_take n 0 documents, ?_⟩
  intro σ sink state limit hd hlimit
  have hgiven := memorySink_decides fun _ => none
  rw [Report.artifacts, run_outcomes_of_decides hd state hlimit, List.flatMap_map]
  exact congrArg documents.flatMap (funext fun d => outcome_artifacts hgiven [] d)

theorem stream_run_split_agree_mixed :
    ((memorySink fun _ => none).Decides fun _ => none) ∧ 1 ≤ 2 ∧
      (docsPipeline.run 2 (memorySink fun _ => none) [] mixedDocuments).report.artifacts =
        docsPipeline.splitAll mixedDocuments :=
  ⟨memorySink_decides _, by decide,
    (stream_run_split_agree docsPipeline mixedDocuments).2.2 (memorySink fun _ => none) [] 2
      (memorySink_decides _) (by decide)⟩

end Pipeline

end ComponentSplit
