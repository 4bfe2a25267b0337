import ComponentSplit.Pipeline.Context

namespace ComponentSplit

/-- The final state of a document. -/
inductive Status
  | emitted
  | empty
  | skipped
  | failed
deriving DecidableEq, Repr

def Status.name : Status → String
  | emitted => "emitted"
  | empty => "empty"
  | skipped => "skipped"
  | failed => "failed"

/-- What became of a document. -/
structure Outcome where
  path : Option String
  status : Status
  artifacts : List Artifact := []
  error : Option Failure := none
deriving DecidableEq

def Outcome.isOk (o : Outcome) : Bool := o.status != .failed

/-- A document after it was split: either its artifacts or, when there is nothing to deliver, its
outcome, with the messages reported. -/
structure Attempt where
  log : Log
  result : Except Outcome (List Artifact)

namespace Pipeline

/-- The failure that a document is reported with. What is no failure of the document yet becomes
one. -/
def documentFailure (p : Pipeline) (d : Document) (failure : Failure) : Failure :=
  if failure.isDocument then failure else .inDocument (d.display p.cwd) d.path failure

def failureMessage (p : Pipeline) (d : Document) (failure : Failure) : String :=
  match failure with
  | .document (.uncompiled message) _ => message
  | .document fault _ => s!"In file {d.display p.cwd}:\n{fault.message}"
  | failure => (p.documentFailure d failure).message

/-- The report and the outcome of a document that could not be split. -/
def explain (p : Pipeline) (d : Document) (failure : Failure) : Entry × Outcome :=
  match failure with
  | .document (.unsupported _) _ | .document (.undecodable _) _ =>
    (⟨.warning, s!"Skipping {d.display p.cwd}: {failure.message}"⟩,
      { path := d.path, status := .skipped, error := some failure })
  | _ =>
    (⟨.error, p.failureMessage d failure⟩,
      { path := d.path, status := .failed, error := some (p.documentFailure d failure) })

/-- Split a document, or say why there is nothing to deliver. A document without contents is
passed over. -/
def attempt (p : Pipeline) (d : Document) : Attempt :=
  if d.content = .missing then
    ⟨[⟨.debug, s!"Skipping {d.display p.cwd}: no contents"⟩],
      .error { path := d.path, status := .skipped }⟩
  else
    let job := p.split d
    match job.result with
    | .ok artifacts => ⟨job.log, .ok artifacts⟩
    | .error failure =>
      let (entry, outcome) := p.explain d failure
      ⟨job.log ++ [entry], .error outcome⟩

/-- Deliver the artifacts of a document, if there are any, and say what became of it. -/
def conclude (p : Pipeline) (sink : Sink σ) (state : σ) (d : Document)
    (result : Except Outcome (List Artifact)) : σ × Log × Outcome :=
  match result with
  | .error outcome => (state, [], outcome)
  | .ok [] =>
    (state, [⟨.info, s!"{d.display p.cwd}: no sections to emit"⟩],
      { path := d.path, status := .empty })
  | .ok artifacts =>
    let delivery := deliver sink state artifacts
    match delivery.failure with
    | some failure =>
      (delivery.state,
        delivery.log ++ [⟨.error,
          s!"In file {d.display p.cwd}: delivering artifacts failed: {failure.message}"⟩],
        { path := d.path, status := .failed, error := some failure })
    | none =>
      (delivery.state,
        delivery.log ++ [⟨.info, s!"{d.display p.cwd}: emitted " ++
          ", ".intercalate (artifacts.map Artifact.name)⟩],
        { path := d.path, status := .emitted, artifacts })

def process (p : Pipeline) (sink : Sink σ) (state : σ) (d : Document) : σ × Log × Outcome :=
  let attempt := p.attempt d
  let (state, log, outcome) := p.conclude sink state d attempt.result
  (state, attempt.log ++ log, outcome)

end Pipeline

end ComponentSplit
