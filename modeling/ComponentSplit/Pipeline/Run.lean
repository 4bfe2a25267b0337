import ComponentSplit.Pipeline.Outcome
import ComponentSplit.Pipeline.Schedule

namespace ComponentSplit

/-- The outcomes of a run, in the order of the documents. -/
structure Report where
  outcomes : List Outcome

namespace Report

def artifacts (r : Report) : List Artifact := r.outcomes.flatMap (·.artifacts)

def failed (r : Report) : List Outcome := r.outcomes.filter (·.status == .failed)

def skipped (r : Report) : List Outcome := r.outcomes.filter (·.status == .skipped)

def isOk (r : Report) : Bool := r.failed.isEmpty

end Report

/-- A document on its way through a run, with its place among the documents. -/
structure Passage where
  index : Nat
  document : Document
  attempt : Attempt

/-- What a run leaves: the state of the sink, the messages, and the outcomes with the places of
their documents, in the order in which they were reached. -/
structure Arrivals (σ : Type) where
  state : σ
  log : Log
  outcomes : List (Nat × Outcome)

/-- What a run comes to. -/
structure RunResult (σ : Type) where
  state : σ
  log : Log
  report : Report
  peak : Nat

/-- What happens while a stream is read: the next document is asked for, or an artifact is handed
out. -/
inductive StreamEvent
  | pull (index : Nat)
  | artifact (a : Artifact)
deriving DecidableEq

def Attempt.delivers (a : Attempt) : Bool :=
  match a.result with
  | .ok artifacts => !artifacts.isEmpty
  | .error _ => false

namespace Pipeline

/-- Conclude documents in the order in which they arrive. -/
def arrive (p : Pipeline) (sink : Sink σ) (state : σ) : List Passage → Arrivals σ
  | [] => ⟨state, [], []⟩
  | passage :: rest =>
    let (state, log, outcome) := p.conclude sink state passage.document passage.attempt.result
    let after := p.arrive sink state rest
    ⟨after.state, passage.attempt.log ++ log ++ after.log,
      (passage.index, outcome) :: after.outcomes⟩

/-- The work on the sections of a document; there is none unless it can be prepared. -/
def tasks (p : Pipeline) (d : Document) : List Task :=
  match (p.prepare d).result with
  | .ok context => (p.sectionJobs context).map Job.task
  | .error _ => []

/-- The documents with their places and the work that they take. -/
def flights (p : Pipeline) (documents : List Document) : List (Flight Passage) :=
  documents.mapIdx fun index document =>
    let attempt := p.attempt document
    ⟨⟨index, document, attempt⟩, p.tasks document, attempt.delivers⟩

def failureLog (r : Report) : Log :=
  if r.failed.isEmpty then []
  else [⟨.warning, s!"{r.failed.length} of {r.outcomes.length} documents failed"⟩]

def run (p : Pipeline) (limit : Nat) (sink : Sink σ) (state : σ) (documents : List Document) :
    RunResult σ :=
  let flights := p.flights documents
  let arrivals := p.arrive sink state (Flight.landings limit flights)
  let outcomes := (List.range documents.length).filterMap (List.lookup · arrivals.outcomes)
  let report : Report := ⟨outcomes⟩
  ⟨arrivals.state, arrivals.log ++ failureLog report, report, Flight.peak limit flights⟩

/-- The limit that a run keeps: none given, or zero, leaves it to the settings. -/
def limitOf (p : Pipeline) (limit : Option Int) : Except Failure Nat :=
  match limit.filter (· != 0) with
  | none => .ok p.settings.maxConcurrentDocuments
  | some n => if n < 0 then .error .negativeLimit else .ok n.toNat

/-- The artifacts that a document adds to a stream. -/
def streamed (p : Pipeline) (d : Document) : List Artifact :=
  match (p.attempt d).result with
  | .ok artifacts => artifacts
  | .error _ => []

/-- Read a stream, from the document at a place on, until `take` artifacts are handed out. The next
document is asked for only when all artifacts of the one before are taken. -/
def streamFrom (p : Pipeline) (take : Option Nat) (index : Nat) :
    List Document → Log × List StreamEvent
  | [] => ([], [])
  | d :: rest =>
    if take = some 0 then ([], [])
    else
      let artifacts := p.streamed d
      let given := match take with
        | some n => artifacts.take n
        | none => artifacts
      let after := p.streamFrom (take.map (· - artifacts.length)) (index + 1) rest
      ((p.attempt d).log ++ after.1, .pull index :: given.map .artifact ++ after.2)

def stream (p : Pipeline) (take : Option Nat) (documents : List Document) :
    Log × List StreamEvent :=
  p.streamFrom take 0 documents

end Pipeline

end ComponentSplit
