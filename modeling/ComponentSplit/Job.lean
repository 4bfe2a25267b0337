import ComponentSplit.Failure
import ComponentSplit.Log

/-!
Jobs: pieces of work that report messages, may have to wait, and end with a value or a failure.
Jobs of one document are done side by side; one that waits `t` times ends in round `t`, and of
several failures the one of the earliest round counts, in one round that of the earliest job.
-/

namespace ComponentSplit

/-- A stretch of turns, from the one in which a function that may wait starts to the one in which it
is done. -/
structure Span where
  start : Nat
  stop : Nat
deriving DecidableEq, Repr

def Span.later (s : Span) (turns : Nat) : Span := ⟨s.start + turns, s.stop + turns⟩

/-- The messages of a piece of work, how many times it waits, when its functions that may wait are
at work, and how it ends. -/
structure Job (α : Type) where
  log : Log := []
  turns : Nat := 0
  spans : List Span := []
  result : Except Failure α

namespace Job

variable {α β : Type}

def done (result : Except Failure α) : Job α := { result }

def fail (failure : Failure) : Job α := done (.error failure)

def report (level : Level) (message : String) : Job Unit :=
  { log := [⟨level, message⟩], result := .ok () }

protected def bind (job : Job α) (next : α → Job β) : Job β :=
  match job.result with
  | .ok a =>
    let after := next a
    ⟨job.log ++ after.log, job.turns + after.turns,
      job.spans ++ after.spans.map (·.later job.turns), after.result⟩
  | .error failure => ⟨job.log, job.turns, job.spans, .error failure⟩

instance : Monad Job where
  pure a := done (.ok a)
  bind := Job.bind

/-- The earlier of two failures given with their rounds. -/
def earlier (a b : Nat × Failure) : Nat × Failure := if b.1 < a.1 then b else a

/-- The first failure among jobs done side by side, with its round. -/
def firstFailure? : List (Job α) → Option (Nat × Failure)
  | [] => none
  | job :: rest =>
    match job.result, firstFailure? rest with
    | .ok _, found => found
    | .error failure, none => some (job.turns, failure)
    | .error failure, some found => some (earlier (job.turns, failure) found)

def values (jobs : List (Job α)) : List α :=
  jobs.filterMap fun job => job.result.toOption

/-- Jobs done side by side. -/
def gather (jobs : List (Job α)) : Job (List α) :=
  let log := jobs.flatMap Job.log
  let spans := jobs.flatMap Job.spans
  match firstFailure? jobs with
  | some (turns, failure) => ⟨log, turns, spans, .error failure⟩
  | none => ⟨log, (jobs.map Job.turns).foldl max 0, spans, .ok (values jobs)⟩

@[simp]
theorem pure_result (a : α) : (pure a : Job α).result = .ok a := rfl

theorem bind_of_ok {job : Job α} {a : α} (next : α → Job β) (h : job.result = .ok a) :
    (job >>= next).result = (next a).result ∧ (job >>= next).log = job.log ++ (next a).log := by
  change (Job.bind job next).result = _ ∧ (Job.bind job next).log = _
  simp [Job.bind, h]

theorem bind_of_error {job : Job α} {failure : Failure} (next : α → Job β)
    (h : job.result = .error failure) :
    (job >>= next).result = .error failure ∧ (job >>= next).log = job.log := by
  change (Job.bind job next).result = _ ∧ (Job.bind job next).log = _
  simp [Job.bind, h]

end Job

end ComponentSplit
