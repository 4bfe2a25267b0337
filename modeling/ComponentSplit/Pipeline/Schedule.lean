import ComponentSplit.Job

/-!
Schedules of runs. All work stands in one line and is done a move at a time: what has to wait goes
back to the end of the line. A document enters when there is room for it, its sections are worked
on side by side, what they come to is noted, its artifacts are handed over together, and it leaves
its room to the document that has waited longest.
-/

namespace ComponentSplit

/-- The work on a section: how many times it waits, whether it fails, and when its functions are
at work. -/
structure Task where
  turns : Nat
  fails : Bool
  spans : List Span := []
deriving DecidableEq, Repr

def Job.task (job : Job α) : Task := ⟨job.turns, !job.result.isOk, job.spans⟩

/-- A document on its way through a run: what it carries, the work on its sections, and whether it
has artifacts to hand over. -/
structure Flight (α : Type) where
  load : α
  tasks : List Task
  delivers : Bool

/-- A move of the document at a place among the documents. -/
inductive Move
  | enter (index : Nat)
  | board (index : Nat)
  | work (index : Nat) (task : Task) (turn : Nat)
  | settle (index : Nat) (failed : Bool)
  | gathered (index : Nat)
  | deliver (index : Nat)
  | acknowledge (index : Nat)
  | leave (index : Nat)
deriving DecidableEq, Repr

/-- What a run is about to do and what it has done: the room that is left, the documents that wait
for room, the moves to come, how many sections are still open in the documents whose sections are
worked on, how many functions are at work, the most there have been, and the documents that have
landed. -/
structure Traffic where
  room : Nat
  waiting : List Nat := []
  line : List Move := []
  unsettled : List (Nat × Nat) := []
  active : Nat := 0
  peak : Nat := 0
  landed : List Nat := []

/-- The place of the document that a move is about. -/
def Move.index : Move → Nat
  | enter i | board i | work i _ _ | settle i _ | gathered i | deliver i | acknowledge i
  | leave i => i

namespace Traffic

def queue (t : Traffic) (moves : List Move) : Traffic := { t with line := t.line ++ moves }

/-- A document hands over what it has; of one that has nothing, this is all that is left to do. -/
def land (t : Traffic) (index : Nat) : Traffic := { t with landed := t.landed ++ [index] }

/-- A document gives up its room, to the first one that waits for it. -/
def release (t : Traffic) : Traffic :=
  match t.waiting with
  | [] => { t with room := t.room + 1 }
  | next :: rest => { t with waiting := rest }.queue [.board next]

/-- A document all sections of which are done, or one of which failed. -/
def finish (t : Traffic) (f : Flight α) (index : Nat) : Traffic :=
  if f.delivers then t.queue [.deliver index] else (t.land index).release

/-- A document that has room: the work on its sections begins in their order. -/
def start (t : Traffic) (f : Flight α) (index : Nat) : Traffic :=
  if f.tasks.isEmpty then t.finish f index
  else { t with unsettled := (index, f.tasks.length) :: t.unsettled }.queue
    (f.tasks.map (Move.work index · 0))

/-- The functions that start and stop in a turn of a task. -/
def count (t : Traffic) (task : Task) (turn : Nat) : Traffic :=
  let begun := t.active + (task.spans.filter (·.start == turn)).length
  { t with
    active := begun - (task.spans.filter (·.stop == turn)).length
    peak := max t.peak begun }

/-- A section came to its end. The first failure ends the document's wait for its sections, and so
does the last section. -/
def settleOne (t : Traffic) (index : Nat) (failed : Bool) : Traffic :=
  match t.unsettled.lookup index with
  | none => t
  | some unsettled =>
    let others := t.unsettled.filter (·.1 != index)
    if failed || unsettled == 1 then { t with unsettled := others }.queue [.gathered index]
    else { t with unsettled := (index, unsettled - 1) :: others }

def make (t : Traffic) (f : Flight α) : Move → Traffic
  | .enter i =>
    if t.room = 0 ∨ !t.waiting.isEmpty then { t with waiting := t.waiting ++ [i] }
    else { t with room := t.room - 1 }.start f i
  | .board i => t.start f i
  | .work i task turn =>
    (t.count task turn).queue
      [if turn < task.turns then .work i task (turn + 1) else .settle i task.fails]
  | .settle i failed => t.settleOne i failed
  | .gathered i => t.finish f i
  | .deliver i => (t.land i).queue [.acknowledge i]
  | .acknowledge i => t.queue [.leave i]
  | .leave _ => t.release

/-- Make the moves of the line, as many as a budget allows. -/
def run (flights : Array (Flight α)) (budget : Nat) (t : Traffic) : Traffic :=
  match budget, t.line with
  | budget + 1, move :: rest =>
    let t := { t with line := rest }
    run flights budget (match flights[move.index]? with
      | some f => t.make f move
      | none => t)
  | _, _ => t

end Traffic

namespace Flight

variable {α : Type}

/-- How many moves a document takes at most: six of its own, and those of its sections. -/
def moves (f : Flight α) : Nat := f.tasks.foldl (fun count task => count + task.turns + 2) 6

/-- A run of documents with room for a limited number, to its end. -/
def traffic (limit : Nat) (flights : List (Flight α)) : Traffic :=
  Traffic.run flights.toArray (flights.foldl (fun count f => count + f.moves) 0)
    { room := limit, line := (List.range flights.length).map .enter }

/-- What the documents carry, in the order in which they land. -/
def landings (limit : Nat) (flights : List (Flight α)) : List α :=
  (traffic limit flights).landed.filterMap fun i => flights[i]?.map Flight.load

/-- The greatest number of functions that wait at the same time. -/
def peak (limit : Nat) (flights : List (Flight α)) : Nat := (traffic limit flights).peak

end Flight

end ComponentSplit
