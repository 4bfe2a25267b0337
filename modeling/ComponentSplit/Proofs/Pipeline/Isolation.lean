import ComponentSplit.Pipeline.Run
import ComponentSplit.Proofs.Pipeline.InOrder
import ComponentSplit.Proofs.Pipeline.Landing
import ComponentSplit.Proofs.Pipeline.Outcome

namespace ComponentSplit

theorem filterMap_range_getElem? {α β : Type} (xs : List α) (f : α → β) :
    ((List.range xs.length).filterMap fun i => xs[i]?.map f) = xs.map f := by
  induction xs with
  | nil => rfl
  | cons x xs ih =>
    rw [List.length_cons, List.range_succ_eq_map, List.filterMap_cons, List.filterMap_map,
      List.map_cons, ← ih]
    rfl

theorem lookup_filterMap {α β : Type} (xs : List α) (f : α → β) (order : List Nat) (i : Nat) :
    ((order.filterMap fun j => xs[j]?.map fun x => (j, x)).map fun e => (e.1, f e.2)).lookup i =
      if i ∈ order then xs[i]?.map f else none := by
  induction order with
  | nil => rfl
  | cons j order ih =>
    rw [List.filterMap_cons]
    cases hj : xs[j]? with
    | none =>
      rw [Option.map_none, ih]
      by_cases heq : i = j
      · subst heq
        simp [hj]
      · simp [heq]
    | some x =>
      rw [Option.map_some, List.map_cons, List.lookup_cons, ih]
      by_cases heq : i = j
      · subst heq
        simp [hj]
      · have hne : (i == j) = false := beq_eq_false_iff_ne.mpr heq
        simp [hne, heq]

namespace Pipeline

variable {p : Pipeline} (refuse : Artifact → Option Failure)

/-- What becomes of a document does not depend on the state of a sink that always refuses the same
artifacts. -/
theorem conclude_outcome {σ : Type} {sink : Sink σ} {refuse : Artifact → Option Failure}
    (hd : sink.Decides refuse) (state : σ) (d : Document)
    (result : Except Outcome (List Artifact)) :
    (p.conclude sink state d result).2.2 = (p.conclude (memorySink refuse) [] d result).2.2 := by
  cases result with
  | error outcome => rfl
  | ok artifacts =>
    cases artifacts with
    | nil => rfl
    | cons a artifacts =>
      have hsink := deliver_failure hd state (a :: artifacts)
      have hfresh := deliver_failure (memorySink_decides refuse) [] (a :: artifacts)
      simp only [conclude, hsink, hfresh]
      cases (a :: artifacts).findSome? refuse <;> rfl

/-- A sink that holds artifacts already takes up what a fresh one does, behind them. -/
theorem conclude_memorySink (kept : List Artifact) (d : Document)
    (result : Except Outcome (List Artifact)) :
    (p.conclude (memorySink refuse) kept d result).1 =
      kept ++ (p.conclude (memorySink refuse) [] d result).1 := by
  cases result with
  | error outcome => simp [conclude]
  | ok artifacts =>
    cases artifacts with
    | nil => simp [conclude]
    | cons a artifacts =>
      have hdecides := memorySink_decides refuse
      simp only [conclude, deliver_failure hdecides]
      cases (a :: artifacts).findSome? refuse with
      | none => simp [deliver_memorySink]
      | some failure => simp [deliver_memorySink]

/-- A document with its place and what splitting it comes to. -/
def passageOf (p : Pipeline) (e : Nat × Document) : Passage := ⟨e.1, e.2, p.attempt e.2⟩

theorem arrive_state (kept : List Artifact) (arrivals : List (Nat × Document)) :
    (p.arrive (memorySink refuse) kept (arrivals.map p.passageOf)).state =
      kept ++ arrivals.flatMap (fun e => (p.process (memorySink refuse) [] e.2).1) := by
  induction arrivals generalizing kept with
  | nil => simp [arrive]
  | cons e arrivals ih =>
    have hstate := conclude_memorySink (p := p) refuse kept e.2 (p.attempt e.2).result
    have hafter := ih (p.conclude (memorySink refuse) kept e.2 (p.attempt e.2).result).1
    rw [List.map_cons, arrive, List.flatMap_cons, ← List.append_assoc]
    exact hafter.trans (by rw [hstate]; rfl)

theorem arrive_outcomes {σ : Type} {sink : Sink σ} {refuse : Artifact → Option Failure}
    (hd : sink.Decides refuse) (state : σ) (arrivals : List (Nat × Document)) :
    (p.arrive sink state (arrivals.map p.passageOf)).outcomes =
      arrivals.map fun e => (e.1, p.outcome (memorySink refuse) [] e.2) := by
  induction arrivals generalizing state with
  | nil => rfl
  | cons e arrivals ih =>
    have houtcome := conclude_outcome (p := p) hd state e.2 (p.attempt e.2).result
    have hafter := ih (p.conclude sink state e.2 (p.attempt e.2).result).1
    rw [List.map_cons, arrive, List.map_cons]
    exact congrArg₂ List.cons (by rw [passageOf, houtcome]; rfl) hafter

theorem landings_flights (limit : Nat) (documents : List Document) :
    Flight.landings limit (p.flights documents) =
      ((Flight.traffic limit (p.flights documents)).landed.filterMap fun i =>
        documents[i]?.map fun d => (i, d)).map p.passageOf := by
  rw [Flight.landings, List.map_filterMap]
  refine List.filterMap_congr fun i _ => ?_
  rw [flights, List.getElem?_mapIdx, Option.map_map, Option.map_map]
  rfl

/-- The documents of a run in the order in which they land. -/
def landedIn (p : Pipeline) (limit : Nat) (documents : List Document) : List Document :=
  (Flight.traffic limit (p.flights documents)).landed.filterMap fun i => documents[i]?

section Runs

variable {limit : Nat} {documents : List Document}

theorem landed_perm (hlimit : 1 ≤ limit) :
    (Flight.traffic limit (p.flights documents)).landed.Perm (List.range documents.length) := by
  have hlength : (p.flights documents).length = documents.length := by simp [flights]
  rw [← hlength]
  exact Flight.landed_perm hlimit (p.flights documents)

theorem landedIn_perm (hlimit : 1 ≤ limit) : (p.landedIn limit documents).Perm documents := by
  have hall := filterMap_range_getElem? documents id
  simp only [Option.map_id_fun, id_eq, List.map_id_fun] at hall
  exact ((landed_perm hlimit).filterMap _).trans (List.Perm.of_eq hall)

theorem run_state : (p.run limit (memorySink refuse) [] documents).state =
    (p.landedIn limit documents).flatMap fun d => (p.process (memorySink refuse) [] d).1 := by
  have hstate := arrive_state (p := p) refuse []
    ((Flight.traffic limit (p.flights documents)).landed.filterMap fun i =>
      documents[i]?.map fun d => (i, d))
  rw [← landings_flights] at hstate
  have hpairs : ((Flight.traffic limit (p.flights documents)).landed.filterMap fun i =>
      documents[i]?.map fun d => (i, d)).map Prod.snd = p.landedIn limit documents := by
    rw [List.map_filterMap, landedIn]
    refine List.filterMap_congr fun i _ => ?_
    cases documents[i]? <;> rfl
  rw [← hpairs, List.flatMap_map]
  exact hstate

theorem run_outcomes_of_decides {σ : Type} {sink : Sink σ} {refuse : Artifact → Option Failure}
    (hd : sink.Decides refuse) (state : σ) (hlimit : 1 ≤ limit) :
    (p.run limit sink state documents).report.outcomes =
      documents.map (p.outcome (memorySink refuse) []) := by
  have houtcomes := arrive_outcomes (p := p) hd state
    ((Flight.traffic limit (p.flights documents)).landed.filterMap fun i =>
      documents[i]?.map fun d => (i, d))
  rw [← landings_flights] at houtcomes
  change (List.range documents.length).filterMap (List.lookup ·
    (p.arrive sink state (Flight.landings limit (p.flights documents))).outcomes) = _
  rw [houtcomes, ← filterMap_range_getElem? documents (p.outcome (memorySink refuse) [])]
  refine List.filterMap_congr fun i hi => ?_
  have hlookup := lookup_filterMap documents (p.outcome (memorySink refuse) [])
    (Flight.traffic limit (p.flights documents)).landed i
  rw [if_pos ((landed_perm hlimit).mem_iff.mpr hi)] at hlookup
  exact hlookup

theorem run_outcomes (hlimit : 1 ≤ limit) :
    (p.run limit (memorySink refuse) [] documents).report.outcomes =
      documents.map (p.outcome (memorySink refuse) []) :=
  run_outcomes_of_decides (memorySink_decides refuse) [] hlimit

end Runs

/-- Each document of a run has the outcome that it has when it is processed alone, and the artifacts
that the sink keeps are those that it keeps of each document alone, one document after the other in
some order. -/
theorem run_isolated (p : Pipeline) {limit : Nat} (hlimit : 1 ≤ limit)
    (refuse : Artifact → Option Failure) (documents : List Document) :
    (p.run limit (memorySink refuse) [] documents).report.outcomes =
        documents.map (fun d => (p.process (memorySink refuse) [] d).2.2) ∧
      (p.run limit (memorySink refuse) [] documents).state.Perm
        (documents.flatMap fun d => (p.process (memorySink refuse) [] d).1) ∧
      ∃ order : List Document, order.Perm documents ∧
        (p.run limit (memorySink refuse) [] documents).state =
          order.flatMap fun d => (p.process (memorySink refuse) [] d).1 := by
  have horder : (p.landedIn limit documents).Perm documents := landedIn_perm hlimit
  refine ⟨run_outcomes refuse hlimit, ?_, p.landedIn limit documents, horder, run_state refuse⟩
  rw [run_state]
  exact horder.flatMap_right _

/-- Styles are refused. -/
def refuseStyles (a : Artifact) : Option Failure :=
  if a.tag = "style" then some (.raised "ValueError" "no styles") else none

def mixedDocuments : List Document :=
  [docsDocument, {}, .ofText "<style>a\x7b\x7d</style><docs>c</docs>" none none]

theorem run_isolated_mixed : 1 ≤ 2 ∧
    (docsPipeline.run 2 (memorySink refuseStyles) [] mixedDocuments).report.outcomes =
        mixedDocuments.map (fun d => (docsPipeline.process (memorySink refuseStyles) [] d).2.2) ∧
      (docsPipeline.run 2 (memorySink refuseStyles) [] mixedDocuments).state.Perm
        (mixedDocuments.flatMap fun d => (docsPipeline.process (memorySink refuseStyles) [] d).1) :=
  ⟨by decide, (run_isolated docsPipeline (by decide) refuseStyles mixedDocuments).1,
    (run_isolated docsPipeline (by decide) refuseStyles mixedDocuments).2.1⟩

end Pipeline

end ComponentSplit
