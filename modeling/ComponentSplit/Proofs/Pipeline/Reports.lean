import ComponentSplit.Proofs.Pipeline.Isolation
import ComponentSplit.Proofs.Pipeline.Messages

namespace ComponentSplit

section Lookup

variable {β : Type} {entries : List (Nat × β)} {n : Nat}

/-- Looked up in the order of their keys, the entries are all there. -/
theorem filterMap_lookup_perm (h : (entries.map Prod.fst).Perm (List.range n)) :
    ((List.range n).filterMap (entries.lookup ·)).Perm (entries.map Prod.snd) := by
  have hnodup := h.nodup_iff.mpr List.nodup_range
  have hkeys : (entries.map Prod.fst).filterMap (entries.lookup ·) = entries.map Prod.snd := by
    rw [List.filterMap_map, ← List.filterMap_eq_map]
    refine List.filterMap_congr fun e he => ?_
    exact lookup_of_mem hnodup he
  rw [← hkeys]
  exact (h.filterMap _).symm

theorem getElem?_filterMap_range {f : Nat → Option β} (h : ∀ i < n, (f i).isSome) {i : Nat}
    (hi : i < n) : ((List.range n).filterMap f)[i]? = f i := by
  let found := List.ofFn fun i : Fin n => (f i).get (h i i.isLt)
  have hfound : ∀ i < n, found[i]? = f i := by
    intro i hi
    simp [found, hi]
  have hlength : found.length = n := List.length_ofFn
  have hall := filterMap_range_getElem? found id
  simp only [Option.map_id_fun, id_eq, List.map_id_fun, hlength] at hall
  have hsame : (List.range n).filterMap f = found := by
    rw [← hall]
    exact List.filterMap_congr fun j hj => (hfound j (List.mem_range.mp hj)).symm
  rw [hsame, hfound i hi]

theorem countP_flatMap_of_forall {α β : Type} {q : β → Bool} {f : α → List β} {r : α → Bool}
    {xs : List α} (h : ∀ x ∈ xs, (f x).countP q = if r x then 1 else 0) :
    (xs.flatMap f).countP q = xs.countP r := by
  induction xs with
  | nil => rfl
  | cons x xs ih =>
    obtain ⟨hx, hrest⟩ := List.forall_mem_cons.mp h
    rw [List.flatMap_cons, List.countP_append, hx, ih hrest, List.countP_cons, Nat.add_comm]

end Lookup

/-- A document of a run as it lands: its place among the documents, and the state in which it finds
the sink. -/
structure Visit (σ : Type) where
  index : Nat
  document : Document
  state : σ

namespace Pipeline

variable {σ : Type}

/-- Documents that land one after the other, each where the one before leaves the sink. -/
def visits (p : Pipeline) (sink : Sink σ) (state : σ) : List (Nat × Document) → List (Visit σ)
  | [] => []
  | (index, document) :: rest =>
    ⟨index, document, state⟩ :: p.visits sink (p.process sink state document).1 rest

def visitLog (p : Pipeline) (sink : Sink σ) (v : Visit σ) : Log :=
  (p.process sink v.state v.document).2.1

def visitOutcome (p : Pipeline) (sink : Sink σ) (v : Visit σ) : Outcome :=
  p.outcome sink v.state v.document

/-- The documents of a run, as they land. -/
def runVisits (p : Pipeline) (limit : Nat) (sink : Sink σ) (state : σ)
    (documents : List Document) : List (Visit σ) :=
  p.visits sink state ((Flight.traffic limit (p.flights documents)).landed.filterMap fun i =>
    documents[i]?.map fun d => (i, d))

variable (p : Pipeline) (sink : Sink σ)

theorem visits_arrivals (state : σ) (arrivals : List (Nat × Document)) :
    (p.visits sink state arrivals).map (fun v => (v.index, v.document)) = arrivals := by
  induction arrivals generalizing state with
  | nil => rfl
  | cons e arrivals ih => rw [visits, List.map_cons, ih]

/-- What documents leave that arrive one after the other is what each of them leaves alone, in the
state in which it finds the sink. -/
theorem arrive_visits (state : σ) (arrivals : List (Nat × Document)) :
    (p.arrive sink state (arrivals.map p.passageOf)).log =
        (p.visits sink state arrivals).flatMap (p.visitLog sink) ∧
      (p.arrive sink state (arrivals.map p.passageOf)).outcomes =
        (p.visits sink state arrivals).map fun v => (v.index, p.visitOutcome sink v) := by
  induction arrivals generalizing state with
  | nil => exact ⟨rfl, rfl⟩
  | cons e arrivals ih =>
    obtain ⟨hlog, houtcomes⟩ := ih (p.process sink state e.2).1
    rw [List.map_cons, arrive, visits, List.flatMap_cons, List.map_cons, ← hlog, ← houtcomes]
    exact ⟨rfl, rfl⟩

theorem runVisits_arrivals (limit : Nat) (state : σ) (documents : List Document) :
    (p.runVisits limit sink state documents).map (fun v => (v.index, v.document)) =
      (Flight.traffic limit (p.flights documents)).landed.filterMap fun i =>
        documents[i]?.map fun d => (i, d) :=
  visits_arrivals p sink state _

section Runs

variable (limit : Nat) (state : σ) (documents : List Document)

theorem run_log : (p.run limit sink state documents).log =
    (p.runVisits limit sink state documents).flatMap (p.visitLog sink) ++
      failureLog (p.run limit sink state documents).report := by
  have hlog := (arrive_visits p sink state
    ((Flight.traffic limit (p.flights documents)).landed.filterMap fun i =>
      documents[i]?.map fun d => (i, d))).1
  rw [← landings_flights] at hlog
  exact congrArg (· ++ failureLog _) hlog

theorem run_outcomes_eq : (p.run limit sink state documents).report.outcomes =
    (List.range documents.length).filterMap
      (((p.runVisits limit sink state documents).map
        fun v => (v.index, p.visitOutcome sink v)).lookup ·) := by
  have houtcomes := (arrive_visits p sink state
    ((Flight.traffic limit (p.flights documents)).landed.filterMap fun i =>
      documents[i]?.map fun d => (i, d))).2
  rw [← landings_flights] at houtcomes
  rw [runVisits, ← houtcomes]
  rfl

/-- Every document lands at its place, once. -/
theorem runVisits_places {limit : Nat} (hlimit : 1 ≤ limit) :
    ((p.runVisits limit sink state documents).map Visit.index).Perm
        (List.range documents.length) ∧
      ∀ v ∈ p.runVisits limit sink state documents, documents[v.index]? = some v.document := by
  have harrivals := runVisits_arrivals p sink limit state documents
  constructor
  · have hindex : (p.runVisits limit sink state documents).map Visit.index =
        (Flight.traffic limit (p.flights documents)).landed.filterMap fun i =>
          documents[i]?.map fun _ => i := by
      have hfirst := congrArg (List.map Prod.fst) harrivals
      rw [List.map_map, List.map_filterMap] at hfirst
      refine hfirst.trans (List.filterMap_congr fun i _ => ?_)
      rw [Option.map_map]
      rfl
    have hrange : ((List.range documents.length).filterMap fun i =>
        documents[i]?.map fun _ => i) = List.range documents.length := by
      rw [List.filterMap_congr (g := some), List.filterMap_some]
      intro i hi
      simp [List.mem_range.mp hi]
    rw [hindex]
    exact ((landed_perm hlimit).filterMap _).trans (List.Perm.of_eq hrange)
  · intro v hv
    have hmem : (v.index, v.document) ∈ (p.runVisits limit sink state documents).map
        fun v => (v.index, v.document) := List.mem_map.mpr ⟨v, hv, rfl⟩
    rw [harrivals] at hmem
    obtain ⟨i, -, hi⟩ := List.mem_filterMap.mp hmem
    obtain ⟨d, hd, heq⟩ := Option.map_eq_some_iff.mp hi
    cases heq
    exact hd

/-- The report has the outcome of each document at its place, and no other. -/
theorem run_outcomes_visits {limit : Nat} (hlimit : 1 ≤ limit) :
    (∀ v ∈ p.runVisits limit sink state documents,
      (p.run limit sink state documents).report.outcomes[v.index]? =
        some (p.visitOutcome sink v)) ∧
      (p.run limit sink state documents).report.outcomes.Perm
        ((p.runVisits limit sink state documents).map (p.visitOutcome sink)) := by
  have hplaces := (runVisits_places p sink state documents hlimit).1
  have hkeys : (((p.runVisits limit sink state documents).map
      fun v => (v.index, p.visitOutcome sink v)).map Prod.fst).Perm
        (List.range documents.length) := by
    rw [List.map_map]
    exact hplaces
  have hnodup := hkeys.nodup_iff.mpr List.nodup_range
  have hlookup : ∀ v ∈ p.runVisits limit sink state documents,
      ((p.runVisits limit sink state documents).map
        fun v => (v.index, p.visitOutcome sink v)).lookup v.index =
          some (p.visitOutcome sink v) :=
    fun v hv => lookup_of_mem hnodup (List.mem_map.mpr ⟨v, hv, rfl⟩)
  rw [run_outcomes_eq]
  constructor
  · intro v hv
    rw [getElem?_filterMap_range, hlookup v hv]
    · intro i hi
      obtain ⟨v, hv, rfl⟩ := List.mem_map.mp (hplaces.mem_iff.mpr (List.mem_range.mpr hi))
      rw [hlookup v hv]
      rfl
    · exact List.mem_range.mp (hplaces.mem_iff.mp (List.mem_map_of_mem hv))
  · have hperm := filterMap_lookup_perm hkeys
    rw [List.map_map] at hperm
    exact hperm

end Runs

/-- Behind the messages about the documents there is one about those that failed, if any did. -/
theorem failureLog_eq {r : Report} {n : Nat} (h : r.outcomes.length = n) :
    failureLog r = if r.failed.length = 0 then [] else [failureEntry r.failed.length n] := by
  rw [failureLog, h]
  cases r.failed <;> rfl

/-- What the messages of a run tell about its documents. -/
structure TellsFailures (p : Pipeline) (limit : Nat) (sink : Sink σ) (state : σ)
    (documents : List Document) : Prop where
  /-- There are as many errors as documents that failed. -/
  errors : (p.run limit sink state documents).log.countP (fun e => e.level = .error) =
    (p.run limit sink state documents).report.failed.length
  /-- The last message says how many documents failed when some did. -/
  last : (p.run limit sink state documents).log.getLast? =
      some (failureEntry (p.run limit sink state documents).report.failed.length
        documents.length) ↔ 0 < (p.run limit sink state documents).report.failed.length
  /-- No other message does, and none when no document failed. -/
  only_last : ∀ failed all,
    failureEntry failed all ∉ (p.run limit sink state documents).log.dropLast ∧
      (failureEntry failed all ∈ (p.run limit sink state documents).log →
        0 < (p.run limit sink state documents).report.failed.length)
  /-- All other messages are those about the documents, each of which lands at its place, once. -/
  messages : (p.run limit sink state documents).log =
    (p.runVisits limit sink state documents).flatMap (p.visitLog sink) ++
      failureLog (p.run limit sink state documents).report
  places : ((p.runVisits limit sink state documents).map Visit.index).Perm
    (List.range documents.length)
  outcomes : (p.run limit sink state documents).report.outcomes.length = documents.length
  /-- A document has one error among its messages if it failed and none otherwise, and one message
  that says what became of it unless it failed or was passed over. -/
  documents : ∀ v ∈ p.runVisits limit sink state documents,
    documents[v.index]? = some v.document ∧
      (p.run limit sink state documents).report.outcomes[v.index]? =
        some (p.visitOutcome sink v) ∧
      (p.visitLog sink v).countP (fun e => e.level = .error) =
        (if (p.visitOutcome sink v).status = .failed then 1 else 0) ∧
      (p.visitLog sink v).countP (fun e => e.level = .info) =
        if (p.visitOutcome sink v).status = .failed ∨ (p.visitOutcome sink v).status = .skipped
          then 0 else 1

/-- A run reports every document that fails, once, and no failure of another document, and says at
its end how many failed if any did. -/
theorem run_tellsFailures {p : Pipeline} (hp : p.WorksQuietly) {sink : Sink σ}
    (hs : sink.WorksQuietly) (state : σ) {limit : Nat} (hlimit : 1 ≤ limit)
    (documents : List Document) : p.TellsFailures limit sink state documents := by
  have hreported : ∀ v, (p.visitOutcome sink v).status.IsReportedBy (p.visitLog sink v) :=
    fun v => process_isReportedBy hp hs v.state v.document
  obtain ⟨hplaces, hdocuments⟩ := runVisits_places p sink state documents hlimit
  obtain ⟨houtcomes, hperm⟩ := run_outcomes_visits p sink state documents hlimit
  have hlength : (p.run limit sink state documents).report.outcomes.length = documents.length := by
    have hcount := hplaces.length_eq
    rw [List.length_map, List.length_range] at hcount
    rw [hperm.length_eq, List.length_map, hcount]
  have hnone : ∀ failed all, failureEntry failed all ∉
      (p.runVisits limit sink state documents).flatMap (p.visitLog sink) := by
    intro failed all hmem
    obtain ⟨v, -, hv⟩ := List.mem_flatMap.mp hmem
    exact (hreported v).failureEntry_not_mem failed all hv
  have hmessages := run_log p sink limit state documents
  -- The report has the documents in the order in which they come, the log in that in which they
  -- land; both have all of them.
  have hfailed : (p.run limit sink state documents).report.failed.length =
      (p.runVisits limit sink state documents).countP
        fun v => (p.visitOutcome sink v).status = .failed := by
    rw [Report.failed, ← List.countP_eq_length_filter, hperm.countP_eq, List.countP_map]
    exact List.countP_congr fun v _ => by simp
  have herrors : ((p.runVisits limit sink state documents).flatMap (p.visitLog sink)).countP
      (fun e => e.level = .error) = (p.run limit sink state documents).report.failed.length := by
    rw [hfailed]
    exact countP_flatMap_of_forall fun v _ => by simpa using (hreported v).errors
  have hend := failureLog_eq hlength
  refine ⟨?_, ?_, ?_, hmessages, hplaces, hlength, fun v hv => ⟨hdocuments v hv, houtcomes v hv,
    (hreported v).errors, (hreported v).infos⟩⟩
  · rw [hmessages, List.countP_append, herrors, hend]
    split <;> rfl
  · rw [hmessages, hend]
    split
    next hzero =>
      rw [List.append_nil, hzero]
      refine iff_of_false (fun hlast => ?_) (Nat.lt_irrefl 0)
      exact hnone _ _ (List.mem_of_getLast? hlast)
    next hpos =>
      rw [List.getLast?_concat]
      exact iff_of_true rfl (Nat.pos_of_ne_zero hpos)
  · intro failed all
    rw [hmessages, hend]
    split
    next hzero =>
      rw [List.append_nil]
      exact ⟨fun hmem => hnone failed all ((List.dropLast_sublist _).mem hmem),
        fun hmem => absurd hmem (hnone failed all)⟩
    next hpos =>
      rw [List.dropLast_concat]
      exact ⟨hnone failed all, fun _ => Nat.pos_of_ne_zero hpos⟩

theorem boomPipeline_worksQuietly : boomPipeline.WorksQuietly := by
  refine ofOptions_worksQuietly (fun _ hc => absurd hc List.not_mem_nil) ?_ ?_ _ _
  · intro lang compiler h
    cases (CompilerConfig.language?_nil lang).symm.trans h
  · intro src path
    exact Job.onlyMinor_done _

/-- A document that fails and one that is passed over. -/
theorem run_tellsFailures_boom : boomPipeline.WorksQuietly ∧
    (memorySink fun _ => none).WorksQuietly ∧ 1 ≤ 2 ∧
    boomPipeline.TellsFailures 2 (memorySink fun _ => none) [] [boomDocument, {}] ∧
    (boomPipeline.run 2 (memorySink fun _ => none) [] [boomDocument, {}]).log.getLast? =
      some (failureEntry 1 2) := by
  have htells := run_tellsFailures boomPipeline_worksQuietly
    (memorySink_worksQuietly fun _ => none) [] (by decide : 1 ≤ 2) [boomDocument, {}]
  have hcount : (boomPipeline.run 2 (memorySink fun _ => none) []
      [boomDocument, {}]).report.failed.length = 1 := by
    decide +kernel
  have hlast := htells.last
  rw [hcount] at hlast
  exact ⟨boomPipeline_worksQuietly, memorySink_worksQuietly _, by decide, htells,
    hlast.mpr (by decide)⟩

end Pipeline

end ComponentSplit
