import ComponentSplit.Proofs.Pipeline.Isolation

/-!
Jobs that take turns. They stand in one line, the one in front has its turn, and a job that has to
wait goes back to the end. However often each of them waits, their values come out in the order of
the jobs, and of those that fail the one that counts is the first to come to its end.
-/

namespace ComponentSplit

namespace Job

variable {α : Type}

/-- A job in the line, with its place among the jobs and the number of turns that it has had. -/
structure Turn (α : Type) where
  place : Nat
  taken : Nat
  job : Job α

/-- A job after a turn in which it had to wait. -/
def Turn.next (t : Turn α) : Turn α := { t with taken := t.taken + 1 }

/-- Jobs take their turns until the line is empty or one of them fails. The value of a job that is
done is noted for its place. -/
def takeTurns (line : List (Turn α)) (noted : Nat → Option α) : Except Failure (Nat → Option α) :=
  match line with
  | [] => .ok noted
  | t :: rest =>
    if t.taken < t.job.turns then takeTurns (rest ++ [t.next]) noted
    else
      match t.job.result with
      | .ok a => takeTurns rest (Function.update noted t.place (some a))
      | .error failure => .error failure
termination_by (line.map fun t => t.job.turns - t.taken).sum + line.length
decreasing_by
  all_goals simp only [Turn.next, List.map_append, List.sum_append, List.map_cons, List.sum_cons,
    List.map_nil, List.sum_nil, List.length_append, List.length_cons, List.length_nil]
  all_goals omega

/-- What jobs come to that enter the line in their order. -/
def inTurns (jobs : List (Job α)) : Except Failure (List α) :=
  (takeTurns (jobs.mapIdx fun place job => ⟨place, 0, job⟩) fun _ => none).map
    (List.range jobs.length).filterMap

/-- The job at a place fails, and none that fails has to wait less, nor as long at an earlier
place. -/
structure FailsFirst (jobs : List (Job α)) (place : Nat) (job : Job α) (failure : Failure) :
    Prop where
  here : jobs[place]? = some job
  fails : job.result = .error failure
  first : ∀ other rival cause, jobs[other]? = some rival → rival.result = .error cause →
    job.turns < rival.turns ∨ job.turns = rival.turns ∧ place ≤ other

section FirstFailure

theorem FailsFirst.unique {jobs : List (Job α)} {place place' : Nat} {job job' : Job α}
    {failure failure' : Failure} (h : FailsFirst jobs place job failure)
    (h' : FailsFirst jobs place' job' failure') : failure = failure' := by
  have hle := h.first place' job' failure' h'.here h'.fails
  have hge := h'.first place job failure h.here h.fails
  obtain rfl : place = place' := by omega
  have hhere := h.here
  rw [h'.here] at hhere
  cases hhere
  have hfails := h.fails
  rw [h'.fails] at hfails
  cases hfails
  rfl

theorem FailsFirst.head {job : Job α} {jobs : List (Job α)} {failure : Failure}
    (h : job.result = .error failure)
    (hrest : ∀ rival ∈ jobs, ∀ cause, rival.result = .error cause → job.turns ≤ rival.turns) :
    FailsFirst (job :: jobs) 0 job failure := by
  refine ⟨rfl, h, ?_⟩
  rintro (_ | other) rival cause hother hrival
  · cases hother
    exact .inr ⟨rfl, Nat.le_refl _⟩
  · have hle := hrest rival (List.mem_of_getElem? hother) cause hrival
    omega

theorem FailsFirst.tail {head job : Job α} {jobs : List (Job α)} {place : Nat} {failure : Failure}
    (h : FailsFirst jobs place job failure)
    (hhead : ∀ cause, head.result = .error cause → job.turns < head.turns) :
    FailsFirst (head :: jobs) (place + 1) job failure := by
  refine ⟨h.here, h.fails, ?_⟩
  rintro (_ | other) rival cause hother hrival
  · cases hother
    exact .inl (hhead cause hrival)
  · have hfirst := h.first other rival cause hother hrival
    omega

theorem failsFirst_of_firstFailure? {jobs : List (Job α)} {turns : Nat} {failure : Failure}
    (h : firstFailure? jobs = some (turns, failure)) :
    ∃ place job, FailsFirst jobs place job failure ∧ job.turns = turns := by
  induction jobs generalizing turns failure with
  | nil => cases h
  | cons head jobs ih =>
    rw [firstFailure?] at h
    cases hhead : head.result with
    | ok a =>
      simp only [hhead] at h
      obtain ⟨place, job, hfirst, hturns⟩ := ih h
      exact ⟨place + 1, job, hfirst.tail (by simp [hhead]), hturns⟩
    | error cause =>
      cases hfound : firstFailure? jobs with
      | none =>
        simp only [hhead, hfound] at h
        cases h
        have hall := firstFailure?_eq_none.mp hfound
        refine ⟨0, head, .head hhead ?_, rfl⟩
        intro rival hmem cause hrival
        obtain ⟨a, ha⟩ := hall rival hmem
        rw [ha] at hrival
        cases hrival
      | some found =>
        obtain ⟨place, job, hfirst, hturns⟩ := ih hfound
        simp only [hhead, hfound, earlier] at h
        by_cases hless : found.1 < head.turns
        · rw [if_pos hless] at h
          cases h
          exact ⟨place + 1, job, hfirst.tail fun _ _ => hturns ▸ hless, hturns⟩
        · rw [if_neg hless] at h
          cases h
          refine ⟨0, head, .head hhead ?_, rfl⟩
          intro rival hmem cause' hrival
          obtain ⟨other, hother⟩ := List.mem_iff_getElem?.mp hmem
          have hle := hfirst.first other rival cause' hother hrival
          omega

/-- Jobs done side by side fail with the failure of the one that fails first. -/
theorem gather_eq_error {jobs : List (Job α)} {failure : Failure} :
    (gather jobs).result = .error failure ↔ ∃ place job, FailsFirst jobs place job failure := by
  constructor
  · intro h
    cases hfound : firstFailure? jobs with
    | none => simp [gather, hfound] at h
    | some found =>
      obtain ⟨place, job, hfirst, -⟩ := failsFirst_of_firstFailure? hfound
      rw [gather, hfound] at h
      cases h
      exact ⟨place, job, hfirst⟩
  · rintro ⟨place, job, hfirst⟩
    cases hfound : firstFailure? jobs with
    | none =>
      obtain ⟨a, ha⟩ := firstFailure?_eq_none.mp hfound job (List.mem_of_getElem? hfirst.here)
      have hfails := hfirst.fails
      rw [ha] at hfails
      cases hfails
    | some found =>
      obtain ⟨place', job', hfirst', -⟩ := failsFirst_of_firstFailure? hfound
      rw [gather, hfound, hfirst.unique hfirst']

end FirstFailure

section Line

/-- Where a job stands to one behind it in the line: they have had as many turns and stand in their
own order, or the one behind has had its turn of this round already. -/
def Turn.Before (t u : Turn α) : Prop :=
  t.taken = u.taken ∧ t.place < u.place ∨ u.taken = t.taken + 1 ∧ u.place < t.place

structure InLine (line : List (Turn α)) : Prop where
  ordered : line.Pairwise Turn.Before
  waiting : ∀ t ∈ line, t.taken ≤ t.job.turns

variable {t : Turn α} {behind : List (Turn α)}

theorem InLine.tail (h : InLine (t :: behind)) : InLine behind :=
  ⟨h.ordered.of_cons, fun u hu => h.waiting u (List.mem_cons_of_mem t hu)⟩

theorem InLine.before (h : InLine (t :: behind)) : ∀ u ∈ behind, t.Before u :=
  (List.pairwise_cons.mp h.ordered).1

theorem InLine.goBack (h : InLine (t :: behind)) (hwait : t.taken < t.job.turns) :
    InLine (behind ++ [t.next]) := by
  refine ⟨List.pairwise_append.mpr ⟨h.tail.ordered, List.pairwise_singleton _ _, ?_⟩, ?_⟩
  · intro u hu last hlast
    obtain rfl := List.mem_singleton.mp hlast
    rcases h.before u hu with ⟨hsame, hplace⟩ | ⟨hnext, hplace⟩
    · exact .inr ⟨congrArg (· + 1) hsame, hplace⟩
    · exact .inl ⟨hnext, hplace⟩
  · intro u hu
    rcases List.mem_append.mp hu with hrest | hlast
    · exact h.tail.waiting u hrest
    · obtain rfl := List.mem_singleton.mp hlast
      exact hwait

/-- What a job is does not change when it goes back. -/
theorem forall_goBack {P : Turn α → Prop} (hP : P t.next ↔ P t) :
    (∀ u ∈ behind ++ [t.next], P u) ↔ ∀ u ∈ t :: behind, P u := by
  rw [List.forall_mem_append, List.forall_mem_singleton, List.forall_mem_cons, and_comm, hP]

theorem exists_goBack {P : Turn α → Prop} (hP : P t.next ↔ P t) :
    (∃ u ∈ behind ++ [t.next], P u) ↔ ∃ u ∈ t :: behind, P u := by
  simp [hP, or_and_right, exists_or, or_comm]

/-- A job that is done comes to its end before all that stand behind it. -/
theorem InLine.done_first (h : InLine (t :: behind)) (hdone : ¬ t.taken < t.job.turns) :
    ∀ u ∈ t :: behind, t.job.turns < u.job.turns ∨ t.job.turns = u.job.turns ∧ t.place ≤ u.place := by
  intro u hu
  have hself := h.waiting t (by simp)
  have hother := h.waiting u hu
  rcases List.mem_cons.mp hu with rfl | hrest
  · exact .inr ⟨rfl, Nat.le_refl _⟩
  · have hbefore := h.before u hrest
    rw [Turn.Before] at hbefore
    omega

/-- When the turns end with a failure, it is that of a job in the line, and none that fails comes
to its end before. -/
theorem takeTurns_error {line : List (Turn α)} {noted : Nat → Option α} {failure : Failure}
    (hline : InLine line) (h : takeTurns line noted = .error failure) :
    ∃ t ∈ line, t.job.result = .error failure ∧
      ∀ u ∈ line, ∀ cause, u.job.result = .error cause →
        t.job.turns < u.job.turns ∨ t.job.turns = u.job.turns ∧ t.place ≤ u.place := by
  -- The line stays in its order whether the job in front goes back or leaves it.
  fun_induction takeTurns line noted with
  | case1 => cases h
  | case2 noted t behind hwait ih =>
    obtain ⟨u, hu, hfails, hfirst⟩ := ih (hline.goBack hwait) h
    exact (exists_goBack Iff.rfl).mp ⟨u, hu, hfails, (forall_goBack Iff.rfl).mp hfirst⟩
  | case3 noted t behind hdone a ha ih =>
    obtain ⟨u, hu, hfails, hfirst⟩ := ih hline.tail h
    refine ⟨u, List.mem_cons_of_mem t hu, hfails, ?_⟩
    rw [List.forall_mem_cons]
    refine ⟨fun cause hcause => ?_, hfirst⟩
    rw [ha] at hcause
    cases hcause
  | case4 noted t behind hdone failure' hfails =>
    cases h
    exact ⟨t, by simp, hfails, fun u hu _ _ => hline.done_first hdone u hu⟩

/-- When the turns end well, every job in the line did, and its value is noted for its place. -/
theorem takeTurns_ok {line : List (Turn α)} {noted final : Nat → Option α} (hline : InLine line)
    (h : takeTurns line noted = .ok final) :
    (∀ t ∈ line, ∃ a, t.job.result = .ok a ∧ final t.place = some a) ∧
      ∀ place, (∀ t ∈ line, t.place ≠ place) → final place = noted place := by
  fun_induction takeTurns line noted with
  | case1 noted =>
    cases h
    simp
  | case2 noted t behind hwait ih =>
    obtain ⟨hvalues, hothers⟩ := ih (hline.goBack hwait) h
    refine ⟨(forall_goBack Iff.rfl).mp hvalues, fun place hplace => hothers place ?_⟩
    exact (forall_goBack Iff.rfl).mpr hplace
  | case3 noted t behind hdone a ha ih =>
    obtain ⟨hvalues, hothers⟩ := ih hline.tail h
    have hapart : ∀ u ∈ behind, u.place ≠ t.place := by
      intro u hu
      have hbefore := hline.before u hu
      rw [Turn.Before] at hbefore
      omega
    refine ⟨List.forall_mem_cons.mpr ⟨⟨a, ha, ?_⟩, hvalues⟩, ?_⟩
    · rw [hothers t.place hapart, Function.update_self]
    · intro place hplace
      rw [List.forall_mem_cons] at hplace
      rw [hothers place hplace.2, Function.update_of_ne hplace.1.symm]
  | case4 noted t behind hdone failure hfails => cases h

theorem inLine_mapIdx (jobs : List (Job α)) :
    InLine (jobs.mapIdx fun place job => (⟨place, 0, job⟩ : Turn α)) := by
  refine ⟨List.pairwise_iff_getElem.mpr fun i j hi hj hij => ?_, fun t ht => ?_⟩
  · rw [List.getElem_mapIdx, List.getElem_mapIdx]
    exact .inl ⟨rfl, hij⟩
  · obtain ⟨place, hplace, rfl⟩ := List.mem_mapIdx.mp ht
    exact Nat.zero_le _

theorem mem_mapIdx_turn {jobs : List (Job α)} {place : Nat} {job : Job α}
    (h : jobs[place]? = some job) :
    (⟨place, 0, job⟩ : Turn α) ∈ jobs.mapIdx fun place job => (⟨place, 0, job⟩ : Turn α) := by
  obtain ⟨hplace, hjob⟩ := List.getElem?_eq_some_iff.mp h
  exact List.mem_mapIdx.mpr ⟨place, hplace, by rw [hjob]⟩

end Line

theorem values_eq_filterMap_range {jobs : List (Job α)} {final : Nat → Option α}
    (h : ∀ place job, jobs[place]? = some job → job.result.toOption = final place) :
    values jobs = (List.range jobs.length).filterMap final := by
  have hplaces := filterMap_range_getElem? jobs id
  rw [List.map_id] at hplaces
  conv_lhs => rw [values, ← hplaces, List.filterMap_filterMap]
  refine List.filterMap_congr fun place hplace => ?_
  have hjob := List.getElem?_eq_getElem (List.mem_range.mp hplace)
  rw [hjob]
  exact h place _ hjob

/-- Jobs that take turns come to what is said of jobs done side by side. -/
theorem inTurns_eq_gather (jobs : List (Job α)) : inTurns jobs = (gather jobs).result := by
  have hline := inLine_mapIdx jobs
  rw [inTurns]
  cases h : takeTurns (jobs.mapIdx fun place job => (⟨place, 0, job⟩ : Turn α)) fun _ => none with
  | error failure =>
    obtain ⟨t, ht, hfails, hfirst⟩ := takeTurns_error hline h
    obtain ⟨place, hplace, rfl⟩ := List.mem_mapIdx.mp ht
    refine (gather_eq_error.mpr ⟨place, jobs[place], ?_, hfails, ?_⟩).symm
    · exact List.getElem?_eq_getElem hplace
    · intro other rival cause hother hrival
      exact hfirst _ (mem_mapIdx_turn hother) cause hrival
  | ok final =>
    have hvalues := (takeTurns_ok hline h).1
    have hjobs : ∀ place job, jobs[place]? = some job →
        ∃ a, job.result = .ok a ∧ final place = some a :=
      fun place job hjob => hvalues _ (mem_mapIdx_turn hjob)
    have hall : firstFailure? jobs = none := by
      refine firstFailure?_eq_none.mpr fun job hjob => ?_
      obtain ⟨place, hplace⟩ := List.mem_iff_getElem?.mp hjob
      obtain ⟨a, ha, -⟩ := hjobs place job hplace
      exact ⟨a, ha⟩
    have hplaces : values jobs = (List.range jobs.length).filterMap final := by
      refine values_eq_filterMap_range fun place job hjob => ?_
      obtain ⟨a, ha, hfinal⟩ := hjobs place job hjob
      rw [ha, hfinal]
      rfl
    rw [gather, hall, hplaces]
    rfl

example (early late : Failure) :
    inTurns [{ turns := 1, result := .error late }, { turns := 0, result := .error early }] =
      (.error early : Except Failure (List Unit)) := by
  rw [inTurns_eq_gather]
  rfl

/-- The jobs, each of which waits as often as is said for its place. -/
def waiting (waits : Nat → Nat) (jobs : List (Job α)) : List (Job α) :=
  jobs.mapIdx fun place job => { job with turns := waits place }

/-- How often the job at each place waits. -/
def waits (jobs : List (Job α)) (place : Nat) : Nat := (jobs[place]?.map turns).getD 0

theorem waiting_waits (jobs : List (Job α)) : waiting (waits jobs) jobs = jobs := by
  refine List.ext_getElem (by simp [waiting]) fun place hplace hplace' => ?_
  simp [waiting, waits, hplace']

theorem map_result_waiting (waits : Nat → Nat) (jobs : List (Job α)) :
    (waiting waits jobs).map result = jobs.map result := by
  refine List.ext_getElem (by simp [waiting]) fun place hplace hplace' => ?_
  simp [waiting]

theorem inTurns_waiting_eq_ok {waits : Nat → Nat} {jobs : List (Job α)} {as : List α} :
    inTurns (waiting waits jobs) = .ok as ↔
      List.Forall₂ (fun job a => job.result = .ok a) jobs as := by
  rw [inTurns_eq_gather, gather_eq_ok]
  have hresults (jobs : List (Job α)) :
      List.Forall₂ (fun r a => r = .ok a) (jobs.map result) as ↔
        List.Forall₂ (fun job a => job.result = .ok a) jobs as :=
    List.forall₂_map_left_iff
  rw [← hresults, map_result_waiting, hresults]

end Job

namespace Pipeline

/-- What the sections of a document come to that are compiled in turns, each of them waiting as
often as is said for its place. -/
def compileInTurns (p : Pipeline) (c : Context) (waits : Nat → Nat) : Except Failure (List Part) :=
  (Job.inTurns (Job.waiting waits (p.sectionJobs c))).mapError
    (.inDocument (c.document.display p.cwd) c.document.path)

/-- The sections of a document are compiled in turns. However often each waits, the document has
one part for each of them in their order, which is what the section gives alone, or it fails with
the failure of the section that fails first; whether it fails does not depend on the waiting. -/
theorem compileSections_in_turns (p : Pipeline) (c : Context) :
    (p.compileSections c).result = p.compileInTurns c (Job.waits (p.sectionJobs c)) ∧
      (∀ waits parts, p.compileInTurns c waits = .ok parts ↔
        List.Forall₂ (fun s part =>
          (compileSection p.registry p.compilers (p.request c) s).result = .ok part)
          c.resolved parts) ∧
      (∀ waits failure, p.compileInTurns c waits = .error failure ↔ ∃ place job cause,
        Job.FailsFirst (Job.waiting waits (p.sectionJobs c)) place job cause ∧
          failure = .inDocument (c.document.display p.cwd) c.document.path cause ∧
          failure.path? = c.document.path ∧
          failure.message = s!"In file {c.document.display p.cwd}:\n{cause.message}") ∧
      ∀ waits waits', (p.compileInTurns c waits).isOk = (p.compileInTurns c waits').isOk := by
  have hok : ∀ waits parts, p.compileInTurns c waits = .ok parts ↔
      List.Forall₂ (fun s part =>
        (compileSection p.registry p.compilers (p.request c) s).result = .ok part)
        c.resolved parts := by
    intro waits parts
    rw [compileInTurns, mapError_eq_ok, Job.inTurns_waiting_eq_ok, sectionJobs,
      List.forall₂_map_left_iff]
  refine ⟨?_, hok, ?_, ?_⟩
  · rw [compileInTurns, Job.waiting_waits, Job.inTurns_eq_gather]
    rfl
  · intro waits failure
    rw [compileInTurns, mapError_eq_error, Job.inTurns_eq_gather]
    simp only [Job.gather_eq_error]
    constructor
    · rintro ⟨cause, ⟨place, job, hfirst⟩, rfl⟩
      exact ⟨place, job, cause, hfirst, rfl, rfl, rfl⟩
    · rintro ⟨place, job, cause, hfirst, rfl, -, -⟩
      exact ⟨cause, ⟨place, job, hfirst⟩, rfl⟩
  · intro waits waits'
    cases h : p.compileInTurns c waits with
    | ok parts =>
      rw [(hok waits' parts).mpr ((hok waits parts).mp h)]
    | error failure =>
      cases h' : p.compileInTurns c waits' with
      | ok parts =>
        rw [(hok waits parts).mpr ((hok waits' parts).mp h')] at h
        cases h
      | error failure' => rfl

end Pipeline

end ComponentSplit
