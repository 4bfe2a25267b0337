import Mathlib.Algebra.GroupWithZero.Nat
import ComponentSplit.Proofs.Pipeline.Traffic

namespace ComponentSplit

section Weight

variable {α : Type}

/-- How many moves the sections of a document take. -/
def Flight.effort (f : Flight α) : Nat := (f.tasks.map fun task => task.turns + 2).sum

/-- How many moves the sections of the document at a place take. -/
def effortAt (flights : Array (Flight α)) (i : Nat) : Nat := (flights[i]?.map Flight.effort).getD 0

/-- How many moves a move leads to at most, itself included. -/
def Move.weight (flights : Array (Flight α)) : Move → Nat
  | enter i => effortAt flights i + 6
  | board i => effortAt flights i + 5
  | work _ task turn => task.turns - turn + 2
  | settle _ _ => 1
  | gathered _ => 4
  | deliver _ => 3
  | acknowledge _ => 2
  | leave _ => 1

end Weight

namespace Traffic

variable {α : Type} {flights : Array (Flight α)} {f : Flight α} {limit : Nat} {t : Traffic}

/-- How many moves are left at most. -/
def potential (flights : Array (Flight α)) (t : Traffic) : Nat :=
  (t.line.map (Move.weight flights)).sum +
    (t.waiting.map fun i => effortAt flights i + 5).sum + 4 * t.unsettled.length

section Potential

variable {i : Nat}

theorem potential_before (m : Move) :
    (t.before m).potential flights = m.weight flights + t.potential flights := by
  simp only [potential, before, List.map_cons, List.sum_cons]
  omega

theorem potential_queue (moves : List Move) :
    (t.queue moves).potential flights =
      t.potential flights + (moves.map (Move.weight flights)).sum := by
  simp only [potential, queue, List.map_append, List.sum_append]
  omega

theorem potential_release : t.release.potential flights = t.potential flights := by
  rw [release]
  cases hwait : t.waiting with
  | nil => simp only [potential, hwait]
  | cons next rest =>
    rw [potential_queue]
    simp only [potential, hwait, List.map_cons, List.map_nil, List.sum_cons, List.sum_nil,
      Move.weight]
    omega

theorem potential_finish_le : (t.finish f i).potential flights ≤ t.potential flights + 3 := by
  rw [finish]
  split
  · rw [potential_queue]
    exact Nat.le_refl _
  · rw [potential_release]
    exact Nat.le_add_right _ 3

theorem potential_start_le (hf : flights[i]? = some f) :
    (t.start f i).potential flights ≤ t.potential flights + effortAt flights i + 4 := by
  rw [start]
  split
  · have hfinish : (t.finish f i).potential flights ≤ t.potential flights + 3 :=
      potential_finish_le
    omega
  · have hwork : ((f.tasks.map (Move.work i · 0)).map (Move.weight flights)).sum =
        effortAt flights i := by
      rw [effortAt, hf, List.map_map]
      rfl
    rw [potential_queue, hwork]
    simp only [potential, List.length_cons]
    omega

theorem potential_settleOne_le {failed : Bool} :
    (t.settleOne i failed).potential flights ≤ t.potential flights := by
  rw [settleOne]
  cases hlookup : t.unsettled.lookup i with
  | none => exact Nat.le_refl _
  | some u =>
    obtain ⟨front, back, hentries, -⟩ := List.lookup_eq_some_iff.mp hlookup
    have hfewer : (t.unsettled.filter (·.1 != i)).length < t.unsettled.length := by
      rw [hentries]
      simp only [List.filter_append, List.filter_cons_of_neg, List.length_append, List.length_cons,
        bne_self_eq_false, Bool.false_eq_true, not_false_eq_true]
      have hfront := List.length_filter_le (·.1 != i) front
      have hback := List.length_filter_le (·.1 != i) back
      omega
    dsimp only
    split
    · rw [potential_queue]
      simp only [potential, List.map_cons, List.map_nil, List.sum_cons, List.sum_nil, Move.weight]
      omega
    · simp only [potential, List.length_cons]
      omega

theorem potential_make_lt {m : Move} (hf : flights[m.index]? = some f) :
    (t.make f m).potential flights < (t.before m).potential flights := by
  rw [potential_before]
  cases m with
  | enter i =>
    rw [make]
    split
    · simp only [potential, List.map_append, List.sum_append, List.map_cons, List.map_nil,
        List.sum_cons, List.sum_nil, Move.weight]
      omega
    · have hstart := potential_start_le (t := { t with room := t.room - 1 }) hf
      simp only [Move.weight, Move.index, potential] at hstart ⊢
      omega
  | board i =>
    have hstart := potential_start_le (t := t) hf
    simp only [make, Move.weight, Move.index] at hstart ⊢
    omega
  | work i task turn =>
    rw [make, potential_queue]
    have hcount : (t.count task turn).potential flights = t.potential flights := rfl
    rw [hcount]
    split
    · simp only [List.map_cons, List.map_nil, List.sum_cons, List.sum_nil, Move.weight]
      omega
    · simp only [List.map_cons, List.map_nil, List.sum_cons, List.sum_nil, Move.weight]
      omega
  | settle i failed =>
    have hsettle : (t.settleOne i failed).potential flights ≤ t.potential flights :=
      potential_settleOne_le
    simp only [make, Move.weight]
    omega
  | gathered i =>
    have hfinish : (t.finish f i).potential flights ≤ t.potential flights + 3 :=
      potential_finish_le
    simp only [make, Move.weight]
    omega
  | deliver i =>
    rw [make, potential_queue]
    have hland : (t.land i).potential flights = t.potential flights := rfl
    rw [hland]
    simp only [List.map_cons, List.map_nil, List.sum_cons, List.sum_nil, Move.weight]
    omega
  | acknowledge i =>
    rw [make, potential_queue]
    simp only [List.map_cons, List.map_nil, List.sum_cons, List.sum_nil, Move.weight]
    omega
  | leave i =>
    rw [make, potential_release]
    simp only [Move.weight]
    omega

end Potential

theorem run_of_nil (budget : Nat) (hline : t.line = []) : run flights budget t = t := by
  unfold run
  rw [hline]
  cases budget <;> rfl

theorem run_of_cons {m : Move} {rest : List Move} (budget : Nat) (hline : t.line = m :: rest)
    (hf : flights[m.index]? = some f) :
    run flights (budget + 1) t = run flights budget ({ t with line := rest }.make f m) := by
  conv_lhs => unfold run
  rw [hline]
  simp only [hf]

/-- With a budget for all moves that are left, a run ends with none left. -/
theorem Sound.run (h : Sound flights limit t) {budget : Nat}
    (hbudget : t.potential flights ≤ budget) :
    Sound flights limit (Traffic.run flights budget t) ∧
      (Traffic.run flights budget t).line = [] := by
  induction budget generalizing t with
  | zero =>
    have hline : t.line = [] := by
      cases hline : t.line with
      | nil => rfl
      | cons m rest =>
        have hweight : 0 < m.weight flights := by cases m <;> simp [Move.weight]
        simp only [potential, hline, List.map_cons, List.sum_cons] at hbudget
        omega
    rw [run_of_nil 0 hline]
    exact ⟨h, hline⟩
  | succ budget ih =>
    cases hline : t.line with
    | nil =>
      rw [run_of_nil _ hline]
      exact ⟨h, hline⟩
    | cons m rest =>
      have hbefore : t = { t with line := rest }.before m := by
        rw [before]
        dsimp only
        rw [← hline]
      have hm := h.known m (by rw [hline]; exact List.mem_cons_self)
      have hflight : flights[m.index]? = some flights[m.index] := Array.getElem?_eq_getElem hm
      have hless := potential_make_lt (t := { t with line := rest }) hflight
      rw [← hbefore] at hless
      rw [hbefore] at h
      rw [run_of_cons budget hline hflight]
      exact ih h.make (by omega)

end Traffic

namespace Flight

variable {α : Type} {limit : Nat}

theorem moves_eq (f : Flight α) : f.moves = f.effort + 6 := by
  have hfold : ∀ (tasks : List Task) (count : Nat),
      tasks.foldl (fun count task => count + task.turns + 2) count =
        count + (tasks.map fun task => task.turns + 2).sum := by
    intro tasks
    induction tasks with
    | nil => simp
    | cons task tasks ih =>
      intro count
      rw [List.foldl_cons, ih, List.map_cons, List.sum_cons]
      omega
  rw [moves, hfold, effort]
  omega

/-- The moves of a run as they stand at its beginning. -/
def begun (limit : Nat) (flights : List (Flight α)) : Traffic :=
  { room := limit, line := (List.range flights.length).map .enter }

theorem sound_begun (limit : Nat) (flights : List (Flight α)) :
    Traffic.Sound flights.toArray limit (begun limit flights) := by
  refine ⟨?_, ?_, ?_, ?_, ?_⟩
  · intro i
    have hcount : ((List.range flights.length).map Move.enter).countP (Move.carries i) =
        (List.range flights.length).count i := by
      rw [List.countP_map, List.count]
      rfl
    simp only [Traffic.standing, begun, hcount, List.map_nil, List.count_nil, List.size_toArray,
      List.count_range]
    rfl
  · have hnone : ((List.range flights.length).map Move.enter).countP Move.hasRoom = 0 := by
      simp [List.countP_map, Function.comp_def, Move.hasRoom]
    simp only [begun, hnone, List.length_nil]
    omega
  · exact fun h => absurd rfl h
  · exact fun e he => absurd he List.not_mem_nil
  · intro m hm
    obtain ⟨i, hi, rfl⟩ := List.mem_map.mp hm
    exact List.mem_range.mp hi

/-- The budget of a run is for all its moves. -/
theorem potential_begun (limit : Nat) (flights : List (Flight α)) :
    (begun limit flights).potential flights.toArray =
      flights.foldl (fun count f => count + f.moves) 0 := by
  have hfold : ∀ count, flights.foldl (fun count f => count + f.moves) count =
      count + (flights.map Flight.moves).sum := by
    induction flights with
    | nil => simp
    | cons f flights ih =>
      intro count
      rw [List.foldl_cons, ih, List.map_cons, List.sum_cons]
      omega
  have hline : ((List.range flights.length).map Move.enter).map (Move.weight flights.toArray) =
      flights.map Flight.moves := by
    apply List.ext_getElem
    · simp
    · intro i hi _
      have hlt : i < flights.length := by simpa using hi
      simp [Move.weight, effortAt, moves_eq, hlt]
  rw [hfold, Traffic.potential, begun, hline]
  simp

/-- All documents land, each once. -/
theorem landed_perm (hlimit : 1 ≤ limit) (flights : List (Flight α)) :
    (traffic limit flights).landed.Perm (List.range flights.length) := by
  obtain ⟨hsound, hline⟩ := (sound_begun limit flights).run
    (Nat.le_of_eq (potential_begun limit flights))
  change Traffic.Sound flights.toArray limit (traffic limit flights) at hsound
  change (traffic limit flights).line = [] at hline
  -- no move is left, so no section is open, so all room is free, so no document waits
  have hsettled : (traffic limit flights).unsettled = [] := by
    rw [List.eq_nil_iff_forall_not_mem]
    intro e he
    have hopen := hsound.unsettled e he
    rw [hline, List.countP_nil] at hopen
    omega
  have hroom := hsound.room
  rw [hline, hsettled, List.countP_nil, List.length_nil] at hroom
  have hwaiting : (traffic limit flights).waiting = [] := by
    by_contra hne
    have hfull := hsound.waiting hne
    omega
  rw [List.perm_iff_count]
  intro i
  have hi := hsound.standing i
  rw [Traffic.standing, hline, hsettled, hwaiting] at hi
  simp only [List.countP_nil, List.count_nil, List.map_nil, List.size_toArray] at hi
  rw [List.count_range]
  omega

end Flight

end ComponentSplit
