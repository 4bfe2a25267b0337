import Mathlib.Data.List.Basic
import Mathlib.Data.List.Perm.Basic
import ComponentSplit.Pipeline.Schedule

/-!
What a move of a run leaves. Each document is at one place, the room that is given out stays within
the limit, documents wait only when there is none left, and a document whose sections are worked on
has as many moves to come as sections that are open.
-/

namespace ComponentSplit

namespace Move

/-- The move is what is left to do before the document at a place lands. -/
def carries (i : Nat) : Move → Bool
  | enter j | board j | gathered j | deliver j => j == i
  | _ => false

/-- The move is one of a document that has room. -/
def hasRoom : Move → Bool
  | board _ | gathered _ | deliver _ | acknowledge _ | leave _ => true
  | _ => false

/-- The move is about a section of the document at a place. -/
def worksOn (i : Nat) : Move → Bool
  | work j _ _ | settle j _ => j == i
  | _ => false

end Move

namespace Traffic

variable {α : Type} {flights : Array (Flight α)} {f : Flight α} {limit : Nat} {t : Traffic}

/-- At how many places the document is. -/
def standing (t : Traffic) (i : Nat) : Nat :=
  t.line.countP (Move.carries i) + t.waiting.count i + (t.unsettled.map Prod.fst).count i +
    t.landed.count i

/-- What holds between moves. -/
structure Sound (flights : Array (Flight α)) (limit : Nat) (t : Traffic) : Prop where
  standing : ∀ i, t.standing i = if i < flights.size then 1 else 0
  room : t.room + t.line.countP Move.hasRoom + t.unsettled.length = limit
  waiting : t.waiting ≠ [] → t.room = 0
  -- the others go on when a section fails, so more moves may be left than sections are open
  unsettled : ∀ e ∈ t.unsettled, 0 < e.2 ∧ e.2 ≤ t.line.countP (Move.worksOn e.1)
  known : ∀ m ∈ t.line, m.index < flights.size

/-- The line with a move at its head. -/
def before (t : Traffic) (m : Move) : Traffic := { t with line := m :: t.line }

/-- It does not matter for the invariant in which order the moves stand. -/
theorem Sound.reorder {line : List Move} (h : Sound flights limit t) (hline : t.line.Perm line) :
    Sound flights limit { t with line } := by
  refine ⟨?_, ?_, h.waiting, ?_, ?_⟩
  · intro i
    have hi := h.standing i
    rw [Traffic.standing, hline.countP_eq] at hi
    exact hi
  · have hroom := h.room
    rw [hline.countP_eq] at hroom
    exact hroom
  · intro e he
    have hworks := h.unsettled e he
    rw [hline.countP_eq] at hworks
    exact hworks
  · intro m hm
    exact h.known m (hline.mem_iff.mpr hm)

theorem Sound.queue {m : Move} (h : Sound flights limit (t.before m)) :
    Sound flights limit (t.queue [m]) :=
  h.reorder (List.perm_append_singleton m t.line).symm

/-- The invariant with a move at the head of the line, in terms of the rest of the line. -/
theorem sound_before {m : Move} : Sound flights limit (t.before m) ↔
    (∀ j, t.standing j + (if m.carries j then 1 else 0) = if j < flights.size then 1 else 0) ∧
    t.room + t.line.countP Move.hasRoom + (if m.hasRoom then 1 else 0) + t.unsettled.length =
      limit ∧
    (t.waiting ≠ [] → t.room = 0) ∧
    (∀ e ∈ t.unsettled, 0 < e.2 ∧
      e.2 ≤ t.line.countP (Move.worksOn e.1) + if m.worksOn e.1 then 1 else 0) ∧
    m.index < flights.size ∧ ∀ n ∈ t.line, n.index < flights.size := by
  constructor
  · rintro ⟨hstanding, hlimit, hwaiting, hunsettled, hknown⟩
    simp only [Traffic.standing, before, List.countP_cons] at hstanding hlimit hunsettled
    refine ⟨fun j => ?_, by omega, hwaiting, hunsettled, List.forall_mem_cons.mp hknown⟩
    have hj := hstanding j
    rw [Traffic.standing]
    omega
  · rintro ⟨hstanding, hlimit, hwaiting, hunsettled, hknown⟩
    refine ⟨fun j => ?_, ?_, hwaiting, fun e he => ?_, List.forall_mem_cons.mpr hknown⟩
    · have hj := hstanding j
      simp only [Traffic.standing, before, List.countP_cons] at hj ⊢
      omega
    · simp only [before, List.countP_cons]
      omega
    · simp only [before, List.countP_cons]
      exact hunsettled e he

section Moves

variable {i : Nat}

/-- A move may give way to another one that is like it, but for a document that lands with it. -/
theorem Sound.replace {m m' : Move} {landed : List Nat} (h : Sound flights limit (t.before m))
    (hindex : m'.index = m.index)
    (hlanded : ∀ j, (if m'.carries j then 1 else 0) + landed.count j =
      (if m.carries j then 1 else 0) + t.landed.count j)
    (hroom : m'.hasRoom = m.hasRoom) (hworks : ∀ j, m'.worksOn j = m.worksOn j) :
    Sound flights limit ({ t with landed }.before m') := by
  obtain ⟨hstanding, hlimit, hwaiting, hunsettled, hindex', hline⟩ := sound_before.mp h
  refine sound_before.mpr ⟨?_, ?_, hwaiting, ?_, hindex ▸ hindex', hline⟩
  · intro j
    have hj := hstanding j
    have hsame := hlanded j
    simp only [Traffic.standing] at hj ⊢
    omega
  · rw [hroom]
    exact hlimit
  · intro e he
    rw [hworks e.1]
    exact hunsettled e he

theorem Sound.exchange {m m' : Move} (h : Sound flights limit (t.before m))
    (hindex : m'.index = m.index) (hcarries : ∀ j, m'.carries j = m.carries j)
    (hroom : m'.hasRoom = m.hasRoom) (hworks : ∀ j, m'.worksOn j = m.worksOn j) :
    Sound flights limit (t.before m') :=
  h.replace hindex (fun j => by rw [hcarries j]) hroom hworks

/-- A document lands where it was carried before. -/
theorem Sound.land {m m' : Move} (h : Sound flights limit (t.before m))
    (hindex : m'.index = m.index) (hcarries : ∀ j, m.carries j = (i == j))
    (hcarries' : ∀ j, m'.carries j = false) (hroom : m'.hasRoom = m.hasRoom)
    (hworks : ∀ j, m'.worksOn j = m.worksOn j) :
    Sound flights limit ((t.land i).before m') := by
  refine h.replace hindex (fun j => ?_) hroom hworks
  rw [hcarries j, hcarries' j, List.count_append, List.count_singleton]
  simp only [Bool.false_eq_true, if_false]
  omega

theorem Sound.enter_wait (h : Sound flights limit (t.before (.enter i)))
    (hfull : t.room = 0 ∨ t.waiting ≠ []) :
    Sound flights limit { t with waiting := t.waiting ++ [i] } := by
  obtain ⟨hstanding, hlimit, hwaiting, hunsettled, -, hline⟩ := sound_before.mp h
  refine ⟨?_, hlimit, ?_, hunsettled, hline⟩
  · intro j
    have hj := hstanding j
    simp only [Traffic.standing, Move.carries, List.count_append, List.count_singleton,
      beq_iff_eq] at hj ⊢
    omega
  · intro _
    rcases hfull with hroom | hne
    · exact hroom
    · exact hwaiting hne

theorem Sound.enter_room (h : Sound flights limit (t.before (.enter i))) (hroom : t.room ≠ 0) :
    Sound flights limit ({ t with room := t.room - 1 }.before (.board i)) := by
  obtain ⟨hstanding, hlimit, hwaiting, hunsettled, hindex, hline⟩ := sound_before.mp h
  simp only [Move.hasRoom, Bool.false_eq_true, if_false] at hlimit
  refine sound_before.mpr ⟨hstanding, ?_, ?_, hunsettled, hindex, hline⟩
  · simp only [Move.hasRoom, if_true]
    omega
  · intro hne
    exact absurd (hwaiting hne) hroom

theorem Sound.release (h : Sound flights limit (t.before (.leave i))) :
    Sound flights limit t.release := by
  obtain ⟨hstanding, hlimit, hwaiting, hunsettled, -, hline⟩ := sound_before.mp h
  simp only [Move.carries, Move.hasRoom, Move.worksOn, Bool.false_eq_true, if_false, if_true,
    Nat.add_zero] at hstanding hlimit hunsettled
  rw [Traffic.release]
  cases hwait : t.waiting with
  | nil =>
    refine ⟨?_, ?_, fun hne => absurd rfl hne, hunsettled, hline⟩
    · intro j
      have hj := hstanding j
      rw [Traffic.standing, hwait] at hj
      exact hj
    · dsimp only
      omega
  | cons next rest =>
    have hplaced : ∀ j, t.line.countP (Move.carries j) + (rest.count j +
        if next = j then 1 else 0) + (t.unsettled.map Prod.fst).count j + t.landed.count j =
          if j < flights.size then 1 else 0 := by
      intro j
      have hj := hstanding j
      simp only [Traffic.standing, hwait, List.count_cons, beq_iff_eq] at hj
      exact hj
    refine Sound.queue (sound_before.mpr ⟨?_, ?_, ?_, hunsettled, ?_, hline⟩)
    · intro j
      have hj := hplaced j
      simp only [Traffic.standing, Move.carries, beq_iff_eq]
      omega
    · simp only [Move.hasRoom, if_true]
      omega
    · intro _
      exact hwaiting (by simp [hwait])
    · have hnext := hplaced next
      change next < flights.size
      by_contra hge
      rw [if_pos rfl, if_neg hge] at hnext
      omega

/-- A document waits for its sections in place of going on, as long as that many of them have moves
to come. -/
theorem Sound.await {count : Nat} (h : Sound flights limit (t.before (.gathered i)))
    (hpos : 0 < count) (hmoves : count ≤ t.line.countP (Move.worksOn i)) :
    Sound flights limit { t with unsettled := (i, count) :: t.unsettled } := by
  obtain ⟨hstanding, hlimit, hwaiting, hunsettled, -, hline⟩ := sound_before.mp h
  simp only [Traffic.standing, Move.carries, Move.hasRoom, Move.worksOn, beq_iff_eq,
    Bool.false_eq_true, if_false, if_true, Nat.add_zero] at hstanding hlimit hunsettled
  refine ⟨?_, ?_, hwaiting, ?_, hline⟩
  · intro j
    have hj := hstanding j
    simp only [Traffic.standing, List.map_cons, List.count_cons, beq_iff_eq]
    omega
  · dsimp only
    rw [List.length_cons]
    omega
  · intro e he
    rcases List.mem_cons.mp he with rfl | he
    · exact ⟨hpos, hmoves⟩
    · exact hunsettled e he

/-- The work on the sections of a known document may join the line at any time. -/
theorem Sound.join (h : Sound flights limit t) (hindex : i < flights.size) (tasks : List Task) :
    Sound flights limit (t.queue (tasks.map (Move.work i · 0))) := by
  have hcarries (j : Nat) : (tasks.map (Move.work i · 0)).countP (Move.carries j) = 0 := by
    simp [List.countP_map, Function.comp_def, Move.carries]
  have hroom : (tasks.map (Move.work i · 0)).countP Move.hasRoom = 0 := by
    simp [List.countP_map, Function.comp_def, Move.hasRoom]
  refine ⟨?_, ?_, h.waiting, ?_, ?_⟩
  · intro j
    have hj := h.standing j
    rwa [Traffic.standing, Traffic.queue, List.countP_append, hcarries j]
  · have hlimit := h.room
    rwa [Traffic.queue, List.countP_append, hroom]
  · intro e he
    have hopen := h.unsettled e he
    rw [Traffic.queue, List.countP_append]
    omega
  · intro m hm
    rcases List.mem_append.mp hm with hm | hwork
    · exact h.known m hm
    · obtain ⟨task, -, rfl⟩ := List.mem_map.mp hwork
      exact hindex

theorem Sound.begin (h : Sound flights limit (t.before (.board i))) (htasks : f.tasks ≠ []) :
    Sound flights limit ({ t with unsettled := (i, f.tasks.length) :: t.unsettled }.queue
      (f.tasks.map (Move.work i · 0))) := by
  have hindex : i < flights.size := h.known _ List.mem_cons_self
  have hgathered : Sound flights limit (t.before (.gathered i)) :=
    h.exchange rfl (fun _ => rfl) rfl (fun _ => rfl)
  have hjoined : Sound flights limit
      ((t.queue (f.tasks.map (Move.work i · 0))).before (.gathered i)) :=
    hgathered.join hindex f.tasks
  have hall : (f.tasks.map (Move.work i · 0)).countP (Move.worksOn i) = f.tasks.length := by
    simp [List.countP_map, Function.comp_def, Move.worksOn]
  refine hjoined.await (List.length_pos_iff.mpr htasks) ?_
  rw [Traffic.queue, List.countP_append, hall]
  exact Nat.le_add_left _ _

/-- What is left when an entry that stands for the only one of its key is taken out. -/
theorem perm_cons_filter {entries : List (Nat × Nat)} {u : Nat}
    (hlookup : entries.lookup i = some u) (hone : (entries.map Prod.fst).count i ≤ 1) :
    entries.Perm ((i, u) :: entries.filter (·.1 != i)) := by
  obtain ⟨front, back, rfl, hfront⟩ := List.lookup_eq_some_iff.mp hlookup
  have hback : ∀ e ∈ back, (e.1 != i) = true := by
    intro e he
    simp only [bne_iff_ne]
    intro heq
    have hmem : i ∈ back.map Prod.fst := List.mem_map.mpr ⟨e, he, heq⟩
    have hpos := List.count_pos_iff.mpr hmem
    rw [List.map_append, List.map_cons, List.count_append, List.count_cons_self] at hone
    omega
  have hkept : (front ++ (i, u) :: back).filter (·.1 != i) = front ++ back := by
    rw [List.filter_append, List.filter_cons_of_neg (by simp), List.filter_eq_self.mpr hback]
    rw [List.filter_eq_self.mpr]
    intro e he
    exact bne_iff_ne.mpr (Ne.symm (bne_iff_ne.mp (hfront e he)))
  rw [hkept]
  exact List.perm_middle

/-- A document of which a section is done stops waiting for the others. -/
theorem Sound.gather {failed : Bool} {u : Nat} (h : Sound flights limit (t.before (.settle i failed)))
    (hlookup : t.unsettled.lookup i = some u) :
    Sound flights limit
      ({ t with unsettled := t.unsettled.filter (·.1 != i) }.before (.gathered i)) := by
  obtain ⟨hstanding, hlimit, hwaiting, hunsettled, hindex, hline⟩ := sound_before.mp h
  simp only [Traffic.standing, Move.carries, Move.hasRoom, Move.worksOn, beq_iff_eq,
    Bool.false_eq_true, if_false, Nat.add_zero] at hstanding hlimit hunsettled
  have hone : (t.unsettled.map Prod.fst).count i ≤ 1 := by
    have hi := hstanding i
    split at hi <;> omega
  have hperm := perm_cons_filter hlookup hone
  refine sound_before.mpr ⟨?_, ?_, hwaiting, ?_, hindex, hline⟩
  · intro j
    have hj := hstanding j
    rw [(hperm.map Prod.fst).count_eq, List.map_cons, List.count_cons] at hj
    simp only [Traffic.standing, Move.carries, beq_iff_eq] at hj ⊢
    omega
  · have hlength := hperm.length_eq
    rw [List.length_cons] at hlength
    simp only [Move.hasRoom, if_true]
    omega
  · intro e he
    obtain ⟨hmem, hne⟩ := List.mem_filter.mp he
    have hopen := hunsettled e hmem
    rwa [if_neg (Ne.symm (bne_iff_ne.mp hne))] at hopen

theorem Sound.settle {failed : Bool} (h : Sound flights limit (t.before (.settle i failed))) :
    Sound flights limit (t.settleOne i failed) := by
  obtain ⟨hstanding, hlimit, hwaiting, hunsettled, -, hline⟩ := sound_before.mp h
  simp only [Move.carries, Move.hasRoom, Move.worksOn, beq_iff_eq, Bool.false_eq_true, if_false,
    Nat.add_zero] at hstanding hlimit hunsettled
  rw [Traffic.settleOne]
  cases hlookup : t.unsettled.lookup i with
  | none =>
    -- another section of the document failed before
    refine ⟨hstanding, hlimit, hwaiting, ?_, hline⟩
    intro e he
    have hopen := hunsettled e he
    have hne : i ≠ e.1 := by simpa using List.lookup_eq_none_iff.mp hlookup e he
    rwa [if_neg hne] at hopen
  | some u =>
    have hgathered := h.gather hlookup
    dsimp only
    split
    next => exact hgathered.queue
    next hmore =>
      have hne : u ≠ 1 := by
        rintro rfl
        simp at hmore
      obtain ⟨front, back, hentries, -⟩ := List.lookup_eq_some_iff.mp hlookup
      obtain ⟨hpos, hmoves⟩ := hunsettled (i, u) (by simp [hentries])
      rw [if_pos rfl] at hmoves
      exact hgathered.await (by omega) (Nat.sub_le_iff_le_add.mpr hmoves)

theorem Sound.finish (h : Sound flights limit (t.before (.gathered i))) :
    Sound flights limit (t.finish f i) := by
  rw [Traffic.finish]
  split
  · have hdeliver : Sound flights limit (t.before (.deliver i)) :=
      h.exchange rfl (fun _ => rfl) rfl (fun _ => rfl)
    exact hdeliver.queue
  · have hleave : Sound flights limit ((t.land i).before (.leave i)) :=
      h.land rfl (fun _ => rfl) (fun _ => rfl) rfl (fun _ => rfl)
    exact hleave.release

theorem Sound.start (h : Sound flights limit (t.before (.board i))) :
    Sound flights limit (t.start f i) := by
  rw [Traffic.start]
  split
  · have hgathered : Sound flights limit (t.before (.gathered i)) :=
      h.exchange rfl (fun _ => rfl) rfl (fun _ => rfl)
    exact hgathered.finish
  next htasks => exact h.begin (by simpa using htasks)

end Moves

/-- What a move leaves. -/
theorem Sound.make {m : Move} (h : Sound flights limit (t.before m)) :
    Sound flights limit (t.make f m) := by
  cases m with
  | enter i =>
    rw [Traffic.make]
    split
    next hfull => exact h.enter_wait (by simpa using hfull)
    next hfree =>
      rw [not_or] at hfree
      exact (h.enter_room hfree.1).start
  | board i => exact h.start
  | work i task turn =>
    have hcounted : Sound flights limit ((t.count task turn).before (.work i task turn)) :=
      ⟨h.standing, h.room, h.waiting, h.unsettled, h.known⟩
    rw [Traffic.make]
    split
    · have hnext : Sound flights limit ((t.count task turn).before (.work i task (turn + 1))) :=
        hcounted.exchange rfl (fun _ => rfl) rfl (fun _ => rfl)
      exact hnext.queue
    · have hnext : Sound flights limit ((t.count task turn).before (.settle i task.fails)) :=
        hcounted.exchange rfl (fun _ => rfl) rfl (fun _ => rfl)
      exact hnext.queue
  | settle i failed => exact h.settle
  | gathered i => exact h.finish
  | deliver i =>
    have hlanded : Sound flights limit ((t.land i).before (.acknowledge i)) :=
      h.land rfl (fun _ => rfl) (fun _ => rfl) rfl (fun _ => rfl)
    exact hlanded.queue
  | acknowledge i =>
    have hleave : Sound flights limit (t.before (.leave i)) :=
      h.exchange rfl (fun _ => rfl) rfl (fun _ => rfl)
    exact hleave.queue
  | leave i => exact h.release

end Traffic

end ComponentSplit
