import ComponentSplit.Pattern.Match
import ComponentSplit.Pattern.Reader

namespace ComponentSplit.Pattern

def oneChar? : Pattern → Option (Char → Bool)
  | any flags => some fun c => flags.dotAll || c != '\n'
  | set flags negated items => some fun c => flags.holds items c != negated
  | _ => none

/-- A pattern takes one character, or repeats one that does. -/
inductive IsItem : Pattern → Prop
  | one {p : Pattern} {test : Char → Bool} : p.oneChar? = some test → IsItem p
  | many {p : Pattern} {test : Char → Bool} :
      p.oneChar? = some test → IsItem (.repeated 0 none .greedy p)

/-- A text can be cut into pieces that a list of items takes one after the other. -/
inductive Fits : List Pattern → List Char → Prop
  | done : Fits [] []
  | one {p : Pattern} {test : Char → Bool} {c : Char} {items : List Pattern} {text : List Char} :
      p.oneChar? = some test → test c = true → Fits items text → Fits (p :: items) (c :: text)
  | many {p : Pattern} {test : Char → Bool} {taken : List Char} {items : List Pattern}
      {text : List Char} : p.oneChar? = some test → (∀ c ∈ taken, test c = true) →
      Fits items text → Fits (.repeated 0 none .greedy p :: items) (taken ++ text)

/-- Items one after the other, as one pattern. -/
def chain : List Pattern → Pattern
  | [] => nothing
  | [p] => p
  | p :: q :: rest => seq p (chain (q :: rest))

theorem IsItem.ne_nothing {p : Pattern} (h : IsItem p) : p ≠ nothing := by
  rintro rfl
  cases h with
  | one h => simp [oneChar?] at h

theorem chain_ne_nothing {items : List Pattern} (hi : ∀ p ∈ items, IsItem p) (hne : items ≠ []) :
    chain items ≠ nothing := by
  match items, hne with
  | [p], _ => exact (hi p (by simp)).ne_nothing
  | p :: q :: rest, _ => simp [chain]

theorem ofItems_reverse {items : List Pattern} (hi : ∀ p ∈ items, IsItem p) :
    ofItems items.reverse = chain items := by
  unfold ofItems
  rw [List.foldl_reverse]
  induction items with
  | nil => rfl
  | cons p items ih =>
    rw [List.foldr_cons, ih fun q hq => hi q (List.mem_cons_of_mem p hq)]
    cases items with
    | nil => rfl
    | cons q rest =>
      have hne := chain_ne_nothing (fun r hr => hi r (List.mem_cons_of_mem p hr))
        (List.cons_ne_nil q rest)
      split
      next h => exact absurd h hne
      next => rfl

theorem Spot.step_eq_some {test : Char → Bool} {spot next : Spot}
    (h : spot.step test = some next) :
    ∃ c rest, spot.after = c :: rest ∧ test c = true ∧
      next = { spot with place := spot.place + 1, before := c :: spot.before, after := rest } := by
  unfold Spot.step at h
  split at h
  next c rest hr =>
    split at h
    next ht => exact ⟨c, rest, hr, ht, (Option.some.inj h).symm⟩
    next => simp at h
  next => simp at h

section Unfold

variable (fuel : Nat) (p q : Pattern) (spot : Spot) (next : Spot → Option Spot)

theorem run_zero : run 0 p spot next = none := rfl

theorem run_seq : run (fuel + 1) (.seq p q) spot next =
    run fuel p spot fun middle => run fuel q middle next := rfl

theorem run_repeated (least : Nat) (most : Option Nat) (greed : Greed) :
    run (fuel + 1) (.repeated least most greed p) spot next =
      runAgain fuel greed p least most none spot next := rfl

theorem runAgain_zero (least : Nat) (most last : Option Nat) (greed : Greed) :
    runAgain 0 greed p least most last spot next = none := rfl

end Unfold

theorem run_oneChar {p : Pattern} {test : Char → Bool} (hp : p.oneChar? = some test) (fuel : Nat)
    (spot : Spot) (next : Spot → Option Spot) :
    run (fuel + 1) p spot next = (spot.step test).bind next := by
  cases p with
  | any flags =>
    cases Option.some.inj hp
    rfl
  | set flags negated items =>
    cases Option.some.inj hp
    rfl
  | _ => simp [oneChar?] at hp

theorem runAgain_stay {p : Pattern} {fuel : Nat} {last : Option Nat} {spot : Spot}
    {next : Spot → Option Spot} (h : last = some spot.place) :
    runAgain (fuel + 1) .greedy p 0 none last spot next = next spot := by
  simp only [runAgain, Nat.lt_irrefl, ↓reduceIte, h, decide_true, Bool.or_true]

/-- A round of a greedy repetition takes its body once more, or else leaves it at that. -/
theorem runAgain_round {p : Pattern} {fuel : Nat} {last : Option Nat} {spot : Spot}
    {next : Spot → Option Spot} (h : last ≠ some spot.place) :
    runAgain (fuel + 1) .greedy p 0 none last spot next =
      match run fuel p spot (runAgain fuel .greedy p 0 none (some spot.place) · next) with
      | some stop => some stop
      | none => next spot := by
  cases hr : run fuel p spot (runAgain fuel .greedy p 0 none (some spot.place) · next) with
  | none =>
    simp only [runAgain, Nat.lt_irrefl, ↓reduceIte, h, reduceCtorEq, decide_false, Bool.or_self,
      Bool.false_eq_true, Nat.zero_sub, Option.map_none, hr]
  | some stop =>
    simp only [runAgain, Nat.lt_irrefl, ↓reduceIte, h, reduceCtorEq, decide_false, Bool.or_self,
      Bool.false_eq_true, Nat.zero_sub, Option.map_none, hr]

theorem runAgain_sound {p : Pattern} {test : Char → Bool} (hp : p.oneChar? = some test)
    {fuel : Nat} {last : Option Nat} {spot stop : Spot} {next : Spot → Option Spot}
    (h : runAgain fuel .greedy p 0 none last spot next = some stop) :
    ∃ middle taken, spot.after = taken ++ middle.after ∧ (∀ c ∈ taken, test c = true) ∧
      next middle = some stop := by
  induction fuel generalizing last spot with
  | zero => simp [runAgain_zero] at h
  | succ fuel ih =>
    have leave (hn : next spot = some stop) : ∃ middle taken, spot.after = taken ++ middle.after ∧
        (∀ c ∈ taken, test c = true) ∧ next middle = some stop := ⟨spot, [], rfl, by simp, hn⟩
    by_cases hl : last = some spot.place
    · rw [runAgain_stay hl] at h
      exact leave h
    · rw [runAgain_round hl] at h
      split at h
      next found hf =>
        cases Option.some.inj h
        cases fuel with
        | zero => simp [run_zero] at hf
        | succ fuel =>
          rw [run_oneChar hp] at hf
          obtain ⟨one, hone, hm⟩ := Option.bind_eq_some_iff.mp hf
          obtain ⟨c, rest, hc, ht, rfl⟩ := Spot.step_eq_some hone
          obtain ⟨middle, taken, ha, hall, hn⟩ := ih hm
          refine ⟨middle, c :: taken, ?_, ?_, hn⟩
          · simpa [hc] using ha
          · exact List.forall_mem_cons.mpr ⟨ht, hall⟩
      next => exact leave h

theorem run_item_sound {p : Pattern} (hp : IsItem p) {fuel : Nat} {spot stop : Spot}
    {next : Spot → Option Spot} (h : run fuel p spot next = some stop) :
    ∃ middle taken, spot.after = taken ++ middle.after ∧ next middle = some stop ∧
      ∀ items text, Fits items text → Fits (p :: items) (taken ++ text) := by
  cases fuel with
  | zero => simp [run_zero] at h
  | succ fuel =>
    cases hp with
    | one hp =>
      rw [run_oneChar hp] at h
      obtain ⟨one, hone, hn⟩ := Option.bind_eq_some_iff.mp h
      obtain ⟨c, rest, hc, ht, rfl⟩ := Spot.step_eq_some hone
      refine ⟨_, [c], ?_, hn, fun items text hf => .one hp ht hf⟩
      exact hc
    | many hp =>
      rw [run_repeated] at h
      obtain ⟨middle, taken, ha, hall, hn⟩ := runAgain_sound hp h
      exact ⟨middle, taken, ha, hn, fun items text hf => .many hp hall hf⟩

/-- A chain leads on from a place only behind a text that fits it. -/
theorem run_chain_sound {items : List Pattern} (hi : ∀ p ∈ items, IsItem p) (hne : items ≠ [])
    {fuel : Nat} {spot stop : Spot} {next : Spot → Option Spot}
    (h : run fuel (chain items) spot next = some stop) :
    ∃ middle taken, spot.after = taken ++ middle.after ∧ Fits items taken ∧
      next middle = some stop := by
  induction items generalizing fuel spot with
  | nil => exact absurd rfl hne
  | cons p items ih =>
    have hp := hi p (by simp)
    cases items with
    | nil =>
      obtain ⟨middle, taken, ha, hn, hf⟩ := run_item_sound hp h
      exact ⟨middle, taken, ha, by simpa using hf [] [] .done, hn⟩
    | cons q rest =>
      cases fuel with
      | zero => simp [run_zero] at h
      | succ fuel =>
        rw [chain, run_seq] at h
        obtain ⟨first, taken, ha, hm, hf⟩ := run_item_sound hp h
        obtain ⟨middle, later, hl, hfits, hn⟩ :=
          ih (fun r hr => hi r (List.mem_cons_of_mem p hr)) (List.cons_ne_nil q rest) hm
        exact ⟨middle, taken ++ later, by rw [ha, hl, List.append_assoc], hf _ _ hfits, hn⟩

theorem Spot.step_of_cons {test : Char → Bool} {spot : Spot} {c : Char} {rest : List Char}
    (ha : spot.after = c :: rest) (ht : test c = true) :
    spot.step test =
      some { spot with place := spot.place + 1, before := c :: spot.before, after := rest } := by
  simp [Spot.step, ha, ht]

/-- A repetition never stops early, since no round begins at the place of the one before. -/
theorem runAgain_complete {p : Pattern} {test : Char → Bool} (hp : p.oneChar? = some test)
    {taken rest : List Char} {fuel : Nat} {last : Option Nat} {spot : Spot}
    {next : Spot → Option Spot} (ha : spot.after = taken ++ rest)
    (hall : ∀ c ∈ taken, test c = true) (hfuel : taken.length < fuel)
    (hlast : ∀ l ∈ last, l < spot.place)
    (hn : ∀ middle : Spot, middle.after = rest → (next middle).isSome) :
    (runAgain fuel .greedy p 0 none last spot next).isSome := by
  have hne {spot : Spot} {last : Option Nat} (hlast : ∀ l ∈ last, l < spot.place) :
      last ≠ some spot.place := by
    rintro rfl
    exact Nat.lt_irrefl _ (hlast _ rfl)
  induction taken generalizing fuel last spot with
  | nil =>
    obtain ⟨fuel, rfl⟩ : ∃ f, fuel = f + 1 := ⟨fuel - 1, by omega⟩
    rw [runAgain_round (hne hlast)]
    split
    · rfl
    · exact hn spot ha
  | cons c taken ih =>
    obtain ⟨fuel, rfl⟩ : ∃ f, fuel = f + 2 := ⟨fuel - 2, by simp at hfuel; omega⟩
    have hstep := Spot.step_of_cons ha (hall c (by simp))
    have hmore : (runAgain (fuel + 1) .greedy p 0 none (some spot.place)
        ⟨spot.place + 1, c :: spot.before, taken ++ rest, spot.marks⟩ next).isSome :=
      ih rfl (fun d hd => hall d (List.mem_cons_of_mem c hd)) (by simp at hfuel; omega) (by simp)
    rw [runAgain_round (hne hlast), run_oneChar hp, hstep, Option.bind_some]
    split
    · rfl
    next hnone =>
      have hnone : runAgain (fuel + 1) .greedy p 0 none (some spot.place)
          ⟨spot.place + 1, c :: spot.before, taken ++ rest, spot.marks⟩ next = none := hnone
      simp [hnone] at hmore

theorem run_item_complete {p : Pattern} {items : List Pattern} {text : List Char}
    (hf : Fits (p :: items) text) :
    ∃ taken later, text = taken ++ later ∧ Fits items later ∧
      ∀ (fuel : Nat) (rest : List Char) (spot : Spot) (next : Spot → Option Spot),
        spot.after = taken ++ rest → taken.length + 1 < fuel →
        (∀ middle : Spot, middle.after = rest → (next middle).isSome) →
        (run fuel p spot next).isSome := by
  cases hf with
  | @one _ test c _ text hp ht hf =>
    refine ⟨[c], text, rfl, hf, ?_⟩
    intro fuel rest spot next ha hfuel hn
    obtain ⟨fuel, rfl⟩ : ∃ f, fuel = f + 1 := ⟨fuel - 1, by omega⟩
    rw [run_oneChar hp, Spot.step_of_cons ha ht]
    exact hn _ rfl
  | @many p test taken _ text hp hall hf =>
    refine ⟨taken, text, rfl, hf, ?_⟩
    intro fuel rest spot next ha hfuel hn
    obtain ⟨fuel, rfl⟩ : ∃ f, fuel = f + 1 := ⟨fuel - 1, by omega⟩
    rw [run_repeated]
    exact runAgain_complete hp ha hall (by omega) (by simp) hn

/-- A chain leads on from a place behind which a text starts that fits it, if there is fuel for its
items and for the characters that they repeat over. -/
theorem run_chain_complete {items : List Pattern} {text : List Char} (hf : Fits items text)
    (hne : items ≠ []) {fuel : Nat} {rest : List Char} {spot : Spot} {next : Spot → Option Spot}
    (ha : spot.after = text ++ rest) (hfuel : items.length + text.length < fuel)
    (hn : ∀ middle : Spot, middle.after = rest → (next middle).isSome) :
    (run fuel (chain items) spot next).isSome := by
  induction items generalizing text fuel spot with
  | nil => exact absurd rfl hne
  | cons p items ih =>
    obtain ⟨taken, later, rfl, hl, hrun⟩ := run_item_complete hf
    simp only [List.length_cons, List.length_append] at hfuel
    cases items with
    | nil =>
      cases hl
      exact hrun fuel rest spot next (by simpa using ha) (by omega) hn
    | cons q others =>
      obtain ⟨fuel, rfl⟩ : ∃ f, fuel = f + 1 := ⟨fuel - 1, by omega⟩
      simp only [List.length_cons] at hfuel
      rw [chain, run_seq]
      apply hrun fuel (later ++ rest) spot _ (by rw [ha, List.append_assoc]) (by omega)
      intro middle hm
      exact ih hl (List.cons_ne_nil q others) hm (by simp only [List.length_cons]; omega)

theorem length_le_size_chain (items : List Pattern) : items.length ≤ (chain items).size := by
  induction items with
  | nil => simp
  | cons p items ih =>
    cases items with
    | nil => cases p <;> simp [chain, size]
    | cons q rest =>
      rw [chain, size, List.length_cons]
      omega

/-- The search stops where the pattern matches, and the pattern matches at no place before. -/
theorem findFrom_some {p : Pattern} {fuel place : Nat} {before text found : List Char}
    (h : p.findFrom fuel place before text = some found) :
    (∃ spot : Spot, spot.after = found ∧ (run fuel p spot some).isSome) ∧
      ∀ s, s <:+ text → found.length < s.length →
        ∃ spot : Spot, spot.after = s ∧ run fuel p spot some = none := by
  induction text generalizing place before with
  | nil =>
    rw [findFrom] at h
    split at h
    next hr =>
      cases h
      refine ⟨⟨_, rfl, hr⟩, ?_⟩
      intro s hs hl
      simp [List.suffix_nil.mp hs] at hl
    next => simp at h
  | cons c rest ih =>
    rw [findFrom] at h
    split at h
    next hr =>
      cases h
      refine ⟨⟨_, rfl, hr⟩, ?_⟩
      intro s hs hl
      exact absurd hs.length_le (by omega)
    next hr =>
      obtain ⟨hfound, hbefore⟩ := ih h
      refine ⟨hfound, ?_⟩
      intro s hs hl
      rcases List.suffix_cons_iff.mp hs with rfl | hs
      · exact ⟨⟨place, before, c :: rest, []⟩, rfl, by simpa using hr⟩
      · exact hbefore s hs hl

theorem findFrom_none {p : Pattern} {fuel place : Nat} {before text : List Char}
    (h : p.findFrom fuel place before text = none) {s : List Char} (hs : s <:+ text) :
    ∃ spot : Spot, spot.after = s ∧ run fuel p spot some = none := by
  induction text generalizing place before with
  | nil =>
    rw [findFrom] at h
    split at h
    next => simp at h
    next hr => exact ⟨⟨place, before, [], []⟩, (List.suffix_nil.mp hs).symm, by simpa using hr⟩
  | cons c rest ih =>
    rw [findFrom] at h
    split at h
    next => simp at h
    next hr =>
      rcases List.suffix_cons_iff.mp hs with rfl | hs
      · exact ⟨⟨place, before, c :: rest, []⟩, rfl, by simpa using hr⟩
      · exact ih h hs

/-- A text starts with one that fits a list of items. -/
def StartFits (items : List Pattern) (text : List Char) : Prop :=
  ∃ taken rest, text = taken ++ rest ∧ Fits items taken

theorem not_startFits_of_run {items : List Pattern} (hne : items ≠ []) {fuel : Nat} {spot : Spot}
    (hfuel : items.length + spot.after.length < fuel)
    (h : run fuel (chain items) spot some = none) : ¬ StartFits items spot.after := by
  rintro ⟨taken, rest, ha, hf⟩
  have hl : taken.length ≤ spot.after.length := by
    rw [ha, List.length_append]
    omega
  have hfound : (run fuel (chain items) spot some).isSome :=
    run_chain_complete hf hne ha (by omega) fun _ _ => rfl
  simp [h] at hfound

theorem fuel_find {items : List Pattern} {before text s : List Char} (hs : s <:+ text) :
    items.length + s.length < ((chain items).size + 2) * (before.length + text.length + 2) := by
  have h1 := length_le_size_chain items
  have h2 := hs.length_le
  calc items.length + s.length < ((chain items).size + 2) + (before.length + text.length + 2) := by
        omega
    _ ≤ ((chain items).size + 2) * (before.length + text.length + 2) :=
      Nat.add_le_mul (by omega) (by omega)

/-- The search for a chain stops where a text starts that fits it, and none starts before. -/
theorem find_chain_some {items : List Pattern} (hi : ∀ p ∈ items, IsItem p) (hne : items ≠ [])
    {before text found : List Char} (h : (chain items).find before text = some found) :
    StartFits items found ∧
      ∀ s, s <:+ text → found.length < s.length → ¬ StartFits items s := by
  obtain ⟨⟨spot, rfl, hrun⟩, hbefore⟩ := findFrom_some h
  refine ⟨?_, ?_⟩
  · obtain ⟨stop, hstop⟩ := Option.isSome_iff_exists.mp hrun
    obtain ⟨middle, taken, ha, hf, -⟩ := run_chain_sound hi hne hstop
    exact ⟨taken, middle.after, ha, hf⟩
  · intro s hs hl
    obtain ⟨early, rfl, hnone⟩ := hbefore s hs hl
    exact not_startFits_of_run hne (fuel_find hs) hnone

/-- A search for a chain in vain says that no text that fits it starts anywhere. -/
theorem find_chain_none {items : List Pattern} (hne : items ≠ []) {before text : List Char}
    (h : (chain items).find before text = none) {s : List Char} (hs : s <:+ text) :
    ¬ StartFits items s := by
  obtain ⟨spot, rfl, hnone⟩ := findFrom_none h hs
  exact not_startFits_of_run hne (fuel_find hs) hnone

end ComponentSplit.Pattern
