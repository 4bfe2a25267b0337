import ComponentSplit.Proofs.Pattern.Chain

namespace ComponentSplit.Pattern

/-- The item that a character is in a pattern when it stands for itself. -/
def literal (c : Char) : Pattern := .set {} false [.range c.toNat c.toNat]

def blanks : Pattern := .repeated 0 none .greedy (.set {} false [.cls .blank])

/-- A character that stands for itself in a written pattern. -/
def isOrdinary (c : Char) : Bool := !("|)[*+?\x7b.^$(\\".toList.contains c)

@[simp] theorem run_peek (r : Reading) : peek.run r = pure (r.rest.head?, r) := rfl

@[simp] theorem run_take (r : Reading) :
    take.run r = pure (r.rest.head?, { r with rest := r.rest.drop 1 }) := rfl

@[simp] theorem run_position (r : Reading) : position.run r = pure (r.position, r) := rfl

theorem run_accept_false {c : Char} {r : Reading} (h : r.rest.head? ≠ some (.plain c)) :
    (accept c).run r = pure (false, r) := by
  simp [accept, h]

theorem sequence_literal {fuel : Nat} {items : List Pattern} {c : Char} {rest : List Sign}
    {r : Reading} (hr : r.rest = .plain c :: rest) (hc : isOrdinary c = true) :
    (sequence (fuel + 1) {} false items).run r =
      (sequence fuel {} false (literal c :: items)).run { r with rest } := by
  simp [isOrdinary] at hc
  rw [sequence]
  simp [hr, hc, literal]

theorem sequence_any {fuel : Nat} {items : List Pattern} {rest : List Sign} {r : Reading}
    (hr : r.rest = .plain '.' :: rest) :
    (sequence (fuel + 1) {} false items).run r =
      (sequence fuel {} false (.any {} :: items)).run { r with rest } := by
  rw [sequence]
  simp [hr]

theorem sequence_blanks {fuel : Nat} {items : List Pattern} {rest : List Sign} {r : Reading}
    (hr : r.rest = .escaped 's' :: .plain '*' :: rest) (hq : rest.head? ≠ some (.plain '?'))
    (hp : rest.head? ≠ some (.plain '+')) :
    (sequence (fuel + 2) {} false items).run r =
      (sequence fuel {} false (blanks :: items)).run { r with rest } := by
  rw [sequence]
  simp only [StateT.run_bind, run_peek, hr, pure_bind, List.head?_cons, run_take, escape,
    classEscapes, List.drop_one, List.tail_cons]
  simp only [List.lookup_cons, StateT.run_pure, pure_bind, Char.reduceBEq]
  rw [sequence]
  simp [repeatLast, run_accept_false, hq, hp, blanks]

theorem sequence_end {fuel : Nat} {items : List Pattern} {r : Reading} (hr : r.rest = []) :
    (sequence (fuel + 1) {} false items).run r = pure (ofItems items, r) := by
  rw [sequence]
  simp [hr]

/-- The item that a character is in a written pattern when it stands for itself or is a full
stop. -/
def nameItem (c : Char) : Pattern := if c = '.' then .any {} else literal c

theorem sequence_name {fuel : Nat} {items : List Pattern} {name : List Char} {rest : List Sign}
    {r : Reading} (hr : r.rest = name.map .plain ++ rest)
    (hn : ∀ c ∈ name, c = '.' ∨ isOrdinary c = true) :
    (sequence (fuel + name.length) {} false items).run r =
      (sequence fuel {} false ((name.map nameItem).reverse ++ items)).run { r with rest } := by
  induction name generalizing items r with
  | nil =>
    simp only [List.map_nil, List.nil_append] at hr
    simp [← hr]
  | cons c name ih =>
    have hlater := fun d hd => hn d (List.mem_cons_of_mem c hd)
    have hstep : (sequence (fuel + (name.length + 1)) {} false items).run r =
        (sequence (fuel + name.length) {} false (nameItem c :: items)).run
          { r with rest := name.map .plain ++ rest } := by
      unfold nameItem
      split
      next hc =>
        subst hc
        exact sequence_any hr
      next hc => exact sequence_literal hr ((hn c (List.mem_cons_self ..)).resolve_left hc)
    rw [List.length_cons, hstep, ih rfl hlater]
    simp

theorem oneChar?_nameItem (c : Char) : ∃ test, (nameItem c).oneChar? = some test := by
  unfold nameItem literal
  split <;> exact ⟨_, rfl⟩

theorem IsItem.lookFault? {p : Pattern} (h : IsItem p) : p.lookFault? = none := by
  have hone {p : Pattern} {test : Char → Bool} (hp : p.oneChar? = some test) :
      p.lookFault? = none := by
    cases p with
    | any flags => rfl
    | set flags negated items => rfl
    | _ => simp [oneChar?] at hp
  cases h with
  | one hp => exact hone hp
  | many hp => simpa [Pattern.lookFault?] using hone hp

theorem lookFault?_chain {items : List Pattern} (hi : ∀ p ∈ items, IsItem p) :
    (chain items).lookFault? = none := by
  induction items with
  | nil => rfl
  | cons p items ih =>
    have hp := (hi p (List.mem_cons_self ..)).lookFault?
    have hrest := ih fun r hr => hi r (List.mem_cons_of_mem p hr)
    cases items with
    | nil => exact hp
    | cons q rest => simp [chain, Pattern.lookFault?, hp, hrest]

/-- The items of the pattern by which the end of a raw text is looked for. -/
def closerItems (name : List Char) : List Pattern :=
  literal '<' :: literal '/' :: blanks :: (name.map nameItem ++ [blanks, literal '>'])

theorem isItem_closerItems (name : List Char) : ∀ p ∈ closerItems name, IsItem p := by
  intro p hp
  simp only [closerItems, List.mem_cons, List.mem_append, List.mem_map, List.not_mem_nil,
    or_false] at hp
  have hlit (c : Char) : IsItem (literal c) := .one rfl
  have hblanks : IsItem blanks := .many rfl
  rcases hp with rfl | rfl | rfl | ⟨c, -, rfl⟩ | rfl | rfl
  · exact hlit _
  · exact hlit _
  · exact hblanks
  · obtain ⟨test, ht⟩ := oneChar?_nameItem c
    exact .one ht
  · exact hblanks
  · exact hlit _

theorem signs?_plain {text : List Char} (h : '\\' ∉ text) (rest : List Char) :
    signs? (text ++ rest) = (signs? rest).map (text.map .plain ++ ·) := by
  induction text with
  | nil => simp
  | cons c text ih =>
    rw [List.mem_cons, not_or] at h
    rw [List.cons_append, signs?]
    · rw [if_neg (Ne.symm h.1), ih h.2, Option.map_map]
      rfl
    · rintro d rest' hd -
      exact h.1 hd.symm

theorem signs?_closer {name : List Char} (hn : '\\' ∉ name) :
    signs? ("</\\s*".toList ++ name ++ "\\s*>".toList) =
      some (.plain '<' :: .plain '/' :: .escaped 's' :: .plain '*' ::
        (name.map .plain ++ [.escaped 's', .plain '*', .plain '>'])) := by
  have hname := signs?_plain hn ['\\', 's', '*', '>']
  have htail : signs? ['\\', 's', '*', '>'] = some [.escaped 's', .plain '*', .plain '>'] := by
    decide
  rw [htail, Option.map_some] at hname
  rw [List.append_assoc]
  simp [signs?, hname]

theorem readAll_of_sequence {fuel : Nat} {p : Pattern} {r stop : Reading}
    (h : (sequence fuel {} false []).run r = pure (p, stop)) (hrest : stop.rest = [])
    (hasked : stop.asked = []) (hp : p.lookFault? = none) :
    (readAll (fuel + 1)).run r = pure (p, stop) := by
  have halt : (alternatives (fuel + 1) {} false).run r = pure (p, stop) := by
    rw [alternatives]
    simp [h, run_accept_false, hrest]
  rw [readAll]
  simp [halt, hrest, hasked, hp]

/-- A closer reads as the chain of its items when its name is written in characters that stand for
themselves and in full stops. -/
theorem read_closer {name : List Char} (hn : ∀ c ∈ name, c = '.' ∨ isOrdinary c = true)
    (hne : name ≠ []) :
    read ("</\\s*".toList ++ name ++ "\\s*>".toList) = .ok (chain (closerItems name)) := by
  have hno {c : Char} (hc : isOrdinary c = false) (hdot : c ≠ '.') : c ∉ name := by
    intro h
    rcases hn c h with h | h
    · exact hdot h
    · simp [hc] at h
  obtain ⟨c, rest, rfl⟩ := List.exists_cons_of_ne_nil hne
  have hitems : ofItems (literal '>' :: blanks ::
      (((c :: rest).map nameItem).reverse ++ [blanks, literal '/', literal '<'])) =
        chain (closerItems (c :: rest)) := by
    rw [← ofItems_reverse (isItem_closerItems (c :: rest))]
    simp [closerItems]
  have hfirst {d : Char} (hd : d ∉ c :: rest) : c ≠ d := by
    rintro rfl
    exact hd (List.mem_cons_self ..)
  have hseq (fuel : Nat) (r : Reading)
      (hr : r.rest = .plain '<' :: .plain '/' :: .escaped 's' :: .plain '*' ::
        ((c :: rest).map .plain ++ [.escaped 's', .plain '*', .plain '>'])) :
      (sequence (fuel + 4 + (c :: rest).length + 2 + 2) {} false []).run r =
        pure (chain (closerItems (c :: rest)), { r with rest := [] }) := by
    rw [sequence_literal hr (by decide), sequence_literal rfl (by decide),
      sequence_blanks rfl (by simpa using hfirst (hno (by decide) (by decide)))
        (by simpa using hfirst (hno (by decide) (by decide))),
      sequence_name rfl hn, sequence_blanks rfl (by simp) (by simp),
      sequence_literal rfl (by decide), sequence_end rfl, hitems]
  unfold read
  rw [signs?_closer (hno (by decide) (by decide))]
  have hlen : 2 * ("</\\s*".toList ++ (c :: rest) ++ "\\s*>".toList).length + 4 =
      (rest.length + 14) + 4 + (c :: rest).length + 2 + 2 + 1 := by
    simp
    omega
  simp only [hlen]
  rw [readAll_of_sequence (hseq _ _ rfl) rfl rfl (lookFault?_chain (isItem_closerItems _))]
  rfl

end ComponentSplit.Pattern
