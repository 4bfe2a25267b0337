import ComponentSplit.Proofs.Text.Cut
import ComponentSplit.Proofs.Text.Utf8

namespace ComponentSplit

/-- Bytes that a character begins with, or that are all of its bytes. -/
def BeginsChar (bytes : List UInt8) : Prop := ∃ c, bytes <+: String.utf8EncodeChar c

/-- The fault of bytes that stand at a position and are not the bytes of a text: the first of them
begins no character, they end inside a character, or one of them does not go on with it. -/
inductive BreaksAt (pos : Nat) : List UInt8 → DecodeFault → Prop
  | invalidStart {lead : UInt8} {rest : List UInt8} (h : ¬ BeginsChar [lead]) :
    BreaksAt pos (lead :: rest) ⟨"utf-8", lead, pos, pos + 1, .invalidStart⟩
  | endOfData {lead : UInt8} {rest : List UInt8} (h : BeginsChar (lead :: rest))
    (hc : ∀ c, String.utf8EncodeChar c ≠ lead :: rest) :
    BreaksAt pos (lead :: rest) ⟨"utf-8", lead, pos, pos + 1 + rest.length, .endOfData⟩
  | invalidContinuation {lead b : UInt8} {good more : List UInt8} (h : BeginsChar (lead :: good))
    (hc : ∀ c, String.utf8EncodeChar c ≠ lead :: good) (hb : ¬ BeginsChar (lead :: good ++ [b])) :
    BreaksAt pos (lead :: good ++ b :: more)
      ⟨"utf-8", lead, pos, pos + 1 + good.length, .invalidContinuation⟩

section Tail

variable {lead : UInt8} {count : Nat} {part rest : List UInt8}

theorem IsGoodTail.front (h : IsGoodTail lead (part ++ rest)) : IsGoodTail lead part := by
  cases part with
  | nil => trivial
  | cons second more => exact ⟨h.1, fun b hb => h.2 b (List.mem_append_left _ hb)⟩

theorem le_goodTail_iff {k : Nat} : k ≤ goodTail lead count rest ↔
    k ≤ count ∧ k ≤ rest.length ∧ IsGoodTail lead (rest.take k) := by
  cases k with
  | zero => simp [IsGoodTail]
  | succ k =>
    cases count with
    | zero => simp [goodTail]
    | succ n =>
      cases rest with
      | nil => simp [goodTail]
      | cons second more =>
        rw [goodTail, List.take_succ_cons, IsGoodTail]
        by_cases hsecond : isSecond lead second = true
        · have hmore : k ≤ ((more.take n).takeWhile isTail).length ↔
              k ≤ n ∧ k ≤ more.length ∧ ∀ b ∈ more.take k, isTail b = true := by
            rw [le_length_takeWhile_iff, List.length_take, List.take_take, Nat.le_min, and_assoc]
            refine and_congr_right fun hk => ?_
            rw [min_eq_left hk]
          rw [if_pos hsecond, Nat.add_comm 1, Nat.succ_le_succ_iff, hmore, Nat.succ_le_succ_iff,
            List.length_cons, Nat.succ_le_succ_iff, and_iff_right hsecond]
        · simp [hsecond]

theorem goodTail_eq_iff : goodTail lead count rest = count ↔
    count ≤ rest.length ∧ IsGoodTail lead (rest.take count) := by
  have hle : goodTail lead count rest ≤ count := (le_goodTail_iff.mp (Nat.le_refl _)).1
  have heq : goodTail lead count rest = count ↔ count ≤ goodTail lead count rest :=
    ⟨fun h => Nat.le_of_eq h.symm, Nat.le_antisymm hle⟩
  rw [heq, le_goodTail_iff]
  exact and_iff_right (Nat.le_refl _)

theorem exists_isSecond (lead : UInt8) : ∃ second, isSecond lead second = true := by
  by_cases hlow : lead.toNat = 0xE0
  · exact ⟨0xA0, isSecond_iff.mpr (by simp [hlow])⟩
  · by_cases hhigh : lead.toNat = 0xF0
    · exact ⟨0x90, isSecond_iff.mpr (by simp [hhigh])⟩
    · exact ⟨0x80, isSecond_iff.mpr (by simp [hlow, hhigh])⟩

/-- What begins a tail can be carried on to a whole one. -/
theorem IsGoodTail.complete (h : IsGoodTail lead part) (hlength : part.length ≤ count) :
    ∃ more, IsGoodTail lead (part ++ more) ∧ (part ++ more).length = count := by
  have htail : ∀ n, ∀ b ∈ List.replicate n (0x80 : UInt8), isTail b = true := by
    intro n b hb
    rw [List.eq_of_mem_replicate hb]
    rfl
  cases part with
  | nil =>
    cases count with
    | zero => exact ⟨[], trivial, rfl⟩
    | succ n =>
      obtain ⟨second, hsecond⟩ := exists_isSecond lead
      exact ⟨second :: List.replicate n 0x80, ⟨hsecond, htail n⟩, by simp⟩
  | cons second part =>
    refine ⟨List.replicate (count - (part.length + 1)) 0x80, ⟨h.1, fun b hb => ?_⟩, ?_⟩
    · rcases List.mem_append.mp hb with hmem | hmem
      · exact h.2 b hmem
      · exact htail _ b hmem
    · rw [List.length_cons] at hlength
      simp only [List.cons_append, List.length_cons, List.length_append, List.length_replicate]
      omega

theorem beginsChar_iff : BeginsChar (lead :: part) ↔
    ∃ count, tailCount lead = some count ∧ part.length ≤ count ∧ IsGoodTail lead part := by
  constructor
  · rintro ⟨c, more, hc⟩
    obtain ⟨hcount, hgood⟩ := isGood_of_char hc.symm
    exact ⟨_, hcount, by simp, hgood.front⟩
  · rintro ⟨count, hcount, hlength, hgood⟩
    obtain ⟨more, hwhole, rfl⟩ := hgood.complete hlength
    obtain ⟨c, hc⟩ := exists_char_of_isGood hcount hwhole
    exact ⟨c, more, hc.symm⟩

end Tail

/-- What only begins a character has no whole one at its start. -/
theorem not_prefix_of_beginsChar {bytes : List UInt8} (h : BeginsChar bytes)
    (hc : ∀ c, String.utf8EncodeChar c ≠ bytes) (c : Char) :
    ¬ String.utf8EncodeChar c <+: bytes := by
  intro hbegins
  obtain ⟨d, hd⟩ := h
  have hboth : String.utf8EncodeChar c <+: String.utf8EncodeChar d ++ [] := by
    rw [List.append_nil]
    exact hbegins.trans hd
  obtain rfl : c = d := eq_of_utf8EncodeChar_prefix hboth
  exact hc c (hbegins.eq_of_length (Nat.le_antisymm hbegins.length_le hd.length_le))

theorem utf8EncodeChar_eq_cons (c : Char) :
    ∃ lead tail, String.utf8EncodeChar c = lead :: tail :=
  List.exists_cons_of_ne_nil String.utf8EncodeChar_ne_nil

/-- No character is written where reading breaks off. -/
theorem BreaksAt.not_prefix {pos : Nat} {bytes : List UInt8} {f : DecodeFault}
    (h : BreaksAt pos bytes f) (c : Char) : ¬ String.utf8EncodeChar c <+: bytes := by
  cases h with
  | @invalidStart lead rest h =>
    intro hbegins
    obtain ⟨first, tail, hc⟩ := utf8EncodeChar_eq_cons c
    have hfirst : first = lead := (List.cons_prefix_cons.mp (hc ▸ hbegins)).1
    exact h ⟨c, tail, by rw [hc, hfirst]; rfl⟩
  | endOfData h hc => exact not_prefix_of_beginsChar h hc c
  | @invalidContinuation lead b good more h hc hb =>
    intro hbegins
    have hgood : lead :: good <+: lead :: good ++ b :: more := List.prefix_append _ _
    rcases List.prefix_or_prefix_of_prefix hbegins hgood with hshort | ⟨tail, htail⟩
    · exact not_prefix_of_beginsChar h hc c hshort
    · cases tail with
      | nil => exact hc c (by simpa using htail.symm)
      | cons next tail =>
        rw [← htail, List.prefix_append_right_inj, List.cons_prefix_cons] at hbegins
        exact hb ⟨c, tail, by rw [← htail, hbegins.1]; simp⟩

theorem utf8Bytes_cons (c : Char) (text : List Char) :
    utf8Bytes (c :: text) = String.utf8EncodeChar c ++ utf8Bytes text :=
  List.flatMap_cons

section Stop

variable {pos count : Nat} {lead : UInt8} {rest : List UInt8}

theorem beginsChar_goodTail (rest : List UInt8) (hcount : tailCount lead = some count) :
    BeginsChar (lead :: rest.take (goodTail lead count rest)) := by
  obtain ⟨hle, -, hgood⟩ := le_goodTail_iff.mp (Nat.le_refl (goodTail lead count rest))
  exact beginsChar_iff.mpr ⟨count, hcount, (List.length_take_le _ _).trans hle, hgood⟩

theorem ne_char_of_length_ne (hcount : tailCount lead = some count) (h : rest.length ≠ count)
    (c : Char) : String.utf8EncodeChar c ≠ lead :: rest := by
  intro hc
  have hwhole := (isGood_of_char hc).1
  rw [hcount, Option.some.injEq] at hwhole
  exact h hwhole.symm

theorem breaksAt_endOfData (hcount : tailCount lead = some count)
    (hgood : goodTail lead count rest ≠ count) (hrest : goodTail lead count rest = rest.length) :
    BreaksAt pos (lead :: rest)
      ⟨"utf-8", lead, pos, pos + 1 + goodTail lead count rest, .endOfData⟩ := by
  have hbegins : BeginsChar (lead :: rest) := by
    have htake := beginsChar_goodTail rest hcount
    rwa [hrest, List.take_length] at htake
  rw [hrest] at hgood ⊢
  exact .endOfData hbegins (ne_char_of_length_ne hcount hgood)

theorem breaksAt_invalidContinuation (hcount : tailCount lead = some count)
    (hgood : goodTail lead count rest ≠ count) (hrest : goodTail lead count rest ≠ rest.length) :
    BreaksAt pos (lead :: rest)
      ⟨"utf-8", lead, pos, pos + 1 + goodTail lead count rest, .invalidContinuation⟩ := by
  obtain ⟨hle, hlength, -⟩ := le_goodTail_iff.mp (Nat.le_refl (goodTail lead count rest))
  have hlt : goodTail lead count rest < rest.length := by omega
  have hbegins := beginsChar_goodTail rest hcount
  have htake : (rest.take (goodTail lead count rest)).length = goodTail lead count rest :=
    List.length_take_of_le hlength
  have hnext : rest.take (goodTail lead count rest) ++ [rest[goodTail lead count rest]] =
      rest.take (goodTail lead count rest + 1) := List.take_append_getElem hlt
  have hsplit : rest = rest.take (goodTail lead count rest) ++
      rest[goodTail lead count rest] :: rest.drop (goodTail lead count rest + 1) := by
    rw [← List.drop_eq_getElem_cons hlt, List.take_append_drop]
  have hstop : ¬ BeginsChar (lead :: rest.take (goodTail lead count rest) ++
      [rest[goodTail lead count rest]]) := by
    rw [List.cons_append, hnext, beginsChar_iff]
    rintro ⟨whole, hwhole, -, htail⟩
    -- a byte more would be good, too
    have hmore : goodTail lead count rest + 1 ≤ goodTail lead count rest :=
      le_goodTail_iff.mpr ⟨by omega, hlt, htail⟩
    omega
  have hfault : BreaksAt pos (lead :: rest.take (goodTail lead count rest) ++
      rest[goodTail lead count rest] :: rest.drop (goodTail lead count rest + 1)) _ :=
    .invalidContinuation hbegins (ne_char_of_length_ne hcount (htake.symm ▸ hgood)) hstop
  rw [List.cons_append, ← hsplit, htake] at hfault
  exact hfault

end Stop

/-- Bytes are those of a text, and then nothing or what is no character. -/
theorem utf8FaultFrom_reads (pos : Nat) (bytes : List UInt8) : ∃ text back,
    bytes = utf8Bytes text ++ back ∧ (utf8FaultFrom pos bytes = none ∧ back = [] ∨
      ∃ f, utf8FaultFrom pos bytes = some f ∧ BreaksAt (pos + (utf8Bytes text).length) back f) := by
  fun_induction utf8FaultFrom pos bytes with
  | case1 pos => exact ⟨[], [], rfl, .inl ⟨rfl, rfl⟩⟩
  | case2 pos lead rest h =>
    refine ⟨[], lead :: rest, rfl, .inr ⟨_, rfl, .invalidStart ?_⟩⟩
    rw [beginsChar_iff, h]
    simp
  | case3 pos lead rest count hcount good hgood ih =>
    obtain ⟨hlength, htail⟩ := goodTail_eq_iff.mp hgood
    have htake : (rest.take count).length = count := List.length_take_of_le hlength
    obtain ⟨c, hc⟩ := exists_char_of_isGood (htake.symm ▸ hcount) htail
    obtain ⟨text, back, hdrop, hread⟩ := ih
    have hbytes : lead :: rest = utf8Bytes (c :: text) ++ back := by
      rw [utf8Bytes_cons, hc, List.append_assoc, ← hdrop, List.cons_append, List.take_append_drop]
    have hplace : pos + (utf8Bytes (c :: text)).length =
        pos + 1 + count + (utf8Bytes text).length := by
      rw [utf8Bytes_cons, hc, List.length_append, List.length_cons, htake]
      omega
    exact ⟨c :: text, back, hbytes, hplace ▸ hread⟩
  | case4 pos lead rest count hcount good hgood hrest =>
    exact ⟨[], lead :: rest, rfl, .inr ⟨_, rfl, breaksAt_endOfData hcount hgood hrest⟩⟩
  | case5 pos lead rest count hcount good hgood hrest =>
    exact ⟨[], lead :: rest, rfl, .inr ⟨_, rfl, breaksAt_invalidContinuation hcount hgood hrest⟩⟩

/-- Bytes are cut in one way only into those of a text and a rest without a character at its
start. -/
theorem utf8Bytes_append_inj {text other : List Char} {back rest : List UInt8}
    (h : utf8Bytes text ++ back = utf8Bytes other ++ rest)
    (hback : ∀ c, ¬ String.utf8EncodeChar c <+: back)
    (hrest : ∀ c, ¬ String.utf8EncodeChar c <+: rest) : text = other ∧ back = rest := by
  induction text generalizing other with
  | nil =>
    cases other with
    | nil => exact ⟨rfl, h⟩
    | cons c other =>
      rw [utf8Bytes_cons, List.append_assoc] at h
      exact absurd ⟨utf8Bytes other ++ rest, h.symm⟩ (hback c)
  | cons c text ih =>
    rw [utf8Bytes_cons, List.append_assoc] at h
    cases other with
    | nil => exact absurd ⟨utf8Bytes text ++ back, h⟩ (hrest c)
    | cons d other =>
      rw [utf8Bytes_cons, List.append_assoc] at h
      obtain rfl : c = d := eq_of_utf8EncodeChar_prefix ⟨_, h⟩
      obtain ⟨rfl, rfl⟩ := ih (List.append_cancel_left h)
      exact ⟨rfl, rfl⟩

theorem not_prefix_nil (c : Char) : ¬ String.utf8EncodeChar c <+: [] := by
  rw [List.prefix_nil]
  exact String.utf8EncodeChar_ne_nil

/-- Reading comes to a fault just when the bytes are not those of a text. -/
theorem utf8FaultFrom_eq_none_iff {pos : Nat} {bytes : List UInt8} :
    utf8FaultFrom pos bytes = none ↔ ∃ text, bytes = utf8Bytes text := by
  obtain ⟨text, back, rfl, ⟨hnone, rfl⟩ | ⟨f, hsome, hbreaks⟩⟩ := utf8FaultFrom_reads pos bytes
  · exact iff_of_true hnone ⟨text, List.append_nil _⟩
  · refine iff_of_false (by simp [hsome]) ?_
    rintro ⟨other, h⟩
    have hnil : back = [] := (utf8Bytes_append_inj (h.trans (List.append_nil _).symm)
      hbreaks.not_prefix not_prefix_nil).2
    subst hnil
    cases hbreaks

/-- A fault stands behind the longest text that the bytes begin with. -/
theorem utf8FaultFrom_eq_some {pos : Nat} {bytes : List UInt8} {f : DecodeFault}
    (h : utf8FaultFrom pos bytes = some f) : ∃ text back, bytes = utf8Bytes text ++ back ∧
      BreaksAt (pos + (utf8Bytes text).length) back f := by
  obtain ⟨text, back, hbytes, ⟨hnone, -⟩ | ⟨g, hsome, hbreaks⟩⟩ := utf8FaultFrom_reads pos bytes
  · simp [hnone] at h
  · cases hsome.symm.trans h
    exact ⟨text, back, hbytes, hbreaks⟩

theorem BreaksAt.start_eq {pos : Nat} {bytes : List UInt8} {f : DecodeFault}
    (h : BreaksAt pos bytes f) : f.start = pos := by
  cases h <;> rfl

end ComponentSplit
