import ComponentSplit.Text.Marked
import Mathlib.Data.List.Chain

namespace ComponentSplit

/-- A text with an insertion at some increasing positions; the text itself starts at `pos`. -/
def insertFrom (insertion : List Char) (pos : Nat) : List Nat → List Char → List Char
  | [], text => text
  | p :: positions, text =>
    text.take (p - pos) ++ insertion ++ insertFrom insertion p positions (text.drop (p - pos))

def insertAt (insertion : List Char) (positions : List Nat) (text : List Char) : List Char :=
  insertFrom insertion 0 positions text

theorem insertFrom_cons {insertion : List Char} {pos : Nat} {positions : List Nat}
    (h : ∀ p ∈ positions, pos < p) (c : Char) (text : List Char) :
    insertFrom insertion pos positions (c :: text) =
      c :: insertFrom insertion (pos + 1) positions text := by
  cases positions with
  | nil => rfl
  | cons p positions =>
    have hp := h p List.mem_cons_self
    obtain ⟨k, rfl⟩ : ∃ k, p = pos + (k + 1) := ⟨p - pos - 1, by omega⟩
    have hk : pos + (k + 1) - (pos + 1) = k := by omega
    simp [insertFrom, hk]

namespace MarkedText

/-- No two marks stand side by side. -/
def IsSeparated (t : MarkedText) : Prop := t.IsChain fun a b => a ≠ none ∨ b ≠ none

variable {s t : MarkedText} {c : Char} {pos : Nat}

@[simp]
theorem plain_nil : plain [] = [] := rfl

@[simp]
theorem plain_cons (text : List Char) : plain (c :: text) = some c :: plain text := rfl

@[simp]
theorem plain_append (front back : List Char) : plain (front ++ back) = plain front ++ plain back :=
  List.map_append

@[simp]
theorem unmarked_nil : unmarked [] = [] := rfl

@[simp]
theorem unmarked_some_cons : unmarked (some c :: t) = c :: unmarked t := rfl

@[simp]
theorem unmarked_none_cons : unmarked (none :: t) = unmarked t := rfl

theorem isSeparated_cons : IsSeparated (some c :: t) ↔ IsSeparated t := by
  simp [IsSeparated, List.isChain_cons]

theorem IsSeparated.append (hs : IsSeparated s) (ht : IsSeparated t)
    (hc : ∀ a ∈ t.head?, a ≠ none) : IsSeparated (s ++ t) := by
  refine List.isChain_append.mpr ⟨hs, ht, ?_⟩
  intro a _ b hb
  exact .inr (hc b hb)

theorem isSeparated_plain_append (text : List Char) :
    IsSeparated (plain text ++ t) ↔ IsSeparated t := by
  induction text with
  | nil => rfl
  | cons c text ih => rw [plain_cons, List.cons_append, isSeparated_cons, ih]

theorem isSeparated_plain (text : List Char) : IsSeparated (plain text) := by
  have h := (isSeparated_plain_append (t := []) text).mpr .nil
  rwa [List.append_nil] at h

theorem isSeparated_mark_plain (text : List Char) : IsSeparated (none :: plain text) := by
  refine List.isChain_cons.mpr ⟨?_, isSeparated_plain text⟩
  intro b hb
  cases text with
  | nil => simp at hb
  | cons c text =>
    obtain rfl : some c = b := by simpa using hb
    exact .inr (Option.some_ne_none c)

theorem offsetsFrom_ge {p : Nat} (h : p ∈ offsetsFrom pos t) : pos ≤ p := by
  induction t generalizing pos with
  | nil => simp [offsetsFrom] at h
  | cons a t ih =>
    cases a with
    | some c => exact Nat.le_of_succ_le (ih h)
    | none =>
      rcases List.mem_cons.mp h with rfl | h
      · exact Nat.le_refl _
      · exact ih h

theorem offsetsFrom_le {p : Nat} (h : p ∈ offsetsFrom pos t) : p ≤ pos + (unmarked t).length := by
  induction t generalizing pos with
  | nil => simp [offsetsFrom] at h
  | cons a t ih =>
    cases a with
    | some c =>
      have hp := ih h
      simp only [unmarked_some_cons, List.length_cons]
      omega
    | none =>
      rcases List.mem_cons.mp h with rfl | h
      · exact Nat.le_add_right _ _
      · exact ih h

theorem IsSeparated.pairwise_offsetsFrom (h : IsSeparated t) :
    (offsetsFrom pos t).Pairwise (· < ·) := by
  induction t generalizing pos with
  | nil => exact .nil
  | cons a t ih =>
    obtain ⟨hnext, ht⟩ := List.isChain_cons.mp h
    cases a with
    | some c => exact ih ht
    | none =>
      refine List.pairwise_cons.mpr ⟨fun p hp => ?_, ih ht⟩
      cases t with
      | nil => simp [offsetsFrom] at hp
      | cons b t =>
        cases b with
        | none => simpa using hnext none rfl
        | some c => exact Nat.lt_of_succ_le (offsetsFrom_ge (t := t) hp)

theorem fill_eq_insertFrom (insertion : List Char) (pos : Nat) (t : MarkedText) :
    fill insertion t = insertFrom insertion pos (offsetsFrom pos t) (unmarked t) := by
  induction t generalizing pos with
  | nil => rfl
  | cons a t ih =>
    cases a with
    | some c =>
      have hlater : ∀ p ∈ offsetsFrom (pos + 1) t, pos < p := fun p hp => offsetsFrom_ge hp
      rw [offsetsFrom, unmarked_some_cons, insertFrom_cons hlater, ← ih (pos + 1)]
      rfl
    | none =>
      rw [offsetsFrom, insertFrom, unmarked_none_cons, Nat.sub_self, List.take_zero,
        List.drop_zero, ← ih pos]
      rfl

theorem fill_eq_insertAt (insertion : List Char) (t : MarkedText) :
    fill insertion t = insertAt insertion (offsets t) (unmarked t) :=
  fill_eq_insertFrom insertion 0 t

end MarkedText

end ComponentSplit
