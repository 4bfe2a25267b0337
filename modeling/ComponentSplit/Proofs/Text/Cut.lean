import ComponentSplit.Markup.Token
import ComponentSplit.Text.Blank
import Mathlib.Data.List.TakeWhile

namespace ComponentSplit

section TakeWhile

variable {α : Type} {p : α → Bool} {text : List α}

theorem prefix_takeWhile_iff {front : List α} :
    front <+: text.takeWhile p ↔ front <+: text ∧ ∀ a ∈ front, p a = true := by
  constructor
  · intro h
    exact ⟨h.trans (List.takeWhile_prefix _), fun a ha => List.mem_takeWhile_imp (h.subset ha)⟩
  · rintro ⟨⟨back, rfl⟩, h⟩
    rw [List.takeWhile_append_of_pos h]
    exact List.prefix_append _ _

theorem le_length_takeWhile_iff {k : Nat} :
    k ≤ (text.takeWhile p).length ↔ k ≤ text.length ∧ ∀ a ∈ text.take k, p a = true := by
  constructor
  · intro h
    have hfront : text.take k <+: text.takeWhile p :=
      List.prefix_of_prefix_length_le (List.take_prefix _ _) (List.takeWhile_prefix _)
        ((List.length_take_le _ _).trans h)
    exact ⟨h.trans (List.takeWhile_prefix _).length_le, (prefix_takeWhile_iff.mp hfront).2⟩
  · rintro ⟨hk, h⟩
    have hfront := (prefix_takeWhile_iff.mpr ⟨List.take_prefix k text, h⟩).length_le
    rwa [List.length_take_of_le hk] at hfront

end TakeWhile

theorem takeWhile_append_stop {p : Char → Bool} {front back : List Char}
    (hf : ∀ c ∈ front, p c = true) (hb : ∀ c ∈ back.head?, p c = false) :
    (front ++ back).takeWhile p = front := by
  rw [List.takeWhile_append_of_pos hf]
  cases back with
  | nil => simp
  | cons c back => simp [hb c rfl]

theorem dropWhile_append_stop {p : Char → Bool} {front back : List Char}
    (hf : ∀ c ∈ front, p c = true) (hb : ∀ c ∈ back.head?, p c = false) :
    (front ++ back).dropWhile p = back := by
  rw [List.dropWhile_append_of_pos hf]
  cases back with
  | nil => rfl
  | cons c back => simp [hb c rfl]

theorem takeWhile_append_of_neg {p : Char → Bool} {c : Char} {text rest : List Char}
    (hc : p c = false) : (text ++ c :: rest).takeWhile p = text.takeWhile p := by
  induction text with
  | nil => simp [hc]
  | cons d text ih => simp [List.takeWhile_cons, ih]

theorem dropWhile_append_of_neg {p : Char → Bool} {c : Char} {text rest : List Char}
    (hc : p c = false) : (text ++ c :: rest).dropWhile p = text.dropWhile p ++ c :: rest := by
  induction text with
  | nil => simp [hc]
  | cons d text ih =>
    rw [List.cons_append, List.dropWhile_cons, List.dropWhile_cons, ih]
    split
    · rfl
    · rfl

theorem head?_dropWhile {p : Char → Bool} {text : List Char} {c : Char}
    (h : c ∈ (text.dropWhile p).head?) : p c = false := by
  have hn := List.head?_dropWhile_not p text
  rw [h] at hn
  simpa using hn

theorem trimStart_append {blanks text : List Char} (hb : ∀ c ∈ blanks, isBlank c = true) :
    trimStart (blanks ++ text) = trimStart text :=
  List.dropWhile_append_of_pos hb

theorem trimStart_of_head {text : List Char} (h : ∀ c ∈ text.head?, isBlank c = false) :
    trimStart text = text := by
  cases text with
  | nil => rfl
  | cons c text => simp [trimStart, h c rfl]

theorem trimStart_eq_nil {text : List Char} : trimStart text = [] ↔ ∀ c ∈ text, isBlank c = true :=
  List.dropWhile_eq_nil_iff

theorem cutAt_append {c : Char} {before after : List Char} (h : c ∉ before) :
    cutAt c (before ++ c :: after) = some (before, after) := by
  induction before with
  | nil => simp [cutAt]
  | cons d before ih =>
    rw [List.mem_cons, not_or] at h
    rw [List.cons_append, cutAt, if_neg (Ne.symm h.1), ih h.2]

theorem cutWhere_append {closer : List Char → Option (List Char)} {before text rest : List Char}
    (hb : ∀ s, s <:+ before → s ≠ [] → closer (s ++ text) = none) (ht : closer text = some rest) :
    cutWhere closer (before ++ text) = some (before, rest) := by
  induction before with
  | nil =>
    unfold cutWhere
    simp [ht]
  | cons d before ih =>
    have hd := hb (d :: before) (List.suffix_refl _) (List.cons_ne_nil _ _)
    have hrest := ih fun s hs hne => hb s (hs.trans (List.suffix_cons d before)) hne
    rw [List.cons_append] at hd ⊢
    rw [cutWhere, hd, hrest]

end ComponentSplit
