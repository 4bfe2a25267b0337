import Mathlib.Data.List.Basic
import ComponentSplit.Text.Utf8

namespace ComponentSplit

/-- The bytes of characters, one after the other. -/
def utf8Bytes (text : List Char) : List UInt8 := text.flatMap String.utf8EncodeChar

/-- Bytes that may follow a lead byte, be they all that do or the first of them. -/
def IsGoodTail (lead : UInt8) : List UInt8 → Prop
  | [] => True
  | second :: more => isSecond lead second = true ∧ ∀ b ∈ more, isTail b = true

/-- The bytes that hold a number with `count` bytes behind the lead byte, whether or not they are
those of a character. -/
def utf8Form (count n : Nat) : List UInt8 :=
  match count with
  | 0 => [.ofNat n]
  | 1 => [.ofNat (n / 64 + 0xC0), .ofNat (n % 64 + 0x80)]
  | 2 => [.ofNat (n / 4096 + 0xE0), .ofNat (n / 64 % 64 + 0x80), .ofNat (n % 64 + 0x80)]
  | _ => [.ofNat (n / 262144 + 0xF0), .ofNat (n / 4096 % 64 + 0x80),
      .ofNat (n / 64 % 64 + 0x80), .ofNat (n % 64 + 0x80)]

/-- The number from which on a form with `count` bytes behind the lead byte is too short. -/
def formLimit (count : Nat) : Nat :=
  match count with
  | 0 => 0x80
  | 1 => 0x800
  | 2 => 0x10000
  | _ => 0x200000

/-- How many bytes are behind the lead byte of the shortest form of a number. -/
def tailSize (n : Nat) : Nat :=
  if n < formLimit 0 then 0 else if n < formLimit 1 then 1 else if n < formLimit 2 then 2 else 3

theorem tailSize_eq_iff {n count : Nat} : tailSize n = count ↔ count = 0 ∧ n < 0x80 ∨
    count = 1 ∧ 0x80 ≤ n ∧ n < 0x800 ∨ count = 2 ∧ 0x800 ≤ n ∧ n < 0x10000 ∨
    count = 3 ∧ 0x10000 ≤ n := by
  simp only [tailSize, formLimit]
  repeat' split
  all_goals omega

section Bytes

variable {lead b : UInt8} {count : Nat}

theorem isTail_iff : isTail b = true ↔ 0x80 ≤ b.toNat ∧ b.toNat ≤ 0xBF := by
  simp [isTail, UInt8.le_iff_toNat_le]

theorem isSecond_iff : isSecond lead b = true ↔ 0x80 ≤ b.toNat ∧ b.toNat ≤ 0xBF ∧
    (lead.toNat = 0xE0 → 0xA0 ≤ b.toNat) ∧ (lead.toNat = 0xED → b.toNat < 0xA0) ∧
    (lead.toNat = 0xF0 → 0x90 ≤ b.toNat) ∧ (lead.toNat = 0xF4 → b.toNat < 0x90) := by
  rw [isSecond, Bool.and_eq_true, isTail_iff]
  simp only [← UInt8.toNat_inj, UInt8.le_iff_toNat_le, UInt8.lt_iff_toNat_lt, UInt8.reduceToNat]
  repeat' split
  all_goals simp only [decide_eq_true_eq, and_true]; omega

theorem tailCount_eq_some : tailCount lead = some count ↔
    count = 0 ∧ lead.toNat < 0x80 ∨ count = 1 ∧ 0xC2 ≤ lead.toNat ∧ lead.toNat ≤ 0xDF ∨
    count = 2 ∧ 0xE0 ≤ lead.toNat ∧ lead.toNat ≤ 0xEF ∨
    count = 3 ∧ 0xF0 ≤ lead.toNat ∧ lead.toNat ≤ 0xF4 := by
  rw [tailCount]
  simp only [UInt8.le_iff_toNat_le, UInt8.lt_iff_toNat_lt, Bool.and_eq_true, decide_eq_true_eq,
    UInt8.reduceToNat]
  repeat' split
  all_goals simp only [Option.some.injEq, reduceCtorEq, false_iff]; omega

end Bytes

theorem toNat_isScalar (c : Char) : c.toNat < 0xD800 ∨ 0xDFFF < c.toNat ∧ c.toNat < 0x110000 :=
  c.valid

theorem lt_formLimit (c : Char) :
    tailSize c.toNat ≤ 3 ∧ c.toNat < formLimit (tailSize c.toNat) := by
  have hscalar := toNat_isScalar c
  rw [tailSize]
  repeat' split
  all_goals
    simp only [formLimit] at *
    omega

/-- A character is written in the shortest form of its number. -/
theorem utf8EncodeChar_eq_form (c : Char) :
    String.utf8EncodeChar c = utf8Form (tailSize c.toNat) c.toNat := by
  have hscalar := toNat_isScalar c
  rw [String.utf8EncodeChar, tailSize]
  simp only [Char.toNat_val, formLimit, ← Nat.lt_succ_iff]
  repeat' split
  all_goals simp (disch := omega) only [utf8Form, Nat.mod_eq_of_lt]

theorem exists_char {n : Nat} (h : n < 0xD800 ∨ 0xDFFF < n ∧ n < 0x110000) :
    ∃ c : Char, c.toNat = n :=
  ⟨.ofNatAux n h, rfl⟩

theorem isGood_of_char {c : Char} {lead : UInt8} {tail : List UInt8}
    (h : String.utf8EncodeChar c = lead :: tail) :
    tailCount lead = some tail.length ∧ IsGoodTail lead tail := by
  have hscalar := toNat_isScalar c
  rw [utf8EncodeChar_eq_form, tailSize] at h
  simp only [formLimit] at h
  generalize c.toNat = n at h hscalar
  repeat' split at h
  all_goals
    cases h
    simp only [tailCount_eq_some, IsGoodTail, isSecond_iff, isTail_iff, UInt8.toNat_ofNat',
      List.length_cons, List.length_nil, List.forall_mem_cons, List.not_mem_nil, false_imp_iff,
      implies_true, true_and, and_true]
    omega

theorem exists_char_of_form {bytes : List UInt8} (count n : Nat)
    (hscalar : n < 0xD800 ∨ 0xDFFF < n ∧ n < 0x110000) (hcount : tailSize n = count)
    (h : utf8Form count n = bytes) : ∃ c, String.utf8EncodeChar c = bytes := by
  obtain ⟨c, hc⟩ := exists_char hscalar
  exact ⟨c, by rw [utf8EncodeChar_eq_form, hc, hcount, h]⟩

theorem exists_char_of_isGood {lead : UInt8} {tail : List UInt8}
    (hcount : tailCount lead = some tail.length) (hgood : IsGoodTail lead tail) :
    ∃ c, String.utf8EncodeChar c = lead :: tail := by
  rcases tailCount_eq_some.mp hcount with ⟨hlength, hlead⟩ | ⟨hlength, hlead⟩ | ⟨hlength, hlead⟩ |
    ⟨hlength, hlead⟩
  · obtain rfl := List.eq_nil_of_length_eq_zero hlength
    refine exists_char_of_form 0 lead.toNat (by omega) ?_ ?_
    · exact tailSize_eq_iff.mpr (by omega)
    · simp only [utf8Form, UInt8.ofNat_toNat]
  · obtain ⟨a, rfl⟩ := List.length_eq_one_iff.mp hlength
    simp only [IsGoodTail, isSecond_iff] at hgood
    refine exists_char_of_form 1 ((lead.toNat - 0xC0) * 64 + (a.toNat - 0x80)) (by omega) ?_ ?_
    · exact tailSize_eq_iff.mpr (by omega)
    · simp only [utf8Form, List.cons.injEq, ← UInt8.toNat_inj, UInt8.toNat_ofNat', and_true]
      omega
  · obtain ⟨a, b, rfl⟩ := List.length_eq_two.mp hlength
    simp only [IsGoodTail, isSecond_iff, isTail_iff, List.forall_mem_cons] at hgood
    refine exists_char_of_form 2
      ((lead.toNat - 0xE0) * 4096 + (a.toNat - 0x80) * 64 + (b.toNat - 0x80)) (by omega) ?_ ?_
    · exact tailSize_eq_iff.mpr (by omega)
    · simp only [utf8Form, List.cons.injEq, ← UInt8.toNat_inj, UInt8.toNat_ofNat', and_true]
      omega
  · obtain ⟨a, b, d, rfl⟩ := List.length_eq_three.mp hlength
    simp only [IsGoodTail, isSecond_iff, isTail_iff, List.forall_mem_cons] at hgood
    refine exists_char_of_form 3 ((lead.toNat - 0xF0) * 262144 + (a.toNat - 0x80) * 4096 +
      (b.toNat - 0x80) * 64 + (d.toNat - 0x80)) (by omega) ?_ ?_
    · exact tailSize_eq_iff.mpr (by omega)
    · simp only [utf8Form, List.cons.injEq, ← UInt8.toNat_inj, UInt8.toNat_ofNat', and_true]
      omega

/-- The bytes of a number tell where they end, and the number. -/
theorem utf8Form_begins {j k m n : Nat} {back : List UInt8} (hj : j ≤ 3) (hk : k ≤ 3)
    (hm : m < formLimit j) (hn : n < formLimit k)
    (h : utf8Form j m <+: utf8Form k n ++ back) : j = k ∧ m = n := by
  obtain ⟨rest, h⟩ := h
  have hcases : ∀ i ≤ 3, i = 0 ∨ i = 1 ∨ i = 2 ∨ i = 3 := fun i hi => by omega
  -- forms of different sizes differ in their lead bytes
  rcases hcases j hj with rfl | rfl | rfl | rfl <;> rcases hcases k hk with rfl | rfl | rfl | rfl
  all_goals
    simp only [utf8Form, formLimit, List.cons_append, List.nil_append, List.cons.injEq,
      ← UInt8.toNat_inj, UInt8.toNat_ofNat'] at h hm hn
    omega

/-- No character's bytes begin those of another. -/
theorem eq_of_utf8EncodeChar_prefix {c d : Char} {back : List UInt8}
    (h : String.utf8EncodeChar c <+: String.utf8EncodeChar d ++ back) : c = d := by
  rw [utf8EncodeChar_eq_form, utf8EncodeChar_eq_form] at h
  obtain ⟨hc, hclimit⟩ := lt_formLimit c
  obtain ⟨hd, hdlimit⟩ := lt_formLimit d
  have heq : c.toNat = d.toNat := (utf8Form_begins hc hd hclimit hdlimit h).2
  rw [← Char.ofNat_toNat c, heq, Char.ofNat_toNat]

end ComponentSplit
