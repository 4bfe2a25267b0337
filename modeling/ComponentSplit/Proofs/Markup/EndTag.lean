import ComponentSplit.Markup.EndTag
import ComponentSplit.Proofs.Pattern.Letter
import ComponentSplit.Proofs.Text.Cut

namespace ComponentSplit

theorem toNat_of_isUpper {c : Char} (h : c.isUpper = true) : 65 ≤ c.toNat ∧ c.toNat ≤ 90 := by
  obtain ⟨hlow, hhigh⟩ : 'A'.val ≤ c.val ∧ c.val ≤ 'Z'.val := of_decide_eq_true h
  exact ⟨UInt32.le_iff_toNat_le.mp hlow, UInt32.le_iff_toNat_le.mp hhigh⟩

theorem toNat_of_isLower {c : Char} (h : c.isLower = true) : 97 ≤ c.toNat ∧ c.toNat ≤ 122 := by
  obtain ⟨hlow, hhigh⟩ := (Bool.and_eq_true _ _).mp h
  exact ⟨UInt32.le_iff_toNat_le.mp (of_decide_eq_true hlow),
    UInt32.le_iff_toNat_le.mp (of_decide_eq_true hhigh)⟩

theorem toNat_of_isAlpha {c : Char} (h : c.isAlpha = true) :
    (65 ≤ c.toNat ∧ c.toNat ≤ 90) ∨ (97 ≤ c.toNat ∧ c.toNat ≤ 122) := by
  rcases (Bool.or_eq_true _ _).mp h with hu | hl
  · exact .inl (toNat_of_isUpper hu)
  · exact .inr (toNat_of_isLower hl)

theorem toNat_of_isDigit {c : Char} (h : c.isDigit = true) : 48 ≤ c.toNat ∧ c.toNat ≤ 57 := by
  simpa [Char.isDigit, UInt32.le_iff_toNat_le] using h

theorem toNat_of_isEndNameChar {c : Char} (h : isEndNameChar c = true) :
    (65 ≤ c.toNat ∧ c.toNat ≤ 90) ∨ (97 ≤ c.toNat ∧ c.toNat ≤ 122) ∨
      (48 ≤ c.toNat ∧ c.toNat ≤ 58) ∨ c.toNat = 45 ∨ c.toNat = 46 ∨ c.toNat = 95 := by
  simp only [isEndNameChar, Char.isAlphanum, Bool.or_eq_true, beq_iff_eq] at h
  rcases h with ((((h | h) | rfl) | rfl) | rfl) | rfl
  · have := toNat_of_isAlpha h
    omega
  · have := toNat_of_isDigit h
    omega
  all_goals decide

theorem isEndNameChar_of_isAlpha {c : Char} (h : c.isAlpha = true) : isEndNameChar c = true := by
  simp [isEndNameChar, Char.isAlphanum, h]

theorem isBlank_of_isEndNameChar {c : Char} (h : isEndNameChar c = true) : isBlank c = false := by
  have hc := toNat_of_isEndNameChar h
  simp only [isBlank, Bool.or_eq_false_iff, Bool.and_eq_false_iff, decide_eq_false_iff_not,
    beq_eq_false_iff_ne]
  omega

theorem isEndNameChar_of_isBlank {c : Char} (h : isBlank c = true) : isEndNameChar c = false := by
  cases hc : isEndNameChar c with
  | false => rfl
  | true => simp [isBlank_of_isEndNameChar hc] at h

theorem lowerAfter_ascii {text : List Char} (h : ∀ c ∈ text, c.toNat < 128) (before : List Char) :
    lowerAfter before text = text.map asciiLower := by
  induction text generalizing before with
  | nil => rfl
  | cons c text ih =>
    rw [lowerAfter, lowerChar, if_pos (h c (List.mem_cons_self ..)),
      ih (fun d hd => h d (List.mem_cons_of_mem c hd))]
    rfl

theorem lower_ascii {text : List Char} (h : ∀ c ∈ text, c.toNat < 128) :
    lower text = text.map asciiLower :=
  lowerAfter_ascii h []

/-- The name of an end tag as it may be spelled. -/
def IsEndName (spelled : List Char) : Prop :=
  ∃ c rest, spelled = c :: rest ∧ c.isAlpha = true ∧ ∀ d ∈ rest, isEndNameChar d = true

/-- The inside of an end tag spells a name, with white space around it and in letters of any
case. -/
def SpellsName (name : String) (inside : List Char) : Prop :=
  ∃ lead spelled trail, inside = lead ++ spelled ++ trail ∧ (∀ c ∈ lead, isBlank c = true) ∧
    IsEndName spelled ∧ lower spelled = name.toList ∧ ∀ c ∈ trail, isBlank c = true

def StartsEndTag (name : String) (text : List Char) : Prop :=
  ∃ inside rest, text = '<' :: '/' :: (inside ++ '>' :: rest) ∧ SpellsName name inside

def HasEndTag (name : String) (text : List Char) : Prop :=
  ∃ before tail, text = before ++ tail ∧ StartsEndTag name tail

theorem IsEndName.isEndNameChar {spelled : List Char} (h : IsEndName spelled) :
    ∀ c ∈ spelled, isEndNameChar c = true := by
  obtain ⟨c, rest, rfl, hc, hr⟩ := h
  exact List.forall_mem_cons.mpr ⟨isEndNameChar_of_isAlpha hc, hr⟩

theorem IsEndName.lower {spelled : List Char} (h : IsEndName spelled) :
    lower spelled = spelled.map asciiLower :=
  lower_ascii fun c hc => by
    have := toNat_of_isEndNameChar (h.isEndNameChar c hc)
    omega

/-- Only white space and characters of names stand inside an end tag. -/
theorem SpellsName.blank_or_name {name : String} {inside : List Char} (h : SpellsName name inside) :
    ∀ c ∈ inside, isBlank c = true ∨ isEndNameChar c = true := by
  obtain ⟨lead, spelled, trail, rfl, hl, hs, -, ht⟩ := h
  intro c hc
  rcases List.mem_append.mp hc with hc | hc
  · rcases List.mem_append.mp hc with hc | hc
    · exact .inl (hl c hc)
    · exact .inr (hs.isEndNameChar c hc)
  · exact .inl (ht c hc)

theorem SpellsName.not_mem {name : String} {inside : List Char} (h : SpellsName name inside)
    {c : Char} (hb : isBlank c = false) (hn : ComponentSplit.isEndNameChar c = false) :
    c ∉ inside := by
  intro hc
  rcases h.blank_or_name c hc with hc | hc
  · simp [hc] at hb
  · simp [hc] at hn

theorem SpellsName.start_not_mem {name : String} {inside : List Char}
    (h : SpellsName name inside) : '<' ∉ inside :=
  h.not_mem rfl rfl

theorem SpellsName.end_not_mem {name : String} {inside : List Char}
    (h : SpellsName name inside) : '>' ∉ inside :=
  h.not_mem rfl rfl

/-- Reading takes the inside of an end tag for a name exactly when it spells the name. -/
theorem endTagName?_eq_some {inside : List Char} {name : String} :
    endTagName? inside = some name ↔ SpellsName name inside := by
  constructor
  · intro h
    unfold endTagName? at h
    split at h
    · simp at h
    next c rest hc =>
      split at h
      next hok =>
        cases Option.some.inj h
        have hin := leadingBlanks_append_trimStart inside
        rw [hc] at hin
        have hname : IsEndName (c :: rest.takeWhile ComponentSplit.isEndNameChar) :=
          ⟨c, _, rfl, hok.1, fun d hd => List.mem_takeWhile_imp hd⟩
        refine ⟨leadingBlanks inside, c :: rest.takeWhile ComponentSplit.isEndNameChar,
          rest.dropWhile ComponentSplit.isEndNameChar, ?_, fun d hd => List.mem_takeWhile_imp hd,
          hname, ?_, ?_⟩
        · rw [List.append_assoc, List.cons_append, List.takeWhile_append_dropWhile, hin]
        · rw [hname.lower, String.toList_ofList]
        · exact trimStart_eq_nil.mp (List.isEmpty_iff.mp hok.2)
      next => simp at h
  · rintro ⟨lead, spelled, trail, rfl, hl, hs, hlow, ht⟩
    have hsl := hs.lower
    obtain ⟨c, rest, rfl, hc, hr⟩ := hs
    have hcb : isBlank c = false := isBlank_of_isEndNameChar (isEndNameChar_of_isAlpha hc)
    have htrim : trimStart (lead ++ (c :: rest) ++ trail) = c :: (rest ++ trail) := by
      rw [List.append_assoc, trimStart_append hl]
      exact trimStart_of_head (by simpa using hcb)
    have htrail : ∀ d ∈ trail.head?, ComponentSplit.isEndNameChar d = false := fun d hd =>
      isEndNameChar_of_isBlank (ht d (List.mem_of_mem_head? hd))
    unfold endTagName?
    simp only [htrim, takeWhile_append_stop hr htrail, dropWhile_append_stop hr htrail,
      trimStart_eq_nil.mpr ht, hc, List.isEmpty_nil, and_self, ↓reduceIte]
    rw [← hsl, hlow, String.ofList_toList]

end ComponentSplit
