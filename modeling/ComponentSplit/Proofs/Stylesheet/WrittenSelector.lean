import ComponentSplit.Proofs.Stylesheet.Depth

namespace ComponentSplit

/-- A character that selectors may hold apart from brackets and strings. -/
def IsSelectorChar (c : Char) : Prop :=
  c ∉ ['(', ')', '[', ']', '"', '\'', '\\', '\x7b', '\x7d', ';']

/-- A character that a string in a selector may hold. -/
def IsStringChar (quote c : Char) : Prop := c ∉ [quote, '\\', '(', ')', '[', ']']

/-- An opening bracket and the one that closes it. -/
def IsBracketPair (opening closing : Char) : Prop :=
  opening = '(' ∧ closing = ')' ∨ opening = '[' ∧ closing = ']'

/-- What brackets may hold: all else, whole strings, and brackets in pairs. -/
inductive IsBracketText : List Char → Prop
  | nil : IsBracketText []
  | char {c : Char} {rest : List Char} : IsSelectorChar c → ¬ StartsComment (c :: rest) →
      IsBracketText rest → IsBracketText (c :: rest)
  | string {quote : Char} {content rest : List Char} : IsQuote quote →
      (∀ c ∈ content, IsStringChar quote c) → IsBracketText rest →
      IsBracketText (quote :: (content ++ quote :: rest))
  | bracket {opening closing : Char} {inner rest : List Char} : IsBracketPair opening closing →
      IsBracketText inner → IsBracketText rest →
      IsBracketText (opening :: (inner ++ closing :: rest))

/-- A text whose brackets stand in pairs and whose other characters pass a test. -/
inductive IsCompoundText (allowed : Char → Prop) : List Char → Prop
  | nil : IsCompoundText allowed []
  | char {c : Char} {rest : List Char} : allowed c → ¬ StartsComment (c :: rest) →
      IsCompoundText allowed rest → IsCompoundText allowed (c :: rest)
  | bracket {opening closing : Char} {inner rest : List Char} : IsBracketPair opening closing →
      IsBracketText inner → IsCompoundText allowed rest →
      IsCompoundText allowed (opening :: (inner ++ closing :: rest))

/-- A character of a compound outside brackets. -/
def IsCompoundChar (c : Char) : Prop :=
  IsSelectorChar c ∧ c ≠ ',' ∧ isCombinator c = false ∧ isBlank c = false

/-- A compound of a selector: what comes before the first colon outside brackets, and the rest. -/
structure Compound where
  name : List Char
  pseudo : List Char
  isName : IsCompoundText (fun c => IsCompoundChar c ∧ c ≠ ':') name
  isPseudo : IsCompoundText IsCompoundChar pseudo
  pseudo_head : ∀ c ∈ pseudo.head?, c = ':'
  ne_nil : name ++ pseudo ≠ []

/-- A compound and the combinators behind it. -/
structure JoinedCompound where
  compound : Compound
  combinators : List Char
  ne_nil : combinators ≠ []
  isCombinator : ∀ c ∈ combinators, isCombinator c = true

def Compound.text (c : Compound) : List Char := c.name ++ c.pseudo

def JoinedCompound.text (j : JoinedCompound) : List Char := j.compound.text ++ j.combinators

/-- A selector, which does not start with the sign of an at-rule. -/
structure WrittenSelector where
  front : List JoinedCompound
  last : Compound
  not_at : (front.flatMap JoinedCompound.text ++ last.text).head? ≠ some '@'

/-- A selector with white space around it. -/
structure SpacedSelector where
  before : List Char
  selector : WrittenSelector
  behind : List Char
  isBlank_before : ∀ c ∈ before, isBlank c = true
  isBlank_behind : ∀ c ∈ behind, isBlank c = true

/-- A list of selectors with commas between them. -/
structure WrittenList where
  first : SpacedSelector
  others : List SpacedSelector

namespace WrittenSelector

def text (s : WrittenSelector) : List Char := s.front.flatMap JoinedCompound.text ++ s.last.text

def marked (s : WrittenSelector) : MarkedText :=
  MarkedText.plain (s.front.flatMap JoinedCompound.text ++ s.last.name) ++
    none :: MarkedText.plain s.last.pseudo

end WrittenSelector

namespace SpacedSelector

def text (s : SpacedSelector) : List Char := s.before ++ (s.selector.text ++ s.behind)

def marked (s : SpacedSelector) : MarkedText :=
  MarkedText.plain s.before ++ (s.selector.marked ++ MarkedText.plain s.behind)

end SpacedSelector

namespace WrittenList

def text (l : WrittenList) : List Char :=
  l.first.text ++ l.others.flatMap fun s => ',' :: s.text

def marked (l : WrittenList) : MarkedText :=
  l.first.marked ++ l.others.flatMap fun s => some ',' :: s.marked

end WrittenList

/-- A piece within a run of a stylesheet. -/
def Piece.IsInner : Piece → Prop
  | .comment _ => False
  | .string _ => True
  | .char c => c ≠ '\x7b' ∧ c ≠ '\x7d' ∧ c ≠ ';'

/-- The text is read as these pieces, which do not end a run, whether or not comments count. -/
structure IsReadAs (text : List Char) (ps : List Piece) : Prop where
  pieces : ∀ comments rest, rest.head? ≠ some '*' →
    pieces comments (text ++ rest) = ps ++ pieces comments rest
  inner : ∀ p ∈ ps, p.IsInner

namespace IsReadAs

variable {text back : List Char} {ps qs : List Piece}

theorem nil : IsReadAs [] [] := ⟨fun _ _ _ => rfl, by simp⟩

theorem eq_pieces (h : IsReadAs text ps) (comments : Bool) :
    ComponentSplit.pieces comments text = ps := by
  simpa using h.pieces comments [] (by simp)

theorem flatMap_text (h : IsReadAs text ps) : ps.flatMap Piece.text = text := by
  rw [← h.eq_pieces true, pieces_text]

theorem char {c : Char} (hq : ¬ IsQuote c) (hc : (Piece.char c).IsInner)
    (hs : ¬ StartsComment (c :: text)) (h : IsReadAs text ps) :
    IsReadAs (c :: text) (.char c :: ps) := by
  constructor
  · intro comments rest hrest
    have hstart := not_startsComment_append hs hrest
    rw [List.cons_append, pieces_char hq fun _ => hstart, h.pieces comments rest hrest,
      List.cons_append]
  · rw [List.forall_mem_cons]
    exact ⟨hc, h.inner⟩

theorem chars {front : List Char}
    (hf : ∀ c ∈ front, ¬ IsQuote c ∧ c ≠ '/' ∧ (Piece.char c).IsInner) (h : IsReadAs text ps) :
    IsReadAs (front ++ text) (front.map .char ++ ps) := by
  induction front with
  | nil => exact h
  | cons c front ih =>
    rw [List.forall_mem_cons] at hf
    obtain ⟨⟨hq, hslash, hc⟩, hfront⟩ := hf
    exact char hq hc (not_startsComment_of_ne hslash _) (ih hfront)

theorem append (h : IsReadAs text ps) (hback : IsReadAs back qs) (hstar : back.head? ≠ some '*') :
    IsReadAs (text ++ back) (ps ++ qs) := by
  constructor
  · intro comments rest hrest
    have hhead : (back ++ rest).head? ≠ some '*' := by
      cases back with
      | nil => exact hrest
      | cons c back => exact hstar
    rw [List.append_assoc, h.pieces comments _ hhead, hback.pieces comments rest hrest,
      List.append_assoc]
  · rw [List.forall_mem_append]
    exact ⟨h.inner, hback.inner⟩

theorem bracket {opening closing : Char} {inner : List Char} {is : List Piece}
    (hpair : IsBracketPair opening closing) (hi : IsReadAs inner is) (h : IsReadAs text ps) :
    IsReadAs (opening :: (inner ++ closing :: text)) (.char opening :: (is ++ .char closing :: ps)) := by
  have hchar {c : Char} (hc : c = '(' ∨ c = ')' ∨ c = '[' ∨ c = ']') :
      ¬ IsQuote c ∧ c ≠ '/' ∧ c ≠ '*' ∧ (Piece.char c).IsInner := by
    rcases hc with rfl | rfl | rfl | rfl <;> simp [IsQuote, Piece.IsInner]
  obtain ⟨hoquote, hoslash, -, hoinner⟩ := @hchar opening (by
    rcases hpair with ⟨rfl, -⟩ | ⟨rfl, -⟩ <;> simp)
  obtain ⟨hcquote, hcslash, hcstar, hcinner⟩ := @hchar closing (by
    rcases hpair with ⟨-, rfl⟩ | ⟨-, rfl⟩ <;> simp)
  have hback := char hcquote hcinner (not_startsComment_of_ne hcslash text) h
  have hboth := hi.append hback (by simpa using hcstar)
  exact char hoquote hoinner (not_startsComment_of_ne hoslash _) hboth

theorem string {quote : Char} {content : List Char} (hq : IsQuote quote)
    (hcontent : ∀ c ∈ content, IsStringChar quote c) (h : IsReadAs text ps) :
    IsReadAs (quote :: (content ++ quote :: text))
      (.string (quote :: (content ++ [quote])) :: ps) := by
  have htail : IsStringTail quote (content ++ [quote]) := by
    clear h
    induction content with
    | nil => exact .close
    | cons c content ih =>
      rw [List.forall_mem_cons] at hcontent
      obtain ⟨hne, hb, -⟩ : c ≠ quote ∧ c ≠ '\\' ∧ c ∉ ['(', ')', '[', ']'] := by
        simpa [IsStringChar, not_or] using hcontent.1
      exact .char hne hb (ih hcontent.2)
  constructor
  · intro comments rest hrest
    have hread := pieces_string comments hq htail (text ++ rest)
    rw [h.pieces comments rest hrest] at hread
    simpa using hread
  · rw [List.forall_mem_cons]
    exact ⟨trivial, h.inner⟩

end IsReadAs

theorem IsSelectorChar.not_isQuote {c : Char} (h : IsSelectorChar c) : ¬ IsQuote c := by
  rintro (rfl | rfl) <;> simp [IsSelectorChar] at h

theorem IsSelectorChar.isInner {c : Char} (h : IsSelectorChar c) : (Piece.char c).IsInner := by
  refine ⟨?_, ?_, ?_⟩ <;> rintro rfl <;> simp [IsSelectorChar] at h

theorem IsSelectorChar.bracketChange {c : Char} (h : IsSelectorChar c) : bracketChange c = 0 := by
  rw [ComponentSplit.bracketChange, if_neg, if_neg]
  · rintro (rfl | rfl) <;> simp [IsSelectorChar] at h
  · rintro (rfl | rfl) <;> simp [IsSelectorChar] at h

theorem IsStringChar.bracketChange {quote c : Char} (h : IsStringChar quote c) :
    bracketChange c = 0 := by
  rw [ComponentSplit.bracketChange, if_neg, if_neg]
  · rintro (rfl | rfl) <;> simp [IsStringChar] at h
  · rintro (rfl | rfl) <;> simp [IsStringChar] at h

theorem IsQuote.bracketChange {c : Char} (h : IsQuote c) : bracketChange c = 0 := by
  rcases h with rfl | rfl <;> decide

theorem Passes.bracket {test : Char → Prop} {opening closing : Char} {depth : Int}
    {is ps : List Piece} (hpair : IsBracketPair opening closing) (hd : 0 ≤ depth)
    (htest : depth = 0 → test opening) (hi : Passes test (depth + 1) is (depth + 1))
    (h : Passes test depth ps depth) :
    Passes test depth (.char opening :: (is ++ .char closing :: ps)) depth := by
  obtain ⟨hopen, hclose⟩ : bracketChange opening = 1 ∧ bracketChange closing = -1 := by
    rcases hpair with ⟨rfl, rfl⟩ | ⟨rfl, rfl⟩ <;> exact ⟨rfl, rfl⟩
  refine ⟨htest, ?_⟩
  rw [hopen]
  refine hi.append ⟨by omega, ?_⟩
  rwa [hclose, Int.add_neg_cancel_right]

theorem IsBracketText.exists_pieces {text : List Char} (h : IsBracketText text) :
    ∃ ps, IsReadAs text ps ∧ ∀ test (depth : Int), 0 < depth → Passes test depth ps depth := by
  induction h with
  | nil => exact ⟨[], .nil, fun _ _ _ => rfl⟩
  | @char c rest hc hs _ ih =>
    obtain ⟨ps, hread, hpass⟩ := ih
    refine ⟨.char c :: ps, .char hc.not_isQuote hc.isInner hs hread, fun test depth hd => ?_⟩
    refine ⟨by omega, ?_⟩
    rw [hc.bracketChange, Int.add_zero]
    exact hpass test depth hd
  | @string quote content rest hq hcontent _ ih =>
    obtain ⟨ps, hread, hpass⟩ := ih
    refine ⟨_, .string hq hcontent hread, fun test depth hd =>
      ⟨by omega, ?_, hpass test depth hd⟩⟩
    rw [List.forall_mem_cons, List.forall_mem_append, List.forall_mem_singleton]
    exact ⟨hq.bracketChange, fun c hc => (hcontent c hc).bracketChange, hq.bracketChange⟩
  | bracket hpair _ _ hi hrest =>
    obtain ⟨is, hiread, hipass⟩ := hi
    obtain ⟨ps, hread, hpass⟩ := hrest
    refine ⟨_, .bracket hpair hiread hread, fun test depth hd => ?_⟩
    exact .bracket hpair (by omega) (by omega) (hipass test _ (by omega)) (hpass test _ hd)

/-- The test lets opening brackets through and whatever is allowed. -/
def IsOpenTo (allowed test : Char → Prop) : Prop :=
  test '(' ∧ test '[' ∧ ∀ c, allowed c → test c

theorem IsCompoundText.exists_pieces {allowed : Char → Prop} {text : List Char}
    (ha : ∀ c, allowed c → IsSelectorChar c) (h : IsCompoundText allowed text) :
    ∃ ps, IsReadAs text ps ∧ ∀ test, IsOpenTo allowed test → Passes test 0 ps 0 := by
  induction h with
  | nil => exact ⟨[], .nil, fun _ _ => rfl⟩
  | @char c rest hc hs _ ih =>
    obtain ⟨ps, hread, hpass⟩ := ih
    have hsel := ha c hc
    refine ⟨.char c :: ps, .char hsel.not_isQuote hsel.isInner hs hread, fun test htest => ?_⟩
    refine ⟨fun _ => htest.2.2 c hc, ?_⟩
    rw [hsel.bracketChange, Int.add_zero]
    exact hpass test htest
  | bracket hpair hi _ hrest =>
    obtain ⟨is, hiread, hipass⟩ := hi.exists_pieces
    obtain ⟨ps, hread, hpass⟩ := hrest
    refine ⟨_, .bracket hpair hiread hread, fun test htest => ?_⟩
    refine .bracket hpair (Int.le_refl 0) (fun _ => ?_) (hipass test _ (by omega))
      (hpass test htest)
    rcases hpair with ⟨rfl, -⟩ | ⟨rfl, -⟩
    · exact htest.1
    · exact htest.2.1

end ComponentSplit
