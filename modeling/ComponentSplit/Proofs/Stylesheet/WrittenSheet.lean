import ComponentSplit.Proofs.Stylesheet.Concatenation
import ComponentSplit.Proofs.Stylesheet.SelectorMark

namespace ComponentSplit

/-- What stands between the braces of a block: braces in pairs, whole strings and whole comments. -/
inductive IsBlock : List Char → Prop
  | nil : IsBlock []
  | char {c : Char} {rest : List Char} : ¬ IsQuote c → c ≠ '\x7b' → c ≠ '\x7d' →
      ¬ StartsComment (c :: rest) → IsBlock rest → IsBlock (c :: rest)
  | string {quote : Char} {tail rest : List Char} : IsQuote quote → IsStringTail quote tail →
      IsBlock rest → IsBlock (quote :: (tail ++ rest))
  | comment {tail rest : List Char} : IsCommentTail tail → IsBlock rest →
      IsBlock ('/' :: '*' :: (tail ++ rest))
  | nested {inner rest : List Char} : IsBlock inner → IsBlock rest →
      IsBlock ('\x7b' :: (inner ++ '\x7d' :: rest))

/-- A text without strings, braces and comments. -/
structure IsPlainText (text : List Char) : Prop where
  chars : ∀ c ∈ text, ¬ IsQuote c ∧ c ≠ '\x7b' ∧ c ≠ '\x7d'
  not_comment : ¬ ∃ before after, text = before ++ '/' :: '*' :: after

/-- What comes before the block of an at-rule. -/
structure AtHead where
  name : List Char
  prelude : List Char
  isName : ∀ c ∈ name, isBlank c = false
  prelude_head : ∀ c ∈ prelude.head?, isBlank c = true
  plain : IsPlainText ('@' :: (name ++ prelude))
  no_semicolon : ';' ∉ name ++ prelude

namespace AtHead

def text (h : AtHead) : List Char := '@' :: (h.name ++ h.prelude)

/-- The block holds a stylesheet; the case of letters does not count. -/
def IsGrouping (h : AtHead) : Prop :=
  String.ofList (('@' :: h.name).map asciiLower) ∈ groupingRules

end AtHead

/-- A style rule: a list of selectors and a block. -/
structure StyleRule where
  selectors : WrittenList
  block : List Char
  isBlock : IsBlock block

/-- A stylesheet, item by item. -/
inductive WrittenSheet
  | done
  | blank (c : Char) (h : isBlank c = true) (rest : WrittenSheet)
  | comment (tail : List Char) (h : IsCommentTail tail) (rest : WrittenSheet)
  | statement (text : List Char) (h : IsPlainText ('@' :: text)) (rest : WrittenSheet)
  | rule (rule : StyleRule) (rest : WrittenSheet)
  | grouping (head : AtHead) (h : head.IsGrouping) (inner rest : WrittenSheet)
  | atRule (head : AtHead) (h : ¬ head.IsGrouping) (block : List Char) (hb : IsBlock block)
      (rest : WrittenSheet)

namespace WrittenSheet

/-- The stylesheet with a mark in each selector of its style rules. -/
def marked : WrittenSheet → MarkedText
  | done => []
  | blank c _ rest => some c :: rest.marked
  | comment tail _ rest => MarkedText.plain ('/' :: '*' :: tail) ++ rest.marked
  | statement text _ rest => MarkedText.plain ('@' :: (text ++ [';'])) ++ rest.marked
  | rule r rest =>
    r.selectors.marked ++ (MarkedText.plain ('\x7b' :: (r.block ++ ['\x7d'])) ++ rest.marked)
  | grouping head _ inner rest =>
    MarkedText.plain (head.text ++ ['\x7b']) ++ (inner.marked ++ some '\x7d' :: rest.marked)
  | atRule head _ block _ rest =>
    MarkedText.plain (head.text ++ '\x7b' :: (block ++ ['\x7d'])) ++ rest.marked

def text (sheet : WrittenSheet) : List Char := sheet.marked.unmarked

end WrittenSheet

/-- The stylesheet with an attribute in each selector of its style rules. -/
def WrittenSheet.scoped (sheet : WrittenSheet) (attr : List Char) : List Char :=
  sheet.marked.fill ('[' :: attr ++ [']'])

namespace SheetState

/-- Some pieces that read `text` lead from one state to another, and the text stays as it is. -/
def IsKept (s : SheetState) (text : List Char) (ps : List Piece) (s' : SheetState)
    (qs : List Piece) : Prop :=
  s'.blocks = s.blocks ∧ ∃ out, out ++ s'.run = s.run ++ text ∧
    s.marked ps = MarkedText.plain out ++ s'.marked qs

variable {s s' s'' : SheetState} {front back : List Char} {ps qs rs : List Piece}

theorem IsKept.trans (h : IsKept s front ps s' qs) (h' : IsKept s' back qs s'' rs) :
    IsKept s (front ++ back) ps s'' rs := by
  obtain ⟨hblocks, out, hout, hmarked⟩ := h
  obtain ⟨hblocks', out', hout', hmarked'⟩ := h'
  refine ⟨hblocks'.trans hblocks, out ++ out', ?_, ?_⟩
  · rw [List.append_assoc, hout', ← List.append_assoc, hout, List.append_assoc]
  · rw [hmarked, hmarked', MarkedText.plain_append, List.append_assoc]

theorem isKept_piece (s : SheetState) {p : Piece} (qs : List Piece)
    (hopen : p ≠ .char '\x7b') (hclose : p ≠ .char '\x7d') :
    IsKept s p.text (p :: qs) (s.next p) qs := by
  rw [IsKept, marked_cons]
  cases p with
  | comment text => cases hb : s.blank <;> simp [next, ended, Piece.text, SheetPart.marked, hb]
  | string text => simp [next, ended, Piece.text]
  | char c =>
    have ho : c ≠ '\x7b' := by simpa using hopen
    have hc : c ≠ '\x7d' := by simpa using hclose
    by_cases hsemi : c = ';' <;> simp [next, ended, Piece.text, SheetPart.marked, ho, hc, hsemi]

theorem marked_close (s : SheetState) (qs : List Piece) :
    s.marked (.char '\x7d' :: qs) =
      MarkedText.plain (s.run ++ ['\x7d']) ++ marked ⟨s.blocks.tail, true, []⟩ qs := by
  rw [marked_cons]
  simp [ended, next, SheetPart.marked]

theorem marked_open (s : SheetState) (qs : List Piece) :
    s.marked (.char '\x7b' :: qs) =
      (if isSelectorList s.allowed s.run then markSelectors s.run else MarkedText.plain s.run) ++
        some '\x7b' :: marked ⟨opensRules s.allowed s.run :: s.blocks, true, []⟩ qs := by
  rw [marked_cons]
  cases hlist : isSelectorList s.allowed s.run <;> simp [ended, next, SheetPart.marked, hlist]

/-- Where style rules may not stand, a pair of braces and what is kept between them is kept. -/
theorem isKept_braces (hs : s.allowed = false) (h : IsKept ⟨false :: s.blocks, true, []⟩ front ps s'
    (.char '\x7d' :: qs)) :
    IsKept s ('\x7b' :: (front ++ ['\x7d'])) (.char '\x7b' :: ps) ⟨s.blocks, true, []⟩ qs := by
  obtain ⟨hblocks, out, hout, hmarked⟩ := h
  refine ⟨rfl, s.run ++ '\x7b' :: (front ++ ['\x7d']), by simp, ?_⟩
  have hopen : opensRules s.allowed s.run = false := by simp [opensRules, hs]
  have hlist : isSelectorList s.allowed s.run = false := by simp [isSelectorList, hs]
  have hfront : front = out ++ s'.run := by simpa using hout.symm
  rw [marked_open, hopen, hlist, hmarked, marked_close, hblocks, hfront]
  simp

/-- A run up to an opening brace. -/
theorem marked_run (blocks : List Bool) (blank : Bool) (run : List Char) {ps : List Piece}
    (h : ∀ p ∈ ps, p.IsInner) (qs : List Piece) :
    ∃ blank', marked ⟨blocks, blank, run⟩ (ps ++ qs) =
      marked ⟨blocks, blank', run ++ ps.flatMap Piece.text⟩ qs := by
  induction ps generalizing blank run with
  | nil => exact ⟨blank, by simp⟩
  | cons p ps ih =>
    rw [List.forall_mem_cons] at h
    obtain ⟨hp, hps⟩ := h
    cases p with
    | comment text => exact hp.elim
    | string text =>
      obtain ⟨blank', hrest⟩ := ih false (run ++ text) hps
      refine ⟨blank', ?_⟩
      rw [List.cons_append, marked_cons]
      simpa [ended, next, Piece.text] using hrest
    | char c =>
      obtain ⟨ho, hc, hsemi⟩ := hp
      obtain ⟨blank', hrest⟩ := ih (blank && isBlank c) (run ++ [c]) hps
      refine ⟨blank', ?_⟩
      rw [List.cons_append, marked_cons]
      simpa [ended, next, Piece.text, ho, hc, hsemi] using hrest

end SheetState

theorem SheetState.exists_isKept_cons {s : SheetState} (p : Piece) {text : List Char}
    {ps qs : List Piece} (hs : s.allowed = false) (hopen : p ≠ .char '\x7b')
    (hclose : p ≠ .char '\x7d')
    (h : ∀ {t : SheetState}, t.allowed = false → ∃ s', IsKept t text ps s' qs) :
    ∃ s', IsKept s (p.text ++ text) (p :: ps) s' qs := by
  have hfirst := s.isKept_piece ps hopen hclose
  have hallowed : (s.next p).allowed = false := by
    rw [SheetState.allowed, hfirst.1]
    exact hs
  obtain ⟨s', hrest⟩ := h hallowed
  exact ⟨s', hfirst.trans hrest⟩

/-- Where style rules may not stand, a block stays as it is. -/
theorem IsBlock.exists_isKept {block : List Char} (h : IsBlock block) {s : SheetState}
    (hs : s.allowed = false) (rest : List Char) (hrest : rest.head? ≠ some '*') :
    ∃ s', SheetState.IsKept s block (pieces true (block ++ rest)) s' (pieces true rest) := by
  induction h generalizing s rest with
  | nil => exact ⟨s, rfl, [], by simp⟩
  | @char c tail hq ho hc hstart _ ih =>
    have hcomment := not_startsComment_append hstart hrest
    rw [List.cons_append, pieces_char hq fun _ => hcomment]
    exact SheetState.exists_isKept_cons (.char c) hs (by simpa using ho) (by simpa using hc)
      fun ht => ih ht rest hrest
  | @string quote string tail hq hstring _ ih =>
    rw [List.cons_append, List.append_assoc, pieces_string true hq hstring]
    exact SheetState.exists_isKept_cons (.string (quote :: string)) hs (by simp) (by simp)
      fun ht => ih ht rest hrest
  | @comment comment tail hcomment _ ih =>
    rw [List.cons_append, List.cons_append, List.append_assoc, pieces_comment hcomment]
    exact SheetState.exists_isKept_cons (.comment ('/' :: '*' :: comment)) hs (by simp) (by simp)
      fun ht => ih ht rest hrest
  | @nested inner tail _ _ ihi iht =>
    -- the block of the pair is read from a state of its own, the text behind it from the old one
    obtain ⟨s', hinner⟩ := ihi (s := ⟨false :: s.blocks, true, []⟩) rfl
      ('\x7d' :: (tail ++ rest)) (by simp)
    obtain ⟨s'', htail⟩ := iht (s := ⟨s.blocks, true, []⟩) hs rest hrest
    rw [pieces_plainChar true '\x7d' (by decide) (by decide)] at hinner
    have hboth := (SheetState.isKept_braces hs hinner).trans htail
    rw [List.cons_append, List.append_assoc, List.cons_append,
      pieces_plainChar true '\x7b' (by decide) (by decide)]
    refine ⟨s'', ?_⟩
    rwa [List.cons_append, List.append_assoc, List.singleton_append] at hboth

theorem IsPlainText.pieces {text : List Char} (h : IsPlainText text) (comments : Bool)
    {rest : List Char} (hrest : rest.head? ≠ some '*') :
    pieces comments (text ++ rest) = text.map .char ++ pieces comments rest := by
  induction text with
  | nil => rfl
  | cons c text ih =>
    obtain ⟨⟨hq, -⟩, hchars⟩ := List.forall_mem_cons.mp h.chars
    have htext : IsPlainText text := by
      refine ⟨hchars, ?_⟩
      rintro ⟨before, after, rfl⟩
      exact h.not_comment ⟨c :: before, after, rfl⟩
    have hstart : ¬ StartsComment (c :: (text ++ rest)) := by
      rw [startsComment_cons]
      rintro ⟨rfl, hstar⟩
      cases text with
      | nil => exact hrest hstar
      | cons d text =>
        obtain rfl : d = '*' := by simpa using hstar
        exact h.not_comment ⟨[], text, rfl⟩
    rw [List.cons_append, pieces_char hq fun _ => hstart, ih htext]
    rfl

theorem IsPlainText.exists_isKept {text : List Char} (h : IsPlainText text) (s : SheetState)
    (ps : List Piece) : ∃ s', SheetState.IsKept s text (text.map .char ++ ps) s' ps := by
  have hchars := h.chars
  clear h
  induction text generalizing s with
  | nil => exact ⟨s, rfl, [], by simp⟩
  | cons c text ih =>
    obtain ⟨⟨-, hopen, hclose⟩, htext⟩ := List.forall_mem_cons.mp hchars
    have hfirst := s.isKept_piece (text.map .char ++ ps) (p := .char c) (by simpa using hopen)
      (by simpa using hclose)
    obtain ⟨s', hrest⟩ := ih (s.next (.char c)) htext
    exact ⟨s', hfirst.trans hrest⟩

/-- A statement stays as it is, semicolons within it included. -/
theorem IsPlainText.marked_statement {text : List Char} (h : IsPlainText text) (blocks : List Bool)
    (rest : List Char) :
    SheetState.marked ⟨blocks, true, []⟩ (ComponentSplit.pieces true (text ++ ';' :: rest)) =
      MarkedText.plain (text ++ [';']) ++
        SheetState.marked ⟨blocks, true, []⟩ (ComponentSplit.pieces true rest) := by
  obtain ⟨s', hblocks, out, hout, hkept⟩ :=
    h.exists_isKept ⟨blocks, true, []⟩ (ComponentSplit.pieces true (';' :: rest))
  have htext : text = out ++ s'.run := by simpa using hout.symm
  rw [h.pieces true (by simp), hkept, pieces_plainChar true ';' (by decide) (by decide),
    SheetState.marked_cons, htext]
  simp [SheetState.ended, SheetState.next, SheetPart.marked, hblocks]

/-- A text that is no selector list is kept up to an opening brace, where style rules may stand. -/
theorem IsPlainText.marked_open {text : List Char} (h : IsPlainText text) (hsemi : ';' ∉ text)
    (hlist : isSelectorList true text = false) (blocks : List Bool)
    (hblocks : blocks.head?.getD true = true) (rest : List Char) :
    SheetState.marked ⟨blocks, true, []⟩ (ComponentSplit.pieces true (text ++ '\x7b' :: rest)) =
      MarkedText.plain (text ++ ['\x7b']) ++
        SheetState.marked ⟨opensRules true text :: blocks, true, []⟩
          (ComponentSplit.pieces true rest) := by
  have hinner : ∀ p ∈ text.map Piece.char, p.IsInner := by
    intro p hp
    obtain ⟨c, hc, rfl⟩ := List.mem_map.mp hp
    obtain ⟨-, ho, hcl⟩ := h.chars c hc
    refine ⟨ho, hcl, ?_⟩
    rintro rfl
    exact hsemi hc
  obtain ⟨blank', hrun⟩ := SheetState.marked_run blocks true [] hinner
    (ComponentSplit.pieces true ('\x7b' :: rest))
  have hallowed : SheetState.allowed ⟨blocks, blank', text⟩ = true := hblocks
  rw [List.nil_append, flatMap_text_chars] at hrun
  rw [h.pieces true (by simp), hrun, pieces_plainChar true '\x7b' (by decide) (by decide),
    SheetState.marked_open, hallowed, hlist]
  simp

/-- A block between its braces, where style rules may not stand in it. -/
theorem IsBlock.marked_braces {block : List Char} (h : IsBlock block) (blocks : List Bool)
    (rest : List Char) :
    SheetState.marked ⟨false :: blocks, true, []⟩ (pieces true (block ++ '\x7d' :: rest)) =
      MarkedText.plain (block ++ ['\x7d']) ++
        SheetState.marked ⟨blocks, true, []⟩ (pieces true rest) := by
  obtain ⟨s', hblocks, out, hout, hmarked⟩ := h.exists_isKept
    (s := ⟨false :: blocks, true, []⟩) rfl ('\x7d' :: rest) (by simp)
  have hblock : block = out ++ s'.run := by simpa using hout.symm
  rw [hmarked, pieces_plainChar true '\x7d' (by decide) (by decide), SheetState.marked_close,
    hblocks, hblock]
  simp

theorem firstWord_append {word rest : List Char} (hne : word ≠ [])
    (hword : ∀ c ∈ word, isBlank c = false) (hrest : ∀ c ∈ rest.head?, isBlank c = true) :
    firstWord (word ++ rest) = word.map asciiLower := by
  have hhead : ∀ c ∈ (word ++ rest).head?, isBlank c = false := by
    rw [head?_append_of_ne_nil hne]
    exact fun c hc => hword c (List.mem_of_mem_head? hc)
  rw [firstWord, trimStart_of_head hhead]
  congr 1
  exact takeWhile_append_stop (by simpa using hword) (by simpa using hrest)

namespace AtHead

variable (h : AtHead)

theorem firstWord_text : firstWord h.text = ('@' :: h.name).map asciiLower := by
  have hword : ∀ c ∈ '@' :: h.name, isBlank c = false := by
    rw [List.forall_mem_cons]
    exact ⟨rfl, h.isName⟩
  exact firstWord_append (List.cons_ne_nil _ _) hword h.prelude_head

theorem isSelectorList_text (allowed : Bool) : isSelectorList allowed h.text = false := by
  have hat : asciiLower '@' = '@' := by decide
  rw [isSelectorList, h.firstWord_text, List.map_cons, hat]
  simp

theorem opensRules_text : opensRules true h.text = true ↔ h.IsGrouping := by
  rw [opensRules, h.firstWord_text, IsGrouping]
  simp

/-- An at-rule with a block is kept up to its opening brace. -/
theorem marked_text (blocks : List Bool) (hblocks : blocks.head?.getD true = true)
    (rest : List Char) :
    SheetState.marked ⟨blocks, true, []⟩ (pieces true (h.text ++ '\x7b' :: rest)) =
      MarkedText.plain (h.text ++ ['\x7b']) ++
        SheetState.marked ⟨opensRules true h.text :: blocks, true, []⟩ (pieces true rest) := by
  have hsemi : ';' ∉ h.text := by simpa [text] using h.no_semicolon
  exact h.plain.marked_open hsemi (h.isSelectorList_text true) blocks hblocks rest

end AtHead

/-- A style rule that stands where it may is marked in its selectors. -/
theorem StyleRule.marked_text (r : StyleRule) (blocks : List Bool)
    (hblocks : blocks.head?.getD true = true) (rest : List Char) :
    SheetState.marked ⟨blocks, true, []⟩
        (pieces true (r.selectors.text ++ '\x7b' :: (r.block ++ '\x7d' :: rest))) =
      r.selectors.marked ++ (MarkedText.plain ('\x7b' :: (r.block ++ ['\x7d'])) ++
        SheetState.marked ⟨blocks, true, []⟩ (pieces true rest)) := by
  obtain ⟨ps, hread, -⟩ := WrittenList.exists_pieces r.selectors.first r.selectors.others
  obtain ⟨blank', hrun⟩ := SheetState.marked_run blocks true [] hread.inner
    (pieces true ('\x7b' :: (r.block ++ '\x7d' :: rest)))
  have hallowed : SheetState.allowed ⟨blocks, blank', r.selectors.text⟩ = true := hblocks
  obtain ⟨hlist, hopens⟩ := r.selectors.isSelectorList_text
  rw [List.nil_append, hread.flatMap_text] at hrun
  rw [hread.pieces true _ (by simp), hrun, pieces_plainChar true '\x7b' (by decide) (by decide),
    SheetState.marked_open, hallowed, hlist, hopens, r.isBlock.marked_braces,
    r.selectors.markSelectors_text]
  simp

namespace WrittenSheet

/-- A written stylesheet is marked apart from what follows it, wherever style rules may stand. -/
theorem marked_text_append (sheet : WrittenSheet) (blocks : List Bool)
    (hblocks : blocks.head?.getD true = true) (rest : List Char) :
    SheetState.marked ⟨blocks, true, []⟩ (pieces true (sheet.text ++ rest)) =
      sheet.marked ++ SheetState.marked ⟨blocks, true, []⟩ (pieces true rest) := by
  induction sheet generalizing blocks rest with
  | done => rfl
  | blank c hc items ih =>
    have htext : text (blank c hc items) = c :: items.text := rfl
    obtain ⟨hq, hslash, ⟨ho, hcl, hsemi⟩, -⟩ := blank_spec hc
    have hblank : ∀ d ∈ [c], isBlank d = true := by simpa using hc
    have hkept := SheetState.marked_blank_append hblank
      ⟨blocks, true, []⟩ (pieces true (items.text ++ rest))
    rw [htext, List.cons_append, pieces_plainChar true c hq hslash, SheetState.marked_cons]
    simpa [SheetState.ended, SheetState.next, ho, hcl, hsemi, hc, ih blocks hblocks rest,
      marked] using hkept
  | comment tail hcomment items ih =>
    have htext : text (comment tail hcomment items) = '/' :: '*' :: (tail ++ items.text) := by
      simp [text, marked]
    rw [htext, List.cons_append, List.cons_append, List.append_assoc, pieces_comment hcomment,
      SheetState.marked_cons]
    simp [SheetState.ended, SheetState.next, SheetPart.marked, ih blocks hblocks rest, marked]
  | statement statement hplain items ih =>
    have htext : text (.statement statement hplain items) =
        ('@' :: statement) ++ ';' :: items.text := by
      simp [text, marked]
    have hstatement := hplain.marked_statement blocks (items.text ++ rest)
    rw [htext]
    simpa [ih blocks hblocks rest, marked] using hstatement
  | rule r items ih =>
    have htext : text (rule r items) =
        r.selectors.text ++ '\x7b' :: (r.block ++ '\x7d' :: items.text) := by
      simp [text, marked, r.selectors.unmarked_marked]
    have hrule := r.marked_text blocks hblocks (items.text ++ rest)
    rw [htext]
    simpa [ih blocks hblocks rest, marked] using hrule
  | grouping head hg inner items ihi ih =>
    have htext : text (grouping head hg inner items) =
        head.text ++ '\x7b' :: (inner.text ++ '\x7d' :: items.text) := by
      simp [text, marked]
    have hhead := head.marked_text blocks hblocks (inner.text ++ '\x7d' :: (items.text ++ rest))
    -- style rules may stand in the block again, and behind it where they could before it
    rw [head.opensRules_text.mpr hg, ihi (true :: blocks) rfl,
      pieces_plainChar true '\x7d' (by decide) (by decide), SheetState.marked_close] at hhead
    rw [htext]
    simpa [ih blocks hblocks rest, marked] using hhead
  | atRule head hg block hb items ih =>
    have htext : text (atRule head hg block hb items) =
        head.text ++ '\x7b' :: (block ++ '\x7d' :: items.text) := by
      simp [text, marked]
    -- no style rules may stand in the block, so it is kept like that of a style rule
    have hopens : opensRules true head.text = false := by
      rw [← Bool.not_eq_true, head.opensRules_text]
      exact hg
    have hhead := head.marked_text blocks hblocks (block ++ '\x7d' :: (items.text ++ rest))
    rw [hopens, hb.marked_braces] at hhead
    rw [htext]
    simpa [ih blocks hblocks rest, marked] using hhead

end WrittenSheet

/-- Scoping narrows the selectors of the style rules, at top level and inside grouping rules, each
in front of the pseudo-classes of its last compound, and leaves all else as it is. -/
theorem scopeStylesheet_written (sheet : WrittenSheet) (attr : List Char) :
    scopeStylesheet sheet.text attr = sheet.scoped attr := by
  have hmarked := sheet.marked_text_append [] rfl []
  rw [List.append_nil, pieces_nil, SheetState.marked_nil, MarkedText.plain_nil,
    List.append_nil] at hmarked
  rw [scopeStylesheet, markStylesheet_eq_marked, hmarked]
  rfl

end ComponentSplit
