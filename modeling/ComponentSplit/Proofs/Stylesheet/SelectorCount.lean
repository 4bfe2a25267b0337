import ComponentSplit.Proofs.Stylesheet.Concatenation
import ComponentSplit.Proofs.Stylesheet.Insertion
import ComponentSplit.Proofs.Stylesheet.SelectorMark

namespace ComponentSplit

namespace Piece

/-- The piece is more than white space and comments. -/
def isInk : Piece → Bool
  | comment _ => false
  | string _ => true
  | char c => !isBlank c

def isComment : Piece → Bool
  | comment _ => true
  | _ => false

/-- A comment of which nothing means anything in a selector list, or another piece. -/
def IsHarmless : Piece → Prop
  | comment text => ∀ c ∈ text, ¬ IsQuote c ∧ c ≠ ',' ∧ bracketChange c = 0
  | _ => True

instance : DecidablePred IsHarmless
  | comment text => List.decidableBAll _ text
  | string _ => inferInstanceAs (Decidable True)
  | char _ => inferInstanceAs (Decidable True)

/-- The pieces that a piece is read as where comments do not count. -/
def asText : Piece → List Piece
  | comment text => text.map char
  | string text => [string text]
  | char c => [char c]

end Piece

/-- The parts of some pieces between the commas outside strings, comments and brackets. -/
def selectorParts (depth : Int) : List Piece → List (List Piece)
  | [] => [[]]
  | .char c :: rest =>
    if c = ',' ∧ depth = 0 then [] :: selectorParts depth rest
    else (selectorParts (depth + bracketChange c) rest).modifyHead (.char c :: ·)
  | p :: rest => (selectorParts depth rest).modifyHead (p :: ·)

section Parts

variable {depth : Int} {p : Piece} {ps : List Piece}

theorem exists_selectorParts (depth : Int) (ps : List Piece) :
    ∃ first others, selectorParts depth ps = first :: others := by
  fun_induction selectorParts depth ps with
  | case1 => exact ⟨[], [], rfl⟩
  | case2 depth c rest h ih => exact ⟨[], _, rfl⟩
  | case3 depth c rest h ih =>
    obtain ⟨first, others, hparts⟩ := ih
    exact ⟨.char c :: first, others, by rw [hparts]; rfl⟩
  | case4 depth p rest h ih =>
    obtain ⟨first, others, hparts⟩ := ih
    exact ⟨p :: first, others, by rw [hparts]; rfl⟩

theorem splitSelectors_eq_map (depth : Int) (ps : List Piece) :
    splitSelectors depth ps = (selectorParts depth ps).map (·.flatMap Piece.text) := by
  fun_induction selectorParts depth ps with
  | case1 => rfl
  | case2 depth c rest h ih =>
    rw [splitSelectors, if_pos h, ih]
    rfl
  | case3 depth c rest h ih =>
    obtain ⟨first, others, hparts⟩ := exists_selectorParts (depth + bracketChange c) rest
    rw [splitSelectors, if_neg h, ih, hparts]
    rfl
  | case4 depth p rest h ih =>
    obtain ⟨first, others, hparts⟩ := exists_selectorParts depth rest
    rw [splitSelectors, ih, hparts]
    · rfl
    · exact h

theorem flatten_selectorParts_sublist (depth : Int) (ps : List Piece) :
    (selectorParts depth ps).flatten.Sublist ps := by
  fun_induction selectorParts depth ps with
  | case1 => exact List.Sublist.slnil
  | case2 depth c rest h ih => exact ih.cons _
  | case3 depth c rest h ih =>
    obtain ⟨first, others, hparts⟩ := exists_selectorParts (depth + bracketChange c) rest
    rw [hparts] at ih ⊢
    exact ih.cons_cons _
  | case4 depth p rest h ih =>
    obtain ⟨first, others, hparts⟩ := exists_selectorParts depth rest
    rw [hparts] at ih ⊢
    exact ih.cons_cons _

/-- White space and comments in front of some pieces go to their first part. -/
theorem selectorParts_lead {lead : List Piece} (h : ∀ p ∈ lead, p.isInk = false)
    (ps : List Piece) :
    selectorParts 0 (lead ++ ps) = (selectorParts 0 ps).modifyHead (lead ++ ·) := by
  induction lead with
  | nil =>
    obtain ⟨first, others, hparts⟩ := exists_selectorParts 0 ps
    rw [List.nil_append, hparts]
    rfl
  | cons p lead ih =>
    rw [List.forall_mem_cons] at h
    obtain ⟨first, others, hparts⟩ := exists_selectorParts 0 ps
    have hrest := ih h.2
    rw [hparts] at hrest ⊢
    cases p with
    | comment text =>
      rw [List.cons_append, selectorParts, hrest]
      · rfl
      · simp
    | string text => exact absurd h.1 (by simp [Piece.isInk])
    | char c =>
      have hblank : isBlank c = true := by simpa [Piece.isInk] using h.1
      have hcomma : ¬ (c = ',' ∧ (0 : Int) = 0) := by
        rintro ⟨rfl, -⟩
        simp [isBlank] at hblank
      rw [List.cons_append, selectorParts, if_neg hcomma, bracketChange_blank hblank, Int.add_zero,
        hrest]
      rfl

/-- Harmless comments do not divide a list, whether or not they are taken for text. -/
theorem splitSelectors_asText (h : ∀ p ∈ ps, p.IsHarmless) (depth : Int) :
    splitSelectors depth (ps.flatMap Piece.asText) = splitSelectors depth ps := by
  fun_induction splitSelectors depth ps with
  | case1 => rfl
  | case2 depth c rest hc ih =>
    rw [List.forall_mem_cons] at h
    have hrest := ih h.2
    rw [List.flatMap_cons, Piece.asText, List.singleton_append, splitSelectors, if_pos hc, hrest]
  | case3 depth c rest hc ih =>
    rw [List.forall_mem_cons] at h
    rw [List.flatMap_cons, Piece.asText, List.singleton_append, splitSelectors, if_neg hc, ih h.2]
  | case4 depth p rest hp ih =>
    rw [List.forall_mem_cons] at h
    rw [List.flatMap_cons]
    cases p with
    | comment text =>
      have hpass : Passes (· ≠ ',') depth (text.map .char) depth :=
        passes_chars fun c hc => (h.1 c hc).2
      rw [Piece.asText, hpass.splitSelectors, flatMap_text_chars, ih h.2]
      rfl
    | string text =>
      rw [Piece.asText, List.singleton_append, splitSelectors, ih h.2]
      simp
    | char c => exact absurd rfl (hp c)

/-- Where comments do not count, harmless ones are read as their characters. -/
theorem pieces_asText {text : List Char} (h : ∀ p ∈ pieces true text, p.IsHarmless) :
    pieces false text = (pieces true text).flatMap Piece.asText := by
  induction text using pieces_induction with
  | nil => simp
  | comment tail ih =>
    rw [pieces_slash_star] at h ⊢
    rw [List.forall_mem_cons] at h
    obtain ⟨hcomment, hrest⟩ := h
    have hread := pieces_chars (fun c hc => (hcomment c hc).1) (spanComment tail).2
    rw [ih hrest, List.cons_append, List.cons_append, spanComment_append] at hread
    exact hread
  | string quote rest hq ih =>
    rw [pieces_quote true hq] at h ⊢
    rw [List.forall_mem_cons] at h
    rw [pieces_quote false hq, ih h.2]
    rfl
  | char c rest hq hc ih =>
    have hread : ∀ comments, pieces comments (c :: rest) = .char c :: pieces comments rest :=
      fun comments => pieces_char hq fun _ => hc
    rw [hread, List.forall_mem_cons] at h
    rw [hread, hread, ih h.2]
    rfl

/-- What is left of the pieces of a text behind some of them are the pieces of a text. -/
theorem exists_pieces_eq {text : List Char} {qs : List Piece} (h : pieces true text = ps ++ qs) :
    ∃ back, pieces true back = qs := by
  induction ps generalizing text with
  | nil => exact ⟨text, h⟩
  | cons p ps ih =>
    cases text with
    | nil => simp at h
    | cons c rest =>
      have hcons : ∃ q back, pieces true (c :: rest) = q :: pieces true back := by
        rw [pieces]
        split
        · exact ⟨_, _, rfl⟩
        · split
          · exact ⟨_, _, rfl⟩
          · exact ⟨_, _, rfl⟩
      obtain ⟨q, back, hback⟩ := hcons
      rw [hback] at h
      exact ih (List.cons.inj h).2

theorem all_isBlank_text {text : List Char} {p : Piece} (h : p ∈ pieces true text) :
    p.text.all isBlank = !(p.isInk || p.isComment) := by
  induction text using pieces_induction with
  | nil => simp at h
  | comment tail ih =>
    rw [pieces_slash_star] at h
    rcases List.mem_cons.mp h with rfl | hrest
    · simp [Piece.text, Piece.isComment, isBlank]
    · exact ih hrest
  | string quote rest hq ih =>
    rw [pieces_quote true hq] at h
    rcases List.mem_cons.mp h with rfl | hrest
    · have hquote : isBlank quote = false :=
        Bool.eq_false_iff.mpr fun hblank => not_isQuote_of_blank hblank hq
      simp [Piece.text, Piece.isInk, hquote]
    · exact ih hrest
  | char c rest hq hc ih =>
    rw [pieces_char hq fun _ => hc] at h
    rcases List.mem_cons.mp h with rfl | hrest
    · simp [Piece.text, Piece.isInk, Piece.isComment]
    · exact ih hrest

end Parts

section Marks

theorem MarkedText.length_offsetsFrom (pos : Nat) (t : MarkedText) :
    (offsetsFrom pos t).length = t.countP Option.isNone := by
  induction t generalizing pos with
  | nil => rfl
  | cons a t ih =>
    cases a with
    | some c => simpa [offsetsFrom] using ih (pos + 1)
    | none => simpa [offsetsFrom] using ih pos

@[simp]
theorem MarkedText.countP_plain (text : List Char) : (plain text).countP Option.isNone = 0 := by
  simp [plain]

theorem countP_markSelector (selector : List Char) :
    (markSelector selector).countP Option.isNone = if selector.all isBlank then 0 else 1 := by
  rcases markSelector_cases selector with ⟨hblank, h⟩ | ⟨front, core, back, rfl, -, hcore, -, h⟩
  · rw [h, if_pos (List.all_eq_true.mpr hblank), MarkedText.countP_plain]
  · have hink : ¬ (front ++ (core ++ back)).all isBlank = true := by
      obtain ⟨c, rest, hc⟩ := List.exists_cons_of_ne_nil hcore.ne_nil
      have hhead := hcore.head c (by simp [hc])
      simp [hc, hhead]
    rw [h, if_neg hink, markCore]
    simp

theorem countP_markSelectors (list : List Char) :
    (markSelectors list).countP Option.isNone =
      (splitSelectors 0 (pieces false list)).countP (!·.all isBlank) := by
  obtain ⟨first, others, hsplit⟩ :=
    List.exists_cons_of_ne_nil (splitSelectors_ne_nil 0 (pieces false list))
  rw [markSelectors, hsplit, List.map_cons, joinSelectors_cons, List.countP_append,
    countP_markSelector, List.countP_cons]
  have hothers : ((others.map markSelector).flatMap (some ',' :: ·)).countP Option.isNone =
      others.countP (!·.all isBlank) := by
    clear hsplit
    induction others with
    | nil => rfl
    | cons second others ih =>
      rw [List.map_cons, List.flatMap_cons, List.countP_append, ih, List.countP_cons,
        List.countP_cons, countP_markSelector]
      cases second.all isBlank <;> simp [Nat.add_comm]
  rw [hothers]
  cases first.all isBlank <;> simp [Nat.add_comm]

/-- Every mark is in a part of the list that is more than white space. -/
theorem countP_markSelectors_parts {text : List Char} (h : ∀ p ∈ pieces true text, p.IsHarmless) :
    (markSelectors text).countP Option.isNone =
      (selectorParts 0 (pieces true text)).countP fun part =>
        part.any Piece.isInk || part.any Piece.isComment := by
  rw [countP_markSelectors, pieces_asText h, splitSelectors_asText h, splitSelectors_eq_map,
    List.countP_map]
  refine List.countP_congr fun part hpart => ?_
  have hblank : (part.flatMap Piece.text).all isBlank =
      !(part.any Piece.isInk || part.any Piece.isComment) := by
    have hpieces : ∀ p ∈ part, p.text.all isBlank = !(p.isInk || p.isComment) := by
      intro p hp
      have hmem := (flatten_selectorParts_sublist _ _).subset (List.mem_flatten_of_mem hpart hp)
      exact all_isBlank_text hmem
    clear hpart
    induction part with
    | nil => rfl
    | cons p part ih =>
      rw [List.forall_mem_cons] at hpieces
      rw [List.flatMap_cons, List.all_append, hpieces.1, ih hpieces.2, List.any_cons,
        List.any_cons]
      cases p.isInk <;> cases p.isComment <;> simp
  simp [hblank]

end Marks

namespace SheetState

/-- White space and comments in front of a rule have no marks. -/
theorem countP_marked_lead {lead : List Piece} (hlead : ∀ p ∈ lead, p.isInk = false)
    {run : List Char} (hrun : ∀ c ∈ run, isBlank c = true) (blocks : List Bool) (ps : List Piece) :
    (marked ⟨blocks, true, run⟩ (lead ++ ps)).countP Option.isNone =
      (marked ⟨blocks, true, []⟩ ps).countP Option.isNone := by
  induction lead generalizing run with
  | nil =>
    have hmarked := marked_blank_append hrun ⟨blocks, true, []⟩ ps
    rw [List.append_nil] at hmarked
    rw [List.nil_append, hmarked, List.countP_append, MarkedText.countP_plain, Nat.zero_add]
  | cons p lead ih =>
    rw [List.forall_mem_cons] at hlead
    rw [List.cons_append, marked_cons, List.countP_append]
    cases p with
    | comment text =>
      have hnone : ∀ d ∈ ([] : List Char), isBlank d = true := by simp
      simpa [ended, next, SheetPart.marked] using ih hlead.2 hnone
    | string text => exact absurd hlead.1 (by simp [Piece.isInk])
    | char c =>
      have hblank : isBlank c = true := by simpa [Piece.isInk] using hlead.1
      have hstop : c ≠ '\x7b' ∧ c ≠ '\x7d' ∧ c ≠ ';' := by
        refine ⟨?_, ?_, ?_⟩ <;>
        · rintro rfl
          simp [isBlank] at hblank
      have hmore : ∀ d ∈ run ++ [c], isBlank d = true := by
        simpa [or_imp, forall_and] using ⟨hrun, hblank⟩
      simpa [ended, next, hstop, hblank] using ih hlead.2 hmore

/-- A piece that is more than white space and comments, or stands behind such a one, goes on with the
run unless it is a brace or a semicolon. -/
theorem next_inked {s : SheetState} {p : Piece} (hink : s.blank = false ∨ p.isInk = true)
    (hstops : ∀ c ∈ ['\x7b', '\x7d', ';'], .char c ≠ p) :
    s.next p = ⟨s.blocks, false, s.run ++ p.text⟩ ∧ s.ended p = [] := by
  cases p with
  | comment text =>
    obtain hblank | hink := hink
    · simp [SheetState.next, ended, hblank, Piece.text]
    · cases hink
  | string text => exact ⟨rfl, rfl⟩
  | char c =>
    have hstop : ∀ d ∈ ['\x7b', '\x7d', ';'], c ≠ d := by
      rintro d hd rfl
      exact hstops c hd rfl
    have hblank : (s.blank && isBlank c) = false := by
      obtain hblank | hink := hink
      · rw [hblank, Bool.false_and]
      · have hc : isBlank c = false := by simpa [Piece.isInk] using hink
        rw [hc, Bool.and_false]
    simp only [List.forall_mem_cons] at hstop
    simp [SheetState.next, ended, hstop, Piece.text, hblank]

/-- A run goes on as long as no brace and no semicolon ends it. -/
theorem marked_inkedRun {ps : List Piece}
    (hstops : ∀ c ∈ ['\x7b', '\x7d', ';'], .char c ∉ ps) (blocks : List Bool) (run : List Char)
    (qs : List Piece) : marked ⟨blocks, false, run⟩ (ps ++ qs) =
      marked ⟨blocks, false, run ++ ps.flatMap Piece.text⟩ qs := by
  induction ps generalizing run with
  | nil => simp
  | cons p ps ih =>
    have hfirst : ∀ c ∈ ['\x7b', '\x7d', ';'], .char c ≠ p := fun c hc =>
      List.ne_of_not_mem_cons (hstops c hc)
    have hrest : ∀ c ∈ ['\x7b', '\x7d', ';'], .char c ∉ ps := fun c hc =>
      List.not_mem_of_not_mem_cons (hstops c hc)
    obtain ⟨hnext, hended⟩ := next_inked (s := ⟨blocks, false, run⟩) (.inl rfl) hfirst
    rw [List.cons_append, marked_cons, hnext, hended, ih hrest, List.flatMap_cons,
      List.append_assoc]
    rfl

/-- More than white space and comments starts a run. -/
theorem marked_ink {p : Piece} {ps : List Piece} (hink : p.isInk = true)
    (hstops : ∀ c ∈ ['\x7b', '\x7d', ';'], .char c ∉ p :: ps) (blocks : List Bool)
    (qs : List Piece) : marked ⟨blocks, true, []⟩ (p :: ps ++ qs) =
      marked ⟨blocks, false, (p :: ps).flatMap Piece.text⟩ qs := by
  have hfirst : ∀ c ∈ ['\x7b', '\x7d', ';'], .char c ≠ p := fun c hc =>
    List.ne_of_not_mem_cons (hstops c hc)
  have hrest : ∀ c ∈ ['\x7b', '\x7d', ';'], .char c ∉ ps := fun c hc =>
    List.not_mem_of_not_mem_cons (hstops c hc)
  obtain ⟨hnext, hended⟩ := next_inked (s := ⟨blocks, true, []⟩) (.inr hink) hfirst
  rw [List.cons_append, marked_cons, hnext, hended, marked_inkedRun hrest, List.flatMap_cons]
  rfl

theorem marked_braces {run : List Char} (h : isSelectorList true run = true) :
    marked ⟨[], false, run⟩ [.char '\x7b', .char '\x7d'] =
      markSelectors run ++ MarkedText.plain ['\x7b', '\x7d'] := by
  have hallowed : allowed ⟨[], false, run⟩ = true := rfl
  simp [marked, parts, ended, next, hallowed, h, SheetPart.marked]

end SheetState

/-- The pieces from the first one on that is more than white space and comments. -/
def inkedPieces (ps : List Piece) : List Piece := ps.dropWhile (!·.isInk)

theorem exists_lead (ps : List Piece) :
    ∃ lead : List Piece, (∀ p ∈ lead, p.isInk = false) ∧ ps = lead ++ inkedPieces ps := by
  refine ⟨ps.takeWhile (!·.isInk), ?_, List.takeWhile_append_dropWhile.symm⟩
  intro p hp
  simpa using List.mem_takeWhile_imp hp

theorem isInk_of_inkedPieces {p : Piece} {ps qs : List Piece} (h : inkedPieces ps = p :: qs) :
    p.isInk = true := by
  have hhead := List.head?_dropWhile_not (!·.isInk) ps
  rw [inkedPieces] at h
  rw [h] at hhead
  simpa using hhead

/-- The parts of a prelude that are more than white space and comments. -/
def selectorCount (text : List Char) : Nat :=
  (selectorParts 0 (pieces true text)).countP (·.any Piece.isInk)

/-- The parts of a prelude, behind the comments that it starts with, that hold a comment and nothing
else but white space. -/
def bareCommentCount (text : List Char) : Nat :=
  (selectorParts 0 (inkedPieces (pieces true text))).countP fun part =>
    part.any Piece.isComment && !part.any Piece.isInk

/-- A text that may stand before the block of a style rule. -/
structure IsPrelude (text : List Char) : Prop where
  finished : ∀ p ∈ pieces true text, p.IsFinished
  stops : ∀ c ∈ ['\x7b', '\x7d', ';'], .char c ∉ pieces true text
  not_at : (inkedPieces (pieces true text)).head? ≠ some (.char '@')

section Preludes

variable {text : List Char}

theorem selectorCount_eq (text : List Char) : selectorCount text =
    (selectorParts 0 (inkedPieces (pieces true text))).countP (·.any Piece.isInk) := by
  obtain ⟨lead, hlead, hsplit⟩ := exists_lead (pieces true text)
  obtain ⟨first, others, hfirst⟩ := exists_selectorParts 0 (inkedPieces (pieces true text))
  have hparts := selectorParts_lead hlead (inkedPieces (pieces true text))
  rw [← hsplit, hfirst] at hparts
  have hsame : (lead ++ first).any Piece.isInk = first.any Piece.isInk := by
    rw [List.any_append, List.any_eq_false.mpr (by simpa using hlead), Bool.false_or]
  rw [selectorCount, hparts, hfirst]
  simp [List.countP_cons, hsame]

theorem isSelectorList_cons {c : Char} {rest : List Char} (hblank : isBlank c = false)
    (hat : c ≠ '@') : isSelectorList true (c :: rest) = true := by
  have hword : ∃ tail, firstWord (c :: rest) = asciiLower c :: tail := by
    rw [firstWord, trimStart_of_head (by simpa using hblank),
      List.takeWhile_cons_of_pos (by simp [hblank])]
    exact ⟨_, rfl⟩
  obtain ⟨tail, hword⟩ := hword
  have hlower := WrittenList.asciiLower_ne_at hat
  simp [isSelectorList, hword, hlower]

/-- What starts with more than white space and comments, and not as an at-rule, is a selector
list. -/
theorem isSelectorList_of_pieces {p : Piece} {ps : List Piece} (h : pieces true text = p :: ps)
    (hink : p.isInk = true) (hat : p ≠ .char '@') : isSelectorList true text = true := by
  cases text with
  | nil => simp at h
  | cons c rest =>
    by_cases hq : IsQuote c
    · have hblank : isBlank c = false :=
        Bool.eq_false_iff.mpr fun hblank => not_isQuote_of_blank hblank hq
      refine isSelectorList_cons hblank ?_
      rintro rfl
      exact absurd hq (by decide)
    · by_cases hc : StartsComment (c :: rest)
      · obtain ⟨tail, htail⟩ := hc
        rw [htail, pieces_slash_star] at h
        rw [← (List.cons.inj h).1] at hink
        cases hink
      · rw [pieces_char hq fun _ => hc] at h
        rw [← (List.cons.inj h).1] at hink hat
        exact isSelectorList_cons (by simpa [Piece.isInk] using hink) (by simpa using hat)

theorem countP_any_or (parts : List (List Piece)) :
    parts.countP (fun part => part.any Piece.isInk || part.any Piece.isComment) =
      parts.countP (·.any Piece.isInk) +
        parts.countP fun part => part.any Piece.isComment && !part.any Piece.isInk := by
  induction parts with
  | nil => rfl
  | cons part parts ih =>
    rw [List.countP_cons, List.countP_cons, List.countP_cons, ih]
    cases part.any Piece.isInk <;> cases part.any Piece.isComment <;>
      simp <;> omega

/-- How many marks the rule of a prelude gets, with an empty block. -/
theorem countP_markStylesheet (h : IsPrelude text)
    (hcomments : ∀ p ∈ inkedPieces (pieces true text), p.IsHarmless) :
    (markStylesheet (text ++ ['\x7b', '\x7d'])).countP Option.isNone =
      selectorCount text + bareCommentCount text := by
  obtain ⟨lead, hlead, hsplit⟩ := exists_lead (pieces true text)
  obtain ⟨body, hbody⟩ := exists_pieces_eq hsplit
  have hbraces : pieces true ['\x7b', '\x7d'] = [.char '\x7b', .char '\x7d'] := by decide +kernel
  have hread : pieces true (text ++ ['\x7b', '\x7d']) =
      lead ++ (pieces true body ++ [.char '\x7b', .char '\x7d']) := by
    rw [pieces_append h.finished (by simp), hbraces, hbody, ← List.append_assoc, ← hsplit]
  have hstops : ∀ c ∈ ['\x7b', '\x7d', ';'], .char c ∉ pieces true body := by
    intro c hc hmem
    rw [hbody] at hmem
    exact h.stops c hc (List.dropWhile_subset _ hmem)
  have hat := h.not_at
  rw [markStylesheet_eq_marked, hread, SheetState.countP_marked_lead hlead (by simp),
    selectorCount_eq, bareCommentCount, ← hbody, ← countP_any_or]
  rw [← hbody] at hcomments hat
  cases hfirst : pieces true body with
  | nil => rfl
  | cons p ps =>
    have hink : p.isInk = true := isInk_of_inkedPieces (hbody.symm.trans hfirst)
    have hlist : isSelectorList true body = true := by
      rw [hfirst] at hat
      exact isSelectorList_of_pieces hfirst hink (by simpa using hat)
    have hbody : (p :: ps).flatMap Piece.text = body := by rw [← hfirst, pieces_text]
    rw [hfirst] at hstops
    rw [SheetState.marked_ink hink hstops, hbody, SheetState.marked_braces hlist,
      List.countP_append, MarkedText.countP_plain, Nat.add_zero, ← hfirst]
    exact countP_markSelectors_parts hcomments

end Preludes

/-- Before an empty block every part of a prelude that is more than white space and comments is
scoped once. Comments behind its start are taken for text, and as long as they hold no quote, no
comma and no bracket, what they add is one insertion for each part in which they stand alone. -/
theorem scopeStylesheet_prelude {text : List Char} (h : IsPrelude text)
    (hcomments : ∀ p ∈ inkedPieces (pieces true text), p.IsHarmless) :
    ∃ positions : List Nat, positions.Pairwise (· < ·) ∧
      (∀ p ∈ positions, p ≤ (text ++ ['\x7b', '\x7d']).length) ∧
      positions.length = selectorCount text + bareCommentCount text ∧
      ∀ attr, scopeStylesheet (text ++ ['\x7b', '\x7d']) attr =
        insertAt ('[' :: attr ++ [']']) positions (text ++ ['\x7b', '\x7d']) := by
  refine ⟨(markStylesheet (text ++ ['\x7b', '\x7d'])).offsets,
    (isSeparated_markStylesheet _).pairwise_offsetsFrom, ?_, ?_, ?_⟩
  · intro p hp
    have hle := MarkedText.offsetsFrom_le hp
    rwa [unmarked_markStylesheet, Nat.zero_add] at hle
  · rw [MarkedText.offsets, MarkedText.length_offsetsFrom, countP_markStylesheet h hcomments]
  · intro attr
    rw [scopeStylesheet, MarkedText.fill_eq_insertAt, unmarked_markStylesheet]

theorem isFinished_comment {tail : List Char} (h : spanComment (tail ++ [' ']) = (tail, [' '])) :
    (Piece.comment ('/' :: '*' :: tail)).IsFinished := by
  have hrest : (spanComment (tail ++ [' '])).2 ≠ [] := by
    rw [h]
    exact List.cons_ne_nil _ _
  have htail := isCommentTail_of_rest hrest
  rw [h] at htail
  exact ⟨tail, rfl, htail⟩

theorem pieces_notes : pieces true "/*,*/ a:is(b,c) /*d*/, e".toList =
    .comment "/*,*/".toList :: " a:is(b,c) ".toList.map .char ++
      .comment "/*d*/".toList :: ", e".toList.map .char := by
  decide +kernel

theorem isPrelude_notes : IsPrelude "/*,*/ a:is(b,c) /*d*/, e".toList := by
  have hchars : ∀ text : List Char, ∀ p ∈ text.map Piece.char, p.IsFinished := by
    intro text p hp
    obtain ⟨c, -, rfl⟩ := List.mem_map.mp hp
    trivial
  constructor <;> rw [pieces_notes]
  case finished =>
    rw [List.forall_mem_append, List.forall_mem_cons, List.forall_mem_cons]
    exact ⟨⟨isFinished_comment (by decide), hchars _⟩, isFinished_comment (by decide), hchars _⟩
  case stops =>
    rw [List.forall_mem_cons, List.forall_mem_cons, List.forall_mem_singleton]
    decide +kernel
  case not_at => decide +kernel

theorem scopeStylesheet_prelude_notes : IsPrelude "/*,*/ a:is(b,c) /*d*/, e".toList ∧
    (∀ p ∈ inkedPieces (pieces true "/*,*/ a:is(b,c) /*d*/, e".toList), p.IsHarmless) ∧
    selectorCount "/*,*/ a:is(b,c) /*d*/, e".toList = 2 ∧
    bareCommentCount "/*,*/ a:is(b,c) /*d*/, e".toList = 0 ∧
    ∃ positions : List Nat, positions.length = 2 + 0 ∧
      ∀ attr, scopeStylesheet ("/*,*/ a:is(b,c) /*d*/, e".toList ++ ['\x7b', '\x7d']) attr =
        insertAt ('[' :: attr ++ [']']) positions
          ("/*,*/ a:is(b,c) /*d*/, e".toList ++ ['\x7b', '\x7d']) := by
  have hcomments : ∀ p ∈ inkedPieces (pieces true "/*,*/ a:is(b,c) /*d*/, e".toList),
      p.IsHarmless := by
    rw [pieces_notes]
    decide +kernel
  obtain ⟨positions, -, -, hlength, hscope⟩ := scopeStylesheet_prelude isPrelude_notes hcomments
  exact ⟨isPrelude_notes, hcomments, by decide +kernel, by decide +kernel, positions,
    by rw [hlength]; decide +kernel, hscope⟩

theorem isPrelude_comma : IsPrelude "a/*,*/b".toList := by
  have hpieces : pieces true "a/*,*/b".toList =
      [.char 'a', .comment "/*,*/".toList, .char 'b'] := by
    decide +kernel
  constructor <;> rw [hpieces]
  case finished =>
    rw [List.forall_mem_cons, List.forall_mem_cons, List.forall_mem_singleton]
    exact ⟨trivial, isFinished_comment (by decide), trivial⟩
  case stops =>
    rw [List.forall_mem_cons, List.forall_mem_cons, List.forall_mem_singleton]
    decide
  case not_at => decide

/-- A comma in a comment divides a list, and both halves of the comment are scoped. -/
theorem comma_in_comment_scoped : IsPrelude "a/*,*/b".toList ∧
    bracketSum "a/*,*/b".toList = 0 ∧ selectorCount "a/*,*/b".toList = 1 ∧
    (markStylesheet ("a/*,*/b".toList ++ ['\x7b', '\x7d'])).offsets = [3, 7] ∧
    scopeStylesheet ("a/*,*/b".toList ++ ['\x7b', '\x7d']) ['k'] =
      "a/*[k],*/b[k]".toList ++ ['\x7b', '\x7d'] :=
  ⟨isPrelude_comma, by decide, by decide +kernel, by decide +kernel, by decide +kernel⟩

end ComponentSplit
