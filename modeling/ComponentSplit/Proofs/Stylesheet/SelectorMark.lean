import ComponentSplit.Proofs.Pattern.Letter
import ComponentSplit.Proofs.Stylesheet.ScopeOffset
import ComponentSplit.Proofs.Stylesheet.WrittenSelector
import ComponentSplit.Stylesheet.Scope

namespace ComponentSplit

/-- What separates compounds has no part in the texts beside it. -/
theorem combinator_spec {c : Char} (h : isCombinator c = true) :
    ¬ IsQuote c ∧ c ≠ '/' ∧ (Piece.char c).IsInner ∧ c ≠ ',' ∧ c ≠ '*' ∧ bracketChange c = 0 := by
  have hchange := bracketChange_combinator h
  have hmem := isCombinator_iff.mp h
  simp only [List.mem_cons, List.not_mem_nil, or_false] at hmem
  rcases hmem with rfl | rfl | rfl | rfl | rfl | rfl | rfl | rfl <;>
    exact ⟨by decide, by decide, ⟨by decide, by decide, by decide⟩, by decide, by decide, hchange⟩

theorem blank_spec {c : Char} (h : isBlank c = true) :
    ¬ IsQuote c ∧ c ≠ '/' ∧ (Piece.char c).IsInner ∧ c ≠ ',' ∧ c ≠ '*' := by
  have hne {d : Char} (hd : isBlank d = false) : c ≠ d := by
    rintro rfl
    simp [hd] at h
  exact ⟨not_isQuote_of_blank h, hne rfl, ⟨hne rfl, hne rfl, hne rfl⟩, hne rfl, hne rfl⟩

theorem compoundStart_combinators {combinators : List Char}
    (h : ∀ c ∈ combinators, isCombinator c = true) (pos : Nat) (ps : List Piece) :
    compoundStart 0 pos pos (combinators.map .char ++ ps) =
      compoundStart 0 (pos + combinators.length) (pos + combinators.length) ps := by
  induction combinators generalizing pos with
  | nil => rfl
  | cons c combinators ih =>
    rw [List.forall_mem_cons] at h
    obtain ⟨-, -, -, -, -, hchange⟩ := combinator_spec h.1
    have hlength : pos + (c :: combinators).length = pos + 1 + combinators.length := by
      rw [List.length_cons]
      omega
    rw [List.map_cons, List.cons_append, compoundStart, if_pos ⟨h.1, rfl⟩, hchange, Int.add_zero,
      ih h.2, hlength]

theorem compoundStart_separator {combinators : List Char} (hne : combinators ≠ [])
    (h : ∀ c ∈ combinators, isCombinator c = true) (pos start : Nat) (ps : List Piece) :
    compoundStart 0 pos start (combinators.map .char ++ ps) =
      compoundStart 0 (pos + combinators.length) (pos + combinators.length) ps := by
  obtain ⟨c, rest, rfl⟩ := List.exists_cons_of_ne_nil hne
  have hfirst : isCombinator c = true := h c (by simp)
  have hall := compoundStart_combinators h pos ps
  rw [List.map_cons, List.cons_append, compoundStart, if_pos ⟨hfirst, rfl⟩] at hall ⊢
  exact hall

theorem IsCompoundText.sides {allowed : Char → Prop} {text : List Char}
    (ha : ∀ c, allowed c → isBlank c = false) (h : IsCompoundText allowed text) :
    (∀ c ∈ text.head?, isBlank c = false) ∧ ∀ c ∈ text.getLast?, isBlank c = false := by
  have hlast {c : Char} {rest : List Char} (hc : isBlank c = false)
      (hrest : ∀ d ∈ rest.getLast?, isBlank d = false) :
      ∀ d ∈ (c :: rest).getLast?, isBlank d = false := by
    intro d hd
    cases rest with
    | nil =>
      obtain rfl : c = d := by simpa using hd
      exact hc
    | cons e rest => exact hrest d (by simpa [List.getLast?_cons_cons] using hd)
  induction h with
  | nil => simp
  | char hc _ _ ih => exact ⟨by simpa using ha _ hc, hlast (ha _ hc) ih.2⟩
  | @bracket opening closing inner rest hpair _ _ ih =>
    obtain ⟨ho, hc⟩ : isBlank opening = false ∧ isBlank closing = false := by
      rcases hpair with ⟨rfl, rfl⟩ | ⟨rfl, rfl⟩ <;> exact ⟨rfl, rfl⟩
    refine ⟨by simpa using ho, ?_⟩
    intro d hd
    rw [← List.cons_append, List.getLast?_append_of_ne_nil _ (List.cons_ne_nil _ _)] at hd
    exact hlast hc ih.2 d hd

namespace Compound

variable (c : Compound)

theorem text_ne_nil : c.text ≠ [] := c.ne_nil

theorem sides :
    (∀ d ∈ c.text.head?, isBlank d = false) ∧ ∀ d ∈ c.text.getLast?, isBlank d = false := by
  obtain ⟨hnamehead, hnamelast⟩ := c.isName.sides fun d hd => hd.1.2.2.2
  obtain ⟨hpseudohead, hpseudolast⟩ := c.isPseudo.sides fun d hd => hd.2.2.2
  constructor
  · intro d hd
    rw [text, List.head?_append] at hd
    cases hname : c.name.head? with
    | none => exact hpseudohead d (by simpa [hname] using hd)
    | some e => exact hnamehead d (by simpa [hname] using hd)
  · intro d hd
    rw [text, List.getLast?_append] at hd
    cases hpseudo : c.pseudo.getLast? with
    | none => exact hnamelast d (by simpa [hpseudo] using hd)
    | some e => exact hpseudolast d (by simpa [hpseudo] using hd)

theorem exists_pieces : ∃ names pseudos : List Piece,
    IsReadAs c.name names ∧ IsReadAs c.text (names ++ pseudos) ∧ Passes (· ≠ ':') 0 names 0 ∧
      Passes (· ≠ ',') 0 (names ++ pseudos) 0 ∧
      Passes (isCombinator · = false) 0 (names ++ pseudos) 0 := by
  obtain ⟨names, hnames, hn⟩ := c.isName.exists_pieces fun d hd => hd.1.1
  obtain ⟨pseudos, hpseudos, hp⟩ := c.isPseudo.exists_pieces fun d hd => hd.1
  have hstar : c.pseudo.head? ≠ some '*' := by
    intro hstar
    exact absurd (c.pseudo_head '*' hstar) (by decide)
  refine ⟨names, pseudos, hnames, hnames.append hpseudos hstar, ?_, ?_, ?_⟩
  · exact hn _ ⟨by decide, by decide, fun d hd => hd.2⟩
  · exact (hn _ ⟨by decide, by decide, fun d hd => hd.1.2.1⟩).append
      (hp _ ⟨by decide, by decide, fun d hd => hd.2.1⟩)
  · exact (hn _ ⟨by decide, by decide, fun d hd => hd.1.2.2.1⟩).append
      (hp _ ⟨by decide, by decide, fun d hd => hd.2.2.1⟩)

end Compound

theorem IsReadAs.combinators {combinators text : List Char} {ps : List Piece}
    (hc : ∀ c ∈ combinators, isCombinator c = true) (h : IsReadAs text ps) :
    IsReadAs (combinators ++ text) (combinators.map .char ++ ps) := by
  refine h.chars fun c hmem => ?_
  obtain ⟨hq, hslash, hinner, -⟩ := combinator_spec (hc c hmem)
  exact ⟨hq, hslash, hinner⟩

theorem IsReadAs.blanks {blanks text : List Char} {ps : List Piece}
    (hb : ∀ c ∈ blanks, isBlank c = true) (h : IsReadAs text ps) :
    IsReadAs (blanks ++ text) (blanks.map .char ++ ps) := by
  refine h.chars fun c hmem => ?_
  obtain ⟨hq, hslash, hinner, -⟩ := blank_spec (hb c hmem)
  exact ⟨hq, hslash, hinner⟩

/-- What is read in front of a last compound: no comma is seen there, and the last compound starts
behind it. -/
structure IsReadBefore (front : List Char) (fs : List Piece) : Prop where
  text : fs.flatMap Piece.text = front
  read : ∀ {text : List Char} {ps : List Piece}, IsReadAs text ps →
    IsReadAs (front ++ text) (fs ++ ps)
  comma : Passes (· ≠ ',') 0 fs 0
  start : ∀ pos ps, compoundStart 0 pos pos (fs ++ ps) =
    compoundStart 0 (pos + front.length) (pos + front.length) ps

theorem JoinedCompound.exists_pieces (j : JoinedCompound) : ∃ js, IsReadBefore j.text js := by
  obtain ⟨names, pseudos, -, hread, -, hcomma, hcomb⟩ := j.compound.exists_pieces
  generalize names ++ pseudos = cs at hread hcomma hcomb
  have hwcomma : Passes (· ≠ ',') 0 (j.combinators.map .char) 0 := by
    refine passes_chars fun c hc => ?_
    obtain ⟨-, -, -, hne, -, hchange⟩ := combinator_spec (j.isCombinator c hc)
    exact ⟨hne, hchange⟩
  refine ⟨cs ++ j.combinators.map .char, ?_, ?_, hcomma.append hwcomma, ?_⟩
  · rw [List.flatMap_append, hread.flatMap_text, flatMap_text_chars, JoinedCompound.text]
  · intro text ps h
    -- a slash at the end of the compound meets a combinator, so no comment starts there
    have hstar : (j.combinators ++ text).head? ≠ some '*' := by
      rw [head?_append_of_ne_nil j.ne_nil]
      intro hstar
      obtain ⟨-, -, -, -, hne, -⟩ :=
        combinator_spec (j.isCombinator '*' (List.mem_of_mem_head? hstar))
      exact hne rfl
    have hboth := hread.append (h.combinators j.isCombinator) hstar
    rwa [← List.append_assoc, ← List.append_assoc] at hboth
  · intro pos ps
    have hlength : pos + j.text.length =
        pos + (cs.flatMap Piece.text).length + j.combinators.length := by
      rw [JoinedCompound.text, List.length_append, hread.flatMap_text, Nat.add_assoc]
    rw [List.append_assoc, hcomb.compoundStart, compoundStart_separator j.ne_nil j.isCombinator,
      hlength]

theorem exists_front_pieces (front : List JoinedCompound) :
    ∃ fs, IsReadBefore (front.flatMap JoinedCompound.text) fs := by
  induction front with
  | nil => exact ⟨[], rfl, fun h => h, rfl, fun _ _ => rfl⟩
  | cons j front ih =>
    obtain ⟨js, hj⟩ := j.exists_pieces
    obtain ⟨fs, hf⟩ := ih
    refine ⟨js ++ fs, ?_, ?_, hj.comma.append hf.comma, ?_⟩
    · rw [List.flatMap_append, hj.text, hf.text, List.flatMap_cons]
    · intro text ps h
      have hboth := hj.read (hf.read h)
      rwa [← List.append_assoc, ← List.append_assoc] at hboth
    · intro pos ps
      rw [List.append_assoc, hj.start, hf.start, List.flatMap_cons, List.length_append,
        Nat.add_assoc]

namespace WrittenSelector

variable (s : WrittenSelector)

theorem exists_pieces : ∃ ps, IsReadAs s.text ps ∧ Passes (· ≠ ',') 0 ps 0 ∧
    compoundStart 0 0 0 ps = (s.front.flatMap JoinedCompound.text).length := by
  obtain ⟨fs, hf⟩ := exists_front_pieces s.front
  obtain ⟨names, pseudos, -, hread, -, hcomma, hcomb⟩ := s.last.exists_pieces
  let start := 0 + (s.front.flatMap JoinedCompound.text).length
  have hlast : compoundStart 0 start start (names ++ pseudos) = start := by
    simpa [compoundStart] using hcomb.compoundStart start start []
  refine ⟨fs ++ (names ++ pseudos), hf.read hread, hf.comma.append hcomma, ?_⟩
  rw [hf.start, hlast]
  exact Nat.zero_add _

theorem scopeOffset_text :
    scopeOffset s.text = (s.front.flatMap JoinedCompound.text ++ s.last.name).length := by
  obtain ⟨ps, hread, -, hstart⟩ := s.exists_pieces
  obtain ⟨names, -, hnread, -, hcolon, -⟩ := s.last.exists_pieces
  have hend : pseudoOffset 0 s.last.pseudo = 0 := by
    have hhead := s.last.pseudo_head
    cases hpseudo : s.last.pseudo with
    | nil => rfl
    | cons c pseudo =>
      obtain rfl : c = ':' := hhead c (by simp [hpseudo])
      simp [pseudoOffset]
  have hname := hcolon.pseudoOffset s.last.pseudo
  rw [hnread.flatMap_text, hend, Nat.add_zero] at hname
  have hdrop : s.text.drop (s.front.flatMap JoinedCompound.text).length =
      s.last.name ++ s.last.pseudo := List.drop_left
  have hoffset : scopeOffset s.text = compoundStart 0 0 0 ps +
      pseudoOffset 0 (s.text.drop (compoundStart 0 0 0 ps)) := by
    rw [← hread.eq_pieces false]
    rfl
  rw [hoffset, hstart, hdrop, hname, List.length_append]

theorem markCore_text : markCore s.text = s.marked := by
  have hsplit : s.text = (s.front.flatMap JoinedCompound.text ++ s.last.name) ++ s.last.pseudo := by
    rw [text, Compound.text, List.append_assoc]
  rw [markCore, s.scopeOffset_text, marked, hsplit, List.take_left, List.drop_left]

theorem isTrimmed_text : IsTrimmed s.text := by
  have hlast : s.last.text ≠ [] := s.last.text_ne_nil
  refine ⟨by simp [text, hlast], ?_, ?_⟩
  · rw [text]
    cases s.front with
    | nil => exact s.last.sides.1
    | cons j front =>
      rw [List.flatMap_cons, JoinedCompound.text, List.append_assoc, List.append_assoc,
        head?_append_of_ne_nil j.compound.text_ne_nil]
      exact j.compound.sides.1
  · rw [text, List.getLast?_append_of_ne_nil _ hlast]
    exact s.last.sides.2

end WrittenSelector

namespace SpacedSelector

variable (s : SpacedSelector)

theorem markSelector_text : markSelector s.text = s.marked := by
  rw [text, markSelector_sides s.isBlank_before s.selector.isTrimmed_text s.isBlank_behind,
    s.selector.markCore_text]
  rfl

theorem exists_pieces : ∃ ps, IsReadAs s.text ps ∧ Passes (· ≠ ',') 0 ps 0 := by
  obtain ⟨cs, hread, hcomma, -⟩ := s.selector.exists_pieces
  have hblank {blanks : List Char} (hb : ∀ c ∈ blanks, isBlank c = true) :
      Passes (· ≠ ',') 0 (blanks.map .char) 0 := by
    refine passes_chars fun c hc => ?_
    obtain ⟨-, -, -, hne, -⟩ := blank_spec (hb c hc)
    exact ⟨hne, bracketChange_blank (hb c hc)⟩
  have hbehind := IsReadAs.nil.blanks s.isBlank_behind
  rw [List.append_nil, List.append_nil] at hbehind
  have hstar : s.behind.head? ≠ some '*' := by
    intro hstar
    obtain ⟨-, -, -, -, hne⟩ := blank_spec (s.isBlank_behind '*' (List.mem_of_mem_head? hstar))
    exact hne rfl
  refine ⟨_, (hread.append hbehind hstar).blanks s.isBlank_before, ?_⟩
  exact (hblank s.isBlank_before).append (hcomma.append (hblank s.isBlank_behind))

end SpacedSelector

namespace WrittenList

/-- Commas between selectors divide the list into them. -/
theorem exists_pieces (first : SpacedSelector) (others : List SpacedSelector) :
    ∃ ps, IsReadAs (text ⟨first, others⟩) ps ∧
      splitSelectors 0 ps = (first :: others).map SpacedSelector.text := by
  induction others generalizing first with
  | nil =>
    obtain ⟨ps, hread, hcomma⟩ := first.exists_pieces
    refine ⟨ps, by simpa [text] using hread, ?_⟩
    have hsplit := hcomma.splitSelectors []
    rw [List.append_nil, hread.flatMap_text] at hsplit
    simpa [splitSelectors, prepend] using hsplit
  | cons second others ih =>
    obtain ⟨ps, hread, hcomma⟩ := first.exists_pieces
    obtain ⟨qs, hrest, hothers⟩ := ih second
    have hback : IsReadAs (',' :: text ⟨second, others⟩) (.char ',' :: qs) :=
      .char (by decide) ⟨by decide, by decide, by decide⟩
        (not_startsComment_of_ne (by decide) _) hrest
    refine ⟨ps ++ .char ',' :: qs, ?_, ?_⟩
    · simpa [text] using hread.append hback (by simp)
    · rw [hcomma.splitSelectors, hread.flatMap_text, splitSelectors, if_pos ⟨rfl, rfl⟩, hothers]
      simp [prepend]

variable (l : WrittenList)

theorem markSelectors_text : markSelectors l.text = l.marked := by
  obtain ⟨ps, hread, hsplit⟩ := exists_pieces l.first l.others
  have hpieces : pieces false l.text = ps := hread.eq_pieces false
  have hmap : ((l.first :: l.others).map SpacedSelector.text).map markSelector =
      l.first.marked :: l.others.map SpacedSelector.marked := by
    rw [List.map_map, List.map_cons]
    congr 1
    · exact l.first.markSelector_text
    · exact List.map_congr_left fun s _ => s.markSelector_text
  rw [markSelectors, hpieces, hsplit, hmap, joinSelectors_cons, marked, List.flatMap_map]

theorem unmarked_marked : l.marked.unmarked = l.text := by
  rw [← l.markSelectors_text, unmarked_markSelectors]

theorem asciiLower_ne_at {c : Char} (h : c ≠ '@') : asciiLower c ≠ '@' := by
  intro hat
  have hnat : (asciiLower c).toNat = 64 := by
    rw [hat]
    rfl
  rw [asciiLower_toNat] at hnat
  split at hnat
  · omega
  · exact h (Char.toNat_inj.mp hnat)

theorem firstWord_text : ∃ c tail, firstWord l.text = c :: tail ∧ c ≠ '@' := by
  have hne : l.first.selector.text ≠ [] := l.first.selector.isTrimmed_text.ne_nil
  have hhead : ∀ c ∈ l.first.selector.text.head?, isBlank c = false :=
    l.first.selector.isTrimmed_text.head
  have hat : l.first.selector.text.head? ≠ some '@' := l.first.selector.not_at
  obtain ⟨c, rest, hcore⟩ := List.exists_cons_of_ne_nil hne
  rw [hcore] at hhead hat
  have hc : isBlank c = false := hhead c rfl
  have hword : ∃ tail, firstWord l.text = asciiLower c :: tail := by
    rw [text, SpacedSelector.text, hcore, List.append_assoc, firstWord,
      trimStart_append l.first.isBlank_before, List.cons_append, List.cons_append,
      trimStart_of_head (by simpa using hc), List.takeWhile_cons_of_pos (by simp [hc])]
    exact ⟨_, rfl⟩
  obtain ⟨tail, hword⟩ := hword
  exact ⟨asciiLower c, tail, hword, asciiLower_ne_at (by simpa using hat)⟩

/-- A list of selectors is taken for one, and its block does not hold style rules. -/
theorem isSelectorList_text :
    isSelectorList true l.text = true ∧ opensRules true l.text = false := by
  have hat : ∀ r ∈ groupingRules, r.toList.head? = some '@' := by decide
  obtain ⟨c, tail, hword, hc⟩ := l.firstWord_text
  constructor
  · simp [isSelectorList, hword, hc]
  · have hnot : String.ofList (c :: tail) ∉ groupingRules := by
      intro hmem
      have hhead := hat _ hmem
      rw [String.toList_ofList] at hhead
      exact hc (by simpa using hhead)
    simpa [opensRules, hword] using hnot

end WrittenList

end ComponentSplit
