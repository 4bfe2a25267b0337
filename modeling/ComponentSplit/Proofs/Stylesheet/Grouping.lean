import ComponentSplit.Proofs.Stylesheet.WrittenSheet

namespace ComponentSplit

/-- What may stand between the name of a grouping rule and its block. -/
structure IsCondition (text : List Char) : Prop where
  plain : IsPlainText text
  no_semicolon : ';' ∉ text
  head : ∀ c ∈ text.head?, isBlank c = true ∨ c = '('

/-- A stylesheet in the block of an at-rule. -/
def inBlock (keyword : String) (condition css : List Char) : List Char :=
  keyword.toList ++ (condition ++ '\x7b' :: (css ++ ['\x7d']))

namespace SheetState

/-- A block at the bottom in which style rules may stand is as good as none. -/
theorem marked_append_true (blocks : List Bool) (blank : Bool) (run : List Char)
    (ps : List Piece) :
    marked ⟨blocks ++ [true], blank, run⟩ ps = marked ⟨blocks, blank, run⟩ ps := by
  induction ps generalizing blocks blank run with
  | nil => rfl
  | cons p ps ih =>
    have hallowed : allowed ⟨blocks ++ [true], blank, run⟩ = allowed ⟨blocks, blank, run⟩ := by
      cases blocks <;> rfl
    have hended : ended ⟨blocks ++ [true], blank, run⟩ p = ended ⟨blocks, blank, run⟩ p := by
      cases p <;> simp only [ended, hallowed]
    have htail (blank : Bool) (run : List Char) :
        marked ⟨(blocks ++ [true]).tail, blank, run⟩ ps = marked ⟨blocks.tail, blank, run⟩ ps := by
      cases blocks with
      | nil => rfl
      | cons block blocks => exact ih blocks blank run
    rw [marked_cons, marked_cons, hended]
    congr 1
    cases p with
    | comment text => cases blank <;> exact ih blocks _ _
    | string text => exact ih blocks _ _
    | char c =>
      by_cases hopen : c = '\x7b'
      · simpa [next, hopen, hallowed] using ih (opensRules (allowed ⟨blocks, blank, run⟩) run ::
          blocks) true []
      · by_cases hclose : c = '\x7d'
        · simpa [next, hclose] using htail true []
        · by_cases hsemi : c = ';'
          · simpa [next, hsemi] using ih blocks true []
          · simpa [next, hopen, hclose, hsemi] using ih blocks (blank && isBlank c) (run ++ [c])

/-- A closing brace at the end of a stylesheet ends a run, a comment or a string, and nothing is
marked by it. -/
theorem marked_concat_close (s : SheetState) (css : List Char) :
    s.marked (pieces true (css ++ ['\x7d'])) =
      s.marked (pieces true css) ++ MarkedText.plain ['\x7d'] := by
  have hlast (s : SheetState) (text : List Char) :
      s.marked [.comment text] = MarkedText.plain (s.run ++ text) ∧
        s.marked [.string text] = MarkedText.plain (s.run ++ text) := by
    rw [marked_cons, marked_cons]
    cases hb : s.blank <;> simp [ended, next, SheetPart.marked, hb]
  induction css using pieces_induction generalizing s with
  | nil =>
    rw [List.nil_append, pieces_plainChar true '\x7d' (by decide) (by decide), marked_close]
    simp
  | comment tail ih =>
    rw [List.cons_append, List.cons_append, pieces_slash_star, pieces_slash_star]
    rcases spanComment_concat tail (c := '\x7d') (by decide) with h | ⟨hnone, h⟩
    · rw [h, marked_cons, ih, marked_cons, List.append_assoc]
    · have htail := spanComment_append tail
      rw [hnone, List.append_nil] at htail
      rw [h, hnone, htail, pieces_nil, (hlast s _).1, (hlast s _).1]
      simp
  | string quote rest hq ih =>
    have hne : '\x7d' ≠ quote := by rcases hq with rfl | rfl <;> decide
    rw [List.cons_append, pieces_quote true hq, pieces_quote true hq]
    rcases spanString_concat quote rest hne with h | ⟨hnone, h⟩
    · rw [h, marked_cons, ih, marked_cons, List.append_assoc]
    · have hrest := spanString_append quote rest
      rw [hnone, List.append_nil] at hrest
      rw [h, hnone, hrest, pieces_nil, (hlast s _).2, (hlast s _).2]
      simp
  | char c rest hq hstart ih =>
    have hbrace : ['\x7d'].head? ≠ some '*' := by decide
    have hstill := not_startsComment_append hstart hbrace
    rw [List.cons_append, pieces_char hq fun _ => hstill, pieces_char hq fun _ => hstart,
      marked_cons, ih, marked_cons, List.append_assoc]

end SheetState

theorem IsPlainText.append {front back : List Char}
    (hfront : ∀ c ∈ front, ¬ IsQuote c ∧ c ≠ '\x7b' ∧ c ≠ '\x7d' ∧ c ≠ '/')
    (h : IsPlainText back) : IsPlainText (front ++ back) := by
  refine ⟨?_, ?_⟩
  · intro c hc
    rcases List.mem_append.mp hc with hc | hc
    · obtain ⟨hq, ho, hcl, -⟩ := hfront c hc
      exact ⟨hq, ho, hcl⟩
    · exact h.chars c hc
  · rintro ⟨before, after, hboth⟩
    rcases List.append_eq_append_iff.mp hboth with ⟨between, -, hback⟩ | ⟨between, hbetween, hrest⟩
    · exact h.not_comment ⟨between, after, hback⟩
    · cases between with
      | nil => exact h.not_comment ⟨[], after, by simpa using hrest.symm⟩
      | cons c between =>
        obtain ⟨rfl, -⟩ := List.cons.inj hrest
        obtain ⟨-, -, -, hslash⟩ := hfront '/' (by simp [hbetween])
        exact hslash rfl

theorem groupingRules_head : ∀ keyword ∈ groupingRules, keyword.toList.head? = some '@' := by
  decide

theorem groupingRules_lower :
    ∀ keyword ∈ groupingRules, keyword.toList.map asciiLower = keyword.toList := by
  decide

theorem groupingRules_chars : ∀ keyword ∈ groupingRules, ∀ c ∈ keyword.toList,
    isBlank c = false ∧ c ≠ ';' ∧ c ≠ '(' ∧ ¬ IsQuote c ∧ c ≠ '\x7b' ∧ c ≠ '\x7d' ∧ c ≠ '/' := by
  have hall : (groupingRules.all fun keyword => keyword.toList.all fun c =>
      decide (isBlank c = false ∧ c ≠ ';' ∧ c ≠ '(' ∧ ¬ IsQuote c ∧ c ≠ '\x7b' ∧ c ≠ '\x7d' ∧
        c ≠ '/')) = true := by
    decide +kernel
  intro keyword hk c hc
  have hkeyword := List.all_eq_true.mp hall keyword hk
  exact of_decide_eq_true (List.all_eq_true.mp hkeyword c hc)

section Wrapping

variable {keyword : String} {condition : List Char}

/-- The first word of a grouping rule goes on to the first white space. -/
theorem firstWord_keyword (hk : keyword ∈ groupingRules) (condition : List Char) :
    firstWord (keyword.toList ++ condition) =
      keyword.toList ++ (condition.takeWhile fun c => !isBlank c).map asciiLower := by
  have hhead := groupingRules_head keyword hk
  have hne : keyword.toList ≠ [] := by
    intro hnil
    simp [hnil] at hhead
  have hword : ∀ c ∈ keyword.toList, isBlank c = false :=
    fun c hc => (groupingRules_chars keyword hk c hc).1
  have hstart : ∀ c ∈ (keyword.toList ++ condition).head?, isBlank c = false := by
    rw [head?_append_of_ne_nil hne]
    exact fun c hc => hword c (List.mem_of_mem_head? hc)
  have htake : (keyword.toList ++ condition).takeWhile (fun c => !isBlank c) =
      keyword.toList ++ condition.takeWhile fun c => !isBlank c :=
    List.takeWhile_append_of_pos (by simpa using hword)
  rw [firstWord, trimStart_of_head hstart, htake, List.map_append, groupingRules_lower keyword hk]

theorem isSelectorList_keyword (hk : keyword ∈ groupingRules) (condition : List Char) :
    isSelectorList true (keyword.toList ++ condition) = false := by
  obtain ⟨name, hname⟩ := List.head?_eq_some_iff.mp (groupingRules_head keyword hk)
  rw [isSelectorList, firstWord_keyword hk, hname]
  simp

/-- A condition behind white space leaves the name of the rule alone, one in parentheses does
not. -/
theorem opensRules_keyword (hk : keyword ∈ groupingRules) (hc : IsCondition condition) :
    opensRules true (keyword.toList ++ condition) = true ↔ condition.head? ≠ some '(' := by
  rw [opensRules, firstWord_keyword hk, Bool.true_and, List.contains_iff_mem]
  cases condition with
  | nil => simpa using hk
  | cons c condition =>
    have hc := hc.head c rfl
    by_cases hparen : c = '('
    · have hother : ∀ known ∈ groupingRules, '(' ∉ known.toList :=
        fun known hknown hmem => (groupingRules_chars known hknown '(' hmem).2.2.1 rfl
      refine iff_of_false (fun hmem => hother _ hmem ?_) (by simp [hparen])
      rw [String.toList_ofList, hparen]
      simp [isBlank, asciiLower]
    · have hblank : isBlank c = true := hc.resolve_right hparen
      simpa [hblank, hparen] using hk

theorem IsCondition.marked_inBlock (hk : keyword ∈ groupingRules) (hc : IsCondition condition)
    (css : List Char) :
    markStylesheet (inBlock keyword condition css) =
      MarkedText.plain (keyword.toList ++ condition ++ ['\x7b']) ++
        SheetState.marked ⟨[opensRules true (keyword.toList ++ condition)], true, []⟩
          (pieces true (css ++ ['\x7d'])) := by
  have hchars := groupingRules_chars keyword hk
  have hplain : IsPlainText (keyword.toList ++ condition) :=
    hc.plain.append fun c hmem => (hchars c hmem).2.2.2
  have hsemi : ';' ∉ keyword.toList ++ condition := by
    rw [List.mem_append]
    rintro (hmem | hmem)
    · exact (hchars ';' hmem).2.1 rfl
    · exact hc.no_semicolon hmem
  rw [markStylesheet_eq_marked, inBlock, ← List.append_assoc]
  exact hplain.marked_open hsemi (isSelectorList_keyword hk condition) [] rfl _

/-- Scoping a stylesheet inside a grouping rule is scoping it and putting it there, whatever the
stylesheet and whether or not it is well formed, unless a parenthesis follows the name of the rule.
In that case a block is left as it is. -/
theorem scopeStylesheet_inBlock (hk : keyword ∈ groupingRules) (hc : IsCondition condition)
    (css attr : List Char) :
    (condition.head? ≠ some '(' → scopeStylesheet (inBlock keyword condition css) attr =
      inBlock keyword condition (scopeStylesheet css attr)) ∧
    (condition.head? = some '(' → IsBlock css →
      scopeStylesheet (inBlock keyword condition css) attr = inBlock keyword condition css) := by
  have hmarked := hc.marked_inBlock hk css
  have hopens := opensRules_keyword hk hc
  refine ⟨fun hparen => ?_, fun hparen hblock => ?_⟩
  · have hinner := SheetState.marked_append_true [] true [] (pieces true css)
    rw [List.nil_append] at hinner
    rw [hopens.mpr hparen, SheetState.marked_concat_close, hinner,
      ← markStylesheet_eq_marked css] at hmarked
    rw [scopeStylesheet, hmarked, MarkedText.fill_append, MarkedText.fill_append,
      MarkedText.fill_plain, MarkedText.fill_plain, scopeStylesheet, inBlock]
    simp
  · have hclosed : opensRules true (keyword.toList ++ condition) = false := by
      rw [← Bool.not_eq_true, hopens, not_not]
      exact hparen
    have hinner := hblock.marked_braces [] []
    rw [hclosed, hinner, pieces_nil, SheetState.marked_nil, MarkedText.plain_nil, List.append_nil,
      ← MarkedText.plain_append] at hmarked
    rw [scopeStylesheet, hmarked, MarkedText.fill_plain, inBlock]
    simp

end Wrapping

theorem isCondition_of_chars {text : List Char} (h : (text.all fun c =>
    decide (¬ IsQuote c ∧ c ≠ '\x7b' ∧ c ≠ '\x7d' ∧ c ≠ '/')) = true) (hsemi : ';' ∉ text)
    (hhead : (text.head?.all fun c => isBlank c || c == '(') = true) : IsCondition text := by
  have hnil : IsPlainText [] := ⟨by simp, by simp⟩
  have hchars : ∀ c ∈ text, ¬ IsQuote c ∧ c ≠ '\x7b' ∧ c ≠ '\x7d' ∧ c ≠ '/' :=
    fun c hc => of_decide_eq_true (List.all_eq_true.mp h c hc)
  refine ⟨?_, hsemi, ?_⟩
  · rw [← List.append_nil text]
    exact hnil.append hchars
  · intro c hc
    rw [hc] at hhead
    simpa using hhead

theorem isCondition_parenthesis : IsCondition "(x)".toList :=
  isCondition_of_chars (by decide +kernel) (by decide) (by decide)

theorem isBlock_rule : IsBlock "a\x7b\x7d".toList :=
  .char (by decide) (by decide) (by decide) (not_startsComment_of_ne (by decide) _)
    (.nested .nil .nil)

theorem scopeStylesheet_inBlock_media :
    "@media" ∈ groupingRules ∧ IsCondition " (x)".toList ∧ IsCondition "(x)".toList ∧
      scopeStylesheet (inBlock "@media" " (x)".toList "a:b\x7b\x7d".toList) ['h'] =
        inBlock "@media" " (x)".toList (scopeStylesheet "a:b\x7b\x7d".toList ['h']) ∧
      scopeStylesheet (inBlock "@media" "(x)".toList "a\x7b\x7d".toList) ['h'] =
        inBlock "@media" "(x)".toList "a\x7b\x7d".toList := by
  have hmedia : "@media" ∈ groupingRules := by decide
  have hspace : IsCondition " (x)".toList :=
    isCondition_of_chars (by decide +kernel) (by decide) (by decide)
  exact ⟨hmedia, hspace, isCondition_parenthesis,
    (scopeStylesheet_inBlock hmedia hspace _ ['h']).1 (by decide),
    (scopeStylesheet_inBlock hmedia isCondition_parenthesis _ ['h']).2 (by decide) isBlock_rule⟩

/-- A condition right behind the name of a grouping rule hides the rules of its block. -/
theorem parenthesis_hides_rules :
    "@media" ∈ groupingRules ∧ IsCondition "(x)".toList ∧ IsBlock "a\x7b\x7d".toList ∧
      scopeStylesheet (inBlock "@media" "(x)".toList "a\x7b\x7d".toList) ['k'] ≠
        inBlock "@media" "(x)".toList (scopeStylesheet "a\x7b\x7d".toList ['k']) :=
  ⟨by decide, isCondition_parenthesis, isBlock_rule, by decide +kernel⟩

end ComponentSplit
