import ComponentSplit.Proofs.Stylesheet.Insertion
import ComponentSplit.Proofs.Stylesheet.TokenPlace

namespace ComponentSplit

/-- Tokens with an insertion at some places between them. -/
def fillTokens (insertion : List Char) (places : List (Option CssToken)) : List Char :=
  places.flatMap fun place => place.elim insertion CssToken.text

/-- Whatever the attribute, it is inserted between the tokens of the stylesheet. -/
def BreaksNoToken (css : List Char) : Prop :=
  ∃ places : List (Option CssToken), places.filterMap id = cssTokens css ∧
    ∀ attr, scopeStylesheet css attr = fillTokens ('[' :: attr ++ [']']) places

/-- Escapes hide no start of a string or of a comment, and the tokens of selector lists hide
nothing that scoping looks for there. -/
structure HidesNothing (css : List Char) : Prop where
  start : HidesNoStart (cssTokens css)
  lists : ∀ list, .selectors list ∈ SheetState.parts {} (pieces true css) →
    KeepsTokens (cssTokens list)

theorem BreaksNoToken.keeps_token {css : List Char} (h : BreaksNoToken css) {t : CssToken}
    (ht : t ∈ cssTokens css) (attr : List Char) : t.text <:+: scopeStylesheet css attr := by
  obtain ⟨places, htokens, hfill⟩ := h
  rw [← htokens, List.mem_filterMap] at ht
  obtain ⟨place, hplace, ht⟩ := ht
  obtain ⟨front, back, rfl⟩ := List.append_of_mem hplace
  obtain rfl : place = some t := ht
  rw [hfill attr, fillTokens, List.flatMap_append, List.flatMap_cons]
  exact ⟨_, _, List.append_assoc _ _ _⟩

/-- What has been read of a run are these tokens, whatever comes instead of `next`. -/
structure RunTokens (run : List Char) (ts : List CssToken) (next : List Char) : Prop where
  whole : ∀ t ∈ ts, t.IsWhole
  text : ts.flatMap CssToken.text = run
  read : ∀ back, (back.head? = some '*' → next.head? = some '*') →
    cssTokens (run ++ back) = ts ++ cssTokens back

theorem RunTokens.nil (next : List Char) : RunTokens [] [] next :=
  ⟨by simp, rfl, fun _ _ => rfl⟩

theorem RunTokens.snoc {run rest : List Char} {ts : List CssToken} {t : CssToken}
    (h : RunTokens run ts (t.text ++ rest)) (ht : t.IsBefore rest) :
    RunTokens (run ++ t.text) (ts ++ [t]) rest := by
  have hne : t.text ≠ [] := ht.1.text_ne_nil
  constructor
  · rw [List.forall_mem_append, List.forall_mem_singleton]
    exact ⟨h.whole, ht.1⟩
  · rw [List.flatMap_append, h.text, List.flatMap_singleton]
  · intro back hback
    have hbefore : t.IsBefore back := ⟨ht.1, fun hslash hstar => ht.2 hslash (hback hstar)⟩
    have hread := h.read (t.text ++ back) (by
      rw [head?_append_of_ne_nil hne, head?_append_of_ne_nil hne]
      exact id)
    rw [List.append_assoc, hread, hbefore.cssTokens]
    simp

namespace SheetState

/-- The selector lists that end in these pieces hide nothing that scoping looks for. -/
def KeepsLists (s : SheetState) (ps : List Piece) : Prop :=
  ∀ list, .selectors list ∈ s.parts ps → KeepsTokens (cssTokens list)

section Kept

variable {s : SheetState} {p : Piece} {ps : List Piece}

theorem KeepsLists.head (h : s.KeepsLists (p :: ps)) {list : List Char}
    (hlist : .selectors list ∈ s.ended p) : KeepsTokens (cssTokens list) :=
  h list (List.mem_append_left _ hlist)

theorem KeepsLists.tail (h : s.KeepsLists (p :: ps)) : (s.next p).KeepsLists ps :=
  fun list hlist => h list (List.mem_append_right _ hlist)

end Kept

/-- The marks from `text` on stand between tokens, whatever run there is in front of it. -/
def MarksTokenwise (text : List Char) : Prop :=
  ∀ (s : SheetState) (ts : List CssToken), RunTokens s.run ts text →
    s.KeepsLists (pieces true text) →
      IsTokenwise (s.marked (pieces true text)) (ts ++ cssTokens text)

section Token

variable {s : SheetState} {run rest : List Char} {ts : List CssToken}

/-- Behind a token whose last piece ends no selector list the marks stand between tokens again. -/
theorem isTokenwise_kept {p : Piece} {t : CssToken} (hrest : MarksTokenwise rest)
    (hrun : RunTokens run ts (t.text ++ rest)) (ht : t.IsBefore rest)
    (hlists : s.KeepsLists (p :: pieces true rest)) (hfull : s.run ++ p.text = run ++ t.text)
    (hkeeps : s.KeepsRun p) :
    IsTokenwise (s.marked (p :: pieces true rest)) (ts ++ t :: cssTokens rest) := by
  have hsnoc := hrun.snoc ht
  have hassoc : ts ++ t :: cssTokens rest = (ts ++ [t]) ++ cssTokens rest := by simp
  rw [marked_cons, hassoc]
  rcases hkeeps with ⟨hended, hnext⟩ | ⟨hended, hnext⟩
  · rw [hended]
    refine hrest (s.next p) (ts ++ [t]) ?_ hlists.tail
    rwa [hnext, hfull]
  · have hplain := isTokenwise_plain (ts ++ [t])
    rw [hsnoc.text, ← hfull] at hplain
    have hback := hrest (s.next p) [] (by
      rw [hnext]
      exact RunTokens.nil rest) hlists.tail
    rw [hended]
    exact hplain.append hback

/-- A brace that ends a selector list stands between the marks of the list and those behind it. -/
theorem isTokenwise_selectors (hrest : MarksTokenwise rest)
    (hrun : RunTokens s.run ts ('\x7b' :: rest))
    (hlists : s.KeepsLists (.char '\x7b' :: pieces true rest))
    (hlist : s.ended (.char '\x7b') = [.selectors s.run, .other ['\x7b']])
    (hnext : (s.next (.char '\x7b')).run = []) :
    IsTokenwise (s.marked (.char '\x7b' :: pieces true rest))
      (ts ++ .char '\x7b' :: cssTokens rest) := by
  have htokens : cssTokens s.run = ts := by simpa using hrun.read [] (by simp)
  have hmem : .selectors s.run ∈ s.ended (.char '\x7b') := by
    rw [hlist]
    exact List.mem_cons_self
  have hkeeps := hlists.head hmem
  rw [htokens] at hkeeps
  have hmarks := isTokenwise_markSelectors hrun.whole hkeeps
  rw [hrun.text] at hmarks
  have hopen : IsTokenwise [some '\x7b'] [.char '\x7b'] := isTokenwise_plain [.char '\x7b']
  have hback := hrest (s.next (.char '\x7b')) [] (by
    rw [hnext]
    exact RunTokens.nil rest) hlists.tail
  rw [marked_cons, hlist]
  simpa [SheetPart.marked] using hmarks.append (hopen.append hback)

/-- An escape is read as two pieces, of which neither ends a selector list. -/
theorem isTokenwise_escape {c : Char} (hrest : MarksTokenwise rest)
    (hrun : RunTokens s.run ts ('\\' :: c :: rest)) (ht : (CssToken.escape c).IsBefore rest)
    (hlists : s.KeepsLists (.char '\\' :: .char c :: pieces true rest)) :
    IsTokenwise (s.marked (.char '\\' :: .char c :: pieces true rest))
      (ts ++ .escape c :: cssTokens rest) := by
  have hback : (s.next (.char '\\')).run = s.run ++ ['\\'] := by simp [next]
  have hended : s.ended (.char '\\') = [] := by simp [ended]
  have hfull : (s.next (.char '\\')).run ++ Piece.text (.char c) =
      s.run ++ CssToken.text (.escape c) := by
    rw [hback, List.append_assoc]
    rfl
  rw [marked_cons, hended]
  rcases (s.next (.char '\\')).keepsRun_or_selectors (.char c) with hkeeps | ⟨-, hlist, -⟩
  · exact isTokenwise_kept hrest hrun ht hlists.tail hfull hkeeps
  · -- the run would end between the backslash and the brace
    have hkeeps := hlists.tail.head (by rw [hlist]; exact List.mem_cons_self)
    rw [hback, hrun.read ['\\'] (by simp), cssTokens_backslash] at hkeeps
    exact absurd (by simp) hkeeps.backslash

end Token

/-- The marks of a stylesheet stand between its tokens, those of the run in front of it included. -/
theorem marksTokenwise {text : List Char} (hides : HidesNoStart (cssTokens text)) :
    MarksTokenwise text := by
  -- by the tokens ahead; the run and its tokens are whatever has been read of it
  induction text using cssTokens_induction with
  | nil =>
    intro s ts hrun _
    have hplain := isTokenwise_plain ts
    rw [hrun.text] at hplain
    simpa using hplain
  | last p t hp htext htokens hpieces =>
    intro s ts hrun _
    have hkeeps : s.KeepsRun p := .of_ne fun hbrace => absurd (hp _ hbrace) (by decide)
    have hplain := isTokenwise_plain (ts ++ [t])
    rw [List.flatMap_append, List.flatMap_singleton, hrun.text, ← htext,
      ← hkeeps.marked] at hplain
    rwa [htokens, hpieces, marked_cons, marked_nil]
  | cons t rest hbefore ih =>
    intro s ts hrun hlists
    have hread := hbefore.cssTokens
    rw [hread] at hides
    rw [pieces_token hbefore hides] at hlists ⊢
    rw [hread]
    have hrest := ih hides.tail
    cases t with
    | comment text => exact isTokenwise_kept hrest hrun hbefore hlists rfl (.of_ne (by simp))
    | string text => exact isTokenwise_kept hrest hrun hbefore hlists rfl (.of_ne (by simp))
    | escape c => exact isTokenwise_escape hrest hrun hbefore hlists
    | char c =>
      rcases s.keepsRun_or_selectors (.char c) with hkeeps | ⟨hbrace, hlist, hnext⟩
      · exact isTokenwise_kept hrest hrun hbefore hlists rfl hkeeps
      · obtain rfl : c = '\x7b' := Piece.char.inj hbrace
        exact isTokenwise_selectors hrest hrun hlists hlist hnext

end SheetState

theorem fill_places (insertion : List Char) (places : List (Option CssToken)) :
    MarkedText.fill insertion
        (places.flatMap fun place => place.elim [none] fun t => MarkedText.plain t.text) =
      fillTokens insertion places := by
  induction places with
  | nil => rfl
  | cons place places ih =>
    rw [List.flatMap_cons, MarkedText.fill_append, ih, fillTokens, fillTokens, List.flatMap_cons]
    congr 1
    cases place with
    | none => simp [MarkedText.fill]
    | some t => exact MarkedText.fill_plain insertion t.text

/-- Where nothing is hidden, the attribute is inserted between tokens. -/
theorem breaksNoToken_of_hidesNothing {css : List Char} (h : HidesNothing css) :
    BreaksNoToken css := by
  obtain ⟨places, htokens, hmarked⟩ :=
    SheetState.marksTokenwise h.start {} [] (RunTokens.nil css) h.lists
  refine ⟨places, htokens, fun attr => ?_⟩
  rw [scopeStylesheet, markStylesheet_eq_marked, hmarked, fill_places]

/-- The one colon that a string hides here stands behind an open bracket. -/
theorem attribute_colon_inside {front back : List CssToken} {t : CssToken} {x z : List Char}
    (hts : [.char 'a', .char '[', .char 'x', .char '=', .string "':'".toList, .char ']', .char ':',
      .char 'b'] = front ++ t :: back) (hne : t ≠ .char ':') (htext : t.text = x ++ ':' :: z) :
    CssToken.depthOf front + bracketSum x ≠ 0 := by
  have ht : t = .string "':'".toList := by
    have hmem : ':' ∈ t.text := by simp [htext]
    have hin : t ∈ front ++ t :: back := by simp
    rw [← hts] at hin
    clear hts htext
    simp only [List.mem_cons, List.not_mem_nil, or_false] at hin
    rcases hin with rfl | rfl | rfl | rfl | rfl | rfl | rfl | rfl <;> simp_all [CssToken.text]
  subst ht
  have hx : bracketSum x = 0 := by
    have hall : ∀ c ∈ "':'".toList, bracketChange c = 0 := by simp [bracketChange]
    refine bracketSum_eq_zero fun c hc => hall c ?_
    rw [show "':'".toList = x ++ ':' :: z from htext]
    exact List.mem_append_left _ hc
  have hfront : front = [.char 'a', .char '[', .char 'x', .char '='] := by
    simp [List.cons_eq_append_iff] at hts
    simp_all
  rw [hfront, hx]
  decide

theorem hidesNothing_attribute : HidesNothing "a[x=':']:b\x7b\x7d".toList := by
  have hparts : SheetState.parts {} (pieces true "a[x=':']:b\x7b\x7d".toList) =
      [.selectors "a[x=':']:b".toList, .other ['\x7b'], .other ['\x7d']] := by
    decide +kernel
  have htokens : cssTokens "a[x=':']:b".toList =
      [.char 'a', .char '[', .char 'x', .char '=', .string "':'".toList, .char ']', .char ':',
        .char 'b'] := by
    decide +kernel
  have hstart : ∀ c, CssToken.escape c ∉ cssTokens "a[x=':']:b\x7b\x7d".toList := by
    have hall : cssTokens "a[x=':']:b\x7b\x7d".toList =
        cssTokens "a[x=':']:b".toList ++ [.char '\x7b', .char '\x7d'] := by
      decide +kernel
    rw [hall, htokens]
    simp
  refine ⟨⟨fun c _ => hstart c, ?_⟩, ?_⟩
  · intro hboth
    exact hstart '/' (hboth.subset (by simp))
  · intro list hlist
    rw [hparts] at hlist
    obtain rfl : list = "a[x=':']:b".toList := by simpa using hlist
    rw [htokens]
    refine ⟨by simp, by simp, by simp, .inr ⟨?_, fun front t back x z hts hne htext =>
      attribute_colon_inside hts hne htext⟩⟩
    simp [bracketChange]

theorem breaksNoToken_attribute : HidesNothing "a[x=':']:b\x7b\x7d".toList ∧
    BreaksNoToken "a[x=':']:b\x7b\x7d".toList :=
  ⟨hidesNothing_attribute, breaksNoToken_of_hidesNothing hidesNothing_attribute⟩

/-- A colon that a string, an escape or a comment hides is taken for that of a pseudo-class. -/
theorem hiddenColon_breaks_token : ¬ BreaksNoToken "a[x=']:']\x7b\x7d".toList ∧
    ¬ BreaksNoToken ".md\\:flex\x7b\x7d".toList ∧ ¬ BreaksNoToken "a/*:*/\x7b\x7d".toList := by
  refine ⟨fun h => ?_, fun h => ?_, fun h => ?_⟩
  · have hkept := h.keeps_token (t := .string "']:'".toList) (by decide +kernel) ['k']
    exact absurd hkept (by decide +kernel)
  · have hkept := h.keeps_token (t := .escape ':') (by decide +kernel) ['k']
    exact absurd hkept (by decide +kernel)
  · have hkept := h.keeps_token (t := .comment "/*:*/".toList) (by decide +kernel) ['k']
    exact absurd hkept (by decide +kernel)

end ComponentSplit
