import ComponentSplit.Proofs.Stylesheet.CssToken
import ComponentSplit.Proofs.Stylesheet.ScopeOffset

namespace ComponentSplit

namespace CssToken

/-- How a token changes the depth of brackets; those in strings do not count. -/
def depthChange : CssToken → Int
  | string _ => 0
  | t => bracketSum t.text

def depthOf : List CssToken → Int
  | [] => 0
  | t :: ts => t.depthChange + depthOf ts

@[simp]
theorem depthOf_nil : depthOf [] = 0 := rfl

@[simp]
theorem depthOf_cons (t : CssToken) (ts : List CssToken) :
    depthOf (t :: ts) = t.depthChange + depthOf ts := rfl

@[simp]
theorem depthOf_append (front back : List CssToken) :
    depthOf (front ++ back) = depthOf front + depthOf back := by
  induction front with
  | nil => simp
  | cons t front ih => rw [List.cons_append, depthOf_cons, ih, depthOf_cons, Int.add_assoc]

/-- The pieces of a token where comments do not count. -/
def plainPieces : CssToken → List Piece
  | string text => [.string text]
  | t => t.text.map .char

end CssToken

/-- A character that a comment or an escape may hold wherever it stands in a selector. -/
def IsHarmless (c : Char) : Prop := c ∉ [',', '"', '\'']

/-- The tokens of a selector list hide nothing that the list is divided at. They hide no colon
outside brackets either, and strings hold no brackets where a colon is hidden at all. -/
structure KeepsTokens (ts : List CssToken) : Prop where
  backslash : CssToken.char '\\' ∉ ts
  escape : ∀ c, CssToken.escape c ∈ ts → IsHarmless c ∧ isBlank c = false
  comment : ∀ text, CssToken.comment text ∈ ts → ∀ c ∈ text, IsHarmless c
  colon : (∀ t ∈ ts, ':' ∈ t.text → t = .char ':') ∨
    (∀ text, CssToken.string text ∈ ts → ∀ c ∈ text, bracketChange c = 0) ∧
      ∀ front t back x z, ts = front ++ t :: back → t ≠ .char ':' → t.text = x ++ ':' :: z →
        CssToken.depthOf front + bracketSum x ≠ 0

/-- A text with marks between its tokens, of which none is broken. -/
def IsTokenwise (m : MarkedText) (ts : List CssToken) : Prop :=
  ∃ places : List (Option CssToken), places.filterMap id = ts ∧
    m = places.flatMap fun place => place.elim [none] fun t => MarkedText.plain t.text

section Tokenwise

variable {m m' : MarkedText} {ts ts' : List CssToken}

theorem IsTokenwise.append (h : IsTokenwise m ts) (h' : IsTokenwise m' ts') :
    IsTokenwise (m ++ m') (ts ++ ts') := by
  obtain ⟨places, rfl, rfl⟩ := h
  obtain ⟨places', rfl, rfl⟩ := h'
  exact ⟨places ++ places', by simp, by simp⟩

theorem isTokenwise_plain (ts : List CssToken) :
    IsTokenwise (MarkedText.plain (ts.flatMap CssToken.text)) ts := by
  refine ⟨ts.map some, by simp [List.filterMap_map], ?_⟩
  induction ts with
  | nil => rfl
  | cons t ts ih => simpa using ih

theorem isTokenwise_mark : IsTokenwise [none] [] := ⟨[none], rfl, rfl⟩

end Tokenwise

namespace KeepsTokens

variable {front back : List CssToken}

theorem left (h : KeepsTokens (front ++ back)) : KeepsTokens front := by
  have hmem {t : CssToken} (ht : t ∈ front) : t ∈ front ++ back := List.mem_append_left back ht
  refine ⟨fun ht => h.backslash (hmem ht), fun c hc => h.escape c (hmem hc),
    fun text ht => h.comment text (hmem ht), ?_⟩
  rcases h.colon with hcolon | ⟨hflat, hinside⟩
  · exact .inl fun t ht => hcolon t (hmem ht)
  · refine .inr ⟨fun text ht => hflat text (hmem ht), fun init t rest x z hsplit => ?_⟩
    refine hinside init t (rest ++ back) x z ?_
    rw [hsplit, List.append_assoc]
    rfl

theorem right (h : KeepsTokens (front ++ back)) (hdepth : CssToken.depthOf front = 0) :
    KeepsTokens back := by
  have hmem {t : CssToken} (ht : t ∈ back) : t ∈ front ++ back := List.mem_append_right front ht
  refine ⟨fun ht => h.backslash (hmem ht), fun c hc => h.escape c (hmem hc),
    fun text ht => h.comment text (hmem ht), ?_⟩
  rcases h.colon with hcolon | ⟨hflat, hinside⟩
  · exact .inl fun t ht => hcolon t (hmem ht)
  · refine .inr ⟨fun text ht => hflat text (hmem ht), fun init t rest x z hsplit hne htext => ?_⟩
    have hin := hinside (front ++ init) t rest x z (by rw [hsplit, List.append_assoc]) hne htext
    rwa [CssToken.depthOf_append, hdepth, Int.zero_add] at hin

end KeepsTokens

theorem IsHarmless.not_isQuote {c : Char} (h : IsHarmless c) : ¬ IsQuote c := by
  rintro (rfl | rfl) <;> simp [IsHarmless] at h

theorem pieces_harmless {text : List Char} (h : ∀ c ∈ text, IsHarmless c) (rest : List Char) :
    pieces false (text ++ rest) = text.map .char ++ pieces false rest :=
  pieces_chars (fun c hc => (h c hc).not_isQuote) rest

/-- The tokens are read piece by piece, and nothing in them is taken for a string. -/
theorem pieces_flatMap_text {ts : List CssToken} (hw : ∀ t ∈ ts, t.IsWhole) (hk : KeepsTokens ts) :
    pieces false (ts.flatMap CssToken.text) = ts.flatMap CssToken.plainPieces := by
  have hescape := hk.escape
  have hcomment := hk.comment
  clear hk
  induction ts with
  | nil => exact pieces_nil false
  | cons t ts ih =>
    rw [List.forall_mem_cons] at hw
    have hrest := ih hw.2 (fun c hc => hescape c (List.mem_cons_of_mem t hc))
      fun text ht => hcomment text (List.mem_cons_of_mem t ht)
    rw [List.flatMap_cons, List.flatMap_cons, ← hrest]
    cases t with
    | comment text => exact pieces_harmless (hcomment text List.mem_cons_self) _
    | string text =>
      obtain ⟨quote, tail, rfl, hq, htail⟩ := hw.1
      exact pieces_string false hq htail _
    | escape c =>
      obtain ⟨hc, -⟩ := hescape c List.mem_cons_self
      have hboth : ∀ d ∈ ['\\', c], IsHarmless d := by
        rw [List.forall_mem_cons, List.forall_mem_singleton]
        exact ⟨by simp [IsHarmless], hc⟩
      exact pieces_harmless hboth _
    | char c => exact pieces_char hw.1.1 (by simp)

theorem flatMap_map_char (text : List Char) :
    (text.map CssToken.char).flatMap CssToken.text = text := by
  induction text with
  | nil => rfl
  | cons c text ih => simpa [CssToken.text] using ih

theorem IsStringTail.getLast? {quote : Char} {tail : List Char} (h : IsStringTail quote tail) :
    tail.getLast? = some quote := by
  induction h with
  | close => rfl
  | char _ _ h ih => simp [List.getLast?_cons, ih]
  | escape h ih => simp [List.getLast?_cons, ih]

/-- A whole token that starts with white space is that character. -/
theorem CssToken.IsWhole.eq_char_of_head {t : CssToken} (h : t.IsWhole) {c : Char}
    (hc : isBlank c = true) (hhead : t.text.head? = some c) : t = .char c := by
  cases t with
  | comment text =>
    obtain ⟨tail, rfl, -⟩ := h
    obtain rfl : '/' = c := by simpa [CssToken.text] using hhead
    simp [isBlank] at hc
  | string text =>
    obtain ⟨quote, tail, rfl, hq, -⟩ := h
    obtain rfl : quote = c := by simpa [CssToken.text] using hhead
    exact absurd hq (not_isQuote_of_blank hc)
  | escape d =>
    obtain rfl : '\\' = c := by simpa [CssToken.text] using hhead
    simp [isBlank] at hc
  | char d => simpa [CssToken.text] using hhead

/-- A whole token that ends with white space is that character, or it escapes it. -/
theorem CssToken.IsWhole.eq_char_of_last {t : CssToken} (h : t.IsWhole) {c : Char}
    (hc : isBlank c = true) (hlast : t.text.getLast? = some c) : t = .char c ∨ t = .escape c := by
  cases t with
  | comment text =>
    obtain ⟨tail, rfl, body, rfl, -⟩ := h
    obtain rfl : '/' = c := by simpa [CssToken.text, List.getLast?_cons] using hlast
    simp [isBlank] at hc
  | string text =>
    obtain ⟨quote, tail, rfl, hq, htail⟩ := h
    obtain rfl : quote = c := by
      simpa [CssToken.text, List.getLast?_cons, htail.getLast?] using hlast
    exact absurd hq (not_isQuote_of_blank hc)
  | escape d => exact .inr (by simpa [CssToken.text] using hlast)
  | char d => exact .inl (by simpa [CssToken.text] using hlast)

/-- White space at the start of whole tokens stands there as tokens of its own. -/
theorem exists_tokens_blanks_append {ts : List CssToken} {front text : List Char}
    (hw : ∀ t ∈ ts, t.IsWhole) (hfront : ∀ c ∈ front, isBlank c = true)
    (h : ts.flatMap CssToken.text = front ++ text) :
    ∃ rest, ts = front.map .char ++ rest ∧ rest.flatMap CssToken.text = text := by
  induction front generalizing ts with
  | nil => exact ⟨ts, rfl, h⟩
  | cons c front ih =>
    rw [List.forall_mem_cons] at hfront
    cases ts with
    | nil => simp at h
    | cons t ts =>
      rw [List.forall_mem_cons] at hw
      have hhead : t.text.head? = some c := by
        rw [← head?_append_of_ne_nil hw.1.text_ne_nil (ts.flatMap CssToken.text),
          ← List.flatMap_cons, h]
        rfl
      obtain rfl := hw.1.eq_char_of_head hfront.1 hhead
      obtain ⟨rest, rfl, hrest⟩ := ih hw.2 hfront.2 (List.cons.inj h).2
      exact ⟨rest, rfl, hrest⟩

/-- White space at the end of whole tokens stands there as tokens of its own. -/
theorem exists_tokens_append_blanks {ts : List CssToken} {text back : List Char}
    (hw : ∀ t ∈ ts, t.IsWhole) (hescape : ∀ c, CssToken.escape c ∈ ts → isBlank c = false)
    (hback : ∀ c ∈ back, isBlank c = true) (h : ts.flatMap CssToken.text = text ++ back) :
    ∃ front, ts = front ++ back.map .char ∧ front.flatMap CssToken.text = text := by
  induction back using List.reverseRecOn generalizing ts with
  | nil => exact ⟨ts, by simp, by simpa using h⟩
  | append_singleton back c ih =>
    rw [List.forall_mem_append, List.forall_mem_singleton] at hback
    rcases List.eq_nil_or_concat ts with rfl | ⟨init, t, rfl⟩
    · simp at h
    · rw [List.concat_eq_append] at hw hescape h ⊢
      rw [List.forall_mem_append, List.forall_mem_singleton] at hw
      rw [List.flatMap_append, List.flatMap_singleton, ← List.append_assoc] at h
      have hlast : t.text.getLast? = some c := by
        rw [← List.getLast?_append_of_ne_nil (init.flatMap CssToken.text) hw.2.text_ne_nil, h]
        simp
      obtain rfl : t = .char c := by
        refine (hw.2.eq_char_of_last hback.2 hlast).resolve_right ?_
        rintro rfl
        have hnot := hescape c (by simp)
        simp [hback.2] at hnot
      obtain ⟨front, rfl, hfront⟩ := ih hw.1
        (fun d hd => hescape d (List.mem_append_left _ hd)) hback.1 (List.append_cancel_right h)
      exact ⟨front, by simp, hfront⟩

/-- A colon is a token, or it is hidden in one. -/
theorem colon_cases {ts : List CssToken} {x y : List Char}
    (h : ts.flatMap CssToken.text = x ++ ':' :: y) :
    (∃ u v, ts = u ++ v ∧ u.flatMap CssToken.text = x) ∨
      ∃ u t v x' z, ts = u ++ t :: v ∧ t ≠ .char ':' ∧ t.text = x' ++ ':' :: z ∧
        x = u.flatMap CssToken.text ++ x' := by
  induction ts generalizing x with
  | nil => simp at h
  | cons t ts ih =>
    rw [List.flatMap_cons] at h
    rcases List.append_eq_append_iff.mp h with ⟨w, hx, hrest⟩ | ⟨w, ht, hrest⟩
    · rcases ih hrest with ⟨u, v, rfl, hu⟩ | ⟨u, t', v, x', z, rfl, hne, htext, hw⟩
      · exact .inl ⟨t :: u, v, rfl, by rw [List.flatMap_cons, hu, hx]⟩
      · refine .inr ⟨t :: u, t', v, x', z, rfl, hne, htext, ?_⟩
        rw [hx, hw, List.flatMap_cons, List.append_assoc]
    · cases w with
      | nil => exact .inl ⟨[t], ts, rfl, by simpa using ht⟩
      | cons d w =>
        obtain ⟨rfl, -⟩ := List.cons.inj hrest
        by_cases hchar : t = .char ':'
        · obtain rfl : x = [] := by
            cases x with
            | nil => rfl
            | cons e x => simp [hchar, CssToken.text] at ht
          exact .inl ⟨[], t :: ts, rfl, rfl⟩
        · exact .inr ⟨[], t, ts, x, w, rfl, hchar, ht, rfl⟩

section Flat

variable {ts : List CssToken}
  (hflat : ∀ text, CssToken.string text ∈ ts → ∀ c ∈ text, bracketChange c = 0)

include hflat

theorem depthOf_eq_bracketSum : CssToken.depthOf ts = bracketSum (ts.flatMap CssToken.text) := by
  induction ts with
  | nil => rfl
  | cons t ts ih =>
    have hrest := ih fun text ht => hflat text (List.mem_cons_of_mem t ht)
    have ht : t.depthChange = bracketSum t.text := by
      cases t with
      | string text => exact (bracketSum_eq_zero (hflat text List.mem_cons_self)).symm
      | comment text => rfl
      | escape c => rfl
      | char c => rfl
    rw [CssToken.depthOf_cons, hrest, ht, List.flatMap_cons, bracketSum_append]

theorem isFlat_plainPieces : ∀ p ∈ ts.flatMap CssToken.plainPieces, p.IsFlat := by
  intro p hp
  obtain ⟨t, ht, hp⟩ := List.mem_flatMap.mp hp
  have hchar {text : List Char} (hmem : p ∈ text.map .char) : p.IsFlat := by
    obtain ⟨c, -, rfl⟩ := List.mem_map.mp hmem
    trivial
  cases t with
  | string text =>
    obtain rfl : p = .string text := by simpa [CssToken.plainPieces] using hp
    exact bracketSum_eq_zero (hflat text ht)
  | comment text => exact hchar hp
  | escape c => exact hchar hp
  | char c => exact hchar hp

end Flat

theorem isTokenwise_split (u v : List CssToken) :
    IsTokenwise (MarkedText.plain (u.flatMap CssToken.text) ++
      none :: MarkedText.plain (v.flatMap CssToken.text)) (u ++ v) :=
  (isTokenwise_plain u).append (isTokenwise_mark.append (isTokenwise_plain v))

theorem isTokenwise_markCore {ts : List CssToken} (hw : ∀ t ∈ ts, t.IsWhole)
    (hk : KeepsTokens ts) : IsTokenwise (markCore (ts.flatMap CssToken.text)) ts := by
  rw [markCore]
  rcases scopeOffset_cases (ts.flatMap CssToken.text) with hend | ⟨x, y, hsplit, hoffset, hsum⟩
  · have h := isTokenwise_split ts []
    rw [List.append_nil] at h
    rw [hend, List.take_length, List.drop_length]
    exact h
  · rw [hoffset, hsplit, List.take_left, List.drop_left]
    rcases colon_cases hsplit with ⟨u, v, rfl, rfl⟩ | ⟨u, t, v, x', z, rfl, hne, htext, rfl⟩
    · have hv : v.flatMap CssToken.text = ':' :: y := by
        rw [List.flatMap_append] at hsplit
        exact List.append_cancel_left hsplit
      rw [← hv]
      exact isTokenwise_split u v
    · -- the mark would stand in front of a hidden colon
      exfalso
      rcases hk.colon with hcolon | ⟨hflat, hinside⟩
      · exact hne (hcolon t (by simp) (by simp [htext]))
      · have hopen := hinside u t v x' z rfl hne htext
        rw [pieces_flatMap_text hw hk] at hsum
        have hzero := hsum (isFlat_plainPieces hflat)
        rw [bracketSum_append,
          ← depthOf_eq_bracketSum fun text ht => hflat text (List.mem_append_left _ ht)] at hzero
        exact hopen hzero

theorem isTokenwise_markSelector {ts : List CssToken} (hw : ∀ t ∈ ts, t.IsWhole)
    (hk : KeepsTokens ts) : IsTokenwise (markSelector (ts.flatMap CssToken.text)) ts := by
  rcases markSelector_cases (ts.flatMap CssToken.text) with
    ⟨-, hmark⟩ | ⟨front, core, back, htext, hf, -, hb, hmark⟩
  · rw [hmark]
    exact isTokenwise_plain ts
  · obtain ⟨rest, rfl, hrest⟩ := exists_tokens_blanks_append hw hf htext
    have hdepth : CssToken.depthOf (front.map .char) = 0 := by
      rw [depthOf_eq_bracketSum (by simp), flatMap_map_char]
      exact bracketSum_eq_zero fun c hc => bracketChange_blank (hf c hc)
    have hkrest := hk.right hdepth
    rw [List.forall_mem_append] at hw
    obtain ⟨inner, rfl, hinner⟩ := exists_tokens_append_blanks hw.2
      (fun c hc => (hkrest.escape c hc).2) hb hrest
    rw [List.forall_mem_append] at hw
    have hcore := isTokenwise_markCore hw.2.1 hkrest.left
    have hfront := isTokenwise_plain (front.map .char)
    have hback := isTokenwise_plain (back.map .char)
    rw [hinner] at hcore
    rw [flatMap_map_char] at hfront hback
    rw [hmark]
    exact hfront.append (hcore.append hback)

/-- The reading of a list goes on behind a token that is not a comma between selectors. -/
theorem splitSelectors_plainPieces {t : CssToken} {depth : Int} (ps : List Piece)
    (hcomma : t = .char ',' → depth ≠ 0) (hescape : ∀ c, t = .escape c → c ≠ ',')
    (hcomment : ∀ text, t = .comment text → ',' ∉ text) :
    splitSelectors depth (t.plainPieces ++ ps) =
      prepend t.text (splitSelectors (depth + t.depthChange) ps) := by
  have hchars {text : List Char} (h : Passes (· ≠ ',') depth (text.map .char)
      (depth + bracketSum text)) : splitSelectors depth (text.map .char ++ ps) =
        prepend text (splitSelectors (depth + bracketSum text) ps) := by
    have hsplit := h.splitSelectors ps
    rwa [flatMap_text_chars] at hsplit
  cases t with
  | comment text =>
    refine hchars (passes_map_char fun c hc => ?_)
    rintro rfl
    exact hcomment text rfl hc
  | string text =>
    rw [CssToken.plainPieces, List.singleton_append, splitSelectors]
    · simp [CssToken.depthChange, CssToken.text, Piece.text]
    · simp
  | escape c =>
    refine hchars (passes_map_char fun d hd => ?_)
    have hc := hescape c rfl
    rcases List.mem_cons.mp hd with rfl | hd
    · decide
    · rwa [List.mem_singleton.mp hd]
  | char c =>
    refine hchars ⟨fun hd hc => hcomma (by rw [hc]) hd, ?_⟩
    simp [Passes, CssToken.text]

/-- Marking of a list goes selector by selector, each with its own tokens. -/
theorem isTokenwise_joinSelectors (acc ts : List CssToken) (hw : ∀ t ∈ acc ++ ts, t.IsWhole)
    (hk : KeepsTokens (acc ++ ts)) :
    IsTokenwise (joinSelectors ((prepend (acc.flatMap CssToken.text)
      (splitSelectors (CssToken.depthOf acc) (ts.flatMap CssToken.plainPieces))).map markSelector))
      (acc ++ ts) := by
  induction ts generalizing acc with
  | nil =>
    rw [List.append_nil] at hw hk ⊢
    simpa [splitSelectors, prepend, joinSelectors] using isTokenwise_markSelector hw hk
  | cons t ts ih =>
    have hassoc : acc ++ t :: ts = (acc ++ [t]) ++ ts := by simp
    -- a comma outside brackets ends a selector; any other token is added to it
    by_cases hcomma : t = .char ',' ∧ CssToken.depthOf acc = 0
    · obtain ⟨rfl, hdepth⟩ := hcomma
      have hacc := isTokenwise_markSelector
        (fun t ht => hw t (List.mem_append_left _ ht)) hk.left
      rw [hassoc] at hw hk
      have hdepth' : CssToken.depthOf (acc ++ [.char ',']) = 0 := by
        rw [CssToken.depthOf_append, hdepth]
        rfl
      have hrest := ih [] (fun t ht => hw t (List.mem_append_right _ ht))
        (hk.right hdepth')
      have hcommatoken : IsTokenwise [some ','] [.char ','] := isTokenwise_plain [.char ',']
      obtain ⟨first, others, hsplit⟩ := List.exists_cons_of_ne_nil
        (splitSelectors_ne_nil 0 (ts.flatMap CssToken.plainPieces))
      have hstart : splitSelectors 0 ((CssToken.char ',' :: ts).flatMap CssToken.plainPieces) =
          [] :: first :: others := by
        rw [← hsplit]
        exact if_pos ⟨rfl, rfl⟩
      rw [CssToken.depthOf_nil, hsplit] at hrest
      rw [hdepth, hstart]
      simpa [prepend, joinSelectors] using hacc.append (hcommatoken.append hrest)
    · have hstep := @splitSelectors_plainPieces t (CssToken.depthOf acc)
        (ts.flatMap CssToken.plainPieces) (fun ht hd => hcomma ⟨ht, hd⟩) ?_ ?_
      · rw [hassoc] at hw hk ⊢
        have hrest := ih (acc ++ [t]) hw hk
        rw [List.flatMap_cons, hstep, prepend_prepend]
        simpa using hrest
      · rintro c rfl rfl
        have hc := (hk.escape ',' (by simp)).1
        simp [IsHarmless] at hc
      · rintro text rfl hmem
        have hc := hk.comment text (by simp) ',' hmem
        simp [IsHarmless] at hc

/-- The marks of a selector list stand between its tokens. -/
theorem isTokenwise_markSelectors {ts : List CssToken} (hw : ∀ t ∈ ts, t.IsWhole)
    (hk : KeepsTokens ts) : IsTokenwise (markSelectors (ts.flatMap CssToken.text)) ts := by
  have hjoin := isTokenwise_joinSelectors [] ts hw hk
  obtain ⟨first, others, hsplit⟩ := List.exists_cons_of_ne_nil
    (splitSelectors_ne_nil 0 (ts.flatMap CssToken.plainPieces))
  rw [markSelectors, pieces_flatMap_text hw hk]
  rw [CssToken.depthOf_nil, hsplit] at hjoin
  rw [hsplit]
  exact hjoin

end ComponentSplit
