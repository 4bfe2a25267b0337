import ComponentSplit.Markup.Lexeme
import ComponentSplit.Proofs.Markup.EndTag
import ComponentSplit.Proofs.Pattern.Written

/-!
Raw text up to the first end tag of its element. The pattern that looks for the end holds the name
of the element as it is, so a full stop in the name lets it stop at other texts too. What is passed
over there never reaches into an end tag of the name.
-/

namespace ComponentSplit

open Pattern

/-- A name that an end tag can spell. -/
def IsClosable (name : String) : Prop :=
  ∃ spelled, IsEndName spelled ∧ lower spelled = name.toList

/-- The raw text of an element whose name can stand in its closer. -/
def RawText.ofChain (name : String) : RawText := ⟨name, chain (closerItems name.toList)⟩

/-- No end tag of a name starts in a text before `rest`, an end of the text. -/
def NoEndTagBefore (name : String) (text rest : List Char) : Prop :=
  ∀ s, s <:+ text → rest.length < s.length → ¬ StartsEndTag name s

theorem NoEndTagBefore.trans {name : String} {text middle rest : List Char}
    (h : NoEndTagBefore name text middle) (hm : middle <:+ text)
    (h' : NoEndTagBefore name middle rest) : NoEndTagBefore name text rest := by
  intro s hs hl
  by_cases hlen : middle.length < s.length
  · exact h s hs hlen
  · exact h' s (List.suffix_of_suffix_length_le hs hm (by omega)) hl

theorem StartsEndTag.append {name : String} {text : List Char} (h : StartsEndTag name text)
    (more : List Char) : StartsEndTag name (text ++ more) := by
  obtain ⟨inside, rest, rfl, hs⟩ := h
  exact ⟨inside, rest ++ more, by simp, hs⟩

theorem NoEndTagBefore.refl (name : String) (text : List Char) : NoEndTagBefore name text text :=
  fun _ hs hl => absurd hs.length_le (by omega)

/-- A text holds no end tag when none starts in it, whatever follows it. -/
theorem NoEndTagBefore.not_hasEndTag {name : String} {text rest : List Char}
    (h : NoEndTagBefore name (text ++ rest) rest) : ¬ HasEndTag name text := by
  rintro ⟨before, tail, rfl, ht⟩
  refine h (tail ++ rest) ⟨before, by simp⟩ ?_ (ht.append rest)
  obtain ⟨inside, after, rfl, -⟩ := ht
  simp only [List.length_append, List.length_cons]
  omega

/-- What stands behind a text cannot lend it an end tag when it starts with a less-than sign. -/
theorem noEndTagBefore_append {name : String} {text close : List Char}
    (h : ¬ HasEndTag name text) (hc : close.head? = some '<') :
    NoEndTagBefore name (text ++ close) close := by
  rintro s hs hl ⟨inside, rest, hinside, hspells⟩
  obtain ⟨close, rfl⟩ : ∃ more, close = '<' :: more := by
    cases close with
    | nil => simp at hc
    | cons c more => exact ⟨more, by simpa using hc⟩
  have hno : '<' ∉ '/' :: (inside ++ ['>']) := by
    simp [hspells.start_not_mem]
  obtain ⟨before, hbefore⟩ := hs
  rcases List.append_eq_append_iff.mp hbefore.symm with ⟨t, hb, hclose⟩ | ⟨t, htext, hclose⟩
  · rw [hclose] at hl
    simp only [List.length_append] at hl
    omega
  · -- The end tag starts in `t`; if it went on behind `t` it would hold a less-than sign.
    cases t with
    | nil => simp [hclose] at hl
    | cons c t =>
      rw [hinside, List.cons_append] at hclose
      obtain ⟨rfl, htail⟩ := List.cons.inj hclose
      have hsplit : ('/' :: (inside ++ ['>'])) ++ rest = t ++ '<' :: close := by simpa using htail
      rcases List.append_eq_append_iff.mp hsplit with ⟨m, ht, -⟩ | ⟨m, htag, hm⟩
      · refine h ⟨before, '<' :: t, htext, inside, m, ?_, hspells⟩
        simp [ht]
      · cases m with
        | nil =>
          refine h ⟨before, '<' :: t, htext, inside, [], ?_, hspells⟩
          simpa using htag.symm
        | cons d m =>
          rw [← (List.cons.inj hm).1] at htag
          exact hno (by rw [htag]; simp)

theorem SpellsName.isClosable {name : String} {inside : List Char} (h : SpellsName name inside) :
    IsClosable name := by
  obtain ⟨lead, spelled, trail, -, -, hs, hlow, -⟩ := h
  exact ⟨spelled, hs, hlow⟩

theorem isOrdinary_asciiLower {c : Char} (h : isEndNameChar c = true) :
    asciiLower c = '.' ∨ isOrdinary (asciiLower c) = true := by
  have hc := toNat_of_isEndNameChar h
  have hl := asciiLower_toNat (c := c)
  have hne {d : Char} (hd : d.toNat ∈ [124, 41, 91, 42, 43, 63, 123, 94, 36, 40, 92]) :
      asciiLower c ≠ d := by
    intro he
    rw [he] at hl
    simp only [List.mem_cons, List.not_mem_nil, or_false] at hd
    split at hl <;> omega
  by_cases hdot : asciiLower c = '.'
  · exact .inl hdot
  · right
    simp [isOrdinary, hdot, hne]

theorem RawText.ofName_eq {name : String} (h : IsClosable name) :
    RawText.ofName name = .ok (RawText.ofChain name) := by
  obtain ⟨spelled, hs, hlow⟩ := h
  have hname : name.toList = spelled.map asciiLower := hlow.symm.trans hs.lower
  have hread : Pattern.read ("</\\s*".toList ++ name.toList ++ "\\s*>".toList) =
      .ok (chain (closerItems name.toList)) := by
    apply read_closer
    · intro c hc
      rw [hname] at hc
      obtain ⟨d, hd, rfl⟩ := List.mem_map.mp hc
      exact isOrdinary_asciiLower (hs.isEndNameChar d hd)
    · obtain ⟨c, rest, rfl, -⟩ := hs
      simp [hname]
  rw [RawText.ofName, hread]
  rfl

theorem fits_literal {c d : Char} {items : List Pattern} {text : List Char} (hd : d.toNat < 128)
    (h : asciiLower d = c) (hf : Fits items text) : Fits (literal c :: items) (d :: text) :=
  .one rfl (by simp [holds_of_asciiLower hd h]) hf

theorem fits_blanks {items : List Pattern} {lead text : List Char}
    (hl : ∀ c ∈ lead, isBlank c = true) (hf : Fits items text) :
    Fits (blanks :: items) (lead ++ text) :=
  .many rfl (fun c hc => by simp [Flags.holds, CharClass.holds, hl c hc]) hf

theorem fits_name {spelled : List Char} (hs : ∀ c ∈ spelled, isEndNameChar c = true)
    {items : List Pattern} {text : List Char} (hf : Fits items text) :
    Fits ((spelled.map asciiLower).map nameItem ++ items) (spelled ++ text) := by
  induction spelled with
  | nil => exact hf
  | cons c spelled ih =>
    have hrest := ih fun d hd => hs d (List.mem_cons_of_mem c hd)
    have hc := toNat_of_isEndNameChar (hs c (List.mem_cons_self ..))
    simp only [List.map_cons, List.cons_append]
    unfold nameItem
    split
    next =>
      refine .one rfl ?_ hrest
      simp only [Bool.false_or, bne_iff_ne, ne_eq]
      rintro rfl
      revert hc
      decide
    next => exact fits_literal (by omega) rfl hrest

/-- Every end tag of a name fits the closer of the name. -/
theorem StartsEndTag.startFits {name : String} {text : List Char} (h : StartsEndTag name text) :
    StartFits (closerItems name.toList) text := by
  obtain ⟨inside, rest, rfl, lead, spelled, trail, rfl, hl, hs, hlow, ht⟩ := h
  refine ⟨'<' :: '/' :: (lead ++ (spelled ++ (trail ++ ['>']))), rest, by simp, ?_⟩
  rw [← hlow, hs.lower]
  apply fits_literal (by decide) (by decide)
  apply fits_literal (by decide) (by decide)
  apply fits_blanks hl
  apply fits_name hs.isEndNameChar
  apply fits_blanks ht
  exact fits_literal (by decide) (by decide) .done

theorem Pattern.Fits.literal_sign {c : Char} (hc : c.toNat < 65) {items : List Pattern}
    {text : List Char} (h : Fits (literal c :: items) text) : ∃ rest, text = c :: rest ∧ Fits items rest := by
  cases h with
  | one hp ht hf =>
    cases Option.some.inj hp
    cases eq_of_holds_sign hc (by simpa using ht)
    exact ⟨_, rfl, hf⟩

theorem Pattern.Fits.blanks_append {items : List Pattern} {text : List Char}
    (h : Fits (blanks :: items) text) :
    ∃ lead rest, text = lead ++ rest ∧ (∀ c ∈ lead, isBlank c = true) ∧ Fits items rest := by
  cases h with
  | one hp => simp [blanks, oneChar?] at hp
  | many hp hall hf =>
    cases Option.some.inj hp
    refine ⟨_, _, rfl, ?_, hf⟩
    intro c hc
    simpa [Flags.holds, CharClass.holds] using hall c hc

theorem Pattern.Fits.name_append {name : List Char} {items : List Pattern} {text : List Char}
    (h : Fits (name.map nameItem ++ items) text) :
    ∃ word rest, text = word ++ rest ∧ word.length = name.length ∧ Fits items rest := by
  induction name generalizing text with
  | nil => exact ⟨[], text, rfl, rfl, h⟩
  | cons c name ih =>
    obtain ⟨test, ht⟩ := oneChar?_nameItem c
    generalize hi : nameItem c = p at h ht
    simp only [List.map_cons, List.cons_append, hi] at h
    cases h with
    | one hp hc hf =>
      obtain ⟨word, rest, rfl, hl, hf⟩ := ih hf
      exact ⟨_ :: word, rest, rfl, by simp [hl], hf⟩
    | many => simp [oneChar?] at ht

/-- What fits the closer of a name is as long as an end tag of the name, white space apart. -/
theorem fits_closer {name taken : List Char} (h : Fits (closerItems name) taken) :
    ∃ lead word trail, taken = '<' :: '/' :: (lead ++ word ++ trail ++ ['>']) ∧
      (∀ c ∈ lead, isBlank c = true) ∧ word.length = name.length ∧
      ∀ c ∈ trail, isBlank c = true := by
  obtain ⟨t1, rfl, h1⟩ := h.literal_sign (by decide)
  obtain ⟨t2, rfl, h2⟩ := h1.literal_sign (by decide)
  obtain ⟨lead, t3, rfl, hl, h3⟩ := h2.blanks_append
  obtain ⟨word, t4, rfl, hw, h4⟩ := h3.name_append
  obtain ⟨trail, t5, rfl, ht, h5⟩ := h4.blanks_append
  obtain ⟨t6, rfl, h6⟩ := h5.literal_sign (by decide)
  cases h6
  exact ⟨lead, word, trail, by simp, hl, hw, ht⟩

theorem startFits_closer {name : List Char} {text : List Char}
    (h : StartFits (closerItems name) text) :
    ∃ lead word trail rest, text = '<' :: '/' :: (lead ++ word ++ trail ++ '>' :: rest) ∧
      (∀ c ∈ lead, isBlank c = true) ∧ word.length = name.length ∧
      ∀ c ∈ trail, isBlank c = true := by
  obtain ⟨taken, rest, rfl, hfits⟩ := h
  obtain ⟨lead, word, trail, rfl, hl, hw, ht⟩ := fits_closer hfits
  exact ⟨lead, word, trail, rest, by simp, hl, hw, ht⟩

theorem startFits_closer_cut {name : List Char} {text : List Char}
    (h : StartFits (closerItems name) text) :
    ∃ inside rest, text = '<' :: '/' :: (inside ++ '>' :: rest) ∧ '>' ∉ inside := by
  obtain ⟨lead, word, trail, later, rfl, -⟩ := startFits_closer h
  obtain ⟨inside, rest, heq, hin⟩ : ∃ inside rest,
      lead ++ word ++ trail ++ '>' :: later = inside ++ '>' :: rest ∧ '>' ∉ inside :=
    List.eq_append_cons_of_mem (by simp)
  exact ⟨inside, rest, by rw [heq], hin⟩

/-- The search for the end of a raw text stops at an end tag of its name or before all of them. -/
theorem RawText.find_some {name : String} {look : Look} {text found : List Char}
    (h : (RawText.ofChain name).find look text = some found) :
    NoEndTagBefore name text found ∧ StartFits (closerItems name.toList) found := by
  obtain ⟨hfound, hbefore⟩ := find_chain_some (isItem_closerItems name.toList)
    (List.cons_ne_nil _ _) h
  exact ⟨fun s hs hl he => hbefore s hs hl he.startFits, hfound⟩

theorem RawText.find_none {name : String} {look : Look} {text : List Char}
    (h : (RawText.ofChain name).find look text = none) (later : Look) :
    (∀ s, s <:+ text → ¬ StartsEndTag name s) ∧
      (RawText.ofChain name).find later text = none := by
  have hno {s : List Char} (hs : s <:+ text) : ¬ StartFits (closerItems name.toList) s :=
    find_chain_none (List.cons_ne_nil _ _) h hs
  refine ⟨fun s hs he => hno hs he.startFits, ?_⟩
  cases hf : (RawText.ofChain name).find later text with
  | none => rfl
  | some found => exact absurd (RawText.find_some hf).2 (hno (RawText.find_suffix hf))

/-- Texts that go on alike behind their first greater-than signs are the same up to there. -/
theorem prefix_of_first {c : Char} {a b rest rest' : List Char} (ha : c ∉ a)
    (h : a ++ c :: rest = b ++ c :: rest') : a <+: b := by
  rcases List.append_eq_append_iff.mp h with ⟨s, rfl, -⟩ | ⟨s, rfl, hs⟩
  · exact List.prefix_append a s
  · cases s with
    | nil => simp
    | cons d s =>
      have hd : c = d := (List.cons.inj hs).1
      exact absurd (by simp [hd]) ha

theorem eq_of_first {c : Char} {a b rest rest' : List Char} (ha : c ∉ a) (hb : c ∉ b)
    (h : a ++ c :: rest = b ++ c :: rest') : a = b ∧ rest = rest' := by
  have hab : a = b := (prefix_of_first ha h).eq_of_length_le (prefix_of_first hb h.symm).length_le
  subst hab
  exact ⟨rfl, (List.cons.inj (List.append_cancel_left h)).2⟩

/-- The characters of a text that are no white space. -/
def inkCount (text : List Char) : Nat := text.countP fun c => !isBlank c

theorem inkCount_blanks {text : List Char} (h : ∀ c ∈ text, isBlank c = true) :
    inkCount text = 0 :=
  List.countP_eq_zero.mpr fun c hc => by simp [h c hc]

theorem SpellsName.le_inkCount {name : String} {inside : List Char} (h : SpellsName name inside) :
    name.toList.length ≤ inkCount inside := by
  obtain ⟨lead, spelled, trail, rfl, -, hs, hlow, -⟩ := h
  have hink : inkCount spelled = spelled.length :=
    List.countP_eq_length.mpr fun c hc => by
      simp [isBlank_of_isEndNameChar (hs.isEndNameChar c hc)]
  have hlen : name.toList.length = spelled.length := by rw [← hlow, hs.lower, List.length_map]
  unfold inkCount at *
  simp only [List.countP_append]
  omega

theorem inkCount_le_length {lead word trail : List Char} (hl : ∀ c ∈ lead, isBlank c = true)
    (ht : ∀ c ∈ trail, isBlank c = true) : inkCount (lead ++ word ++ trail) ≤ word.length := by
  have hlead := inkCount_blanks hl
  have htrail := inkCount_blanks ht
  have hword : inkCount word ≤ word.length := List.countP_le_length
  unfold inkCount at *
  simp only [List.countP_append]
  omega

theorem inkCount_endTag (front inside : List Char) :
    inkCount (front ++ '<' :: '/' :: inside) = inkCount front + (inkCount inside + 2) := by
  have hb : isBlank '<' = false ∧ isBlank '/' = false := ⟨rfl, rfl⟩
  simp [inkCount, hb]

/-- An end tag that starts before the first greater-than sign of a text ends with that sign. -/
theorem eq_append_endTag {front spelled after inside rest : List Char} (hin : '>' ∉ inside)
    (hno : '>' ∉ spelled) (hlen : rest.length < ('<' :: '/' :: (spelled ++ '>' :: after)).length)
    (h : front ++ '<' :: '/' :: (spelled ++ '>' :: after) = inside ++ '>' :: rest) :
    inside = front ++ '<' :: '/' :: spelled := by
  rcases List.append_eq_append_iff.mp h with ⟨m, hm, hrest⟩ | ⟨m, hm, hrest⟩
  · cases m with
    | nil => simp at hrest
    | cons d m =>
      obtain ⟨rfl, hm'⟩ := List.cons.inj hrest
      cases m with
      | nil => simp at hm'
      | cons e m =>
        obtain ⟨rfl, hm''⟩ := List.cons.inj hm'
        have hm3 : '>' ∉ m := by
          intro hmem
          rw [hm] at hin
          exact hin (by simp [hmem])
        rw [hm, (eq_of_first hno hm3 hm'').1]
  · cases m with
    | nil => simp at hrest
    | cons d m =>
      have hl := congrArg List.length hrest
      simp only [List.length_cons, List.length_append] at hl hlen
      omega

/-- What the search stops at and reading then passes over as text holds no end tag of the name:
there is no room in it for one, since the whole of it is no longer than an end tag. -/
theorem noEndTagBefore_of_startFits {name : String} {inside rest : List Char}
    (hin : '>' ∉ inside) (hname : ¬ SpellsName name inside)
    (hf : StartFits (closerItems name.toList) ('<' :: '/' :: (inside ++ '>' :: rest))) :
    NoEndTagBefore name ('<' :: '/' :: (inside ++ '>' :: rest)) rest := by
  obtain ⟨lead, word, trail, later, heq, hl, hw, ht⟩ := startFits_closer hf
  have hpre : inside <+: lead ++ word ++ trail :=
    prefix_of_first hin (List.cons.inj (List.cons.inj heq).2).2
  have hink : inkCount inside ≤ name.toList.length := by
    rw [← hw]
    exact hpre.sublist.countP_le.trans (inkCount_le_length hl ht)
  rintro s hs hlen ⟨spelled, after, rfl, hsp⟩
  have hno := hsp.end_not_mem
  rcases List.suffix_cons_iff.mp hs with he | hs
  · have he := (List.cons.inj (List.cons.inj he).2).2
    rw [(eq_of_first hno hin he).1] at hsp
    exact hname hsp
  rcases List.suffix_cons_iff.mp hs with he | hs
  · exact absurd (List.cons.inj he).1 (by decide)
  obtain ⟨front, hfront⟩ := hs
  -- The end tag starts inside, so that the inside ends with the name and holds two signs more.
  rw [eq_append_endTag hin hno hlen hfront, inkCount_endTag] at hink
  have hroom := hsp.le_inkCount
  omega

/-- What an end tag is, inside raw text: the text that it is written with, unless it has the name of
the raw text. -/
def endTagIn (raw : RawText) (inside : List Char) : Token :=
  if endTagName? inside = some raw.name then .endTag raw.name
  else .text ('<' :: '/' :: inside ++ ['>'])

theorem readEndTag_raw {raw : RawText} {inside rest : List Char} (hin : '>' ∉ inside) :
    readEndTag (some raw) (inside ++ '>' :: rest) = some (endTagIn raw inside, rest) := by
  unfold readEndTag endTagIn
  rw [cutAt_append hin]
  cases hn : endTagName? inside with
  | none => simp [hn]
  | some name =>
    by_cases heq : name = raw.name
    · simp [hn, heq]
    · simp [hn, heq]

/-- What reading comes to where the search for the end of raw text has stopped at an end tag. -/
theorem Lexeme.next_of_find {raw : RawText} {look : Look} {text inside rest : List Char}
    (hin : '>' ∉ inside)
    (hf : raw.find look text = some ('<' :: '/' :: (inside ++ '>' :: rest))) :
    Lexeme.next (some raw) look text =
      .ok (some (⟨endTagIn raw inside, '<' :: '/' :: (inside ++ '>' :: rest), rest⟩, look)) := by
  have hmark : readMarkup (some raw) ('/' :: (inside ++ '>' :: rest)) =
      .ok (some (endTagIn raw inside, rest)) := by
    simp [readMarkup, readEndTag_raw hin]
  have hsight : sight (some raw) look text =
      .ok (.token ⟨endTagIn raw inside, '<' :: '/' :: (inside ++ '>' :: rest), rest⟩) := by
    unfold sight sightRaw
    simp only [hf, sightMarkup, hmark]
  unfold Lexeme.next
  simp only [hsight]

/-- Inside the raw text of a name, reading either comes to no token, and then no end tag of the name
follows; or to the first end tag of the name; or to a text in front of all of them. -/
theorem Lexeme.next_raw (name : String) (look : Look) (text : List Char) :
    (Lexeme.next (some (.ofChain name)) look text = .ok none ∧
      ∀ s, s <:+ text → ¬ StartsEndTag name s) ∨
    ∃ l inside, Lexeme.next (some (.ofChain name)) look text = .ok (some (l, look)) ∧
      l.here <:+ text ∧ l.here = '<' :: '/' :: (inside ++ '>' :: l.rest) ∧
      NoEndTagBefore name text l.here ∧
      ((l.token = .endTag name ∧ SpellsName name inside) ∨
        ((∃ content, l.token = .text content) ∧ NoEndTagBefore name l.here l.rest)) := by
  cases hf : (RawText.ofChain name).find look text with
  | none =>
    left
    have hsight (look : Look) : sight (some (.ofChain name)) look text = .ok (.stopped text) := by
      have hnone := (RawText.find_none hf look).2
      unfold sight sightRaw
      simp [hnone]
    refine ⟨?_, (RawText.find_none hf look).1⟩
    unfold Lexeme.next
    simp [hsight]
  | some found =>
    right
    obtain ⟨hbefore, hfits⟩ := RawText.find_some hf
    have hsuffix := RawText.find_suffix hf
    obtain ⟨inside, rest, rfl, hin⟩ := startFits_closer_cut hfits
    refine ⟨_, inside, Lexeme.next_of_find hin hf, hsuffix, rfl, hbefore, ?_⟩
    by_cases hname : endTagName? inside = some name
    · exact .inl ⟨if_pos hname, endTagName?_eq_some.mp hname⟩
    · have hspell : ¬ SpellsName name inside := fun h => hname (endTagName?_eq_some.mpr h)
      exact .inr ⟨⟨_, if_neg hname⟩, noEndTagBefore_of_startFits hin hspell hfits⟩

end ComponentSplit
