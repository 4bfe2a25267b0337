import ComponentSplit.Proofs.Section.Reading

/-!
Runs of tokens. Each part of a source is one equation between the tokens from it on and those from
behind it on. What raw text is read as does not depend on what follows the end tag that closes it.
-/

namespace ComponentSplit

open Pattern

/-- Tokens with the text that stands in front of them. -/
def behindText (before : List Char) (ts : List Token) : List Token :=
  if before.isEmpty then ts else .text before :: ts

section Steps

variable {raw next : Option RawText} {look found : Look} {source before : List Char} {l : Lexeme}

theorem tokensFrom_of_next (h : Lexeme.next raw look (before ++ l.here) = .ok (some (l, found)))
    (hraw : rawTextAfter raw l.token = .ok next) :
    tokensFrom raw look (before ++ l.here) = (tokensFrom next found l.rest).map fun others =>
      behindText before (l.token :: others) := by
  have htake : (before ++ l.here).take ((before ++ l.here).length - l.here.length) = before := by
    rw [List.length_append, Nat.add_sub_cancel, List.take_left']
    rfl
  rw [tokensFrom]
  split
  next hn => simp [h] at hn
  next hn => simp [h] at hn
  next hn =>
    cases h.symm.trans hn
    rw [hraw]
    dsimp only
    rw [htake]
    cases tokensFrom next found l.rest with
    | error fault => rfl
    | ok others => rfl

theorem tokensFrom_of_error {fault : MarkupFault}
    (h : Lexeme.next raw look source = .error fault) :
    tokensFrom raw look source = .error fault := by
  rw [tokensFrom]
  split
  next hn =>
    cases h.symm.trans hn
    rfl
  next hn => simp [h] at hn
  next hn => simp [h] at hn

theorem tokensFrom_of_none (h : Lexeme.next raw look source = .ok none) :
    tokensFrom raw look source = .ok (behindText source []) := by
  rw [tokensFrom]
  split
  next hn => simp [h] at hn
  next => rfl
  next hn => simp [h] at hn

end Steps

section Plain

variable {before tail rest : List Char} {look : Look}

/-- Markup behind a text gives its token, unless the text or a value in the markup holds a long
reference. -/
theorem tokensFrom_markup {token : Token} {next : Option RawText} (values : List (List Char))
    (hb : '<' ∉ before)
    (hmarkup : readMarkup none tail =
      match firstLongReference? values with
      | some count => .error (.longReference count)
      | none => .ok (some (token, rest)))
    (hraw : rawTextAfter none token = .ok next) :
    tokensFrom none look (before ++ '<' :: tail) =
      match firstLongReference? (before :: values) with
      | some count => .error (.longReference count)
      | none => (tokensFrom next look rest).map fun others =>
          behindText before (token :: others) := by
  have hnext := Lexeme.next_markup look values hb hmarkup
  cases hlong : firstLongReference? (before :: values) with
  | some count =>
    rw [hlong] at hnext
    exact tokensFrom_of_error hnext
  | none =>
    rw [hlong] at hnext
    exact tokensFrom_of_next (l := ⟨token, '<' :: tail, rest⟩) hnext hraw

theorem tokensFrom_end (hb : '<' ∉ before) :
    tokensFrom none look before =
      match longReference? before with
      | some count => .error (.longReference count)
      | none => .ok (behindText before []) := by
  have hnext := Lexeme.next_end look hb
  cases hlong : longReference? before with
  | some count =>
    rw [hlong] at hnext
    exact tokensFrom_of_error hnext
  | none =>
    rw [hlong] at hnext
    exact tokensFrom_of_none hnext

end Plain

section Raw

variable {name : String} {look : Look} {text found inside rest : List Char}

/-- The search for the end of raw text stops at the first text that fits the closer, wherever the
look started. -/
theorem RawText.find_eq_some : (RawText.ofChain name).find look text = some found ↔
    found <:+ text ∧ StartFits (closerItems name.toList) found ∧
      ∀ s, s <:+ text → found.length < s.length → ¬ StartFits (closerItems name.toList) s := by
  have hne : closerItems name.toList ≠ [] := List.cons_ne_nil _ _
  constructor
  · intro h
    obtain ⟨hfits, hbefore⟩ := find_chain_some (isItem_closerItems name.toList) hne h
    exact ⟨RawText.find_suffix h, hfits, hbefore⟩
  · rintro ⟨hsuffix, hfits, hbefore⟩
    cases hfind : (RawText.ofChain name).find look text with
    | none => exact absurd hfits (find_chain_none hne hfind hsuffix)
    | some other =>
      obtain ⟨hother, hbefore'⟩ := find_chain_some (isItem_closerItems name.toList) hne hfind
      have hsuffix' := RawText.find_suffix hfind
      have hle : other.length ≤ found.length :=
        Nat.le_of_not_lt fun hlt => hbefore _ hsuffix' hlt hother
      have hle' : found.length ≤ other.length :=
        Nat.le_of_not_lt fun hlt => hbefore' _ hsuffix hlt hfits
      have hsame := List.suffix_of_suffix_length_le hsuffix' hsuffix hle
      rw [hsame.eq_of_length_le hle']

theorem Pattern.StartFits.append {items : List Pattern} (h : StartFits items text)
    (more : List Char) : StartFits items (text ++ more) := by
  obtain ⟨taken, rest, rfl, hfits⟩ := h
  exact ⟨taken, rest ++ more, List.append_assoc _ _ _, hfits⟩

/-- What fits the closer in front of an end tag does not reach into the end tag: there is no room
for all of it. -/
theorem startFits_of_append (hspells : SpellsName name inside) {s : List Char} (hne : s ≠ [])
    (h : StartFits (closerItems name.toList) (s ++ '<' :: '/' :: (inside ++ '>' :: rest))) :
    StartFits (closerItems name.toList) s := by
  obtain ⟨taken, after, heq, hfits⟩ := h
  rcases List.append_eq_append_iff.mp heq with ⟨m, htaken, hm⟩ | ⟨m, hs, -⟩
  · rcases m.eq_nil_or_concat with rfl | ⟨front, last, rfl⟩
    · rw [List.append_nil] at htaken
      exact ⟨taken, [], by rw [htaken, List.append_nil], hfits⟩
    · obtain ⟨lead, word, trail, hclosed, hl, hw, ht⟩ := fits_closer hfits
      rw [List.concat_eq_append] at htaken hm
      have hsplit : ('<' :: '/' :: (lead ++ word ++ trail)) ++ ['>'] = (s ++ front) ++ [last] := by
        have hboth := hclosed.symm.trans htaken
        simpa using hboth
      obtain ⟨htext, hlast⟩ := List.append_inj' hsplit rfl
      obtain rfl : '>' = last := List.singleton_inj.mp hlast
      have hin : '>' ∉ '<' :: '/' :: inside := by
        simp [hspells.end_not_mem]
      have hprefix : '<' :: '/' :: inside <+: front :=
        prefix_of_first hin (by simpa using hm)
      have hfront : inkCount inside + 2 ≤ inkCount front := by
        have htag := inkCount_endTag [] inside
        have hle := hprefix.sublist.countP_le (p := fun c => !isBlank c)
        unfold inkCount at htag ⊢
        simp only [List.nil_append, List.countP_nil] at htag
        omega
      have hstart : 0 < inkCount s := by
        obtain ⟨c, more, rfl⟩ := List.exists_cons_of_ne_nil hne
        have hc : '<' = c := (List.cons.inj htext).1
        have hblank : isBlank '<' = false := rfl
        simp [inkCount, ← hc, hblank]
      have hroom := hspells.le_inkCount
      have hall : inkCount (lead ++ word ++ trail) ≤ word.length := inkCount_le_length hl ht
      have hsum := inkCount_endTag [] (lead ++ word ++ trail)
      rw [List.nil_append, htext] at hsum
      unfold inkCount at hsum hstart hfront hall hroom
      simp only [List.countP_append, List.countP_nil] at hsum hall
      omega
  · exact ⟨taken, m, hs, hfits⟩

/-- Where the search for the end of raw text stops in front of an end tag depends on nothing but the
text in front of that. -/
theorem RawText.find_append (look : Look) (rest : List Char)
    (hspells : SpellsName name inside) {s : List Char} (hs : s <:+ text)
    (hfits : StartFits (closerItems name.toList) (s ++ '<' :: '/' :: (inside ++ '>' :: rest)))
    (hbefore : ∀ t, t <:+ text → s.length < t.length → ¬ StartFits (closerItems name.toList) t) :
    (RawText.ofChain name).find look (text ++ '<' :: '/' :: (inside ++ '>' :: rest)) =
      some (s ++ '<' :: '/' :: (inside ++ '>' :: rest)) := by
  obtain ⟨front, rfl⟩ := hs
  refine RawText.find_eq_some.mpr ⟨⟨front, by simp⟩, hfits, ?_⟩
  intro longer hlonger hlen hlongerFits
  obtain ⟨t, rfl⟩ := List.suffix_of_suffix_length_le (List.suffix_append _ _) hlonger
    ((List.suffix_append _ _).length_le.trans hlen.le)
  obtain ⟨more, hmore⟩ := hlonger
  have ht : t <:+ front ++ s := by
    have hboth : (more ++ t) ++ '<' :: '/' :: (inside ++ '>' :: rest) =
        (front ++ s) ++ '<' :: '/' :: (inside ++ '>' :: rest) := by
      simpa using hmore
    exact ⟨more, List.append_cancel_right hboth⟩
  have hlen' : s.length < t.length := by
    simp only [List.length_append] at hlen
    omega
  exact hbefore t ht hlen' (startFits_of_append hspells (by rintro rfl; simp at hlen') hlongerFits)

theorem RawText.find_look (look other : Look) :
    (RawText.ofChain name).find look text = (RawText.ofChain name).find other text := by
  cases h : (RawText.ofChain name).find other text with
  | none => exact (RawText.find_none h look).2
  | some found => exact RawText.find_eq_some.mpr (RawText.find_eq_some.mp h)

theorem rawTextAfter_endTagIn (raw : RawText) (inside : List Char) :
    rawTextAfter (some raw) (endTagIn raw inside) =
      .ok (if endTagName? inside = some raw.name then none else some raw) := by
  unfold endTagIn
  split
  · rfl
  · rfl

/-- Inside raw text reading goes on behind the end tag at which the search has stopped. -/
theorem tokensFrom_stop {raw : RawText} {front : List Char} (hin : '>' ∉ inside)
    (h : raw.find look (front ++ '<' :: '/' :: (inside ++ '>' :: rest)) =
      some ('<' :: '/' :: (inside ++ '>' :: rest))) :
    tokensFrom (some raw) look (front ++ '<' :: '/' :: (inside ++ '>' :: rest)) =
      (tokensFrom (if endTagName? inside = some raw.name then none else some raw) look rest).map
        fun others => behindText front (endTagIn raw inside :: others) :=
  tokensFrom_of_next (Lexeme.next_of_find hin h) (rawTextAfter_endTagIn raw inside)

theorem tokensFrom_stop_endTag {front : List Char} (hspells : SpellsName name inside)
    (h : (RawText.ofChain name).find look (front ++ '<' :: '/' :: (inside ++ '>' :: rest)) =
      some ('<' :: '/' :: (inside ++ '>' :: rest))) :
    tokensFrom (some (.ofChain name)) look (front ++ '<' :: '/' :: (inside ++ '>' :: rest)) =
      (tokensFrom none look rest).map fun others => behindText front (.endTag name :: others) := by
  have hname : endTagName? inside = some (RawText.ofChain name).name :=
    endTagName?_eq_some.mpr hspells
  rw [tokensFrom_stop hspells.end_not_mem h, if_pos hname, endTagIn, if_pos hname]
  rfl

theorem tokensFrom_stop_text {front : List Char} (hin : '>' ∉ inside)
    (hname : endTagName? inside ≠ some name)
    (h : (RawText.ofChain name).find look (front ++ '<' :: '/' :: (inside ++ '>' :: rest)) =
      some ('<' :: '/' :: (inside ++ '>' :: rest))) :
    tokensFrom (some (.ofChain name)) look (front ++ '<' :: '/' :: (inside ++ '>' :: rest)) =
      (tokensFrom (some (.ofChain name)) look rest).map fun others =>
        behindText front (.text ('<' :: '/' :: inside ++ ['>']) :: others) := by
  have hother : ¬ endTagName? inside = some (RawText.ofChain name).name := hname
  rw [tokensFrom_stop hin h, if_neg hother, endTagIn, if_neg hother]

/-- Nothing but texts. -/
def AllText (ts : List Token) : Prop := ∀ t ∈ ts, ∃ content, t = .text content

theorem AllText.cons {ts : List Token} (h : AllText ts) (content : List Char) :
    AllText (.text content :: ts) :=
  List.forall_mem_cons.mpr ⟨⟨content, rfl⟩, h⟩

theorem allText_behindText {ts : List Token} (h : AllText ts) (before : List Char) :
    AllText (behindText before ts) := by
  unfold behindText
  split
  · exact h
  · exact h.cons before

theorem behindText_append (before : List Char) (ts others : List Token) :
    behindText before (ts ++ others) = behindText before ts ++ others := by
  unfold behindText
  split
  · rfl
  · rfl

/-- Where the search in a text without end tags of the name stops, a text is read that is none. -/
theorem RawText.find_text (hno : ¬ HasEndTag name text)
    (h : (RawText.ofChain name).find look text = some found) :
    ∃ front inside rest, text = front ++ found ∧ found = '<' :: '/' :: (inside ++ '>' :: rest) ∧
      '>' ∉ inside ∧ endTagName? inside ≠ some name ∧ ¬ HasEndTag name rest := by
  obtain ⟨⟨front, hfront⟩, hfits, -⟩ := RawText.find_eq_some.mp h
  obtain ⟨inside, rest, hfound, hin⟩ := startFits_closer_cut hfits
  refine ⟨front, inside, rest, hfront.symm, hfound, hin, ?_, ?_⟩
  · intro hname
    exact hno ⟨front, found, hfront.symm, inside, rest, hfound, endTagName?_eq_some.mp hname⟩
  · rintro ⟨before, tail, hrest, htail⟩
    refine hno ⟨front ++ '<' :: '/' :: (inside ++ '>' :: before), tail, ?_, htail⟩
    rw [← hfront, hfound, hrest]
    simp

/-- What raw text without end tags of the name is read as: texts, one of them for each end tag of
another name at which the search stops. -/
inductive ReadAsTexts (name : String) : List Char → List Token → Prop
  | last {text : List Char} (hfind : (RawText.ofChain name).find ⟨text, false⟩ text = none) :
      ReadAsTexts name text (behindText text [])
  | stop {front other later : List Char} {passed : List Token}
      (hfind : (RawText.ofChain name).find
        ⟨front ++ '<' :: '/' :: (other ++ '>' :: later), false⟩
        (front ++ '<' :: '/' :: (other ++ '>' :: later)) =
          some ('<' :: '/' :: (other ++ '>' :: later)))
      (hin : '>' ∉ other) (hname : endTagName? other ≠ some name)
      (hlater : ReadAsTexts name later passed) :
      ReadAsTexts name (front ++ '<' :: '/' :: (other ++ '>' :: later))
        (behindText front (.text ('<' :: '/' :: other ++ ['>']) :: passed))

theorem exists_readAsTexts (hno : ¬ HasEndTag name text) :
    ∃ passed, ReadAsTexts name text passed := by
  induction hn : text.length using Nat.strongRecOn generalizing text with
  | ind n ih =>
    cases hfind : (RawText.ofChain name).find ⟨text, false⟩ text with
    | none => exact ⟨_, .last hfind⟩
    | some found =>
      obtain ⟨front, other, later, rfl, rfl, hin, hname, hlater⟩ := RawText.find_text hno hfind
      have hshorter : later.length < n := by
        rw [← hn]
        simp only [List.length_append, List.length_cons]
        omega
      obtain ⟨passed, hpassed⟩ := ih _ hshorter hlater rfl
      exact ⟨_, .stop hfind hin hname hpassed⟩

namespace ReadAsTexts

variable {passed : List Token}

theorem allText (h : ReadAsTexts name text passed) : AllText passed := by
  induction h with
  | last _ => exact allText_behindText (by simp [AllText]) _
  | stop _ _ _ _ ih => exact allText_behindText (ih.cons _) _

/-- The texts in front of an end tag of the name do not depend on what follows the end tag. -/
theorem tokensFrom_closed (h : ReadAsTexts name text passed) (hspells : SpellsName name inside)
    (look : Look) (rest : List Char) :
    tokensFrom (some (.ofChain name)) look (text ++ '<' :: '/' :: (inside ++ '>' :: rest)) =
      (tokensFrom none look rest).map fun others => passed ++ .endTag name :: others := by
  induction h with
  | last hfind =>
    have hstarts : StartsEndTag name ('<' :: '/' :: (inside ++ '>' :: rest)) :=
      ⟨inside, rest, rfl, hspells⟩
    have hstop := RawText.find_append look rest hspells List.nil_suffix hstarts.startFits
      fun t ht _ => find_chain_none (List.cons_ne_nil _ _) hfind ht
    rw [tokensFrom_stop_endTag hspells hstop]
    simp [← behindText_append]
  | stop hfind hin hname _ ih =>
    obtain ⟨hsuffix, hfits, hbefore⟩ := RawText.find_eq_some.mp hfind
    have hstop := RawText.find_append look rest hspells hsuffix (hfits.append _) hbefore
    simp only [List.append_assoc, List.cons_append] at hstop ⊢
    rw [tokensFrom_stop_text hin hname hstop, ih]
    cases tokensFrom none look rest with
    | error fault => rfl
    | ok others => simp [Except.map, ← behindText_append]

/-- Raw text to the end of the source is read as its texts, whatever the look. -/
theorem tokensFrom_unclosed (h : ReadAsTexts name text passed) (look : Look) :
    tokensFrom (some (.ofChain name)) look text = .ok passed := by
  induction h with
  | @last text hfind =>
    have hsight (look : Look) : sight (some (.ofChain name)) look text = .ok (.stopped text) := by
      have hnone := (RawText.find_none hfind look).2
      unfold sight sightRaw
      simp [hnone]
    apply tokensFrom_of_none
    unfold Lexeme.next
    simp [hsight]
  | stop hfind hin hname _ ih =>
    have hstop := (RawText.find_look look _).trans hfind
    rw [tokensFrom_stop_text hin hname hstop, ih]
    rfl

end ReadAsTexts

end Raw

end ComponentSplit
