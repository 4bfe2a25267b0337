import ComponentSplit.Proofs.Markup.RawText

namespace ComponentSplit

section StartTag

/-- The attributes of the tag whose name starts a text, and what stands behind them. -/
def tagParts (text : List Char) : List WrittenAttribute × List Char :=
  tagAttributes (text.takeWhile isTagNameChar) (text.dropWhile isTagNameChar)

/-- The text behind the attributes of a tag ends the tag, or shows that it was none. -/
def StopsTag : List Char → Prop
  | [] => False
  | c :: rest =>
    c = '>' ∨ c = '/' ∧ rest.head? = some '>' ∨ c ≠ '/' ∧ c ≠ '=' ∧ c.isAlpha = false

theorem readStartTag_eq_error {text : List Char} {fault : MarkupFault} :
    readStartTag text = .error fault ↔ StopsTag (tagParts text).2 ∧
      ∃ count, (tagParts text).1.findSome? (fun a => a.value.bind longReference?) = some count ∧
        fault = .longReference count := by
  cases hparts : tagParts text with
  | mk written close =>
    have htag : tagAttributes (text.takeWhile isTagNameChar) (text.dropWhile isTagNameChar) =
        (written, close) := hparts
    unfold readStartTag
    simp only [htag]
    cases written.findSome? fun a => a.value.bind longReference? with
    | none => simp
    | some count =>
      split
      next token count' hsome hcount =>
        cases hcount
        have hstops : StopsTag close := by
          split at hsome
          · cases hsome
          · exact .inl rfl
          · exact .inr (.inl ⟨rfl, rfl⟩)
          next c tail _ _ =>
            split at hsome
            · cases hsome
            next hstop =>
              simp only [Bool.or_eq_true, beq_iff_eq, not_or, Bool.not_eq_true] at hstop
              exact .inr (.inr ⟨hstop.2, hstop.1.2, hstop.1.1⟩)
        simp [hstops, eq_comm]
      next hnone =>
        have hstops : ¬ StopsTag close := by
          intro hstops
          split at hnone
          · exact hstops
          · exact hnone _ _ rfl rfl
          · exact hnone _ _ rfl rfl
          next c tail hend hclose =>
            split at hnone
            next hopen =>
              simp only [Bool.or_eq_true, beq_iff_eq] at hopen
              rcases hstops with rfl | ⟨rfl, hhead⟩ | ⟨hslash, hequal, halpha⟩
              · exact hend rfl
              · obtain ⟨rest, rfl⟩ := List.head?_eq_some_iff.mp hhead
                exact hclose rest rfl rfl
              · simp_all
            · exact hnone _ _ rfl rfl
        simp [hstops]

end StartTag

/-- The names of sections in brackets. -/
def sectionNames : List String :=
  ["temp", "cdata", "ignore", "include", "rcdata", "if", "else", "endif"]

/-- Markup behind a less-than sign of which nothing can be made. -/
inductive BadMarkup : List Char → MarkupFault → Prop
  /-- A value in a tag holds a number of too many digits. -/
  | value {tail : List Char} {count : Nat} (starts : tail.head?.any Char.isAlpha = true)
      (stops : StopsTag (tagParts tail).2)
      (long : (tagParts tail).1.findSome? (fun a => a.value.bind longReference?) = some count) :
      BadMarkup tail (.longReference count)
  /-- Nothing that can be a name follows a bracket. -/
  | nameless {c : Char} {rest : List Char} (no_name : c.isAlpha = false) :
      BadMarkup ('!' :: '[' :: c :: rest)
        (.namelessSection (("<![".toList ++ c :: rest).take 20))
  /-- The name behind a bracket is not known. It has to end before the text does. -/
  | unknown {c : Char} {rest : List Char} (starts : c.isAlpha = true)
      (ends : trimStart (rest.dropWhile isSectionNameChar) ≠ [])
      (unknown : String.ofList ((c :: rest.takeWhile isSectionNameChar).map asciiLower) ∉
        sectionNames) :
      BadMarkup ('!' :: '[' :: c :: rest)
        (.unknownSection (c :: rest.takeWhile isSectionNameChar ++
          (rest.dropWhile isSectionNameChar).takeWhile isBlank))

theorem BadMarkup.starts {tail : List Char} {fault : MarkupFault} (h : BadMarkup tail fault) :
    tail.head?.any Char.isAlpha = true ∨ ∃ rest, tail = '!' :: '[' :: rest := by
  cases h with
  | value starts => exact .inl starts
  | nameless | unknown => exact .inr ⟨_, rfl⟩

theorem readBracketed_eq_error {text : List Char} {fault : MarkupFault} :
    readBracketed text = .error fault ↔ BadMarkup ('!' :: '[' :: text) fault := by
  constructor
  · intro h
    unfold readBracketed at h
    simp only at h
    split at h
    · cases h
    next c rest =>
      split at h
      next halpha =>
        split at h
        · cases h
        next hends =>
          split at h
          · cases h
          next hdouble =>
            split at h
            · cases h
            next hsingle =>
              cases h
              refine .unknown halpha (by simpa using hends) ?_
              simp_all [sectionNames]
      next hother =>
        cases h
        exact .nameless (Bool.not_eq_true _ ▸ hother)
  · intro h
    generalize htail : '!' :: '[' :: text = tail at h
    cases h with
    | value starts stops long =>
      subst htail
      cases starts
    | nameless no_name =>
      cases htail
      simp [readBracketed, no_name]
    | unknown starts ends unknown =>
      cases htail
      simp_all [readBracketed, sectionNames]

theorem readDeclaration_eq_error {text : List Char} {fault : MarkupFault} :
    readDeclaration text = .error fault ↔ BadMarkup ('!' :: text) fault := by
  constructor
  · intro h
    unfold readDeclaration at h
    split at h
    · cases h
    · exact readBracketed_eq_error.mp h
    · split at h <;> cases h
  · intro h
    rcases h.starts with hletter | ⟨rest, htext⟩
    · cases hletter
    · cases htext
      exact readBracketed_eq_error.mpr h

theorem readMarkup_eq_error {raw : Option RawText} {tail : List Char} {fault : MarkupFault} :
    readMarkup raw tail = .error fault ↔ BadMarkup tail fault := by
  cases tail with
  | nil =>
    constructor
    · intro h
      cases h
    · intro h
      rcases h.starts with hletter | ⟨rest, htail⟩
      · cases hletter
      · cases htail
  | cons c rest =>
    rw [readMarkup]
    by_cases hletter : c.isAlpha = true
    · rw [if_pos hletter, readStartTag_eq_error]
      constructor
      · rintro ⟨hstops, count, hlong, rfl⟩
        exact .value hletter hstops hlong
      · intro h
        generalize htail : c :: rest = tail at h
        cases h with
        | value starts stops long => exact ⟨stops, _, long, rfl⟩
        | nameless | unknown =>
          cases htail
          cases hletter
    · rw [if_neg hletter]
      by_cases hmark : c = '!'
      · subst hmark
        exact readDeclaration_eq_error
      · rw [if_neg hmark]
        constructor
        · intro h
          split at h
          · cases h
          · split at h <;> cases h
        · intro h
          rcases h.starts with hstart | ⟨rest, htail⟩
          · exact absurd hstart hletter
          · cases htail
            exact absurd rfl hmark

/-- The text that is passed over when the markup behind a less-than sign never comes to an end. -/
def passedOver (tail : List Char) : List Char :=
  '<' :: tail.take (tail.length - (recover tail).length)

theorem checkText_eq_error {text : List Char} {fault : MarkupFault} :
    checkText text = .error fault ↔
      ∃ count, longReference? text = some count ∧ fault = .longReference count := by
  rw [checkText]
  cases longReference? text <;> simp [eq_comm]

theorem sightMarkup_eq_error {raw : Option RawText} {look : Look} {tail : List Char}
    {fault : MarkupFault} : sightMarkup raw look tail = .error fault ↔
      BadMarkup tail fault ∨
        raw = none ∧ look.second = true ∧ readMarkup raw tail = .ok none ∧
          ∃ count, longReference? (passedOver tail) = some count ∧ fault = .longReference count := by
  rw [← @readMarkup_eq_error raw, ← checkText_eq_error, sightMarkup]
  cases hread : readMarkup raw tail with
  | error found => simp
  | ok result =>
    cases result with
    | some read => simp
    | none =>
      cases hsecond : look.second with
      | false => simp
      | true =>
        cases raw with
        | some open' => simp
        | none =>
          cases hcheck : checkText (passedOver tail) with
          | error found =>
            have hpassed : checkText ('<' :: tail.take (tail.length - (recover tail).length)) =
                .error found := hcheck
            simp [hpassed]
          | ok =>
            have hpassed : checkText ('<' :: tail.take (tail.length - (recover tail).length)) =
                .ok () := hcheck
            simp [hpassed]

/-- Where a look for the end of raw text comes to: the first place that its pattern finds, behind
references at places that it finds before. -/
inductive RawText.Finds (raw : RawText) (look : Look) : List Char → List Char → Prop
  | here {source found : List Char} (match_eq : raw.find look source = some found)
      (no_reference : found.head? ≠ some '&') : Finds raw look source found
  | behind {source tail rest found : List Char} (match_eq : raw.find look source = some ('&' :: tail))
      (reference : afterAmpersand tail = .goOn rest) (onward : Finds raw look rest found) :
      Finds raw look source found

theorem RawText.Finds.suffix {raw : RawText} {look : Look} {source found : List Char}
    (h : raw.Finds look source found) : found <:+ source := by
  induction h with
  | here match_eq => exact find_suffix match_eq
  | behind match_eq reference _ ih =>
    have hrest := (afterAmpersand_goOn_suffix reference).trans (List.suffix_cons '&' _)
    exact (ih.trans hrest).trans (find_suffix match_eq)

section Finds

variable {raw : RawText} {look : Look} {source found tail : List Char}

theorem RawText.not_finds (h : raw.find look source = none) : ¬ raw.Finds look source found := by
  rintro (⟨hfound, -⟩ | ⟨hfound, -, -⟩) <;> simp [h] at hfound

theorem RawText.finds_iff_eq {first : List Char} (h : raw.find look source = some first)
    (hfirst : first.head? ≠ some '&') : raw.Finds look source found ↔ found = first := by
  constructor
  · rintro (⟨hfound, -⟩ | ⟨hfound, -, -⟩)
    · exact Option.some.inj (hfound.symm.trans h)
    · cases h.symm.trans hfound
      exact absurd rfl hfirst
  · rintro rfl
    exact .here h hfirst

theorem RawText.finds_iff_behind (h : raw.find look source = some ('&' :: tail)) :
    raw.Finds look source found ↔
      ∃ rest, afterAmpersand tail = .goOn rest ∧ raw.Finds look rest found := by
  constructor
  · rintro (⟨hfound, hno⟩ | ⟨hfound, hreference, honward⟩)
    · cases h.symm.trans hfound
      exact absurd rfl hno
    · cases h.symm.trans hfound
      exact ⟨_, hreference, honward⟩
  · rintro ⟨rest, hreference, honward⟩
    exact .behind h hreference honward

end Finds

/-- Enough characters may be passed over for the look to come to its end. -/
theorem sightRaw_eq_error {raw : RawText} {look : Look} {fuel : Nat} {source : List Char}
    {fault : MarkupFault} (hfuel : source.length ≤ fuel) :
    sightRaw raw look fuel source = .error fault ↔
      ∃ c rest, raw.Finds look source (c :: rest) ∧
        (c = '<' ∧ sightMarkup (some raw) look rest = .error fault ∨
          c ≠ '<' ∧ fault = .strayCloser) := by
  induction fuel generalizing source with
  | zero =>
    obtain rfl : source = [] := List.length_eq_zero_iff.mp (Nat.le_zero.mp hfuel)
    have hsight : sightRaw raw look 0 [] = .ok (.stopped []) := by
      rw [sightRaw]
      cases h : raw.find look [] with
      | none => rfl
      | some found =>
        obtain rfl := List.suffix_nil.mp (RawText.find_suffix h)
        rfl
    rw [hsight]
    constructor
    · intro h
      cases h
    · rintro ⟨c, rest, hfinds, -⟩
      exact absurd hfinds.suffix (by simp)
  | succ fuel ih =>
    rw [sightRaw]
    split
    next h => simp [RawText.not_finds h]
    next h =>
      constructor
      · intro hok
        cases hok
      · rintro ⟨c, rest, hfinds, -⟩
        cases (RawText.finds_iff_eq h (by simp)).mp hfinds
    next tail h =>
      have hfinds (found : List Char) : raw.Finds look source found ↔ found = '<' :: tail :=
        RawText.finds_iff_eq h (by simp)
      simp only [hfinds]
      constructor
      · exact fun hmarkup => ⟨'<', tail, rfl, .inl ⟨rfl, hmarkup⟩⟩
      · rintro ⟨c, rest, heq, ⟨rfl, hmarkup⟩ | ⟨hother, -⟩⟩
        · cases heq
          exact hmarkup
        · cases heq
          exact absurd rfl hother
    next tail h =>
      simp only [RawText.finds_iff_behind h]
      cases hreference : afterAmpersand tail with
      | stop rest => simp
      | goOn rest =>
        have hrest := (afterAmpersand_goOn_suffix hreference).length_le
        have hsource := (RawText.find_suffix h).length_le
        rw [List.length_cons] at hsource
        simp [ih (by omega : rest.length ≤ fuel)]
    next found hnil hsign hampersand h =>
      cases found with
      | nil => exact absurd rfl hnil
      | cons c rest =>
        have hother : c ≠ '<' := by
          rintro rfl
          exact hsign rest rfl
        have hfirst : (c :: rest).head? ≠ some '&' := by
          intro hhead
          cases hhead
          exact hampersand rest rfl
        have hfinds (found : List Char) : raw.Finds look source found ↔ found = c :: rest :=
          RawText.finds_iff_eq h hfirst
        simp only [hfinds]
        constructor
        · rintro ⟨⟩
          exact ⟨c, rest, rfl, .inr ⟨hother, rfl⟩⟩
        · rintro ⟨c', rest', heq, ⟨rfl, -⟩ | ⟨-, rfl⟩⟩
          · cases heq
            exact absurd rfl hother
          · rfl

/-- A look comes to markup: behind a text that can be read, or where it finds the end of raw text. The
tail is what follows the less-than sign. -/
inductive MarkupAt (look : Look) (text tail : List Char) : Option RawText → Prop
  | plain (readable : longReference? (text.takeWhile (· != '<')) = none)
      (sign : text.dropWhile (· != '<') = '<' :: tail) : MarkupAt look text tail none
  | raw {open' : RawText} (finds : open'.Finds look text ('<' :: tail)) :
      MarkupAt look text tail (some open')

/-- A look at a text breaks off. -/
inductive BreaksOff (raw : Option RawText) (look : Look) (text : List Char) : MarkupFault → Prop
  /-- The text in front of markup holds a number of too many digits. -/
  | text {count : Nat} (plain : raw = none)
      (long : longReference? (text.takeWhile (· != '<')) = some count) :
      BreaksOff raw look text (.longReference count)
  | markup {tail : List Char} {fault : MarkupFault} (place : MarkupAt look text tail raw)
      (bad : BadMarkup tail fault) : BreaksOff raw look text fault
  /-- Markup that never comes to an end becomes text, and that holds such a number. -/
  | passed {tail : List Char} {count : Nat} (plain : raw = none) (second : look.second = true)
      (place : MarkupAt look text tail raw) (unfinished : readMarkup raw tail = .ok none)
      (long : longReference? (passedOver tail) = some count) :
      BreaksOff raw look text (.longReference count)
  /-- The end of raw text is found where no tag starts. -/
  | stray {open' : RawText} {c : Char} {rest : List Char} (raw_eq : raw = some open')
      (finds : open'.Finds look text (c :: rest)) (no_sign : c ≠ '<') :
      BreaksOff raw look text .strayCloser

theorem BreaksOff.of_sightMarkup {raw : Option RawText} {look : Look} {text tail : List Char}
    {fault : MarkupFault} (place : MarkupAt look text tail raw)
    (h : sightMarkup raw look tail = .error fault) : BreaksOff raw look text fault := by
  rcases sightMarkup_eq_error.mp h with hbad | ⟨hplain, hsecond, hread, count, hlong, rfl⟩
  · exact .markup place hbad
  · exact .passed hplain hsecond place hread hlong

theorem sightPlain_of_markupAt {look : Look} {text tail : List Char}
    (h : MarkupAt look text tail none) : sightPlain look text = sightMarkup none look tail := by
  cases h with
  | plain readable sign => simp [sightPlain, checkText, readable, sign]

theorem sightPlain_eq_error {look : Look} {text : List Char} {fault : MarkupFault} :
    sightPlain look text = .error fault ↔ BreaksOff none look text fault := by
  constructor
  · intro h
    rw [sightPlain] at h
    cases hlong : longReference? (text.takeWhile (· != '<')) with
    | some count =>
      simp only [checkText, hlong] at h
      cases h
      exact .text rfl hlong
    | none =>
      simp only [checkText, hlong] at h
      split at h
      · cases h
      next c tail hsign =>
        have hc : c = '<' := by
          have hstop := List.head?_dropWhile_not (· != '<') text
          rw [hsign] at hstop
          simpa using hstop
        exact .of_sightMarkup (.plain hlong (hc ▸ hsign)) h
  · intro h
    cases h with
    | text plain long => simp [sightPlain, checkText, long]
    | markup place bad =>
      rw [sightPlain_of_markupAt place]
      exact sightMarkup_eq_error.mpr (.inl bad)
    | passed plain second place unfinished long =>
      rw [sightPlain_of_markupAt place]
      exact sightMarkup_eq_error.mpr (.inr ⟨rfl, second, unfinished, _, long, rfl⟩)
    | stray raw_eq => cases raw_eq

/-- A look fails exactly where it breaks off. -/
theorem sight_eq_error {raw : Option RawText} {look : Look} {text : List Char}
    {fault : MarkupFault} : sight raw look text = .error fault ↔ BreaksOff raw look text fault := by
  cases raw with
  | none => exact sightPlain_eq_error
  | some open' =>
    rw [sight, sightRaw_eq_error (Nat.le_refl _)]
    constructor
    · rintro ⟨c, rest, hfinds, ⟨rfl, hmarkup⟩ | ⟨hother, rfl⟩⟩
      · exact .of_sightMarkup (.raw hfinds) hmarkup
      · exact .stray rfl hfinds hother
    · intro h
      cases h with
      | text plain => cases plain
      | passed plain => cases plain
      | markup place bad =>
        cases place with
        | raw finds => exact ⟨'<', _, finds, .inl ⟨rfl, sightMarkup_eq_error.mpr (.inl bad)⟩⟩
      | stray raw_eq finds no_sign =>
        cases raw_eq
        exact ⟨_, _, finds, .inr ⟨no_sign, rfl⟩⟩

end ComponentSplit
