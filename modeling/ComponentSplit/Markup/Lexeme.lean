import ComponentSplit.Markup.Ampersand
import ComponentSplit.Markup.Declaration
import ComponentSplit.Markup.EndTag

/-!
Tokens in their places. A source is looked at twice, from left to right. The first look stops at
markup that may still go on and at raw text whose end is not in sight. The second look starts
there, as if the source did, and passes over such markup up to the next place where a tag can end
or start.
-/

namespace ComponentSplit

/-- A token with the source from it on and the source after it. -/
structure Lexeme where
  token : Token
  here : List Char
  rest : List Char
deriving DecidableEq, Repr

/-- What a look comes to: a token, or the source from where it stopped. -/
inductive Sight
  | token (l : Lexeme)
  | stopped (source : List Char)
deriving DecidableEq, Repr

/-- The markup behind a less-than sign, and the source after it; nothing while it can still go
on. -/
def readMarkup (raw : Option RawText) (tail : List Char) :
    Except MarkupFault (Option (Token × List Char)) :=
  match tail with
  | [] => .ok (some (.text ['<'], []))
  | c :: rest =>
    if c.isAlpha then readStartTag tail
    else if c = '/' then .ok (readEndTag raw rest)
    else if c = '!' then readDeclaration rest
    else if c = '?' then
      .ok ((cutAt '>' rest).map fun (content, after) => (.instruction content, after))
    else .ok (some (.text ['<'], tail))

/-- Where reading goes on behind a less-than sign whose markup never comes to an end. -/
def recover (tail : List Char) : List Char :=
  match cutAt '>' tail with
  | some (_, rest) => rest
  | none =>
    match tail.dropWhile (· != '<') with
    | [] => tail
    | found => found

/-- A text outside raw text, in which every reference has to be one that can be read. -/
def checkText (text : List Char) : Except MarkupFault Unit :=
  match longReference? text with
  | some count => .error (.longReference count)
  | none => .ok ()

/-- What a look makes of a less-than sign; `tail` is what follows it. -/
def sightMarkup (raw : Option RawText) (look : Look) (tail : List Char) :
    Except MarkupFault Sight :=
  match readMarkup raw tail with
  | .error fault => .error fault
  | .ok (some (token, rest)) => .ok (.token ⟨token, '<' :: tail, rest⟩)
  | .ok none =>
    if look.second then
      let rest := recover tail
      let passed := '<' :: tail.take (tail.length - rest.length)
      match if raw.isSome then .ok () else checkText passed with
      | .error fault => .error fault
      | .ok () => .ok (.token ⟨.text passed, '<' :: tail, rest⟩)
    else .ok (.stopped ('<' :: tail))

/-- What a look comes to outside raw text. -/
def sightPlain (look : Look) (source : List Char) : Except MarkupFault Sight :=
  match checkText (source.takeWhile (· != '<')) with
  | .error fault => .error fault
  | .ok () =>
    match source.dropWhile (· != '<') with
    | [] => .ok (.stopped [])
    | _ :: tail => sightMarkup none look tail

/-- What a look comes to inside raw text, at most `fuel` characters of which are passed over. -/
def sightRaw (raw : RawText) (look : Look) (fuel : Nat) (source : List Char) :
    Except MarkupFault Sight :=
  match raw.find look source with
  | none => .ok (.stopped source)
  | some [] => .ok (.stopped [])
  | some ('<' :: tail) => sightMarkup (some raw) look tail
  | some ('&' :: tail) =>
    match afterAmpersand tail with
    | .stop rest => .ok (.stopped rest)
    | .goOn rest =>
      match fuel with
      | 0 => .ok (.stopped rest)
      | fuel + 1 => sightRaw raw look fuel rest
  | some _ => .error .strayCloser

def sight (raw : Option RawText) (look : Look) (source : List Char) : Except MarkupFault Sight :=
  match raw with
  | none => sightPlain look source
  | some open' => sightRaw open' look source.length source

/-- The first token of a source that is not text, if there is one, and the look that found it. -/
def Lexeme.next (raw : Option RawText) (look : Look) (source : List Char) :
    Except MarkupFault (Option (Lexeme × Look)) :=
  match sight raw look source with
  | .error fault => .error fault
  | .ok (.token l) => .ok (some (l, look))
  | .ok (.stopped rest) =>
    if look.second then .ok none
    else
      let look := ⟨rest, true⟩
      match sight raw look rest with
      | .error fault => .error fault
      | .ok (.token l) => .ok (some (l, look))
      | .ok (.stopped _) => .ok none

theorem readMarkup_suffix {raw : Option RawText} {tail rest : List Char} {token : Token}
    (h : readMarkup raw tail = .ok (some (token, rest))) : rest <:+ tail := by
  unfold readMarkup at h
  split at h
  · cases h
    exact List.suffix_refl _
  next c after =>
    split at h
    · exact readStartTag_suffix h
    · split at h
      · exact (readEndTag_suffix (Except.ok.inj h)).trans (List.suffix_cons _ _)
      · split at h
        · exact (readDeclaration_suffix h).trans (List.suffix_cons _ _)
        · split at h
          · obtain ⟨⟨content, r⟩, hcut, heq⟩ := Option.map_eq_some_iff.mp (Except.ok.inj h)
            cases heq
            exact (cutAt_suffix hcut).trans (List.suffix_cons _ _)
          · cases h
            exact List.suffix_refl _

theorem recover_suffix (tail : List Char) : recover tail <:+ tail := by
  unfold recover
  split
  next hc => exact cutAt_suffix hc
  next =>
    split
    · exact List.suffix_refl _
    next hd => exact List.dropWhile_suffix _

/-- A token lies within a source when it starts there with a less-than sign, ends behind it, and is
text unless the markup behind the sign reads as that token. -/
def Lexeme.Within (l : Lexeme) (raw : Option RawText) (source : List Char) : Prop :=
  l.here <:+ source ∧ ∃ tail, l.here = '<' :: tail ∧ l.rest <:+ tail ∧
    (readMarkup raw tail = .ok (some (l.token, l.rest)) ∨ ∃ content, l.token = .text content)

theorem Lexeme.Within.mono {l : Lexeme} {raw : Option RawText} {source larger : List Char}
    (h : l.Within raw source) (hs : source <:+ larger) : l.Within raw larger :=
  ⟨h.1.trans hs, h.2⟩

/-- What a look comes to stays within the source. -/
def Sight.Within (s : Sight) (raw : Option RawText) (source : List Char) : Prop :=
  match s with
  | .token l => l.Within raw source
  | .stopped rest => rest <:+ source

theorem Sight.Within.mono {s : Sight} {raw : Option RawText} {source larger : List Char}
    (h : s.Within raw source) (hs : source <:+ larger) : s.Within raw larger := by
  cases s with
  | token l => exact Lexeme.Within.mono h hs
  | stopped rest => exact List.IsSuffix.trans h hs

theorem sightMarkup_within {raw : Option RawText} {look : Look} {tail : List Char} {s : Sight}
    (h : sightMarkup raw look tail = .ok s) : s.Within raw ('<' :: tail) := by
  unfold sightMarkup at h
  split at h
  · simp at h
  next hr =>
    cases h
    exact ⟨List.suffix_refl _, tail, rfl, readMarkup_suffix hr, .inl hr⟩
  next =>
    split at h
    · simp only at h
      split at h
      · simp at h
      · cases h
        exact ⟨List.suffix_refl _, tail, rfl, recover_suffix tail, .inr ⟨_, rfl⟩⟩
    · cases h
      exact List.suffix_refl _

theorem sightPlain_within {look : Look} {source : List Char} {s : Sight}
    (h : sightPlain look source = .ok s) : s.Within none source := by
  unfold sightPlain at h
  split at h
  · simp at h
  · split at h
    · cases h
      exact List.nil_suffix
    next c tail hd =>
      have hc : c = '<' := by
        have hn := List.head?_dropWhile_not (· != '<') source
        rw [hd] at hn
        simpa using hn
      have hs : '<' :: tail <:+ source := hc ▸ hd ▸ List.dropWhile_suffix _
      exact (sightMarkup_within h).mono hs

theorem sightRaw_within {raw : RawText} {look : Look} {fuel : Nat} {source : List Char} {s : Sight}
    (h : sightRaw raw look fuel source = .ok s) : s.Within (some raw) source := by
  induction fuel generalizing source with
  | zero =>
    unfold sightRaw at h
    split at h
    · cases h
      exact List.suffix_refl _
    · cases h
      exact List.nil_suffix
    next hf => exact (sightMarkup_within h).mono (RawText.find_suffix hf)
    next hf =>
      have hs := RawText.find_suffix hf
      split at h
      next ha =>
        cases h
        exact (afterAmpersand_stop_suffix ha).trans hs
      next ha =>
        cases h
        exact ((afterAmpersand_goOn_suffix ha).trans (List.suffix_cons _ _)).trans hs
    · simp at h
  | succ fuel ih =>
    unfold sightRaw at h
    split at h
    · cases h
      exact List.suffix_refl _
    · cases h
      exact List.nil_suffix
    next hf => exact (sightMarkup_within h).mono (RawText.find_suffix hf)
    next hf =>
      have hs := RawText.find_suffix hf
      split at h
      next ha =>
        cases h
        exact (afterAmpersand_stop_suffix ha).trans hs
      next ha =>
        exact (ih h).mono (((afterAmpersand_goOn_suffix ha).trans (List.suffix_cons _ _)).trans hs)
    · simp at h

theorem sight_within {raw : Option RawText} {look : Look} {source : List Char} {s : Sight}
    (h : sight raw look source = .ok s) : s.Within raw source := by
  unfold sight at h
  split at h
  · exact sightPlain_within h
  · exact sightRaw_within h

theorem Lexeme.next_within {raw : Option RawText} {look found : Look} {source : List Char}
    {l : Lexeme} (h : Lexeme.next raw look source = .ok (some (l, found))) :
    l.Within raw source := by
  unfold Lexeme.next at h
  split at h
  · simp at h
  next hs =>
    cases h
    exact sight_within hs
  next rest hs =>
    have hrest : rest <:+ source := sight_within hs
    split at h
    · simp at h
    · simp only at h
      split at h
      · simp at h
      next hl =>
        cases h
        exact Lexeme.Within.mono (sight_within hl) hrest
      · simp at h

theorem Lexeme.next_length {raw : Option RawText} {look found : Look} {source : List Char}
    {l : Lexeme} (h : Lexeme.next raw look source = .ok (some (l, found))) :
    l.rest.length < source.length := by
  obtain ⟨hs, tail, ht, hr, -⟩ := Lexeme.next_within h
  have h1 := hs.length_le
  have h2 := hr.length_le
  rw [ht, List.length_cons] at h1
  omega

/-- The raw text that is open after a token: scripts and styles hold raw text. -/
def rawTextAfter (raw : Option RawText) (token : Token) : Except MarkupFault (Option RawText) :=
  match token with
  | .startTag name _ =>
    if name = "script" ∨ name = "style" then
      match RawText.ofName name with
      | .ok opened => .ok (some opened)
      | .error fault => .error fault
    else .ok raw
  | .endTag _ => .ok none
  | _ => .ok raw

/-- All tokens of the remaining source of a look, text included. -/
def tokensFrom (raw : Option RawText) (look : Look) (source : List Char) :
    Except MarkupFault (List Token) :=
  match h : Lexeme.next raw look source with
  | .error fault => .error fault
  | .ok none => .ok (if source.isEmpty then [] else [.text source])
  | .ok (some (l, look)) =>
    have := Lexeme.next_length h
    match rawTextAfter raw l.token with
    | .error fault => .error fault
    | .ok raw =>
      match tokensFrom raw look l.rest with
      | .error fault => .error fault
      | .ok others =>
        let before := source.take (source.length - l.here.length)
        .ok (if before.isEmpty then l.token :: others else .text before :: l.token :: others)
termination_by source.length

def tokens (source : List Char) : Except MarkupFault (List Token) :=
  tokensFrom none ⟨source, false⟩ source

end ComponentSplit
