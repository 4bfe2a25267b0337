import ComponentSplit.Section.Parse
import ComponentSplit.Proofs.Markup.Tag
import ComponentSplit.Proofs.Section.Position

namespace ComponentSplit

/-- What a token can make of a reading, and the section that it can complete. -/
inductive Scan.Moves (source : Source) (scan : Scan) (position : Position) (l : Lexeme) :
    Scan → Option Section → Prop
  | inside {o : OpenSection} {name : String} {attrs : List Attribute} {raw : Option RawText}
      (opened : scan.opened = some o) (token : l.token = .startTag name attrs)
      (raw_eq : rawTextAfter scan.raw l.token = .ok raw) :
      Moves source scan position l
        ⟨some { o with depth := if name = "template" then o.depth + 1 else o.depth }, raw⟩ none
  | void {name : String} {attrs : List Attribute} {raw : Option RawText}
      (opened : scan.opened = none) (token : l.token = .startTag name attrs)
      (isVoid : voidElements.contains name = true)
      (raw_eq : rawTextAfter scan.raw l.token = .ok raw) :
      Moves source scan position l ⟨none, raw⟩
        (some (.ofTag name attrs (source.offset position) (source.offset position + l.length)
          position))
  | template {attrs : List Attribute} {raw : Option RawText}
      (opened : scan.opened = none) (token : l.token = .startTag "template" attrs)
      (raw_eq : rawTextAfter scan.raw l.token = .ok raw) :
      Moves source scan position l
        ⟨some ⟨"template", attrs, source.offset position, source.offset position + l.length,
          position, 1⟩, raw⟩ none
  | element {name : String} {attrs : List Attribute} {raw : RawText}
      (opened : scan.opened = none) (token : l.token = .startTag name attrs)
      (name_ne : name ≠ "template") (raw_eq : RawText.ofName name = .ok raw) :
      Moves source scan position l
        ⟨some ⟨name, attrs, source.offset position, source.offset position + l.length, position, 1⟩,
          some raw⟩ none
  | selfClosing {name : String} {attrs : List Attribute}
      (opened : scan.opened = none) (token : l.token = .selfClosing name attrs) :
      Moves source scan position l ⟨none, scan.raw⟩
        (some (.ofTag name attrs (source.offset position) (source.offset position + l.length)
          position))
  | otherEnd {o : OpenSection} {name : String} (opened : scan.opened = some o)
      (token : l.token = .endTag name) (tag_eq : o.tag = "template") (name_ne : name ≠ "template") :
      Moves source scan position l ⟨some o, none⟩ none
  | innerEnd {o : OpenSection} (opened : scan.opened = some o)
      (token : l.token = .endTag "template") (tag_eq : o.tag = "template") (deep : 1 < o.depth) :
      Moves source scan position l ⟨some { o with depth := o.depth - 1 }, none⟩ none
  | close {o : OpenSection} (opened : scan.opened = some o) (token : l.token = .endTag o.tag)
      (flat : o.tag = "template" → o.depth ≤ 1) :
      Moves source scan position l ⟨none, none⟩
        (some (o.close source (source.offset position)))
  | pass (not_start : ∀ name attrs, l.token ≠ .startTag name attrs)
      (not_end : ∀ name, l.token ≠ .endTag name) :
      Moves source scan position l scan none

theorem rawTextAfter_of_pass {raw : Option RawText} {token : Token}
    (not_start : ∀ name attrs, token ≠ .startTag name attrs)
    (not_end : ∀ name, token ≠ .endTag name) : rawTextAfter raw token = .ok raw := by
  cases token with
  | startTag name attrs => exact absurd rfl (not_start name attrs)
  | endTag name => exact absurd rfl (not_end name)
  | _ => rfl

theorem Scan.step_moves {source : Source} {scan next : Scan} {position : Position} {l : Lexeme}
    {found : Option Section} (h : scan.step source position l = .ok (next, found)) :
    Scan.Moves source scan position l next found := by
  unfold Scan.step at h
  simp only at h
  split at h
  · simp at h
  next raw hraw =>
    split at h
    next ht ho =>
      cases h
      exact .inside ho ht hraw
    next name attrs ht ho =>
      split at h
      next hv =>
        cases h
        exact .void ho ht hv hraw
      · split at h
        next hname =>
          cases h
          subst hname
          exact .template ho ht hraw
        next hname =>
          split at h
          next r hr =>
            cases h
            exact .element ho ht hname hr
          · simp at h
    next ht ho =>
      cases h
      rw [ht] at hraw
      cases hraw
      exact .selfClosing ho ht
    · simp at h
    next name o ht ho =>
      rw [ht] at hraw
      cases hraw
      split at h
      next htag =>
        split at h
        next hname =>
          cases h
          exact .otherEnd ho ht htag hname
        next hname =>
          rw [not_not] at hname
          subst hname
          split at h
          next hd =>
            cases h
            exact .close ho (htag ▸ ht) fun _ => hd
          next hd =>
            cases h
            exact .innerEnd ho ht htag (by omega)
      next htag =>
        split at h
        next hname =>
          cases h
          exact .close ho (hname ▸ ht) fun he => absurd he htag
        · simp at h
    next hinside hstart hself hend hclose =>
      cases h
      have hs (name : String) (attrs : List Attribute) : l.token ≠ .startTag name attrs := by
        intro ht
        cases ho : scan.opened with
        | none => exact hstart name attrs ht ho
        | some o => exact hinside name attrs o ht ho
      have he (name : String) : l.token ≠ .endTag name := by
        intro ht
        cases ho : scan.opened with
        | none => exact hend name ht ho
        | some o => exact hclose name o ht ho
      rw [rawTextAfter_of_pass hs he] at hraw
      cases hraw
      exact .pass hs he

/-- A property holds of every reading that comes to an end when it holds where one ends and every
token passes it on to what was before. -/
theorem Scan.run_induct {source : Source} {P : Scan → Remainder → List Section → Prop}
    (stop : ∀ scan left, scan.opened = none → P scan left [])
    (step : ∀ scan left look found l next completed others,
      Lexeme.next scan.raw look left.text = .ok (some (l, found)) →
      Scan.Moves source scan (left.moveTo l.here).position l next completed →
      P next ((left.moveTo l.here).moveTo l.rest) others →
      P scan left (completed.toList ++ others))
    {scan : Scan} {look : Look} {left : Remainder} {sections : List Section}
    (h : Scan.run source scan look left = .ok sections) : P scan left sections := by
  revert sections
  fun_induction Scan.run source scan look left with
  | case1 =>
    intro sections h
    simp at h
  | case2 scan look left hn =>
    intro sections h
    unfold Scan.finish at h
    split at h
    next ho =>
      cases h
      exact stop scan left ho
    · simp at h
  | case3 =>
    intro sections h
    simp at h
  | case4 =>
    intro sections h
    simp at h
  | case5 scan look left l found hn _ here next completed hs others ho =>
    rename_i ih
    intro sections h
    cases h
    exact step scan left look found l next completed others hn (Scan.step_moves hs) (ih ho)

end ComponentSplit
