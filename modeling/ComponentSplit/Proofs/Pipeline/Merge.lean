import Mathlib.Data.List.ReduceOption
import ComponentSplit.Proofs.Pipeline.Result

namespace ComponentSplit

theorem sortParts_eq_self {parts : List Part}
    (h : parts.Pairwise fun a b => a.index < b.index) : sortParts parts = parts := by
  rw [sortParts]
  apply List.mergeSort_of_pairwise
  refine h.imp ?_
  intro a b hlt
  have hle : a.index ≤ b.index := by omega
  simpa using hle

theorem tag_of_mergeTag {tag : String} {parts : List Part} {m : MergedSection}
    (h : mergeTag tag parts = some m) : m.tag = tag := by
  obtain ⟨last, -, rfl⟩ := Option.map_eq_some_iff.mp h
  rfl

theorem mergeTag_eq_none {tag : String} {parts : List Part} (h : tag ∉ parts.map (·.tag)) :
    mergeTag tag parts = none := by
  have hnone : parts.filter (·.tag == tag) = [] := by
    rw [List.filter_eq_nil_iff]
    intro part hpart heq
    exact h (List.mem_map.mpr ⟨part, hpart, by simpa using heq⟩)
  rw [mergeTag, hnone]
  rfl

theorem find?_mergeTag (tags : List String) (tag : String) (parts : List Part) :
    (tags.filterMap fun t => mergeTag t parts).find? (·.tag == tag) =
      if tag ∈ tags then mergeTag tag parts else none := by
  induction tags with
  | nil => rfl
  | cons t tags ih =>
    rw [List.filterMap_cons]
    cases hmerge : mergeTag t parts with
    | none =>
      rw [ih]
      by_cases htag : tag = t
      · subst htag
        simp [hmerge]
      · simp [htag]
    | some m =>
      have hm := tag_of_mergeTag hmerge
      rw [List.find?_cons, ih, hm]
      by_cases htag : tag = t
      · subst htag
        simp [hmerge]
      · have hne : (t == tag) = false := beq_eq_false_iff_ne.mpr (Ne.symm htag)
        simp [hne, htag]

theorem mergedFor?_mergeParts (parts : List Part) (tag : String) :
    mergedFor? (mergeParts parts) tag = mergeTag tag (sortParts parts) := by
  rw [mergedFor?, mergeParts, find?_mergeTag]
  split
  · rfl
  next htag =>
    rw [List.mem_eraseDups] at htag
    rw [mergeTag_eq_none htag]

section Options

variable {ε α β γ : Type}

/-- To leave out first what is absent, or at the end, is the same. -/
theorem mapM_filterMap (f : α → Except ε β) (g : γ → Option α) (xs : List γ) :
    (xs.filterMap g).mapM f = xs.filterMapM fun x => (g x).mapM f := by
  induction xs with
  | nil => rfl
  | cons x xs ih =>
    rw [List.filterMap_cons, List.filterMapM_cons, ← ih]
    cases hx : g x with
    | none => rfl
    | some a =>
      rw [List.mapM_cons, Option.mapM_some]
      cases f a <;> rfl

theorem filterMapM_congr {f g : α → Except ε (Option β)} {xs : List α}
    (h : ∀ x ∈ xs, f x = g x) : xs.filterMapM f = xs.filterMapM g := by
  induction xs with
  | nil => rfl
  | cons x xs ih =>
    rw [List.forall_mem_cons] at h
    rw [List.filterMapM_cons, List.filterMapM_cons, h.1, ih h.2]

theorem filterMapM_eq_ok {f : α → Except ε (Option β)} {xs : List α} {ys : List β} :
    xs.filterMapM f = .ok ys ↔
      ∃ zs, List.Forall₂ (fun x z => f x = .ok z) xs zs ∧ ys = zs.reduceOption := by
  induction xs generalizing ys with
  | nil =>
    constructor
    · intro h
      cases h
      exact ⟨[], .nil, rfl⟩
    · rintro ⟨zs, hzs, rfl⟩
      cases hzs
      rfl
  | cons x xs ih =>
    rw [List.filterMapM_cons, bind_eq_ok]
    constructor
    · rintro ⟨z, hz, hrest⟩
      cases z with
      | none =>
        obtain ⟨zs, hzs, rfl⟩ := ih.mp hrest
        exact ⟨none :: zs, .cons hz hzs, rfl⟩
      | some y =>
        obtain ⟨ys', hys, hpure⟩ := bind_eq_ok.mp hrest
        cases hpure
        obtain ⟨zs, hzs, rfl⟩ := ih.mp hys
        exact ⟨some y :: zs, .cons hz hzs, rfl⟩
    · rintro ⟨zs, hzs, rfl⟩
      obtain ⟨z, zs, hz, hrest, rfl⟩ := List.forall₂_cons_left_iff.mp hzs
      refine ⟨z, hz, ?_⟩
      have htail := ih.mpr ⟨zs, hrest, rfl⟩
      cases z with
      | none => exact htail
      | some y => exact bind_eq_ok.mpr ⟨zs.reduceOption, htail, rfl⟩

end Options

end ComponentSplit
