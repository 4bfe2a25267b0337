import Mathlib.Data.List.Nodup
import ComponentSplit.Proofs.Pipeline.Merge

namespace ComponentSplit

/-- Parts in the order of their places. Those of one place stand as they stood. -/
structure IsOrdered (parts ordered : List Part) : Prop where
  perm : ordered.Perm parts
  sorted : ordered.Pairwise fun a b => a.index ≤ b.index
  stable : ∀ index, ordered.filter (·.index == index) = parts.filter (·.index == index)

section Order

/-- A part of a place stands among parts in order, so that the first of them does not come later. -/
theorem head_index_le {first part : Part} {parts : List Part}
    (hsorted : (first :: parts).Pairwise fun a b => a.index ≤ b.index)
    (hpart : part ∈ (first :: parts).filter (·.index == part.index)) :
    first.index ≤ part.index := by
  rcases List.mem_cons.mp (List.mem_filter.mp hpart).1 with rfl | hmem
  · exact Int.le_refl _
  · exact (List.pairwise_cons.mp hsorted).1 part hmem

/-- Parts in order are told by the parts of each place. -/
theorem eq_of_filter_index {xs ys : List Part} (hx : xs.Pairwise fun a b => a.index ≤ b.index)
    (hy : ys.Pairwise fun a b => a.index ≤ b.index)
    (h : ∀ index, xs.filter (·.index == index) = ys.filter (·.index == index)) : xs = ys := by
  induction xs generalizing ys with
  | nil =>
    cases ys with
    | nil => rfl
    | cons y ys =>
      have hnone := h y.index
      simp at hnone
  | cons x xs ih =>
    cases ys with
    | nil =>
      have hnone := h x.index
      simp at hnone
    | cons y ys =>
      have hyx : y.index ≤ x.index := head_index_le hy (h x.index ▸ by simp)
      have hxy : x.index ≤ y.index := head_index_le hx (h y.index ▸ by simp)
      have hindex : x.index = y.index := Int.le_antisymm hxy hyx
      have hfirst := h x.index
      rw [List.filter_cons_of_pos (by simp), List.filter_cons_of_pos (by simp [hindex])] at hfirst
      obtain ⟨rfl, -⟩ := List.cons.inj hfirst
      rw [ih (List.pairwise_cons.mp hx).2 (List.pairwise_cons.mp hy).2]
      intro index
      have hall := h index
      rw [List.filter_cons, List.filter_cons] at hall
      split at hall
      · exact (List.cons.inj hall).2
      · exact hall

theorem IsOrdered.eq {parts xs ys : List Part} (hx : IsOrdered parts xs) (hy : IsOrdered parts ys) :
    xs = ys :=
  eq_of_filter_index hx.sorted hy.sorted fun index => (hx.stable index).trans (hy.stable index).symm

theorem sortParts_isOrdered (parts : List Part) : IsOrdered parts (sortParts parts) := by
  have htrans : ∀ a b c : Part, decide (a.index ≤ b.index) = true →
      decide (b.index ≤ c.index) = true → decide (a.index ≤ c.index) = true := by
    simp only [decide_eq_true_eq]
    exact fun a b c => Int.le_trans
  have htotal : ∀ a b : Part,
      (decide (a.index ≤ b.index) || decide (b.index ≤ a.index)) = true := by
    simp only [Bool.or_eq_true, decide_eq_true_eq]
    exact fun a b => Int.le_total a.index b.index
  have hperm : (sortParts parts).Perm parts := List.mergeSort_perm _ _
  refine ⟨hperm, ?_, fun index => ?_⟩
  · refine (List.pairwise_mergeSort htrans htotal parts).imp fun {a b} h => ?_
    simpa using h
  · -- the parts of one place are in order as they stand, so that sorting keeps them
    have hkept : (parts.filter (·.index == index)).Sublist (sortParts parts) := by
      refine List.sublist_mergeSort htrans htotal (List.pairwise_of_forall_mem_list ?_)
        List.filter_sublist
      intro a ha b hb
      have hla := (List.mem_filter.mp ha).2
      have hlb := (List.mem_filter.mp hb).2
      rw [beq_iff_eq] at hla hlb
      simp [hla, hlb]
    have hfiltered := hkept.filter (·.index == index)
    rw [List.filter_filter] at hfiltered
    simp only [Bool.and_self] at hfiltered
    exact (hfiltered.eq_of_length (hperm.filter _).length_eq.symm).symm

theorem isOrdered_iff {parts ordered : List Part} :
    IsOrdered parts ordered ↔ ordered = sortParts parts := by
  constructor
  · exact fun h => h.eq (sortParts_isOrdered parts)
  · rintro rfl
    exact sortParts_isOrdered parts

/-- Parts of different places come to one order, however they stand. -/
theorem sortParts_of_perm {parts other : List Part} (hindex : (parts.map (·.index)).Nodup)
    (h : other.Perm parts) : sortParts other = sortParts parts := by
  have hown := sortParts_isOrdered parts
  have hother := sortParts_isOrdered other
  have hperm : (sortParts other).Perm (sortParts parts) :=
    hother.perm.trans (h.trans hown.perm.symm)
  refine hperm.eq_of_pairwise ?_ hother.sorted hown.sorted
  intro a b ha hb hab hba
  have hma : a ∈ parts := h.subset (hother.perm.subset ha)
  have hmb : b ∈ parts := hown.perm.subset hb
  exact List.inj_on_of_nodup_map hindex hma hmb (Int.le_antisymm hab hba)

end Order

section Tags

/-- A tag occurs in a beginning of the tags in which the other one does not. -/
def OccursBefore (tags : List String) (tag other : String) : Prop :=
  ∃ front back, tags = front ++ back ∧ tag ∈ front ∧ other ∉ front

theorem eraseDups_occursBefore : ∀ tags : List String,
    tags.eraseDups.Pairwise (OccursBefore tags)
  | [] => List.Pairwise.nil
  | first :: tags => by
    have hlength := List.length_filter_le (fun tag => !tag == first) tags
    have hrest := eraseDups_occursBefore (tags.filter fun tag => !tag == first)
    rw [List.eraseDups_cons, List.pairwise_cons]
    have hne {tag : String} (htag : tag ∈ (tags.filter fun tag => !tag == first).eraseDups) :
        tag ≠ first := by
      simpa using (List.mem_filter.mp (List.mem_eraseDups.mp htag)).2
    refine ⟨fun tag htag => ⟨[first], tags, rfl, by simp, by simpa using hne htag⟩, ?_⟩
    refine hrest.imp_of_mem fun {tag other} _ hother hbefore => ?_
    obtain ⟨front, back, hsplit, hin, hout⟩ := hbefore
    obtain ⟨front, back, rfl, rfl, rfl⟩ := List.filter_eq_append_iff.mp hsplit
    refine ⟨first :: front, back, rfl, List.mem_cons_of_mem _ (List.mem_filter.mp hin).1, ?_⟩
    rw [List.mem_cons, not_or]
    refine ⟨hne hother, fun hmem => hout (List.mem_filter.mpr ⟨hmem, ?_⟩)⟩
    simpa using hne hother
termination_by tags => tags.length
decreasing_by
  rw [List.length_cons]
  omega

theorem exists_mergeTag {tag : String} {parts : List Part} (h : tag ∈ parts.map (·.tag)) :
    ∃ m, mergeTag tag parts = some m := by
  cases hlast : (parts.filter (·.tag == tag)).getLast? with
  | none =>
    obtain ⟨part, hpart, rfl⟩ := List.mem_map.mp h
    have hnil := List.filter_eq_nil_iff.mp (List.getLast?_eq_none_iff.mp hlast)
    exact absurd (beq_self_eq_true _) (hnil part hpart)
  | some last => exact ⟨_, by rw [mergeTag, hlast]; rfl⟩

/-- Every tag of a part has a merged section, and they stand in the order of the tags. -/
theorem map_tag_filterMap {tags : List String} {parts : List Part}
    (h : ∀ tag ∈ tags, tag ∈ parts.map (·.tag)) :
    (tags.filterMap fun tag => mergeTag tag parts).map (·.tag) = tags := by
  induction tags with
  | nil => rfl
  | cons tag tags ih =>
    rw [List.forall_mem_cons] at h
    obtain ⟨m, hm⟩ := exists_mergeTag h.1
    rw [List.filterMap_cons, hm]
    simp only [List.map_cons, tag_of_mergeTag hm, ih h.2]

theorem map_tag_mergeParts (parts : List Part) :
    (mergeParts parts).map (·.tag) = ((sortParts parts).map (·.tag)).eraseDups :=
  map_tag_filterMap fun _ => List.mem_eraseDups.mp

theorem mergeTag_of_mem {parts : List Part} {m : MergedSection} (h : m ∈ mergeParts parts) :
    mergeTag m.tag (sortParts parts) = some m := by
  obtain ⟨tag, -, hm⟩ := List.mem_filterMap.mp h
  rw [tag_of_mergeTag hm, hm]

end Tags

/-- What merging makes of parts that stand in this order: a section for each of their tags, in the
order in which the tags first occur, with the contents of the tag in their order. -/
structure MergesAs (ordered : List Part) (merged : List MergedSection) : Prop where
  mem_tags : ∀ tag, tag ∈ merged.map (·.tag) ↔ tag ∈ ordered.map (·.tag)
  tags : (merged.map (·.tag)).Pairwise (OccursBefore (ordered.map (·.tag)))
  nodup : (merged.map (·.tag)).Nodup
  content : ∀ m ∈ merged, m.content =
    "\n".intercalate ((ordered.filter (·.tag == m.tag)).map (·.content))
  count : ∀ m ∈ merged, m.count = (ordered.filter (·.tag == m.tag)).length
  last : ∀ m ∈ merged, ∃ last, (ordered.filter (·.tag == m.tag)).getLast? = some last ∧
    (∀ part ∈ ordered, part.tag = m.tag → part.index ≤ last.index) ∧
    m.lang = last.lang ∧ m.extension = last.extension
  asked : ∀ m ∈ merged, mergedFor? merged m.tag = some m ∧
    contentFor? merged m.tag = some m.content
  absent : ∀ tag, tag ∉ ordered.map (·.tag) → mergedFor? merged tag = none ∧
    contentFor? merged tag = none

theorem index_le_of_getLast? {parts : List Part} {part last : Part}
    (hsorted : parts.Pairwise fun a b => a.index ≤ b.index) (hlast : parts.getLast? = some last)
    (hpart : part ∈ parts) : part.index ≤ last.index := by
  obtain ⟨front, rfl⟩ := List.getLast?_eq_some_iff.mp hlast
  rcases List.mem_append.mp hpart with hfront | hend
  · exact (List.pairwise_append.mp hsorted).2.2 part hfront last (by simp)
  · obtain rfl := List.mem_singleton.mp hend
    exact Int.le_refl _

theorem mergesAs_sortParts (parts : List Part) : MergesAs (sortParts parts) (mergeParts parts) := by
  have hsorted := (sortParts_isOrdered parts).sorted
  have hof (m : MergedSection) (hm : m ∈ mergeParts parts) :
      ∃ last, ((sortParts parts).filter (·.tag == m.tag)).getLast? = some last ∧
        m = ⟨m.tag, "\n".intercalate (((sortParts parts).filter (·.tag == m.tag)).map (·.content)),
          last.lang, last.extension, ((sortParts parts).filter (·.tag == m.tag)).length⟩ := by
    obtain ⟨last, hlast, heq⟩ := Option.map_eq_some_iff.mp (mergeTag_of_mem hm)
    exact ⟨last, hlast, heq.symm⟩
  constructor
  case mem_tags =>
    intro tag
    rw [map_tag_mergeParts, List.mem_eraseDups]
  case tags =>
    rw [map_tag_mergeParts]
    exact eraseDups_occursBefore _
  case nodup =>
    rw [map_tag_mergeParts]
    refine (eraseDups_occursBefore _).imp fun hbefore heq => ?_
    obtain ⟨front, back, -, hin, hout⟩ := hbefore
    exact hout (heq ▸ hin)
  case content =>
    intro m hm
    obtain ⟨last, -, heq⟩ := hof m hm
    exact congrArg (·.content) heq
  case count =>
    intro m hm
    obtain ⟨last, -, heq⟩ := hof m hm
    exact congrArg (·.count) heq
  case last =>
    intro m hm
    obtain ⟨last, hlast, heq⟩ := hof m hm
    refine ⟨last, hlast, fun part hpart htag => ?_, congrArg (·.lang) heq,
      congrArg (·.extension) heq⟩
    exact index_le_of_getLast? (hsorted.filter _) hlast
      (List.mem_filter.mpr ⟨hpart, beq_iff_eq.mpr htag⟩)
  case asked =>
    intro m hm
    have hfound : mergedFor? (mergeParts parts) m.tag = some m := by
      rw [mergedFor?_mergeParts, mergeTag_of_mem hm]
    exact ⟨hfound, by rw [contentFor?, hfound]; rfl⟩
  case absent =>
    intro tag htag
    have hnone : mergedFor? (mergeParts parts) tag = none := by
      rw [mergedFor?_mergeParts, mergeTag_eq_none htag]
    exact ⟨hnone, by rw [contentFor?, hnone]; rfl⟩

/-- Merging does not depend on the order in which parts of different places come. Any parts have
just one order by places, and what is merged is read off it. -/
theorem mergeParts_mergesAs (parts : List Part) :
    (∀ other : List Part, (parts.map (·.index)).Nodup → other.Perm parts →
      mergeParts other = mergeParts parts) ∧
    ∃ ordered, (∀ other, IsOrdered parts other ↔ other = ordered) ∧
      MergesAs ordered (mergeParts parts) := by
  refine ⟨fun other hindex hperm => ?_, sortParts parts, fun _ => isOrdered_iff,
    mergesAs_sortParts parts⟩
  rw [mergeParts, mergeParts, sortParts_of_perm hindex hperm]

/-- Parts of two tags, of which the last stands first. -/
def shuffledParts : List Part :=
  [{ tag := "style", content := "c", lang := some "less", extension := "less", index := 4 },
    { tag := "docs", content := "", extension := "md", index := -1 },
    { tag := "style", content := "a", extension := "css", index := 1 },
    { tag := "style", content := "b", lang := some "scss", extension := "css", index := 2 }]

theorem mergeParts_mergesAs_shuffled :
    (shuffledParts.map (·.index)).Nodup ∧ shuffledParts.reverse.Perm shuffledParts ∧
    mergeParts shuffledParts.reverse = mergeParts shuffledParts ∧
    ∃ ordered, (∀ other, IsOrdered shuffledParts other ↔ other = ordered) ∧
      MergesAs ordered (mergeParts shuffledParts) := by
  have hindex : (shuffledParts.map (·.index)).Nodup := by decide
  have hperm : shuffledParts.reverse.Perm shuffledParts := List.reverse_perm _
  obtain ⟨hperms, hmerges⟩ := mergeParts_mergesAs shuffledParts
  exact ⟨hindex, hperm, hperms _ hindex hperm, hmerges⟩

end ComponentSplit
