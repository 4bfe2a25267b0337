import Mathlib.Data.List.Count
import ComponentSplit.Proofs.Pipeline.InOrder
import ComponentSplit.Proofs.Pipeline.Scoping
import ComponentSplit.Proofs.Registry.Building

namespace ComponentSplit

namespace Registry

/-- A name that is given to a registry, for a resolver or for a compiler. -/
inductive Supply
  | resolver (name : String)
  | compiler (name : String)

namespace Supply

variable (tags : List (String × Resolver)) (compilers : List (String × CustomCompiler))

def IsGiven : Supply → Prop
  | resolver name => name ∈ tags.map Prod.fst
  | compiler name => name ∈ compilers.map Prod.fst

/-- The entry of the name works with what is given. -/
def IsEffective (r : Registry) : Supply → Prop
  | resolver name => ∃ d, r.find? name = some d ∧ tags.lookup name = some d.resolver
  | compiler name => ∃ d given, r.find? name = some d ∧ d.compiler = some given ∧
      compilers.lookup name = some given

/-- How often a log warns that a supply has no effect. -/
def warned (log : Log) : Supply → Nat
  | resolver name => log.count (Warning.missingCompiler name).entry
  | compiler name => log.count (Warning.ignoredCompiler name).entry +
      log.count (Warning.missingResolver name).entry

end Supply

/-- A registry and its log account for the resolvers and compilers that are given by name. -/
structure IsAccounted (tags : List (String × Resolver))
    (compilers : List (String × CustomCompiler)) (r : Registry) (log : Log) : Prop where
  names : r.names = ["template", "script", "style"] ++ (tags.map Prod.fst).filter fun name =>
    !isBuiltinName name && (compilers.map Prod.fst).contains name
  distinct : r.names.Nodup
  builtin : ∀ kind : BuiltinKind, r.find? kind.name =
    some ⟨.builtin kind, (tags.lookup kind.name).getD kind.resolver, none⟩
  custom : ∀ name resolver compiler, isBuiltinName name = false → (name, resolver) ∈ tags →
    (name, compiler) ∈ compilers → r.find? name = some ⟨.custom name, resolver, some compiler⟩
  reported : log = (warnings tags compilers).map Warning.entry
  given : ∀ s : Supply, s.IsGiven tags compilers →
    (s.IsEffective tags compilers r ∧ s.warned log = 0) ∨
      (¬ s.IsEffective tags compilers r ∧ s.warned log = 1)
  others : ∀ s : Supply, ¬ s.IsGiven tags compilers → s.warned log = 0

theorem Warning.head_message (w : Warning) : w.entry.message.toList.head? = some (match w with
    | ignoredCompiler _ => 'I'
    | missingCompiler _ => 'T'
    | missingResolver _ => 'C') := by
  cases w <;> simp [entry, toString]

theorem Warning.entry_injective : Function.Injective Warning.entry := by
  intro w w' h
  have hhead := w.head_message
  rw [h, w'.head_message] at hhead
  have hletters : w.entry.message.toList = w'.entry.message.toList := by rw [h]
  -- Messages of one kind differ in the name alone, those of two kinds in their first letter.
  cases w with
  | ignoredCompiler name =>
    cases w' with
    | ignoredCompiler name' => simpa [entry, toString, String.toList_inj] using hletters
    | missingCompiler | missingResolver => simp at hhead
  | missingCompiler name =>
    cases w' with
    | missingCompiler name' => simpa [entry, toString, String.toList_inj] using hletters
    | ignoredCompiler | missingResolver => simp at hhead
  | missingResolver name =>
    cases w' with
    | missingResolver name' => simpa [entry, toString, String.toList_inj] using hletters
    | ignoredCompiler | missingCompiler => simp at hhead

variable {tags : List (String × Resolver)} {compilers : List (String × CustomCompiler)}
  {name : String}

theorem mem_warnings {w : Warning} : w ∈ warnings tags compilers ↔ match w with
    | .ignoredCompiler name => name ∈ compilers.map Prod.fst ∧ isBuiltinName name = true
    | .missingCompiler name => name ∈ tags.map Prod.fst ∧ isBuiltinName name = false ∧
        name ∉ compilers.map Prod.fst
    | .missingResolver name => name ∈ compilers.map Prod.fst ∧ isBuiltinName name = false ∧
        name ∉ tags.map Prod.fst := by
  cases w <;> simp [warnings, List.mem_filter]

theorem names_custom : (tags.filterMap fun (name, resolver) =>
      if isBuiltinName name then none
      else (compilers.lookup name).map fun compiler =>
        (⟨.custom name, resolver, some compiler⟩ : Descriptor)).map Descriptor.name =
    (tags.map Prod.fst).filter fun name =>
      !isBuiltinName name && (compilers.map Prod.fst).contains name := by
  induction tags with
  | nil => rfl
  | cons tag tags ih =>
    obtain ⟨name, resolver⟩ := tag
    have hcontains : (compilers.map Prod.fst).contains name = (compilers.lookup name).isSome := by
      rw [← Option.not_isNone, isNone_lookup, Bool.not_not]
    rw [List.filterMap_cons, List.map_cons, List.filter_cons, hcontains]
    cases hname : isBuiltinName name with
    | true =>
      simp only [hname]
      exact ih
    | false =>
      simp only [hname]
      cases hlookup : compilers.lookup name with
      | none => exact ih
      | some compiler => exact congrArg (name :: ·) ih

theorem names_ofParts : (ofParts tags compilers).names =
    ["template", "script", "style"] ++ (tags.map Prod.fst).filter fun name =>
      !isBuiltinName name && (compilers.map Prod.fst).contains name := by
  rw [names, ofParts, List.map_append, names_custom]
  rfl

theorem isBuiltinName_iff : isBuiltinName name = true ↔ ∃ kind : BuiltinKind, name = kind.name := by
  rw [isBuiltinName, Option.isSome_iff_exists]
  simp only [BuiltinKind.ofName?_eq_some]

theorem find?_builtin (kind : BuiltinKind) : (ofParts tags compilers).find? kind.name =
    some (builtinEntry tags kind) := by
  rw [find?, ofParts, List.find?_append]
  cases kind <;> rfl

theorem find?_of_mem {r : Registry} (hnodup : r.names.Nodup) {d : Descriptor}
    (h : d ∈ r.entries) : r.find? d.name = some d := by
  cases hfound : r.find? d.name with
  | none => exact absurd (List.find?_eq_none.mp hfound d h) (by simp)
  | some found =>
    have hmem : found ∈ r.entries := List.mem_of_find?_eq_some hfound
    exact congrArg some (List.inj_on_of_nodup_map hnodup hmem h (name_of_find? hfound))

theorem mem_names_ofParts (h : isBuiltinName name = false) :
    name ∈ (ofParts tags compilers).names ↔
      name ∈ tags.map Prod.fst ∧ name ∈ compilers.map Prod.fst := by
  have hbuiltin : name ∉ ["template", "script", "style"] := by
    intro hmem
    rw [← Bool.not_eq_true, ← contains_builtins, List.contains_iff_mem] at h
    exact h hmem
  rw [names_ofParts, List.mem_append, or_iff_right hbuiltin, List.mem_filter, h, Bool.not_false,
    Bool.true_and, List.contains_iff_mem]

theorem mem_names_of_find? {r : Registry} {d : Descriptor} (h : r.find? name = some d) :
    name ∈ r.names :=
  List.mem_map.mpr ⟨d, List.mem_of_find?_eq_some h, name_of_find? h⟩

section Distinct

variable (htags : (tags.map Prod.fst).Nodup) (hcompilers : (compilers.map Prod.fst).Nodup)

include htags hcompilers

theorem nodup_warnings : (warnings tags compilers).Nodup := by
  rw [warnings, List.nodup_append', List.nodup_append']
  refine ⟨⟨(hcompilers.filter _).map fun _ _ h => by injection h,
    (htags.filter _).map fun _ _ h => by injection h, ?_⟩,
    (hcompilers.filter _).map fun _ _ h => by injection h, ?_⟩
  · rintro w hignored hmissing
    obtain ⟨name, -, rfl⟩ := List.mem_map.mp hignored
    obtain ⟨name', -, heq⟩ := List.mem_map.mp hmissing
    cases heq
  · rintro w hfront hmissing
    obtain ⟨name, -, rfl⟩ := List.mem_map.mp hmissing
    rcases List.mem_append.mp hfront with hignored | hmissing
    · obtain ⟨name', -, heq⟩ := List.mem_map.mp hignored
      cases heq
    · obtain ⟨name', -, heq⟩ := List.mem_map.mp hmissing
      cases heq

theorem count_warnings (w : Warning) :
    ((warnings tags compilers).map Warning.entry).count w.entry =
      if w ∈ warnings tags compilers then 1 else 0 := by
  rw [List.count_map_of_injective _ _ Warning.entry_injective,
    (nodup_warnings htags hcompilers).count]

theorem find?_custom {resolver : Resolver} {compiler : CustomCompiler}
    (hname : isBuiltinName name = false) (hresolver : (name, resolver) ∈ tags)
    (hcompiler : (name, compiler) ∈ compilers) :
    (ofParts tags compilers).find? name = some ⟨.custom name, resolver, some compiler⟩ := by
  refine find?_of_mem (d := ⟨.custom name, resolver, some compiler⟩)
    (nodup_names_ofParts compilers htags) (List.mem_append_right _ (List.mem_filterMap.mpr
      ⟨(name, resolver), hresolver, ?_⟩))
  simp [hname, lookup_of_mem hcompilers hcompiler]

/-- A resolver has an effect when it is that of a built-in kind, or when it has a compiler. -/
theorem isEffective_resolver (hgiven : name ∈ tags.map Prod.fst) :
    (Supply.resolver name).IsEffective tags compilers (ofParts tags compilers) ↔
      isBuiltinName name = true ∨ name ∈ compilers.map Prod.fst := by
  obtain ⟨⟨name, resolver⟩, hmem, rfl⟩ := List.mem_map.mp hgiven
  have hlookup := lookup_of_mem htags hmem
  constructor
  · rintro ⟨d, hfound, -⟩
    cases hname : isBuiltinName name with
    | true => exact .inl rfl
    | false => exact .inr ((mem_names_ofParts hname).mp (mem_names_of_find? hfound)).2
  · intro h
    cases hname : isBuiltinName name with
    | true =>
      obtain ⟨kind, rfl⟩ := isBuiltinName_iff.mp hname
      exact ⟨builtinEntry tags kind, find?_builtin kind, by rw [builtinEntry, hlookup]; rfl⟩
    | false =>
      have hcompiler := h.resolve_left (by simp [hname])
      obtain ⟨⟨name, compiler⟩, hmem', rfl⟩ := List.mem_map.mp hcompiler
      exact ⟨_, find?_custom htags hcompilers hname hmem hmem', hlookup⟩

/-- A compiler has an effect when it has a resolver and is not that of a built-in kind. -/
theorem isEffective_compiler (hgiven : name ∈ compilers.map Prod.fst) :
    (Supply.compiler name).IsEffective tags compilers (ofParts tags compilers) ↔
      isBuiltinName name = false ∧ name ∈ tags.map Prod.fst := by
  obtain ⟨⟨name, compiler⟩, hmem, rfl⟩ := List.mem_map.mp hgiven
  constructor
  · rintro ⟨d, given, hfound, hgiven, -⟩
    cases hname : isBuiltinName name with
    | true =>
      obtain ⟨kind, rfl⟩ := isBuiltinName_iff.mp hname
      rw [find?_builtin] at hfound
      cases hfound
      cases hgiven
    | false => exact ⟨rfl, ((mem_names_ofParts hname).mp (mem_names_of_find? hfound)).1⟩
  · rintro ⟨hname, htag⟩
    obtain ⟨⟨name, resolver⟩, hmem', rfl⟩ := List.mem_map.mp htag
    exact ⟨_, compiler, find?_custom htags hcompilers hname hmem' hmem, rfl,
      lookup_of_mem hcompilers hmem⟩

theorem warned_resolver :
    (Supply.resolver name).warned ((warnings tags compilers).map Warning.entry) =
      if name ∈ tags.map Prod.fst ∧
        ¬ (isBuiltinName name = true ∨ name ∈ compilers.map Prod.fst) then 1 else 0 := by
  rw [Supply.warned, count_warnings htags hcompilers]
  simp only [mem_warnings, not_or, Bool.not_eq_true]

/-- A compiler is warned about once at most: it is either that of a built-in kind or without a
resolver. -/
theorem warned_compiler :
    (Supply.compiler name).warned ((warnings tags compilers).map Warning.entry) =
      if name ∈ compilers.map Prod.fst ∧
        ¬ (isBuiltinName name = false ∧ name ∈ tags.map Prod.fst) then 1 else 0 := by
  rw [Supply.warned, count_warnings htags hcompilers, count_warnings htags hcompilers]
  simp only [mem_warnings]
  cases isBuiltinName name with
  | true =>
    simp only [and_true, Bool.true_eq_false, false_and, and_false, if_false, not_false_iff,
      Nat.add_zero]
  | false => simp only [Bool.false_eq_true, and_false, if_false, true_and, Nat.zero_add]

end Distinct

/-- Every resolver and compiler that is given by name is accounted for. -/
theorem ofParts_isAccounted (htags : (tags.map Prod.fst).Nodup)
    (hcompilers : (compilers.map Prod.fst).Nodup) :
    (Building.inTurns tags compilers).entries = (ofParts tags compilers).entries ∧
      (Building.inTurns tags compilers).log = buildLog tags compilers ∧
      IsAccounted tags compilers (ofParts tags compilers) (buildLog tags compilers) := by
  rw [Building.inTurns_eq htags]
  refine ⟨rfl, rfl, ?_⟩
  rw [buildLog_eq]
  refine
    { names := names_ofParts
      distinct := nodup_names_ofParts compilers htags
      builtin := find?_builtin
      custom := fun name resolver compiler => find?_custom htags hcompilers
      reported := rfl
      given := ?_
      others := ?_ }
  · rintro (name | name) hgiven
    · rw [isEffective_resolver htags hcompilers hgiven, warned_resolver htags hcompilers]
      by_cases heffective : isBuiltinName name = true ∨ name ∈ compilers.map Prod.fst
      · exact .inl ⟨heffective, if_neg fun h => h.2 heffective⟩
      · exact .inr ⟨heffective, if_pos ⟨hgiven, heffective⟩⟩
    · rw [isEffective_compiler htags hcompilers hgiven, warned_compiler htags hcompilers]
      by_cases heffective : isBuiltinName name = false ∧ name ∈ tags.map Prod.fst
      · exact .inl ⟨heffective, if_neg fun h => h.2 heffective⟩
      · exact .inr ⟨heffective, if_pos ⟨hgiven, heffective⟩⟩
  · rintro (name | name) hgiven
    · rw [warned_resolver htags hcompilers, if_neg fun h => hgiven h.1]
    · rw [warned_compiler htags hcompilers, if_neg fun h => hgiven h.1]

/-- Resolvers of a custom kind, of a built-in one, and of one that has no compiler. -/
def crossedTags : List (String × Resolver) :=
  [("docs", fun _ _ _ => .ok (.text "md")), ("style", fun _ _ _ => .ok (.text "scss")),
    ("test", fun _ _ _ => .ok (.text "spec.js"))]

/-- Compilers of a kind that has no resolver, of a built-in one, and of a custom one. -/
def crossedCompilers : List (String × CustomCompiler) :=
  [("i18n", fun _ content _ _ => pure (.text content)),
    ("style", fun _ content _ _ => pure (.text content)),
    ("docs", fun _ content _ _ => pure (.text content))]

theorem ofParts_isAccounted_crossed :
    (crossedTags.map Prod.fst).Nodup ∧ (crossedCompilers.map Prod.fst).Nodup ∧
      (ofParts crossedTags crossedCompilers).names = ["template", "script", "style", "docs"] ∧
      (buildLog crossedTags crossedCompilers).map Entry.message =
        ["Ignoring custom compiler for built-in section <style>",
          "Tag <test> has no custom compiler registered; its sections will be skipped",
          "Custom compiler for <i18n> has no extension resolver in tags; " ++
            "its sections will be skipped"] ∧
      IsAccounted crossedTags crossedCompilers (ofParts crossedTags crossedCompilers)
        (buildLog crossedTags crossedCompilers) :=
  ⟨by decide, by decide, by decide, by decide, (ofParts_isAccounted (by decide) (by decide)).2.2⟩

end Registry

end ComponentSplit
