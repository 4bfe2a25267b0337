import Mathlib.Data.List.Nodup
import ComponentSplit.Registry

namespace ComponentSplit

section Maps

variable {α : Type} {name : String} {entries : List (String × α)}

/-- What a map holds besides the entry of a name. -/
def withoutEntry (name : String) (entries : List (String × α)) : List (String × α) :=
  entries.filter (·.1 != name)

theorem lookup_filter_key {κ : Type} [BEq κ] [LawfulBEq κ] {entries : List (κ × α)} {key : κ}
    {p : κ → Bool} (h : p key = true) :
    (entries.filter fun entry => p entry.1).lookup key = entries.lookup key := by
  induction entries with
  | nil => rfl
  | cons entry entries ih =>
    obtain ⟨other, value⟩ := entry
    rw [List.filter_cons, List.lookup_cons]
    by_cases hkey : key = other
    · subst hkey
      simp [h]
    · have hne : (key == other) = false := beq_eq_false_iff_ne.mpr hkey
      rw [hne, ← ih]
      split
      · rw [List.lookup_cons, hne]
      · rfl

theorem lookup_withoutEntry {other : String} (h : name ≠ other) :
    (withoutEntry other entries).lookup name = entries.lookup name :=
  lookup_filter_key (p := (· != other)) (by simpa using h)

theorem isNone_lookup : (entries.lookup name).isNone = !(entries.map Prod.fst).contains name := by
  rw [Bool.eq_iff_iff, Option.isNone_iff_eq_none, List.lookup_eq_none_iff]
  simp only [bne_iff_ne, Bool.not_eq_true', List.contains_eq_mem, decide_eq_false_iff_not,
    List.mem_map, not_exists, not_and]
  exact forall₂_congr fun entry _ => ne_comm

theorem map_fst_filter (p : String → Bool) :
    (entries.filter fun entry => p entry.1).map Prod.fst = (entries.map Prod.fst).filter p := by
  rw [List.filter_map]
  rfl

end Maps

namespace Registry

/-- Why a name that is given has no effect. -/
inductive Warning
  | ignoredCompiler (name : String)
  | missingCompiler (name : String)
  | missingResolver (name : String)
deriving DecidableEq

def Warning.entry : Warning → Entry
  | ignoredCompiler name =>
    ⟨.warning, s!"Ignoring custom compiler for built-in section <{name}>"⟩
  | missingCompiler name =>
    ⟨.warning, s!"Tag <{name}> has no custom compiler registered; its sections will be skipped"⟩
  | missingResolver name =>
    ⟨.warning, s!"Custom compiler for <{name}> has no extension resolver in tags; " ++
      "its sections will be skipped"⟩

/-- A registry in the making, with the resolvers and compilers that are still to be taken. -/
structure Building where
  tags : List (String × Resolver)
  compilers : List (String × CustomCompiler)
  entries : List Descriptor := []
  log : Log := []

namespace Building

def warn (b : Building) (w : Warning) : Building := { b with log := b.log ++ [w.entry] }

/-- A built-in kind takes the resolver of its name, if one is given. -/
def addBuiltin (b : Building) (kind : BuiltinKind) : Building :=
  { b with
    tags := withoutEntry kind.name b.tags
    entries := b.entries ++ [builtinEntry b.tags kind] }

/-- A compiler is dropped where its name has an entry already. -/
def dropCompiler (b : Building) (name : String) : Building :=
  if (b.entries.map Descriptor.name).contains name then
    { b.warn (.ignoredCompiler name) with compilers := withoutEntry name b.compilers }
  else b

/-- A resolver takes the compiler of its name; without one it has no effect. -/
def addCustom (b : Building) (tag : String × Resolver) : Building :=
  let left := { b with compilers := withoutEntry tag.1 b.compilers }
  match b.compilers.lookup tag.1 with
  | none => left.warn (.missingCompiler tag.1)
  | some compiler => { left with entries := b.entries ++ [⟨.custom tag.1, tag.2, some compiler⟩] }

/-- Build a registry: first the built-in kinds, then the custom ones in the order of their
resolvers. Compilers that nothing has taken are reported last. -/
def inTurns (tags : List (String × Resolver)) (compilers : List (String × CustomCompiler)) :
    Building :=
  let builtins := BuiltinKind.all.foldl addBuiltin { tags, compilers }
  let freed := (builtins.compilers.map Prod.fst).foldl dropCompiler builtins
  let customs := freed.tags.foldl addCustom freed
  (customs.compilers.map Prod.fst).foldl (fun b name => b.warn (.missingResolver name)) customs

theorem foldl_addBuiltin {kinds : List BuiltinKind} (h : (kinds.map BuiltinKind.name).Nodup)
    (b : Building) : kinds.foldl addBuiltin b =
      { b with
        tags := b.tags.filter fun tag => !(kinds.map BuiltinKind.name).contains tag.1
        entries := b.entries ++ kinds.map (builtinEntry b.tags) } := by
  induction kinds generalizing b with
  | nil => simp
  | cons kind kinds ih =>
    rw [List.map_cons, List.nodup_cons] at h
    have hentries : kinds.map (builtinEntry (b.addBuiltin kind).tags) =
        kinds.map (builtinEntry b.tags) := by
      refine List.map_congr_left fun other hother => ?_
      have hne : other.name ≠ kind.name := fun heq => h.1 (heq ▸ List.mem_map_of_mem hother)
      rw [builtinEntry, builtinEntry, addBuiltin, lookup_withoutEntry hne]
    have htags : ((b.addBuiltin kind).tags.filter fun tag =>
        !(kinds.map BuiltinKind.name).contains tag.1) =
        b.tags.filter fun tag => !((kind :: kinds).map BuiltinKind.name).contains tag.1 := by
      rw [addBuiltin, withoutEntry, List.filter_filter]
      refine List.filter_congr fun tag _ => ?_
      rw [List.map_cons, List.contains_cons, Bool.not_or, Bool.and_comm, bne]
    rw [List.foldl_cons, ih h.2, hentries, htags]
    simp only [addBuiltin, List.append_assoc, List.map_cons, List.singleton_append]

/-- What is dropped are the given names that have an entry, each with a warning. -/
theorem foldl_dropCompiler (names : List String) (b : Building) : names.foldl dropCompiler b =
    { b with
      compilers := b.compilers.filter fun compiler =>
        !(names.filter (b.entries.map Descriptor.name).contains).contains compiler.1
      log := b.log ++ ((names.filter (b.entries.map Descriptor.name).contains).map
        fun name => (Warning.ignoredCompiler name).entry) } := by
  induction names generalizing b with
  | nil => simp
  | cons name names ih =>
    rw [List.foldl_cons, ih]
    by_cases hname : (b.entries.map Descriptor.name).contains name = true
    · rw [dropCompiler, if_pos hname, List.filter_cons, if_pos hname]
      simp only [warn, withoutEntry, List.filter_filter, List.append_assoc, List.map_cons,
        List.singleton_append, List.contains_cons, Bool.not_or, bne]
      congr 1
      exact List.filter_congr fun _ _ => Bool.and_comm _ _
    · rw [dropCompiler, if_neg hname, List.filter_cons, if_neg hname]

theorem foldl_addCustom {tags : List (String × Resolver)} (h : (tags.map Prod.fst).Nodup)
    (b : Building) : tags.foldl addCustom b =
      { b with
        compilers := b.compilers.filter fun compiler => !(tags.map Prod.fst).contains compiler.1
        entries := b.entries ++ tags.filterMap fun tag =>
          (b.compilers.lookup tag.1).map fun compiler => ⟨.custom tag.1, tag.2, some compiler⟩
        log := b.log ++ ((tags.map Prod.fst).filter fun name =>
          (b.compilers.lookup name).isNone).map
            fun name => (Warning.missingCompiler name).entry } := by
  induction tags generalizing b with
  | nil => simp
  | cons tag tags ih =>
    rw [List.map_cons, List.nodup_cons] at h
    have hcompilers : (b.addCustom tag).compilers = withoutEntry tag.1 b.compilers := by
      rw [addCustom]
      split <;> rfl
    -- The entry that the first resolver takes is none of those the others look for.
    have hlookup : ∀ other ∈ tags.map Prod.fst,
        (b.addCustom tag).compilers.lookup other = b.compilers.lookup other := by
      intro other hother
      rw [hcompilers, lookup_withoutEntry (ne_of_mem_of_not_mem hother h.1)]
    have hleft : ((b.addCustom tag).compilers.filter fun compiler =>
        !(tags.map Prod.fst).contains compiler.1) =
        b.compilers.filter fun compiler =>
          !((tag :: tags).map Prod.fst).contains compiler.1 := by
      rw [hcompilers, withoutEntry, List.filter_filter]
      refine List.filter_congr fun compiler _ => ?_
      rw [List.map_cons, List.contains_cons, Bool.not_or, Bool.and_comm, bne]
    have hentries : (tags.filterMap fun other =>
        ((b.addCustom tag).compilers.lookup other.1).map fun compiler =>
          (⟨.custom other.1, other.2, some compiler⟩ : Descriptor)) =
        tags.filterMap fun other =>
          (b.compilers.lookup other.1).map fun compiler =>
            ⟨.custom other.1, other.2, some compiler⟩ :=
      List.filterMap_congr fun other hother => by rw [hlookup _ (List.mem_map_of_mem hother)]
    have hmissing : ((tags.map Prod.fst).filter fun name =>
        ((b.addCustom tag).compilers.lookup name).isNone) =
        (tags.map Prod.fst).filter fun name => (b.compilers.lookup name).isNone :=
      List.filter_congr fun name hname => by rw [hlookup _ hname]
    rw [List.foldl_cons, ih h.2, hleft, hentries, hmissing, List.map_cons]
    cases hfound : b.compilers.lookup tag.1 with
    | none => simp [addCustom, hfound, warn]
    | some compiler => simp [addCustom, hfound]

theorem foldl_warn {warning : String → Warning} (names : List String) (b : Building) :
    names.foldl (fun b name => b.warn (warning name)) b =
      { b with log := b.log ++ names.map fun name => (warning name).entry } := by
  induction names generalizing b with
  | nil => simp
  | cons name names ih =>
    rw [List.foldl_cons, ih]
    simp [warn]

end Building

theorem contains_builtins (name : String) :
    (BuiltinKind.all.map BuiltinKind.name).contains name = isBuiltinName name := by
  rw [Bool.eq_iff_iff, isBuiltinName, BuiltinKind.ofName?, List.find?_isSome,
    List.contains_iff_mem, List.mem_map]
  simp only [beq_iff_eq]

/-- All warnings about the names that are given: compilers of built-in kinds, resolvers without a
compiler, and compilers without a resolver. -/
def warnings (tags : List (String × Resolver)) (compilers : List (String × CustomCompiler)) :
    List Warning :=
  ((compilers.map Prod.fst).filter isBuiltinName).map .ignoredCompiler ++
    ((tags.map Prod.fst).filter fun name =>
      !isBuiltinName name && !(compilers.map Prod.fst).contains name).map .missingCompiler ++
    ((compilers.map Prod.fst).filter fun name =>
      !isBuiltinName name && !(tags.map Prod.fst).contains name).map .missingResolver

theorem buildLog_eq (tags : List (String × Resolver)) (compilers : List (String × CustomCompiler)) :
    buildLog tags compilers = (warnings tags compilers).map Warning.entry := by
  rw [warnings, List.map_append, List.map_append, List.map_map, List.map_map, List.map_map]
  rfl

namespace Building

variable {tags : List (String × Resolver)} {compilers : List (String × CustomCompiler)}

/-- When all compilers of the building are looked at, those left have no entry of their name. -/
theorem foldl_dropCompiler_all (b : Building) :
    (b.compilers.map Prod.fst).foldl dropCompiler b =
      { b with
        compilers := b.compilers.filter fun compiler =>
          !(b.entries.map Descriptor.name).contains compiler.1
        log := b.log ++ ((b.compilers.map Prod.fst).filter fun name =>
          (b.entries.map Descriptor.name).contains name).map
            fun name => (Warning.ignoredCompiler name).entry } := by
  rw [foldl_dropCompiler]
  congr 1
  refine List.filter_congr fun compiler hcompiler => ?_
  rw [Bool.eq_iff_iff, Bool.not_eq_true', Bool.not_eq_true', Bool.eq_false_iff, Bool.eq_false_iff,
    not_iff_not, List.contains_iff_mem, List.mem_filter]
  exact and_iff_right (List.mem_map_of_mem hcompiler)

/-- The entries of the custom resolvers, looked up among the compilers that are not dropped. -/
theorem filterMap_custom : ((tags.filter fun tag => !isBuiltinName tag.1).filterMap fun tag =>
      ((compilers.filter fun compiler => !isBuiltinName compiler.1).lookup tag.1).map
        fun compiler => (⟨.custom tag.1, tag.2, some compiler⟩ : Descriptor)) =
    tags.filterMap fun (name, resolver) =>
      if isBuiltinName name then none
      else (compilers.lookup name).map fun compiler => ⟨.custom name, resolver, some compiler⟩ := by
  rw [List.filterMap_filter]
  refine List.filterMap_congr fun tag _ => ?_
  obtain ⟨name, resolver⟩ := tag
  by_cases hname : isBuiltinName name = true
  · simp only [hname, Bool.not_true, Bool.false_eq_true, if_true, if_false]
  · rw [lookup_filter_key (p := fun name => !isBuiltinName name) (by simpa using hname)]
    simp only [hname, Bool.not_false, Bool.false_eq_true, if_true, if_false]

/-- The custom resolvers whose compiler is missing after the dropping had none before it. -/
theorem filter_missing : ((tags.filter fun tag => !isBuiltinName tag.1).map Prod.fst).filter
      (fun name => ((compilers.filter fun compiler =>
        !isBuiltinName compiler.1).lookup name).isNone) =
    (tags.map Prod.fst).filter fun name =>
      !isBuiltinName name && !(compilers.map Prod.fst).contains name := by
  rw [map_fst_filter (fun name => !isBuiltinName name), List.filter_filter]
  refine List.filter_congr fun name _ => ?_
  cases hname : isBuiltinName name with
  | true => simp
  | false =>
    rw [lookup_filter_key (p := fun name => !isBuiltinName name) (by rw [hname]; rfl),
      isNone_lookup, Bool.and_comm]

theorem filter_left : (compilers.filter fun compiler => !isBuiltinName compiler.1).filter
      (fun compiler => !((tags.filter fun tag => !isBuiltinName tag.1).map Prod.fst).contains
        compiler.1) =
    compilers.filter fun compiler =>
      !isBuiltinName compiler.1 && !(tags.map Prod.fst).contains compiler.1 := by
  rw [map_fst_filter (fun name => !isBuiltinName name), List.filter_filter]
  refine List.filter_congr fun compiler _ => ?_
  rw [Bool.and_comm]
  cases hname : isBuiltinName compiler.1 with
  | true => rfl
  | false => simp [List.mem_filter, hname]

/-- A registry built in turns has the entries and the report told from the names. What is left in
the end are the custom resolvers, and the compilers that no resolver has taken. -/
theorem inTurns_eq (h : (tags.map Prod.fst).Nodup) : inTurns tags compilers =
    { tags := tags.filter fun tag => !isBuiltinName tag.1
      compilers := compilers.filter fun compiler =>
        !isBuiltinName compiler.1 && !(tags.map Prod.fst).contains compiler.1
      entries := (ofParts tags compilers).entries
      log := buildLog tags compilers } := by
  have hnames : (BuiltinKind.all.map (builtinEntry tags)).map Descriptor.name =
      BuiltinKind.all.map BuiltinKind.name := rfl
  have hcustom : ((tags.filter fun tag => !isBuiltinName tag.1).map Prod.fst).Nodup :=
    h.sublist (List.filter_sublist.map _)
  have hbuiltins : BuiltinKind.all.foldl addBuiltin { tags, compilers } =
      { tags := tags.filter fun tag => !isBuiltinName tag.1
        compilers
        entries := BuiltinKind.all.map (builtinEntry tags) } := by
    rw [foldl_addBuiltin (by decide)]
    simp only [contains_builtins, List.nil_append]
  have hfreed := foldl_dropCompiler_all
    { tags := tags.filter fun tag => !isBuiltinName tag.1
      compilers
      entries := BuiltinKind.all.map (builtinEntry tags) }
  simp only [hnames, contains_builtins] at hfreed
  rw [inTurns]
  simp only [hbuiltins, hfreed, foldl_addCustom hcustom, foldl_warn, filterMap_custom,
    filter_missing, filter_left]
  rw [map_fst_filter fun name => !isBuiltinName name && !(tags.map Prod.fst).contains name,
    buildLog_eq, warnings, List.map_append, List.map_append, List.map_map, List.map_map,
    List.map_map]
  rfl

end Building

end Registry

end ComponentSplit
