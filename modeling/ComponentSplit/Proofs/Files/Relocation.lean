import ComponentSplit.Files.Sink
import ComponentSplit.Proofs.Path.Place
import ComponentSplit.Proofs.Pipeline.Result

namespace ComponentSplit

/-- One of the names has a null in it. No file can have such a name. -/
def HasNull (names : List String) : Prop := ∃ name ∈ names, '\x00' ∈ name.toList

instance decidableHasNull (names : List String) : Decidable (HasNull names) :=
  inferInstanceAs (Decidable (∃ name ∈ names, '\x00' ∈ name.toList))

theorem null_mem_text {path : FilePath} : '\x00' ∈ path.text ↔ HasNull path.parts := by
  have hroot : '\x00' ∉ path.root.text := by cases path.root <;> decide
  have hparts : '\x00' ∈ joinFields '/' (path.parts.map String.toList) ↔ HasNull path.parts := by
    rw [mem_joinFields (by decide)]
    simp only [HasNull, List.mem_map, exists_exists_and_eq_and]
  rw [FilePath.text]
  split
  next hempty =>
    have hnone : path.parts = [] := List.isEmpty_iff.mp hempty.2
    simp [hnone, HasNull]
  next => rw [List.mem_append, hparts, or_iff_right hroot]

/-- The artifact has a base directory, and these components lead from there to its path. -/
structure Artifact.LiesBelow (cwd : Place) (a : Artifact) (base : String) (below : Place) :
    Prop where
  has_base : a.base = some base
  base_ne : base ≠ ""
  path_ne : a.path ≠ ""
  place_eq : Place.ofPath cwd a.path.toList = Place.ofPath cwd base.toList ++ below

section LiesBelow

variable {cwd below : Place} {a : Artifact} {base : String}

theorem Artifact.LiesBelow.isNormal (h : a.LiesBelow cwd base below) (hcwd : cwd.IsNormal) :
    below.IsNormal := by
  have hpath := Place.ofPath_isNormal hcwd a.path.toList
  rw [h.place_eq] at hpath
  exact fun name hname => hpath name (List.mem_append_right _ hname)

theorem Artifact.LiesBelow.relativePath (h : a.LiesBelow cwd base below) :
    a.relativePath cwd = .ok (String.ofList (pathOfComponents below)) := by
  have hpath : a.path.toList.isEmpty = false := by simpa using h.path_ne
  have hway : relativePath? cwd a.path.toList base.toList = some (pathOfComponents below) := by
    rw [relativePath?, hpath, h.place_eq, relativeComponents_append]
    rfl
  rw [Artifact.relativePath, h.has_base, Option.filter_some, if_pos (by simpa using h.base_ne)]
  simp only [hway]

end LiesBelow

namespace FileSink

variable {directory : FilePath} {cwd below : Place} {a : Artifact} {base : String}

theorem checkNull_of_hasNull {path : FilePath} (h : HasNull path.parts) :
    FileTree.checkNull path = .error (.embeddedNull "byte") := by
  rw [FileTree.checkNull, if_pos (List.contains_iff_mem.mpr (null_mem_text.mpr h))]

theorem checkNull_of_not_hasNull {path : FilePath} (h : ¬ HasNull path.parts) :
    FileTree.checkNull path = .ok () := by
  rw [FileTree.checkNull, if_neg (mt List.contains_iff_mem.mp (mt null_mem_text.mp h))]

/-- Whatever is delivered is delivered at or below the output directory. -/
theorem target_isPrefix {target : FilePath}
    (h : FileSink.target ⟨some directory⟩ cwd a = .ok target) :
    directory.place cwd <+: target.place cwd := by
  obtain ⟨relative, -, h⟩ := bind_eq_ok.mp h
  obtain ⟨-, -, h⟩ := bind_eq_ok.mp h
  split at h
  next hinside =>
    cases h
    exact List.isPrefixOf_iff_prefix.mp hinside
  next => cases h

/-- The place of a path that goes down from a directory. -/
theorem place_below (h : below.IsNormal) :
    (directory.join h.path).place cwd = directory.place cwd ++ below := by
  change (directory.parts ++ below).foldl Place.enter _ = _
  rw [List.foldl_append, foldl_enter_of_isNormal h]
  rfl

/-- What is left to do for an artifact below its base is to look for nulls. -/
theorem target_of_liesBelow (hcwd : cwd.IsNormal) (h : a.LiesBelow cwd base below) :
    FileSink.target ⟨some directory⟩ cwd a =
      (FileTree.checkNull (directory.join (h.isNormal hcwd).path)).map
        fun _ => directory.join (h.isNormal hcwd).path := by
  have hbelow := h.isNormal hcwd
  have hinside : ((directory.place cwd).isPrefixOf
      ((directory.join hbelow.path).place cwd)) = true := by
    rw [place_below hbelow]
    exact List.isPrefixOf_iff_prefix.mpr (List.prefix_append _ _)
  simp only [FileSink.target, h.relativePath, String.toList_ofList, ofText_pathOfComponents hbelow,
    dropRoot_path, hinside, bind, Except.bind]
  cases FileTree.checkNull (directory.join hbelow.path) <;> rfl

theorem place_of_target (hcwd : cwd.IsNormal) (h : a.LiesBelow cwd base below) {target : FilePath}
    (ht : FileSink.target ⟨some directory⟩ cwd a = .ok target) :
    target.place cwd = directory.place cwd ++ below := by
  rw [target_of_liesBelow hcwd h] at ht
  cases hnull : FileTree.checkNull (directory.join (h.isNormal hcwd).path) with
  | error failure =>
    rw [hnull] at ht
    cases ht
  | ok =>
    rw [hnull] at ht
    cases ht
    exact place_below (h.isNormal hcwd)

/-- Delivery stays at or below the output directory. An artifact at or below its base directory is
refused when a null is in the way, and otherwise delivered at the same components below the output
directory, so that from one base no two places are delivered at the same one. -/
theorem target_relocates (directory : FilePath) {cwd : Place} (hcwd : cwd.IsNormal) :
    (∀ a target, FileSink.target ⟨some directory⟩ cwd a = .ok target →
      directory.place cwd <+: target.place cwd) ∧
    (∀ a base below, a.LiesBelow cwd base below →
      (HasNull (directory.parts ++ below) →
        FileSink.target ⟨some directory⟩ cwd a = .error (.embeddedNull "byte")) ∧
      (¬ HasNull (directory.parts ++ below) →
        ∃ target, FileSink.target ⟨some directory⟩ cwd a = .ok target ∧
          target.place cwd = directory.place cwd ++ below)) ∧
    ∀ a base below target a' base' below' target',
      a.LiesBelow cwd base below → a'.LiesBelow cwd base' below' →
      Place.ofPath cwd base.toList = Place.ofPath cwd base'.toList →
      Place.ofPath cwd a.path.toList ≠ Place.ofPath cwd a'.path.toList →
      FileSink.target ⟨some directory⟩ cwd a = .ok target →
      FileSink.target ⟨some directory⟩ cwd a' = .ok target' →
      target.place cwd ≠ target'.place cwd := by
  refine ⟨fun a target => target_isPrefix, ?_, ?_⟩
  · intro a base below hbelow
    rw [target_of_liesBelow hcwd hbelow]
    constructor
    · intro hnull
      rw [checkNull_of_hasNull hnull]
      rfl
    · intro hnull
      rw [checkNull_of_not_hasNull hnull]
      exact ⟨_, rfl, place_below (hbelow.isNormal hcwd)⟩
  · intro a base below target a' base' below' target' hbelow hbelow' hbase hpaths ht ht' hsame
    rw [place_of_target hcwd hbelow ht, place_of_target hcwd hbelow' ht',
      List.append_cancel_left_eq] at hsame
    rw [hbelow.place_eq, hbelow'.place_eq, hbase, hsame] at hpaths
    exact hpaths rfl

def workPlace : Place := ["work"]

theorem workPlace_isNormal : workPlace.IsNormal := by
  intro name hname
  obtain rfl := List.mem_singleton.mp hname
  constructor <;> decide

def outDirectory : FilePath where
  parts := ["..", "out"]

/-- A file in the output directory. -/
def cardPath : FilePath where
  parts := ["..", "out", "Card.css"]

/-- A stylesheet at a path, with its base directory. -/
def sheetAt (path base : String) : Artifact := ⟨path, "style", "css", .empty, some base⟩

theorem card_liesBelow : (sheetAt "src/./ui//Card.css" "/work/src").LiesBelow workPlace "/work/src"
    ["ui", "Card.css"] :=
  ⟨rfl, by decide, by decide, by decide +kernel⟩

theorem button_liesBelow : (sheetAt "ui/../src/Button.css" "src").LiesBelow workPlace "src"
    ["Button.css"] :=
  ⟨rfl, by decide, by decide, by decide +kernel⟩

theorem target_relocates_card : workPlace.IsNormal ∧
    (sheetAt "src/./ui//Card.css" "/work/src").LiesBelow workPlace "/work/src" ["ui", "Card.css"] ∧
    (∃ target, FileSink.target ⟨some outDirectory⟩ workPlace
        (sheetAt "src/./ui//Card.css" "/work/src") = .ok target ∧
      target.place workPlace = ["out", "ui", "Card.css"]) ∧
    ∀ target target', FileSink.target ⟨some outDirectory⟩ workPlace
        (sheetAt "src/./ui//Card.css" "/work/src") = .ok target →
      FileSink.target ⟨some outDirectory⟩ workPlace (sheetAt "ui/../src/Button.css" "src") =
        .ok target' → target.place workPlace ≠ target'.place workPlace := by
  have h := target_relocates outDirectory workPlace_isNormal
  refine ⟨workPlace_isNormal, card_liesBelow, ?_, ?_⟩
  · exact (h.2.1 _ _ _ card_liesBelow).2 (by decide +kernel)
  · intro target target'
    exact h.2.2 _ _ _ target _ _ _ target' card_liesBelow button_liesBelow (by decide +kernel)
      (by decide +kernel)

/-- A null keeps an artifact from being delivered, and artifacts of different bases may be delivered
at the same place. -/
theorem relocation_broken :
    (¬ ∀ (directory : FilePath) (cwd : Place) (a : Artifact) (base : String) (below : Place),
      cwd.IsNormal → a.LiesBelow cwd base below →
      ∃ target, FileSink.target ⟨some directory⟩ cwd a = .ok target ∧
        target.place cwd = directory.place cwd ++ below) ∧
    ¬ ∀ (directory : FilePath) (cwd : Place) (a a' : Artifact) (base base' : String)
      (below below' : Place) (target target' : FilePath),
      cwd.IsNormal → a.LiesBelow cwd base below → a'.LiesBelow cwd base' below' →
      Place.ofPath cwd a.path.toList ≠ Place.ofPath cwd a'.path.toList →
      FileSink.target ⟨some directory⟩ cwd a = .ok target →
      FileSink.target ⟨some directory⟩ cwd a' = .ok target' →
      target.place cwd ≠ target'.place cwd := by
  constructor
  · intro hall
    have hbelow : (sheetAt "src/\x00" "src").LiesBelow workPlace "src" ["\x00"] :=
      ⟨rfl, by decide, by decide, by decide +kernel⟩
    obtain ⟨target, htarget, -⟩ := hall outDirectory _ _ _ _ workPlace_isNormal hbelow
    have hrefused : FileSink.target ⟨some outDirectory⟩ workPlace (sheetAt "src/\x00" "src") =
        .error (.embeddedNull "byte") := by decide +kernel
    rw [hrefused] at htarget
    cases htarget
  · intro hall
    have hbelow : (sheetAt "src/Card.css" "src").LiesBelow workPlace "src" ["Card.css"] :=
      ⟨rfl, by decide, by decide, by decide +kernel⟩
    have hbelow' : (sheetAt "lib/Card.css" "lib").LiesBelow workPlace "lib" ["Card.css"] :=
      ⟨rfl, by decide, by decide, by decide +kernel⟩
    exact hall outDirectory _ _ _ _ _ _ _ cardPath cardPath workPlace_isNormal hbelow hbelow'
      (by decide +kernel) (by decide +kernel) (by decide +kernel) rfl

end FileSink

end ComponentSplit
