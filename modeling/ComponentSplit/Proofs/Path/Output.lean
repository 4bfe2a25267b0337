import ComponentSplit.Artifact

namespace ComponentSplit

section Names

variable {path name dir file other : List Char}

theorem slash_not_mem_baseName (path : List Char) : '/' ∉ baseName path := by
  rw [baseName, List.mem_reverse]
  intro hmem
  have hkept := List.all_eq_true.mp (List.all_takeWhile (p := (· != '/')) (l := path.reverse))
  simpa using hkept _ hmem

theorem slash_not_mem_stemOf (h : '/' ∉ name) : '/' ∉ stemOf name := by
  intro hmem
  rw [stemOf] at hmem
  split at hmem
  · rcases List.mem_append.mp hmem with hdots | hcore
    · exact h (List.takeWhile_subset _ hdots)
    · rw [List.mem_reverse] at hcore
      have hrest := List.dropWhile_subset _ (List.mem_of_mem_drop hcore)
      rw [List.mem_reverse] at hrest
      exact h (List.dropWhile_subset _ hrest)
  · exact h hmem

theorem ne_slash_of_mem_reverse (h : '/' ∉ name) : ∀ c ∈ name.reverse, (c != '/') = true := by
  intro c hc
  rw [bne_iff_ne]
  rintro rfl
  exact h (List.mem_reverse.mp hc)

theorem headOf_append (h : '/' ∉ name) : headOf (path ++ name) = headOf path := by
  rw [headOf, headOf, List.reverse_append,
    List.dropWhile_append_of_pos (ne_slash_of_mem_reverse h)]

theorem baseName_append (h : '/' ∉ name) : baseName (path ++ name) = baseName path ++ name := by
  rw [baseName, baseName, List.reverse_append,
    List.takeWhile_append_of_pos (ne_slash_of_mem_reverse h), List.reverse_append,
    List.reverse_reverse]

theorem headOf_slash (path : List Char) : headOf (path ++ ['/']) = path ++ ['/'] := by
  simp [headOf]

theorem baseName_slash (path : List Char) : baseName (path ++ ['/']) = [] := by
  simp [baseName]

theorem dropTrailingSlashes_eq_self (h : path.getLast? ≠ some '/') :
    dropTrailingSlashes path = path := by
  rw [dropTrailingSlashes]
  rcases path.eq_nil_or_concat with rfl | ⟨front, c, rfl⟩
  · rfl
  · have hc : c ≠ '/' := by simpa using h
    simp [hc]

theorem getLast?_dropTrailingSlashes (path : List Char) :
    (dropTrailingSlashes path).getLast? ≠ some '/' := by
  intro h
  rw [dropTrailingSlashes, List.getLast?_reverse] at h
  have hkept := List.head?_dropWhile_not (· == '/') path.reverse
  rw [h] at hkept
  simp at hkept

/-- A directory as it comes from a path: slashes alone, or one that ends in a name. -/
def IsDirectory (dir : List Char) : Prop :=
  dir.all (· == '/') = true ∨ dir.getLast? ≠ some '/'

theorem isDirectory_directoryOf (path : List Char) : IsDirectory (directoryOf path) := by
  rw [directoryOf]
  split
  next hslashes => exact .inl hslashes
  next => exact .inr (getLast?_dropTrailingSlashes _)

/-- What a name is put behind, to lie in a directory. -/
def folderOf (dir : List Char) : List Char :=
  if dir.isEmpty ∨ dir.getLast? = some '/' then dir else dir ++ ['/']

theorem joinPath_eq (h : file.head? ≠ some '/') : joinPath dir file = folderOf dir ++ file := by
  rw [joinPath, if_neg h, folderOf]
  split
  · rfl
  · rw [List.append_assoc, List.singleton_append]

theorem folderOf_eq (dir : List Char) :
    folderOf dir = [] ∨ ∃ front, folderOf dir = front ++ ['/'] := by
  rw [folderOf]
  split
  next hkept =>
    rcases dir.eq_nil_or_concat with rfl | ⟨front, c, rfl⟩
    · exact .inl rfl
    · have hc : c = '/' := by simpa using hkept
      exact .inr ⟨front, by rw [hc, List.concat_eq_append]⟩
  next => exact .inr ⟨dir, rfl⟩

theorem headOf_folderOf (dir : List Char) : headOf (folderOf dir) = folderOf dir := by
  rcases folderOf_eq dir with h | ⟨front, h⟩
  · rw [h]
    rfl
  · rw [h, headOf_slash]

theorem baseName_folderOf (dir : List Char) : baseName (folderOf dir) = [] := by
  rcases folderOf_eq dir with h | ⟨front, h⟩
  · rw [h]
    rfl
  · rw [h, baseName_slash]

theorem head?_ne_slash (h : '/' ∉ file) : file.head? ≠ some '/' := by
  intro hhead
  exact h (List.mem_of_mem_head? hhead)

theorem baseName_joinPath (h : '/' ∉ file) : baseName (joinPath dir file) = file := by
  rw [joinPath_eq (head?_ne_slash h), baseName_append h, baseName_folderOf, List.nil_append]

theorem directoryOf_joinPath (hdir : IsDirectory dir) (h : '/' ∉ file) :
    directoryOf (joinPath dir file) = dir := by
  rw [directoryOf, joinPath_eq (head?_ne_slash h), headOf_append h, headOf_folderOf]
  by_cases hslashes : dir.all (· == '/') = true
  · have hfolder : folderOf dir = dir := by
      rw [folderOf]
      split
      next => rfl
      next hname =>
        rcases dir.eq_nil_or_concat with rfl | ⟨front, c, rfl⟩
        · simp at hname
        · simp_all
    rw [hfolder]
    exact if_pos hslashes
  · have hlast := hdir.resolve_left hslashes
    have hempty : dir ≠ [] := by
      rintro rfl
      exact hslashes rfl
    have hfolder : folderOf dir = dir ++ ['/'] := by
      rw [folderOf, if_neg]
      simpa [hempty] using hlast
    have hnames : ¬ (dir ++ ['/']).all (· == '/') = true := by
      rw [List.all_append]
      simp [hslashes]
    rw [hfolder]
    refine (if_neg hnames).trans ?_
    have hdrop := dropTrailingSlashes_eq_self hlast
    simpa [dropTrailingSlashes] using hdrop

theorem joinPath_right_inj (hfile : file.head? ≠ some '/') (hother : other.head? ≠ some '/') :
    joinPath dir file = joinPath dir other ↔ file = other := by
  rw [joinPath_eq hfile, joinPath_eq hother, List.append_cancel_left_eq]

end Names

namespace Document

variable (d : Document)

theorem isDirectory_directory : IsDirectory d.directory.toList := by
  rw [directory]
  cases d.path? with
  | none => exact .inl rfl
  | some path =>
    rw [String.toList_ofList]
    exact isDirectory_directoryOf _

theorem slash_not_mem_stem : '/' ∉ d.stem.toList := by
  rw [stem]
  cases d.path? with
  | none => decide
  | some path =>
    rw [String.toList_ofList]
    exact slash_not_mem_stemOf (slash_not_mem_baseName _)

theorem head?_fileName (extension : String) :
    (d.stem ++ "." ++ extension).toList.head? ≠ some '/' := by
  have hstem := d.slash_not_mem_stem
  rw [String.toList_append, String.toList_append]
  cases h : d.stem.toList with
  | nil => simp
  | cons c rest =>
    rw [h, List.mem_cons, not_or] at hstem
    simpa using Ne.symm hstem.1

/-- Outputs of a document differ in their paths as they differ in their extensions. -/
theorem outputPath_inj {extension other : String} :
    outputPath d.directory d.stem extension = outputPath d.directory d.stem other ↔
      extension = other := by
  rw [outputPath, outputPath, String.ofList_inj,
    joinPath_right_inj (d.head?_fileName extension) (d.head?_fileName other), String.toList_inj,
    String.append_right_inj]

end Document

namespace Artifact

/-- The artifact lies in the directory of the document, and its name is the document's own with the
artifact's extension. -/
structure IsBeside (a : Artifact) (d : Document) : Prop where
  directory : String.ofList (directoryOf a.path.toList) = d.directory
  name : a.name = d.stem ++ "." ++ a.extension

variable {a : Artifact} {d : Document}

/-- An extension with a slash in it takes the artifact elsewhere. -/
theorem isBeside_iff (h : a.path = outputPath d.directory d.stem a.extension) :
    a.IsBeside d ↔ '/' ∉ a.extension.toList := by
  constructor
  · rintro ⟨-, hname⟩ hmem
    have hslash := slash_not_mem_baseName a.path.toList
    have hbase : baseName a.path.toList = (d.stem ++ "." ++ a.extension).toList := by
      rw [← hname, Artifact.name, String.toList_ofList]
    rw [hbase, String.toList_append] at hslash
    exact hslash (List.mem_append_right _ hmem)
  · intro hmem
    have hfile : '/' ∉ (d.stem ++ "." ++ a.extension).toList := by
      rw [String.toList_append, String.toList_append, List.mem_append, List.mem_append]
      simp [d.slash_not_mem_stem, hmem]
    constructor
    · rw [h, outputPath, String.toList_ofList, directoryOf_joinPath d.isDirectory_directory hfile,
        String.ofList_toList]
    · rw [Artifact.name, h, outputPath, String.toList_ofList, baseName_joinPath hfile,
        String.ofList_toList]

end Artifact

end ComponentSplit
