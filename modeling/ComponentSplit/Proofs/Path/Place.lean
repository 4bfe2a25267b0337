import ComponentSplit.Path.FilePath

namespace ComponentSplit

/-- A component that stands for itself when a path is worked out. -/
structure IsName (name : String) : Prop extends IsPart name where
  ne_dots : name ≠ ".."

def Place.IsNormal (place : Place) : Prop := ∀ name ∈ place, IsName name

/-- The path down through names that stand for themselves. -/
def Place.IsNormal.path {place : Place} (h : place.IsNormal) : FilePath where
  parts := place
  isPart := fun name hname => (h name hname).toIsPart

theorem dropRoot_path {place : Place} (h : place.IsNormal) : h.path.dropRoot = h.path := rfl

section Fields

variable {sep : Char} {field : List Char}

theorem fields_of_not_mem (h : sep ∉ field) : fields sep field = [field] := by
  induction field with
  | nil => rfl
  | cons c field ih =>
    rw [List.mem_cons, not_or] at h
    simp [fields, ih h.2, Ne.symm h.1]

theorem fields_append (h : sep ∉ field) (rest : List Char) :
    fields sep (field ++ sep :: rest) = field :: fields sep rest := by
  induction field with
  | nil =>
    obtain ⟨first, more, hrest⟩ := List.exists_cons_of_ne_nil (fields_ne_nil sep rest)
    simp [fields, hrest]
  | cons c field ih =>
    rw [List.mem_cons, not_or] at h
    simp [fields, ih h.2, Ne.symm h.1]

theorem fields_joinFields {names : List (List Char)} (hne : names ≠ [])
    (h : ∀ name ∈ names, sep ∉ name) : fields sep (joinFields sep names) = names := by
  induction names with
  | nil => exact absurd rfl hne
  | cons name names ih =>
    rw [List.forall_mem_cons] at h
    cases names with
    | nil => exact fields_of_not_mem h.1
    | cons next names =>
      have hrest := ih (List.cons_ne_nil _ _) h.2
      rw [joinFields, fields_append h.1, hrest]
      exact List.cons_ne_nil _ _

/-- A character that does not separate is in a joined text when it is in one of the fields. -/
theorem mem_joinFields {c : Char} (hc : c ≠ sep) {names : List (List Char)} :
    c ∈ joinFields sep names ↔ ∃ name ∈ names, c ∈ name := by
  induction names with
  | nil => simp [joinFields]
  | cons name names ih =>
    cases names with
    | nil => simp [joinFields]
    | cons next names =>
      rw [joinFields, List.mem_append, List.mem_cons, ih]
      · simp [hc]
      · exact List.cons_ne_nil _ _

end Fields

section Places

variable {place below : Place}

theorem Place.IsNormal.enter {name : String} (h : place.IsNormal) (hslash : '/' ∉ name.toList) :
    (place.enter name).IsNormal := by
  rw [Place.enter]
  split
  next => exact h
  next hkept =>
    rw [not_or] at hkept
    split
    next => exact fun other hother => h other (List.dropLast_subset _ hother)
    next hdots =>
      intro other hother
      rcases List.mem_append.mp hother with hmem | hmem
      · exact h other hmem
      · rw [List.mem_singleton.mp hmem]
        exact ⟨⟨hkept.1, hkept.2, hslash⟩, hdots⟩

theorem Place.IsNormal.foldl_enter (h : place.IsNormal) {names : List String}
    (hnames : ∀ name ∈ names, '/' ∉ name.toList) : (names.foldl Place.enter place).IsNormal := by
  induction names generalizing place with
  | nil => exact h
  | cons name names ih =>
    rw [List.forall_mem_cons] at hnames
    exact ih (h.enter hnames.1) hnames.2

/-- Whatever a path is made of, it leads to a place with names that stand for themselves. -/
theorem Place.ofPath_isNormal {cwd : Place} (hcwd : cwd.IsNormal) (path : List Char) :
    (Place.ofPath cwd path).IsNormal := by
  rw [Place.ofPath]
  refine Place.IsNormal.foldl_enter ?_ fun name => slash_not_mem_component
  split
  · exact fun name hname => absurd hname List.not_mem_nil
  · exact hcwd

theorem enter_of_isName {name : String} (h : IsName name) : place.enter name = place ++ [name] := by
  rw [Place.enter, if_neg (not_or.mpr ⟨h.ne_empty, h.ne_dot⟩), if_neg h.ne_dots]

/-- Names that stand for themselves lead straight down. -/
theorem foldl_enter_of_isNormal (h : below.IsNormal) :
    below.foldl Place.enter place = place ++ below := by
  induction below generalizing place with
  | nil => simp
  | cons name below ih =>
    obtain ⟨hname, hrest⟩ := List.forall_mem_cons.mp h
    rw [List.foldl_cons, enter_of_isName hname, ih hrest, List.append_assoc, List.singleton_append]

theorem sharedComponents_append (start below : Place) :
    sharedComponents start (start ++ below) = start.length := by
  induction start with
  | nil => cases below <;> rfl
  | cons name start ih => rw [List.cons_append, sharedComponents, if_pos rfl, ih, List.length_cons]

/-- The way to a place below goes down only. -/
theorem relativeComponents_append (start below : Place) :
    relativeComponents start (start ++ below) = below := by
  rw [relativeComponents, sharedComponents_append]
  simp

/-- A path of names that stand for themselves is read as just these, from where it is seen. -/
theorem ofText_pathOfComponents (h : below.IsNormal) :
    FilePath.ofText (pathOfComponents below) = h.path := by
  cases below with
  | nil => rfl
  | cons name below =>
    have hname := h name List.mem_cons_self
    have hslashes : ∀ field ∈ (name :: below).map String.toList, '/' ∉ field := by
      intro field hfield
      obtain ⟨other, hother, rfl⟩ := List.mem_map.mp hfield
      exact (h other hother).slash
    have hfields : fields '/' (pathOfComponents (name :: below)) =
        (name :: below).map String.toList := fields_joinFields (List.cons_ne_nil _ _) hslashes
    have hcomponents : components (pathOfComponents (name :: below)) = name :: below := by
      rw [components, hfields, List.map_map]
      simp
    have hroot : (pathOfComponents (name :: below)).takeWhile (· == '/') = [] := by
      obtain ⟨c, rest, hc⟩ :=
        List.exists_cons_of_ne_nil (mt String.toList_eq_nil_iff.mp hname.ne_empty)
      have hslash : c ≠ '/' := by
        rintro rfl
        exact hname.slash (by simp [hc])
      cases below <;> simp [pathOfComponents, joinFields, hc, hslash]
    refine FilePath.ext ?_ ?_
    · rw [FilePath.ofText, hroot]
      rfl
    · rw [FilePath.parts_ofText, hcomponents]
      refine List.filter_eq_self.mpr fun other hother => ?_
      have hother := h other hother
      exact decide_eq_true ⟨hother.ne_empty, hother.ne_dot⟩

end Places

end ComponentSplit
