import ComponentSplit.Logging.Config
import ComponentSplit.Proofs.Pipeline.Naming
import ComponentSplit.Proofs.Pipeline.Unreadable

namespace ComponentSplit

theorem Charset.decode_utf8 (bytes : ByteArray) :
    Charset.utf8.decode bytes = (decodeUtf8 bytes).mapError .at := by
  unfold Charset.decode Charset.decodeBytes Charset.decodeUtf8List
  dsimp only
  rw [Array.toArray_toList]
  cases decodeUtf8 bytes with
  | error fault => rfl
  | ok text => exact congrArg Except.ok String.ofList_toList

/-- The text of a file in UTF-8: its bytes, decoded, with newlines for all line endings. -/
theorem FileLoader.readText_utf8 {t : FileTree} {path : FilePath} {bytes : ByteArray}
    (h : t.read path = .ok bytes) :
    readText t "utf-8" path =
      match decodeUtf8 bytes with
      | .ok text => .ok (String.ofList (unifyNewlines text.toList))
      | .error fault => .error (.decoding (.at fault)) := by
  have hcharset : Failure.charsetOf (if "utf-8" = "locale" then "utf-8" else "utf-8")
      "codecs.open()" = .ok .utf8 := by
    rw [Failure.charsetOf, ite_self, Charset.ofName_utf8]
  have hnull : "utf-8".contains '\x00' = false := by simp
  unfold readText
  rw [hnull, h, hcharset]
  dsimp only [bind, Except.bind]
  rw [Charset.decode_utf8]
  cases decodeUtf8 bytes with
  | error fault => rfl
  | ok text => rfl

/-- What a path leads to can be read unless it is a directory. -/
theorem FileTree.read_of_find? {t : FileTree} {path : FilePath} {place : Place}
    (h : t.find? path = .ok (some place)) :
    t.read path =
      match t.file? place with
      | some bytes => .ok bytes
      | none => .error (.file .isDirectory path.toString) := by
  have hnull : path.text.contains '\x00' = false := by
    by_contra hnull
    unfold find? at h
    rw [if_pos (eq_true_of_ne_false hnull)] at h
    cases h
  unfold find? at h
  rw [if_neg (Bool.eq_false_iff.mp hnull)] at h
  have hcheck : checkNull path = .ok () := by
    unfold checkNull
    rw [hnull]
    rfl
  unfold read
  rw [hcheck]
  dsimp only [bind, Except.bind]
  cases hfollow : t.follow path with
  | error fault =>
    rw [hfollow] at h
    cases fault <;> cases h
  | ok target =>
    rw [hfollow] at h
    obtain ⟨rfl, hholds⟩ : target = place ∧ t.holds place = true := by
      simpa [Option.filter_eq_some_iff] using h
    dsimp only
    cases hfile : t.file? target with
    | some bytes => rfl
    | none =>
      have hdirectory : t.isDirectory target = true := by simpa [holds, hfile] using hholds
      rw [hdirectory]
      rfl

namespace LogConfig

variable {reader : ConfigReader}

/-- A configuration that was not read yet is read when it is loaded. -/
theorem load_of_not_loaded {env : Environment} {tree : FileTree} {c : LogConfig}
    (h : c.loaded = none) : (c.load reader env tree).2 = read reader env tree c.path := by
  unfold load
  rw [h]
  dsimp only
  cases read reader env tree c.path with
  | ok v => rfl
  | error failure => rfl

theorem load_eq_of_error {env : Environment} {tree : FileTree} {c : LogConfig}
    {failure : Failure} (h : (c.load reader env tree).2 = .error failure) :
    c.load reader env tree = (c, .error failure) :=
  Prod.ext (load_of_error h) h

theorem load_eq_of_ok {env : Environment} {tree : FileTree} {c : LogConfig} {v : Value}
    (h : (c.load reader env tree).2 = .ok v) :
    c.load reader env tree = (⟨c.path, some v⟩, .ok v) := by
  have hloaded := loaded_of_load h
  have hpath : (c.load reader env tree).1.path = c.path := by
    unfold load
    split
    next => rfl
    next => split <;> rfl
  refine Prod.ext ?_ h
  rw [← hpath, ← hloaded]

/-- A null is no configuration. -/
def refuseNull : Except Failure Value → Except Failure Value
  | .ok .null => .error (.logging .emptyFile)
  | result => result

theorem read_of_text {env : Environment} {tree : FileTree} {path : FilePath} {text : String}
    (hfind : ∃ place, tree.find? path = .ok (some place))
    (htext : FileLoader.readText tree "utf-8" path = .ok text) :
    read reader env tree (some path) = refuseNull (reader path.toString text) := by
  obtain ⟨place, hfind⟩ := hfind
  unfold read
  dsimp only [bind, Except.bind]
  rw [hfind, htext]
  dsimp only [Option.isNone]
  rw [if_neg (by decide)]
  cases reader path.toString text with
  | error failure => rfl
  | ok v => cases v <;> rfl

theorem read_of_file {env : Environment} {tree : FileTree} {path : FilePath} {place : Place}
    {text : String} (hfind : tree.find? path = .ok (some place))
    (hfile : tree.file? place = some text.toUTF8) :
    read reader env tree (some path) =
      refuseNull (reader path.toString (String.ofList (unifyNewlines text.toList))) := by
  have hread : tree.read path = .ok text.toUTF8 := by
    rw [FileTree.read_of_find? hfind, hfile]
  have htext := FileLoader.readText_utf8 hread
  rw [decodeUtf8_eq_ok.mpr rfl] at htext
  exact read_of_text ⟨place, hfind⟩ htext

variable {env : Environment} {tree : FileTree} {path : FilePath}

end LogConfig

theorem Value.eq_null_of_kindName {v : Value} (h : v.kindName = Value.null.kindName) :
    v = .null := by
  cases v with
  | null => rfl
  | _ => simp [kindName] at h

theorem yamlReader_empty (file : String) : yamlReader file "" = .ok .null := by
  have hkind : (Yaml.read "").toOption.map Value.kindName = some Value.null.kindName := by
    decide +kernel
  have hread : Yaml.read "" = .ok .null := by
    cases hvalue : Yaml.read "" with
    | error fault =>
      rw [hvalue] at hkind
      cases hkind
    | ok v =>
      rw [hvalue] at hkind
      rw [Value.eq_null_of_kindName (Option.some.inj hkind)]
  unfold yamlReader
  rw [hread]
  rfl

end ComponentSplit
