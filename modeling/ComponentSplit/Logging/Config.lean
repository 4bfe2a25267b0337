import ComponentSplit.Files.Loader
import ComponentSplit.Yaml.Content

namespace ComponentSplit

/-- The variables of an environment. -/
structure Environment where
  entries : List (String × String) := []
deriving DecidableEq, Repr

namespace Environment

def get? (env : Environment) (name : String) : Option String := env.entries.lookup name

/-- The value of a variable, unless it is empty. -/
def nonempty? (env : Environment) (name : String) : Option String :=
  (env.get? name).filter (· != "")

def set (env : Environment) (name value : String) : Environment where
  entries := (name, value) :: env.entries.filter (·.1 != name)

@[simp]
theorem get?_set (env : Environment) (name value : String) :
    (env.set name value).get? name = some value := by
  simp [set, get?]

end Environment

/-- Reads the text of a configuration file, whose name goes into failures. -/
abbrev ConfigReader := (file text : String) → Except Failure Value

def yamlReader : ConfigReader := fun file text =>
  (Yaml.read text).mapError fun fault => .logging (.unreadable file fault)

/-- The configuration that is used when there is no file: the library's messages from the
environment's level on, and warnings of everything else, on the console. -/
def defaultConfig (env : Environment) : Value :=
  let handlers : Value := .list [.text "console"]
  .record [
    ("version", .int 1),
    ("disable_existing_loggers", .bool false),
    ("formatters", .record [
      ("standard", .record [
        ("format",
          .text "%(asctime)s.%(msecs)03d | %(levelname)-7s | %(name)s - %(message)s"),
        ("datefmt", .text "%H:%M:%S")])]),
    ("handlers", .record [
      ("console", .record [
        ("class", .text "logging.StreamHandler"),
        ("formatter", .text "standard"),
        ("stream", .text "ext://sys.stdout")])]),
    ("loggers", .record [
      ("sfc_pipeline", .record [
        ("level", .text ((env.get? "SFC_PIPELINE_LOG_LEVEL").getD "INFO")),
        ("handlers", handlers),
        ("propagate", .bool false)])]),
    ("root", .record [("level", .text "WARNING"), ("handlers", handlers)])]

/-- A configuration: the file it is read from, if one is named, and its value once it is read. -/
structure LogConfig where
  path : Option FilePath
  loaded : Option Value := none

namespace LogConfig

def environmentPath? (env : Environment) : Option FilePath :=
  ((env.nonempty? "SFC_PIPELINE_LOGGING_CONFIG").or
    (env.nonempty? "PREFECT_LOGGING_SETTINGS_PATH")).map fun path => .ofText path.toList

/-- A configuration from a file; without one the environment may name it. -/
def create (env : Environment) (path : Option FilePath) : LogConfig where
  path := path.or (environmentPath? env)

/-- The value a configuration has now: that of its file if it is there, else the default. -/
def read (reader : ConfigReader) (env : Environment) (tree : FileTree) (path : Option FilePath) :
    Except Failure Value := do
  match path with
  | none => pure (defaultConfig env)
  | some path =>
    if (← tree.find? path).isNone then pure (defaultConfig env)
    else
      match ← reader path.toString (← FileLoader.readText tree "utf-8" path) with
      | .null => .error (.logging .emptyFile)
      | v => pure v

/-- The value of a configuration, and the configuration that keeps it. -/
def load (reader : ConfigReader) (env : Environment) (tree : FileTree) (c : LogConfig) :
    LogConfig × Except Failure Value :=
  match c.loaded with
  | some v => (c, .ok v)
  | none =>
    match read reader env tree c.path with
    | .ok v => ({ c with loaded := some v }, .ok v)
    | .error failure => (c, .error failure)

theorem load_of_error {reader : ConfigReader} {env : Environment} {tree : FileTree}
    {c : LogConfig} {failure : Failure} (h : (c.load reader env tree).2 = .error failure) :
    (c.load reader env tree).1 = c := by
  unfold load at h ⊢
  split at h
  next => simp at h
  next =>
    split at h
    next => simp at h
    next => rfl

theorem loaded_of_load {reader : ConfigReader} {env : Environment} {tree : FileTree}
    {c : LogConfig} {v : Value} (h : (c.load reader env tree).2 = .ok v) :
    (c.load reader env tree).1.loaded = some v := by
  unfold load at h ⊢
  split at h
  next w hw =>
    cases h
    exact hw
  next =>
    split at h
    next w _ =>
      cases h
      rfl
    next => simp at h

end LogConfig

end ComponentSplit
