import ComponentSplit.Logging.Config

namespace ComponentSplit

/-- The level from which on a logger reports messages. -/
inductive Threshold
  | unset
  | debug
  | info
  | warning
  | error
  | critical
deriving DecidableEq, Repr

namespace Threshold

def number : Threshold → Int
  | unset => 0
  | debug => 10
  | info => 20
  | warning => 30
  | error => 40
  | critical => 50

def ofName? : String → Option Threshold
  | "NOTSET" => some unset
  | "DEBUG" => some debug
  | "INFO" => some info
  | "WARNING" | "WARN" => some warning
  | "ERROR" => some error
  | "CRITICAL" | "FATAL" => some critical
  | _ => none

end Threshold

def loggerNames : List String :=
  ["sfc_pipeline", "sfc_pipeline.parsing", "sfc_pipeline.compilers", "sfc_pipeline.pipeline",
    "sfc_pipeline.sinks"]

/-- The variable that holds the level of the host. -/
def hostLevelVariable : String := "PREFECT_LOGGING_LEVEL"

/-- The level for the host in the entry of its logger. -/
def hostLevelIn (logger : Value) : Except Failure Value :=
  match logger with
  | .record fields => .ok ((fields.lookup "level").getD (.text "INFO"))
  | v => .error (.logging (.notRecord v.kindName))

/-- The level for the host among the loggers of a configuration, if the host is one of them. -/
def hostLevelAmong (loggers : Value) : Except Failure (Option Value) :=
  match loggers with
  | .record fields =>
    match fields.lookup "prefect" with
    | none => .ok none
    | some logger => (hostLevelIn logger).map some
  -- An accepted configuration need not have a record here. What configures loggers takes a text
  -- such as `cfg://prefect_loggers` for another part of it, and a host may put its own in place.
  | .list items =>
    if items.any (· == .text "prefect") then
      .error (.logging .listByName)
    else .ok none
  | .text s =>
    if (s.splitOn "prefect").length != 1 then
      .error (.logging .textByName)
    else .ok none
  | .bytes _ => .error (.logging .bytesByText)
  | v => .error (.logging (.notCollection v.kindName))

/-- The level for the host in a configuration, if it gives one. -/
def hostLevel (config : Value) : Except Failure (Option Value) :=
  match config with
  | .record fields => hostLevelAmong ((fields.lookup "loggers").getD (.record []))
  | v => .error (.logging (.notRecord v.kindName))

/-- The environment after the level for the host in a configuration is passed on. The level is not
looked at where the environment has one. -/
def exportLevel (env : Environment) (config : Value) : Except Failure Environment :=
  match hostLevel config with
  | .error failure => .error failure
  | .ok none => .ok env
  | .ok (some level) =>
    match env.get? hostLevelVariable, level with
    | some _, _ => .ok env
    | none, .text level =>
      if level.contains '\x00' then .error (.embeddedNull "byte")
      else .ok (env.set hostLevelVariable level)
    | none, v => .error (.logging (.notText v.kindName))

/-- What configuring loggers may change: the files, some of which loggers write, and the level that
each logger reports from, by its full name. -/
structure LoggerState where
  tree : FileTree
  levels : String → Int := fun _ => 0

def LoggerState.setLevel (loggers : LoggerState) (name : String) (threshold : Threshold) :
    LoggerState :=
  { loggers with
    levels := fun other => if other = name then threshold.number else loggers.levels other }

/-- What logging takes from elsewhere: the reader of configuration files, what configures loggers
from a value, and what hands out the host's logger of a name, by its full name. Each may fail. A
configuration that is refused may have been applied in part. -/
structure LogLibrary where
  read : ConfigReader
  configure : (env : Environment) → (loggers : LoggerState) → (config : Value) →
    LoggerState × Except Failure Unit
  logger : (name : String) → Except Failure String

/-- What logging has come to: the environment it sees, all configurations that were handed on to be
applied, those that were refused among them, and the configuration of the set-up, if there was
one. -/
structure LogState extends LoggerState where
  env : Environment := {}
  handed : List Value := []
  setUp : Option LogConfig := none
  current : Option LogConfig := none

namespace LogState

/-- Configure from a value. The level for the host is passed on only when the value is accepted. -/
def configure (lib : LogLibrary) (s : LogState) (config : Value) :
    LogState × Except Failure Unit :=
  let (loggers, result) := lib.configure s.env s.toLoggerState config
  let s := { s with toLoggerState := loggers, handed := s.handed ++ [config] }
  match result with
  | .error failure => (s, .error failure)
  | .ok () =>
    match exportLevel s.env config with
    | .error failure => (s, .error failure)
    | .ok env => ({ s with env }, .ok ())

/-- Read a configuration, if need be, and configure from it. -/
def apply (lib : LogLibrary) (s : LogState) (c : LogConfig) :
    LogState × LogConfig × Except Failure Unit :=
  let (c, read) := c.load lib.read s.env s.tree
  match read with
  | .error failure => (s, c, .error failure)
  | .ok config =>
    let (s, result) := s.configure lib config
    (s, c, result)

/-- Give loggers a level, one after the other. -/
def setLevels (lib : LogLibrary) (level : String) (s : LogState) :
    (names : List String) → LogState × Except Failure Unit
  | [] => (s, .ok ())
  | name :: names =>
    match lib.logger name with
    | .error failure => (s, .error failure)
    | .ok logger =>
      match Threshold.ofName? level with
      | none => (s, .error (.logging (.unknownLevel level)))
      | some threshold =>
        setLevels lib level
          { s with toLoggerState := s.toLoggerState.setLevel logger threshold } names

/-- Give the library's loggers and the host a level; the empty one leaves them as they are. -/
def setLevel (lib : LogLibrary) (s : LogState) (level : String) : LogState × Except Failure Unit :=
  if level = "" then (s, .ok ())
  else
    match s.setLevels lib level loggerNames with
    | (s, .error failure) => (s, .error failure)
    | (s, .ok ()) => ({ s with env := s.env.set hostLevelVariable level }, .ok ())

/-- Set logging up. The configuration counts as that of the set-up even when it cannot be
applied. -/
def configureWith (lib : LogLibrary) (s : LogState) (path : Option FilePath) (level : String) :
    LogState × Except Failure Unit :=
  let (s, c, result) := s.apply lib (.create s.env path)
  let s := { s with setUp := some c }
  match result with
  | .error failure => (s, .error failure)
  | .ok () => s.setLevel lib level

/-- Set logging up when nothing did. -/
def firstUse (lib : LogLibrary) (s : LogState) : LogState × Except Failure Unit :=
  match s.setUp with
  | some _ => (s, .ok ())
  | none => s.configureWith lib none ""

/-- The full name of a logger, after a set-up when there was none. -/
def logger (lib : LogLibrary) (s : LogState) (name : String) : LogState × Except Failure String :=
  match s.firstUse lib with
  | (s, .error failure) => (s, .error failure)
  | (s, .ok ()) => (s, lib.logger name)

end LogState

/-- What may be done about logging. `load` and `apply` concern the configuration created last. -/
inductive LogAction
  | create (path : Option FilePath)
  | load
  | apply
  | write (path : FilePath) (text : String)
  | setUp (path : Option FilePath) (level : String)
  | logger (name : String)

/-- What an action answers. -/
inductive LogAnswer
  | created (path : Option FilePath)
  | loaded (config : Value)
  | named (logger : String)
  | done

namespace LogState

/-- The configuration created last; before any is, the one that the environment names. -/
def currentConfig (s : LogState) : LogConfig := s.current.getD (.create s.env none)

def step (lib : LogLibrary) (s : LogState) : LogAction → LogState × Except Failure LogAnswer
  | .create path =>
    let c := LogConfig.create s.env path
    ({ s with current := some c }, .ok (.created c.path))
  | .load =>
    let (c, read) := s.currentConfig.load lib.read s.env s.tree
    ({ s with current := some c }, read.map .loaded)
  | .apply =>
    let (s, c, result) := s.apply lib s.currentConfig
    ({ s with current := some c }, result.map fun _ => .done)
  | .write path text =>
    ({ s with tree := s.tree.put (path.place s.tree.cwd) text.toUTF8 }, .ok .done)
  | .setUp path level =>
    let (s, result) := s.configureWith lib path level
    (s, result.map fun _ => .done)
  | .logger name =>
    let (s, result) := s.logger lib name
    (s, result.map .named)

/-- Take actions one after the other; the answers are in their order. -/
def run (lib : LogLibrary) (s : LogState) :
    List LogAction → LogState × List (Except Failure LogAnswer)
  | [] => (s, [])
  | action :: rest =>
    let (s, answer) := s.step lib action
    let (s, answers) := run lib s rest
    (s, answer :: answers)

end LogState

end ComponentSplit
