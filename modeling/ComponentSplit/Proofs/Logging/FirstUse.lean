import Mathlib.Logic.Basic
import ComponentSplit.Logging.Setup
import ComponentSplit.Proofs.Logging.Reading

namespace ComponentSplit

namespace LogState

variable {lib : LogLibrary}

/-- What applying a configuration leads to, and how it ends: it is handed on once, and its level
for the host is passed on if it is accepted. -/
inductive Applies (lib : LogLibrary) (s : LogState) (config : Value) :
    LogState → Except Failure Unit → Prop
  | refused {loggers : LoggerState} {failure : Failure}
      (h : lib.configure s.env s.toLoggerState config = (loggers, .error failure)) :
      Applies lib s config
        { s with toLoggerState := loggers, handed := s.handed ++ [config] } (.error failure)
  | levelAtFault {loggers : LoggerState} {failure : Failure}
      (h : lib.configure s.env s.toLoggerState config = (loggers, .ok ()))
      (hlevel : exportLevel s.env config = .error failure) :
      Applies lib s config
        { s with toLoggerState := loggers, handed := s.handed ++ [config] } (.error failure)
  | applied {loggers : LoggerState} {env : Environment}
      (h : lib.configure s.env s.toLoggerState config = (loggers, .ok ()))
      (hlevel : exportLevel s.env config = .ok env) :
      Applies lib s config
        { s with toLoggerState := loggers, env, handed := s.handed ++ [config] } (.ok ())

theorem configure_applies (lib : LogLibrary) (s : LogState) (config : Value) :
    s.Applies lib config (s.configure lib config).1 (s.configure lib config).2 := by
  rcases hconfigure : lib.configure s.env s.toLoggerState config with ⟨loggers, result⟩
  unfold configure
  rw [hconfigure]
  cases result with
  | error failure => exact .refused hconfigure
  | ok _ =>
    cases hlevel : exportLevel s.env config with
    | error failure =>
      dsimp only
      rw [hlevel]
      exact .levelAtFault hconfigure hlevel
    | ok env =>
      dsimp only
      rw [hlevel]
      exact .applied hconfigure hlevel

section Applies

variable {s s' : LogState} {config : Value} {result : Except Failure Unit}

theorem Applies.handed (h : s.Applies lib config s' result) :
    s'.handed = s.handed ++ [config] := by
  cases h <;> rfl

theorem Applies.setUp (h : s.Applies lib config s' result) : s'.setUp = s.setUp := by
  cases h <;> rfl

end Applies

theorem setLevels_changes (lib : LogLibrary) (level : String) (names : List String)
    (s : LogState) :
    ∃ loggers, (s.setLevels lib level names).1 = { s with toLoggerState := loggers } := by
  induction names generalizing s with
  | nil => exact ⟨s.toLoggerState, rfl⟩
  | cons name names ih =>
    unfold setLevels
    split
    next => exact ⟨s.toLoggerState, rfl⟩
    next logger _ =>
      split
      next => exact ⟨s.toLoggerState, rfl⟩
      next threshold _ =>
        exact ih { s with toLoggerState := s.toLoggerState.setLevel logger threshold }

theorem setLevel_changes (lib : LogLibrary) (s : LogState) (level : String) :
    ∃ env loggers, (s.setLevel lib level).1 = { s with toLoggerState := loggers, env } := by
  obtain ⟨loggers, hloggers⟩ := setLevels_changes lib level loggerNames s
  unfold setLevel
  split
  next => exact ⟨s.env, s.toLoggerState, rfl⟩
  next =>
    split
    next s' failure hlevels =>
      rw [hlevels] at hloggers
      exact ⟨s.env, loggers, hloggers⟩
    next s' hlevels =>
      rw [hlevels] at hloggers
      refine ⟨s'.env.set hostLevelVariable level, loggers, ?_⟩
      dsimp only at hloggers ⊢
      rw [hloggers]

theorem setLevel_setUp (lib : LogLibrary) (s : LogState) (level : String) :
    (s.setLevel lib level).1.setUp = s.setUp := by
  obtain ⟨env, loggers, hchanges⟩ := setLevel_changes lib s level
  rw [hchanges]

theorem setLevel_handed (lib : LogLibrary) (s : LogState) (level : String) :
    (s.setLevel lib level).1.handed = s.handed := by
  obtain ⟨env, loggers, hchanges⟩ := setLevel_changes lib s level
  rw [hchanges]

theorem setLevels_reaches {level : String} {threshold : Threshold} {names : List String}
    {s s' : LogState} (hlevel : Threshold.ofName? level = some threshold)
    (h : s.setLevels lib level names = (s', .ok ())) :
    (∀ logger, s.levels logger = threshold.number → s'.levels logger = threshold.number) ∧
    ∀ name ∈ names, ∃ logger, lib.logger name = .ok logger ∧
      s'.levels logger = threshold.number := by
  induction names generalizing s with
  | nil =>
    cases h
    exact ⟨fun logger hlogger => hlogger, by simp⟩
  | cons name names ih =>
    unfold setLevels at h
    cases hname : lib.logger name with
    | error failure =>
      rw [hname] at h
      cases h
    | ok logger =>
      rw [hname] at h
      dsimp only at h
      rw [hlevel] at h
      obtain ⟨hkept, hnames⟩ := ih h
      have hset : (s.toLoggerState.setLevel logger threshold).levels logger =
          threshold.number := if_pos rfl
      refine ⟨fun other hother => hkept other ?_, List.forall_mem_cons.mpr
        ⟨⟨logger, hname, hkept logger hset⟩, hnames⟩⟩
      show (if other = logger then threshold.number else s.levels other) = threshold.number
      rw [hother, ite_self]

/-- A level that is given reaches each of the library's loggers, and the host. -/
theorem setLevel_reaches {s s' : LogState} {level : String} (hlevel : level ≠ "")
    (h : s.setLevel lib level = (s', .ok ())) :
    s'.env.get? hostLevelVariable = some level ∧
    ∃ threshold, Threshold.ofName? level = some threshold ∧
      ∀ name ∈ loggerNames, ∃ logger, lib.logger name = .ok logger ∧
        s'.levels logger = threshold.number := by
  unfold setLevel at h
  rw [if_neg hlevel] at h
  split at h
  next => cases h
  next t hlevels =>
    cases h
    refine ⟨Environment.get?_set _ _ _, ?_⟩
    cases hthreshold : Threshold.ofName? level with
    | none =>
      unfold loggerNames setLevels at hlevels
      rw [hthreshold] at hlevels
      split at hlevels <;> cases hlevels
    | some threshold => exact ⟨threshold, rfl, (setLevels_reaches hthreshold hlevels).2⟩

theorem setLevel_empty (lib : LogLibrary) (s : LogState) : s.setLevel lib "" = (s, .ok ()) := rfl

theorem apply_of_load_error {s : LogState} {c : LogConfig} {failure : Failure}
    (h : (c.load lib.read s.env s.tree).2 = .error failure) :
    s.apply lib c = (s, c, .error failure) := by
  unfold apply
  rw [LogConfig.load_eq_of_error h]

theorem apply_of_load_ok {s : LogState} {c : LogConfig} {v : Value}
    (h : (c.load lib.read s.env s.tree).2 = .ok v) :
    s.apply lib c = ((s.configure lib v).1, ⟨c.path, some v⟩, (s.configure lib v).2) := by
  unfold apply
  rw [LogConfig.load_eq_of_ok h]

/-- An application configures from a value, or changes nothing. -/
theorem apply_state (lib : LogLibrary) (s : LogState) (c : LogConfig) :
    (s.apply lib c).1 = s ∨ ∃ v result, s.Applies lib v (s.apply lib c).1 result := by
  cases hload : (c.load lib.read s.env s.tree).2 with
  | error failure => exact .inl (congrArg Prod.fst (apply_of_load_error hload))
  | ok v =>
    rw [apply_of_load_ok hload]
    exact .inr ⟨v, _, configure_applies lib s v⟩

theorem apply_setUp (s : LogState) (c : LogConfig) : (s.apply lib c).1.setUp = s.setUp := by
  obtain hsame | ⟨v, result, happlies⟩ := apply_state lib s c
  · rw [hsame]
  · exact happlies.setUp

section SetUp

variable {s : LogState} {path : Option FilePath}

/-- The configuration of a set-up cannot be read: nothing is handed on. -/
theorem configureWith_of_read_error {level : String} {failure : Failure}
    (h : LogConfig.read lib.read s.env s.tree (LogConfig.create s.env path).path =
      .error failure) :
    s.configureWith lib path level =
      ({ s with setUp := some (LogConfig.create s.env path) }, .error failure) := by
  have hload := (LogConfig.load_of_not_loaded rfl).trans h
  unfold configureWith
  rw [apply_of_load_error hload]

/-- The configuration of a set-up is read: it is applied, and then the level is set. -/
theorem configureWith_of_read_ok {v : Value}
    (h : LogConfig.read lib.read s.env s.tree (LogConfig.create s.env path).path = .ok v)
    (level : String) :
    ∃ s' result, s.Applies lib v s' result ∧
      s.configureWith lib path level =
        match result with
        | .error failure =>
          ({ s' with setUp := some ⟨(LogConfig.create s.env path).path, some v⟩ }, .error failure)
        | .ok () =>
          setLevel lib
            { s' with setUp := some ⟨(LogConfig.create s.env path).path, some v⟩ } level := by
  have hload := (LogConfig.load_of_not_loaded rfl).trans h
  refine ⟨_, _, configure_applies lib s v, ?_⟩
  unfold configureWith
  rewrite [apply_of_load_ok hload]
  rfl

/-- Logging counts as set up whatever becomes of the configuration. -/
theorem configureWith_setUp (s : LogState) (path : Option FilePath) (level : String) :
    (s.configureWith lib path level).1.setUp.isSome = true := by
  cases hread : LogConfig.read lib.read s.env s.tree (LogConfig.create s.env path).path with
  | error failure =>
    rw [configureWith_of_read_error hread]
    rfl
  | ok v =>
    obtain ⟨s', result, -, hset⟩ := configureWith_of_read_ok hread level
    rw [hset]
    cases result with
    | error failure => rfl
    | ok _ =>
      dsimp only
      rw [setLevel_setUp]
      rfl

/-- A set-up fails to read its configuration, or hands it on. -/
theorem configureWith_tries (s : LogState) (path : Option FilePath) (level : String) :
    (∃ failure, (s.configureWith lib path level).2 = .error failure) ∨
      (s.configureWith lib path level).1.handed ≠ s.handed := by
  cases hread : LogConfig.read lib.read s.env s.tree (LogConfig.create s.env path).path with
  | error failure =>
    left
    rw [configureWith_of_read_error hread]
    exact ⟨failure, rfl⟩
  | ok v =>
    right
    obtain ⟨s', result, happlies, hset⟩ := configureWith_of_read_ok hread level
    have hhanded : s'.handed ≠ s.handed := by
      rw [happlies.handed]
      simp
    rw [hset]
    cases result with
    | error failure => exact hhanded
    | ok _ =>
      dsimp only
      rw [setLevel_handed]
      exact hhanded

theorem firstUse_of_setUp (h : s.setUp.isSome = true) : s.firstUse lib = (s, .ok ()) := by
  obtain ⟨c, hc⟩ := Option.isSome_iff_exists.mp h
  unfold firstUse
  rw [hc]

theorem firstUse_of_not_setUp (h : ¬ s.setUp.isSome = true) :
    s.firstUse lib = s.configureWith lib none "" := by
  unfold firstUse
  rw [Option.not_isSome_iff_eq_none.mp h]

end SetUp

theorem step_setUp (s : LogState) (path : Option FilePath) (level : String) :
    s.step lib (.setUp path level) =
      ((s.configureWith lib path level).1,
        (s.configureWith lib path level).2.map fun _ => .done) := rfl

theorem step_logger (s : LogState) (name : String) :
    s.step lib (.logger name) =
      ((s.firstUse lib).1,
        (s.firstUse lib).2.bind fun _ => (lib.logger name).map .named) := by
  unfold step logger
  dsimp only
  rcases s.firstUse lib with ⟨s', failure | done⟩ <;> rfl

/-- What an action does first, which may set logging up: all of a set-up, and what comes before a
logger is handed out. -/
def setUpPart (lib : LogLibrary) (s : LogState) : LogAction → LogState × Except Failure Unit
  | .setUp path level => s.configureWith lib path level
  | .logger _ => s.firstUse lib
  | _ => (s, .ok ())

/-- An action sets logging up, or tries to: it fails at that, or hands a configuration on. -/
def TriesSetUp (lib : LogLibrary) (s : LogState) (action : LogAction) : Prop :=
  (∃ failure, (s.setUpPart lib action).2 = .error failure) ∨
    (s.setUpPart lib action).1.handed ≠ s.handed

/-- The set-up goes through, its level included. -/
def SetsUp (lib : LogLibrary) (s : LogState) (action : LogAction) : Prop :=
  s.TriesSetUp lib action ∧ (s.setUpPart lib action).2 = .ok ()

theorem not_triesSetUp {s : LogState} {action : LogAction}
    (h : s.setUpPart lib action = (s, .ok ())) : ¬ s.TriesSetUp lib action := by
  unfold TriesSetUp
  rw [h]
  simp

theorem triesSetUp_logger_iff (s : LogState) (name : String) :
    s.TriesSetUp lib (.logger name) ↔ ¬ s.setUp.isSome = true := by
  constructor
  · intro htries hset
    have hpart : s.setUpPart lib (.logger name) = (s, .ok ()) := firstUse_of_setUp hset
    exact not_triesSetUp hpart htries
  · intro hset
    unfold TriesSetUp setUpPart
    dsimp only
    rw [firstUse_of_not_setUp hset]
    exact configureWith_tries s none ""

/-- Logging is set up by the actions that try to, and stays so. -/
theorem step_setUp_iff (s : LogState) (action : LogAction) :
    (s.step lib action).1.setUp.isSome = true ↔
      s.setUp.isSome = true ∨ s.TriesSetUp lib action := by
  cases action with
  | create path => exact (or_iff_left (not_triesSetUp rfl)).symm
  | load => exact (or_iff_left (not_triesSetUp rfl)).symm
  | apply =>
    have hsame : (s.step lib .apply).1.setUp = s.setUp := apply_setUp s s.currentConfig
    rw [hsame]
    exact (or_iff_left (not_triesSetUp rfl)).symm
  | write path text => exact (or_iff_left (not_triesSetUp rfl)).symm
  | setUp path level =>
    rw [step_setUp]
    exact iff_of_true (configureWith_setUp s path level) (.inr (configureWith_tries s path level))
  | logger name =>
    rw [triesSetUp_logger_iff, step_logger]
    by_cases hset : s.setUp.isSome = true
    · rw [firstUse_of_setUp hset]
      exact iff_of_true hset (.inl hset)
    · rw [firstUse_of_not_setUp hset]
      exact iff_of_true (configureWith_setUp s none "") (.inr hset)

/-- The state that actions lead to. -/
def after (lib : LogLibrary) (s : LogState) (actions : List LogAction) : LogState :=
  (s.run lib actions).1

/-- One of the actions is such as `P` says, in the state it is taken in. -/
def Meets (lib : LogLibrary) (P : LogState → LogAction → Prop) (s : LogState) :
    List LogAction → Prop
  | [] => False
  | action :: rest => P s action ∨ Meets lib P (s.step lib action).1 rest

theorem Meets.mono {P Q : LogState → LogAction → Prop} (h : ∀ s action, P s action → Q s action)
    {s : LogState} {actions : List LogAction} (hmeets : s.Meets lib P actions) :
    s.Meets lib Q actions := by
  induction actions generalizing s with
  | nil => exact hmeets
  | cons action rest ih =>
    obtain hfirst | hrest := hmeets
    · exact .inl (h s action hfirst)
    · exact .inr (ih hrest)

theorem after_setUp_iff (s : LogState) (actions : List LogAction) :
    (s.after lib actions).setUp.isSome = true ↔
      s.setUp.isSome = true ∨ s.Meets lib (TriesSetUp lib) actions := by
  induction actions generalizing s with
  | nil => exact (or_iff_left id).symm
  | cons action rest ih =>
    have hstep : s.after lib (action :: rest) = (s.step lib action).1.after lib rest := rfl
    rw [hstep, ih, step_setUp_iff, Meets, or_assoc]

/-- What a logger does when it sets logging up: it applies the configuration that is there, once,
or raises the failure to read one. It is handed out when nothing fails. -/
inductive SetsUpFirst (lib : LogLibrary) (s : LogState) (name : String) :
    LogState × Except Failure LogAnswer → Prop
  | unread {failure : Failure}
      (h : LogConfig.read lib.read s.env s.tree (LogConfig.create s.env none).path =
        .error failure) :
      SetsUpFirst lib s name ({ s with setUp := some (.create s.env none) }, .error failure)
  | applied {config : Value} {s' : LogState} {result : Except Failure Unit}
      (h : LogConfig.read lib.read s.env s.tree (LogConfig.create s.env none).path = .ok config)
      (happlies : s.Applies lib config s' result) :
      SetsUpFirst lib s name
        ({ s' with setUp := some ⟨(LogConfig.create s.env none).path, some config⟩ },
          result.bind fun _ => (lib.logger name).map .named)

theorem setsUpFirst_of_not_setUp {s : LogState} (h : ¬ s.setUp.isSome = true) (name : String) :
    s.SetsUpFirst lib name (s.step lib (.logger name)) := by
  rw [step_logger, firstUse_of_not_setUp h]
  cases hread : LogConfig.read lib.read s.env s.tree (LogConfig.create s.env none).path with
  | error failure =>
    rw [configureWith_of_read_error hread]
    exact .unread hread
  | ok config =>
    obtain ⟨s', result, happlies, hset⟩ := configureWith_of_read_ok hread ""
    rw [hset]
    have hfirst : s.SetsUpFirst lib name _ := .applied hread happlies
    cases result with
    | error failure => exact hfirst
    | ok _ =>
      dsimp only
      rw [setLevel_empty]
      exact hfirst

/-- A logger sets logging up exactly when no action before it tried to, asked for or at the first
use of a logger, with success or without; else it leaves everything as it is. Loggers that try until
a set-up has gone through would do the same as long as none was tried, and once one has gone
through. -/
theorem logger_triesSetUp_iff (lib : LogLibrary) (env : Environment) (loggers : LoggerState)
    (before : List LogAction) (name : String) :
    let start : LogState := { toLoggerState := loggers, env }
    let s := start.after lib before
    let tried := start.Meets lib (TriesSetUp lib) before
    let succeeded := start.Meets lib (SetsUp lib) before
    (s.TriesSetUp lib (.logger name) ↔ ¬ tried) ∧
    (tried → s.step lib (.logger name) = (s, (lib.logger name).map .named)) ∧
    (¬ tried → s.SetsUpFirst lib name (s.step lib (.logger name))) ∧
    ((s.TriesSetUp lib (.logger name) ↔ ¬ succeeded) ↔ (tried → succeeded)) := by
  intro start s tried succeeded
  have hset : s.setUp.isSome = true ↔ tried := by
    have hafter : s.setUp.isSome = true ↔ start.setUp.isSome = true ∨ tried :=
      after_setUp_iff start before
    have hstart : start.setUp.isSome = false := rfl
    rw [hstart] at hafter
    simpa using hafter
  have htries : s.TriesSetUp lib (.logger name) ↔ ¬ tried := by
    rw [triesSetUp_logger_iff, hset]
  have hsucceeded : succeeded → tried := Meets.mono fun _ _ h => h.1
  refine ⟨htries, ?_, ?_, ?_⟩
  · intro h
    rw [step_logger, firstUse_of_setUp (hset.mpr h)]
    rfl
  · intro h
    exact setsUpFirst_of_not_setUp (mt hset.mp h) name
  · rw [htries, not_iff_not]
    constructor
    · intro h
      exact h.mp
    · intro h
      exact ⟨h, hsucceeded⟩

/-- Loggers below that of the host, with configurations that change nothing. -/
def plainLibrary : LogLibrary where
  read := yamlReader
  configure _ loggers _ := (loggers, .ok ())
  logger name := .ok ("prefect." ++ name)

/-- A working directory with an empty configuration file in it. -/
def besideEmptyConfig : LogState where
  tree := .ofFiles ["w"] [("bad.yml", "".toUTF8)]

def setUpFromEmpty : LogAction := .setUp (some (.ofText "bad.yml".toList)) ""

theorem step_setUpFromEmpty : besideEmptyConfig.step plainLibrary setUpFromEmpty =
    ({ besideEmptyConfig with setUp := some (.create {} (some (.ofText "bad.yml".toList))) },
      .error (.logging .emptyFile)) := by
  have hnothing : String.ofList (unifyNewlines "".toList) = "" := rfl
  have hread : LogConfig.read yamlReader {} besideEmptyConfig.tree
      (some (.ofText "bad.yml".toList)) = .error (.logging .emptyFile) := by
    have hfind : besideEmptyConfig.tree.find? (.ofText "bad.yml".toList) =
        .ok (some ["w", "bad.yml"]) := rfl
    have hfile : besideEmptyConfig.tree.file? ["w", "bad.yml"] = some "".toUTF8 := rfl
    rw [LogConfig.read_of_file hfind hfile, hnothing, yamlReader_empty]
    rfl
  unfold setUpFromEmpty
  rw [step_setUp, configureWith_of_read_error hread]
  rfl

/-- A set-up that fails counts: the logger after it hands no configuration on. -/
theorem failed_setUp_counts :
    (∃ failure, (besideEmptyConfig.step plainLibrary setUpFromEmpty).2 = .error failure) ∧
    ¬ besideEmptyConfig.Meets plainLibrary (SetsUp plainLibrary) [setUpFromEmpty] ∧
    ¬ (besideEmptyConfig.after plainLibrary [setUpFromEmpty]).TriesSetUp plainLibrary
      (.logger "x") ∧
    (besideEmptyConfig.after plainLibrary [setUpFromEmpty, .logger "x"]).handed = [] := by
  have hafter : besideEmptyConfig.after plainLibrary [setUpFromEmpty] =
      (besideEmptyConfig.step plainLibrary setUpFromEmpty).1 := rfl
  have hset : (besideEmptyConfig.after plainLibrary [setUpFromEmpty]).setUp.isSome = true := by
    rw [hafter, step_setUpFromEmpty]
    rfl
  refine ⟨?_, ?_, ?_, ?_⟩
  · rw [step_setUpFromEmpty]
    exact ⟨_, rfl⟩
  · rintro (⟨-, hthrough⟩ | hnone)
    · have hanswer : (besideEmptyConfig.step plainLibrary setUpFromEmpty).2 =
          (besideEmptyConfig.setUpPart plainLibrary setUpFromEmpty).2.map fun _ => .done := rfl
      rw [step_setUpFromEmpty, hthrough] at hanswer
      cases hanswer
    · exact hnone
  · rw [triesSetUp_logger_iff, not_not]
    exact hset
  · have hlast : besideEmptyConfig.after plainLibrary [setUpFromEmpty, .logger "x"] =
        ((besideEmptyConfig.after plainLibrary [setUpFromEmpty]).step plainLibrary
          (.logger "x")).1 := rfl
    rw [hlast, step_logger, firstUse_of_setUp hset, hafter, step_setUpFromEmpty]
    rfl

end LogState

end ComponentSplit
