import ComponentSplit.Proofs.Files.Rewriting
import ComponentSplit.Proofs.Logging.FirstUse

namespace ComponentSplit

namespace LogConfig

end LogConfig

/-- What may happen once a configuration is created: it is loaded, it is applied, or a file is
written. All else, such as variables that are set, files that vanish, set-ups, and other
configurations in use, leads to another world with the same configuration. -/
inductive ConfigEvent
  | load
  | apply
  | write (path : FilePath) (text : String)
  | elsewhere (world : LogState)

namespace LogState

/-- Another world, with the configuration of this one. -/
def carryTo (s world : LogState) : LogState := { world with current := s.current }

def undergo (lib : LogLibrary) (s : LogState) : ConfigEvent → LogState
  | .load => (s.step lib .load).1
  | .apply => (s.step lib .apply).1
  | .write path text => (s.step lib (.write path text)).1
  | .elsewhere world => s.carryTo world

/-- What the configuration turns out to be in an event: a load answers it, and an application hands
it on, be it accepted or not. -/
def shown? (lib : LogLibrary) (s : LogState) : ConfigEvent → Option Value
  | .load =>
    match (s.step lib .load).2 with
    | .ok (.loaded v) => some v
    | _ => none
  | .apply => (s.step lib .apply).1.handed[s.handed.length]?
  | .write .. | .elsewhere _ => none

/-- The configuration created last, from the file at a path, is used with a value: it is loaded as
that value and applied as that value, and has it from then on, also when the value is refused where
it is applied. -/
structure Uses (lib : LogLibrary) (s : LogState) (path : Option FilePath) (v : Value) : Prop where
  load : s.step lib .load = ({ s with current := some ⟨path, some v⟩ }, .ok (.loaded v))
  apply : ∃ s' result, s.Applies lib v s' result ∧
    s.step lib .apply =
      ({ s' with current := some ⟨path, some v⟩ }, result.map fun _ => .done)

/-- A use of the configuration created last raises a failure and leaves everything as it is. -/
structure Refuses (lib : LogLibrary) (s : LogState) (failure : Failure) : Prop where
  load : s.step lib .load = (s, .error failure)
  apply : s.step lib .apply = (s, .error failure)

variable {lib : LogLibrary} {s : LogState} {c : LogConfig}

theorem Uses.undergo {path : Option FilePath} {v : Value} {event : ConfigEvent}
    (h : s.Uses lib path v) (hevent : event = .load ∨ event = .apply) :
    s.shown? lib event = some v ∧
      (s.undergo lib event).current = some ⟨path, some v⟩ := by
  unfold shown? LogState.undergo
  obtain rfl | rfl := hevent
  · dsimp only
    rw [h.load]
    exact ⟨rfl, rfl⟩
  · obtain ⟨s', result, happlies, hstep⟩ := h.apply
    dsimp only
    rw [hstep]
    dsimp only
    rw [happlies.handed]
    exact ⟨List.getElem?_concat_length, rfl⟩

theorem Refuses.undergo {failure : Failure} {event : ConfigEvent} (h : s.Refuses lib failure)
    (hevent : event = .load ∨ event = .apply) :
    s.shown? lib event = none ∧ s.undergo lib event = s := by
  unfold shown? LogState.undergo
  obtain rfl | rfl := hevent
  · dsimp only
    rw [h.load]
    exact ⟨rfl, rfl⟩
  · dsimp only
    rw [h.apply]
    exact ⟨List.getElem?_length s.handed, rfl⟩

theorem exportLevel_of_level {env env' : Environment} {level : String}
    (h : env.get? hostLevelVariable = some level) {config : Value}
    (hlevel : exportLevel env config = .ok env') : env' = env := by
  unfold exportLevel at hlevel
  split at hlevel
  next => cases hlevel
  next =>
    cases hlevel
    rfl
  next =>
    rw [h] at hlevel
    cases hlevel
    rfl

theorem Applies.env {s' : LogState} {level : String} {v : Value} {result : Except Failure Unit}
    (happlies : s.Applies lib v s' result) (h : s.env.get? hostLevelVariable = some level) :
    s'.env = s.env := by
  cases happlies with
  | refused => rfl
  | levelAtFault => rfl
  | applied _ hlevel => exact exportLevel_of_level h hlevel

end LogState

end ComponentSplit
