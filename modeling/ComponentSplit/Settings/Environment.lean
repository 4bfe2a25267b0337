import ComponentSplit.Failure
import ComponentSplit.Settings.Basic
import ComponentSplit.Settings.DotEnv
import ComponentSplit.Settings.Integer
import ComponentSplit.Text.Lowercase

namespace ComponentSplit

/-- A variable that the environment can hold: its name is not empty and has no equals sign, and there
is no null in it or its value. -/
def checkVariable (name value : String) : Except Failure Unit :=
  if name.contains '\x00' || value.contains '\x00' then .error (.embeddedNull "byte")
  else if name = "" || name.contains '=' then .error (.variableName name)
  else .ok ()

/-- The last value for a setting, whose name may be spelled in any case. -/
def settingOf? (entries : List (String × α)) (name : String) : Option α :=
  (entries.reverse.find? fun (key, _) =>
    String.ofList (lower key.toList) == "sfc_" ++ name).map Prod.snd

namespace Settings

def limitOf (setting : Option String) : Except FieldError Nat :=
  let fail (fault : FieldFault) : Except FieldError Nat :=
    .error ⟨["max_concurrent_documents"], fault⟩
  match setting with
  | none => .ok ({} : Settings).maxConcurrentDocuments
  | some text =>
    match SettingInteger.read text.toList with
    | .error fault => fail fault
    | .ok n => if n < 1 then fail .tooSmall else .ok n.toNat

def extensionOf (setting : Option String) : Except FieldError String :=
  match setting with
  | none => .ok ({} : Settings).fallbackExtension
  | some text => if text = "" then .error ⟨["fallback_extension"], .tooShort⟩ else .ok text

/-- The settings in an environment and the text of a file of variables, or all their faults. The
environment counts before the file. -/
def ofEnvironment (env : List (String × String)) (file : Option String) :
    Except (List FieldError) Settings :=
  let inFile := (file.map (DotEnv.read env)).getD []
  let setting (name : String) : Option String :=
    (settingOf? env name).or (settingOf? inFile name).join
  let limit := limitOf (setting "max_concurrent_documents")
  let extension := extensionOf (setting "fallback_extension")
  let encoding := (setting "output_encoding").getD ({} : Settings).outputEncoding
  match limit, extension with
  | .ok limit, .ok extension => .ok ⟨limit, encoding, extension⟩
  | .error a, .error b => .error [a, b]
  | .error a, .ok _ => .error [a]
  | .ok _, .error b => .error [b]

end Settings

end ComponentSplit
