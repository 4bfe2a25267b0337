import ComponentSplit.Emit

namespace ComponentSplit

/-- What a pipeline is made for: extensions and compilers of custom kinds, modifiers of outputs,
and the configuration of the section compilers. -/
structure Options where
  tags : List (String × Resolver) := []
  compilers : List (String × CustomCompiler) := []
  modifiers : List (String × Modifier) := []
  config : CompilerConfig := []

/-- The fields that options are built from. An entry without a function holds something else. -/
structure OptionFields where
  tags : List (String × Option Resolver) := []
  compilers : List (String × Option CustomCompiler) := []
  modifiers : List (String × Option Modifier) := []
  config : CompilerConfig := []

def functionFaults (field : String) (entries : List (String × Option α)) : List FieldError :=
  entries.filterMap fun (name, f) =>
    match f with
    | some _ => none
    | none => some ⟨[field, name], .notFunction⟩

def functionEntries (entries : List (String × Option α)) : List (String × α) :=
  entries.filterMap fun (name, f) => f.map fun f => (name, f)

/-- The options that the fields describe, or all their faults. -/
def OptionFields.toOptions (f : OptionFields) : Except (List FieldError) Options :=
  match functionFaults "tags" f.tags ++ functionFaults "custom_compilers" f.compilers ++
      functionFaults "output_modifiers" f.modifiers with
  | [] =>
    .ok ⟨functionEntries f.tags, functionEntries f.compilers, functionEntries f.modifiers, f.config⟩
  | faults => .error faults

end ComponentSplit
