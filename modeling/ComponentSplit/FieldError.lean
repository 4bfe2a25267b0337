namespace ComponentSplit

/-- What is wrong with a field. -/
inductive FieldFault
  | notText
  | missing
  | badContent
  | unknownField
  | notFunction
  | notInteger
  | tooLong
  | tooSmall
  | tooShort
deriving DecidableEq, Repr

/-- A faulty field, given by the names that lead to it. -/
structure FieldError where
  field : List String
  fault : FieldFault
deriving DecidableEq, Repr

/-- The faults of fields that a record does not have. -/
def unknownFields (names : List String) : List FieldError :=
  names.map fun name => ⟨[name], .unknownField⟩

end ComponentSplit
