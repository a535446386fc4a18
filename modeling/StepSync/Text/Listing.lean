namespace StepSync.Text

/-!
# Text of lists and of optional values

A list is shown in square brackets with a comma and a blank between entries; an
optional value as `Some(...)` or `None`.
-/

/-- A list of texts, in square brackets. -/
def bracketed (entries : List String) : String :=
  "[" ++ String.intercalate ", " entries ++ "]"

/-- A number that may be missing. -/
def optional : Option Nat → String
  | none => "None"
  | some number => "Some(" ++ toString number ++ ")"

end StepSync.Text
