import MarkdownCheck.Text.Integer

/-!
# The largest size of a file

- `SizeLimit.read`: the limit that the environment sets, or another one if it sets none.
-/

namespace MarkdownCheck.SizeLimit

/-- The variable that sets the limit. -/
def variableName : Text := "MDLINT_RULES_MAX_FILE_SIZE".toList

/-- What is wrong with the value of the variable. -/
inductive Fault where
  | notInteger (value : Text)
  | notPositive (value : Int)
deriving DecidableEq, Repr

/-- A fault in words. -/
def Fault.message : Fault → Text
  | .notInteger value =>
    "Invalid value for ".toList ++ variableName ++ ": ".toList ++ value
      ++ " (expected positive integer)".toList
  | .notPositive value =>
    variableName ++ " must be a positive integer, got ".toList ++ Text.ofInt value ++ ['.']

/-- The limit that the variable sets, or else the default, which is taken as it is. -/
def read (value : Option Text) (default : Int) : Except Fault Int :=
  match value with
  | none => .ok default
  | some value =>
    match value.readInt? with
    | none => .error (.notInteger value)
    | some limit => if 0 < limit then .ok limit else .error (.notPositive limit)

end MarkdownCheck.SizeLimit
