import Mathlib.Data.List.Dedup

namespace ClusterApi

/-!
# Error texts

How the controllers build the text of an error from other texts, and what the
webhooks report about a field.
-/

/-- Prefix a message the way `errors.Wrap` does. -/
def wrap (message error : String) : String := message ++ ": " ++ error

/-- A text between double quotes. -/
def quote (text : String) : String := "\"" ++ text ++ "\""

/-- The text of an aggregate: a single error stands alone, several are listed without
repetitions, in the order in which they first occur. -/
def aggregate (errors : List String) : String :=
  match errors.eraseDups with
  | [single] => single
  | several => "[" ++ ", ".intercalate several ++ "]"

/-! ## Errors of fields -/

inductive ErrorType
  | required
  | invalid
  | forbidden
  | internal

/-- An error of the validation of a field, without the value that is reported with it. -/
structure ValidationError where
  type : ErrorType
  field : String
  detail : String

/-- The path of an element of a list. -/
def indexed (path : String) (index : Nat) : String := path ++ "[" ++ toString index ++ "]"

end ClusterApi
