import CmdletShell.Command.Reply

/-!
# Results

What running a line comes to, and the document that tells it to other programs.
-/

namespace CmdletShell

/-- What running a line comes to. -/
structure Result where
  /-- Whether the line succeeded. -/
  success : Bool
  /-- The output. -/
  output : Value
  /-- How long it took in whole milliseconds. -/
  millis : Int
  /-- How the output is meant to be shown. -/
  shape : Shape := .text
  /-- Why the line failed. -/
  error : Option Text := none
  deriving Inhabited

/-- The field of a document that tells why a line failed. -/
def Result.errorField (error : Option Text) : Fields Value :=
  match error with
  | some error => [("error", .str error)]
  | none => []

/-- The fields of a result that every result has. -/
def Result.commonFields (result : Result) : Fields Value :=
  [("success", .bool result.success), ("output", result.output),
    ("executionTimeMs", .int result.millis), ("outputShape", .str result.shape.name)]

/-- The document of a result; only a failure has an error in it. -/
def Result.document (result : Result) : Value :=
  .obj (result.commonFields ++ errorField result.error)

end CmdletShell
