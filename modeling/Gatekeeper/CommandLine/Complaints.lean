import Gatekeeper.Number.Binary64Text
import Gatekeeper.Settings

/-! What is printed about settings that were refused: a line on how many problems there are, and for each
the setting, the complaint and the value that was given. -/

namespace Gatekeeper.CommandLine

open Number Text

/-- Characters from the front that take at most some bytes. -/
def takeBytes : Nat → List Char → List Char
  | _, [] => []
  | budget, c :: rest =>
    if c.utf8Size ≤ budget then c :: takeBytes (budget - c.utf8Size) rest else []

/-- A long text with its middle left out: 25 bytes from the front and 24 from the end are shown. -/
def shortened (s : String) : String :=
  if s.utf8ByteSize ≤ 50 then s
  else
    String.ofList (takeBytes 25 s.toList) ++ "..." ++
      String.ofList (takeBytes 24 s.toList.reverse).reverse

def shown : Given → String
  | .null => "None"
  | .bool value => if value then "True" else "False"
  | .int value => signedText value
  | .float value => value.text
  | .text value => quoted value
  | .list _ => "[...]"
  | .record _ => "(...)"

def problemLines (given : GivenValues) (problem : Problem) : String :=
  let value := (given.lookup problem.setting).getD .null
  problem.setting ++ "\n  " ++ problem.complaint.message ++ " [type=" ++ problem.complaint.code ++
    ", input_value=" ++ shortened (shown value) ++ ", input_type=" ++ value.kind ++ "]"

def problemsText (given : GivenValues) (problems : List Problem) : String :=
  let count := signedText problems.length ++
    (if problems.length = 1 then " validation error" else " validation errors")
  "\n".intercalate ((count ++ " for Settings") :: problems.map (problemLines given))

def settingsErrorText (given : GivenValues) : SettingsError → String
  | .invalid problems => problemsText given problems
  | .failed cause => cause.message

end Gatekeeper.CommandLine
