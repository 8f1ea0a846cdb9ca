import Gatekeeper.Number.Binary64Text
import Gatekeeper.Text.Upper

/-! Given values and how a setting takes them. A library decides which values it takes as numbers and truth values;
what it does not take is refused with a complaint of its own. -/

namespace Gatekeeper

/-- A value as it is given from outside. Of a list or a record only its emptiness matters. -/
inductive Given where
  | null
  | bool (value : Bool)
  | int (value : Int)
  | float (value : Binary64)
  | text (value : String)
  | list (isEmpty : Bool)
  | record (isEmpty : Bool)
deriving DecidableEq, Repr

inductive Complaint where
  | notTaken (code message : String)
  | notText
  | notChosen (choices : List String)
  | rejected (reason : String)
deriving DecidableEq, Repr

namespace Complaint

/-- The short name of a complaint. -/
def code : Complaint → String
  | notTaken code _ => code
  | notText => "string_type"
  | notChosen _ => "literal_error"
  | rejected _ => "value_error"

def message : Complaint → String
  | notTaken _ message => message
  | notText => "Input should be a valid string"
  | notChosen choices =>
    "Input should be " ++ " or ".intercalate (choices.map fun choice => "'" ++ choice ++ "'")
  | rejected reason => "Value error, " ++ reason

end Complaint

/-- How values are taken as numbers and truth values. A value of the kind that is asked for is taken as it is; which
of the others are taken too is left to the library that reads them. -/
class Coercions where
  integer : Given → Except Complaint Int
  number : Given → Except Complaint Binary64
  truth : Given → Except Complaint Bool
  integer_int (n : Int) : integer (.int n) = .ok n
  number_float (x : Binary64) : number (.float x) = .ok x
  truth_bool (b : Bool) : truth (.bool b) = .ok b

/-- No value is taken as one of another kind. The command line gives no others. -/
instance Coercions.strict : Coercions where
  integer
    | .int n => .ok n
    | _ => .error (.notTaken "int_type" "Input should be a valid integer")
  number
    | .float x => .ok x
    | _ => .error (.notTaken "float_type" "Input should be a valid number")
  truth
    | .bool b => .ok b
    | _ => .error (.notTaken "bool_type" "Input should be a valid boolean")
  integer_int _ := rfl
  number_float _ := rfl
  truth_bool _ := rfl

namespace Given

def toText : Given → Except Complaint String
  | text value => .ok value
  | _ => .error .notText

def toOptionalText : Given → Except Complaint (Option String)
  | null => .ok none
  | text value => .ok (some value)
  | _ => .error .notText

def isNothing : Given → Bool
  | null => true
  | bool value => !value
  | int value => value = 0
  | float (.finite _ mantissa _ _) => mantissa = 0
  | float _ => false
  | text value => value.isEmpty
  | list isEmpty => isEmpty
  | record isEmpty => isEmpty

/-- The word for the kind of a value. -/
def kind : Given → String
  | null => "NoneType"
  | bool _ => "bool"
  | int _ => "int"
  | float _ => "float"
  | text _ => "str"
  | list _ => "list"
  | record _ => "dict"

end Given

end Gatekeeper
