import Roaming.Decimal.Layout
import Roaming.Text.Quoted

namespace Roaming.Json

/-! What can be wrong with a JSON text: its form, its end, or what it says. -/

/-- A value of a type that was not expected. -/
inductive Found
  | null
  | boolean (value : Bool)
  | integer (value : Int)
  | float (value : Float)
  | text (value : String)
  | sequence
  | map
deriving DecidableEq

def Found.describe : Found → String
  | .null => "null"
  | .boolean true => "boolean `true`"
  | .boolean false => "boolean `false`"
  | .integer value => "integer `" ++ toString value ++ "`"
  | .float value => "floating point `" ++ Decimal.Layout.usual.text value ++ "`"
  | .text value => "string " ++ Text.quote value
  | .sequence => "sequence"
  | .map => "map"

inductive Expected
  | text
  | boolean
  /-- An unsigned number of so many bits. -/
  | word (bits : Nat)
  | sequence
  | config
deriving DecidableEq

def Expected.describe : Expected → String
  | .text => "a string"
  | .boolean => "a boolean"
  | .word bits => "u" ++ toString bits
  | .sequence => "a sequence"
  | .config => "struct StationConfig"

inductive Fault
  | malformed
  | truncated
  | wrongType (found : Found) (expected : Expected)
  | outOfRange (value : Int) (expected : Expected)
  | unknownField (name : String) (known : List String)
  | duplicateField (name : String)
deriving DecidableEq

def Fault.message : Fault → String
  | .malformed => "malformed text"
  | .truncated => "unfinished text"
  | .wrongType found expected =>
      "invalid type: " ++ found.describe ++ ", expected " ++ expected.describe
  | .outOfRange value expected =>
      "invalid value: " ++ (Found.integer value).describe ++ ", expected " ++
        expected.describe
  | .unknownField name known =>
      "unknown field `" ++ name ++ "`, expected one of " ++
        ", ".intercalate (known.map fun field => "`" ++ field ++ "`")
  | .duplicateField name => "duplicate field `" ++ name ++ "`"

end Roaming.Json
