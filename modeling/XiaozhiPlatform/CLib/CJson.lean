import XiaozhiPlatform.CLib.Ascii
import XiaozhiPlatform.GoLib.Float64

/-!
# Trees of `cJSON`

What a program sees of a text that `cJSON` has parsed: nodes with a type, the members of an object in
their order, a text as a C string and a number as a `double`, which is a rational number or an
infinity. The parser itself is a parameter of the programs that call it.
-/

namespace CLib

/-- A node of a tree. -/
inductive CJson where
  | null
  | bool (value : Bool)
  /-- The number of `valuedouble`, or nothing for an infinity. -/
  | number (valuedouble : Option ℚ)
  | string (valuestring : CString)
  | array (items : List CJson)
  | object (members : List (CString × CJson))

/-- `cJSON_ParseWithLengthOpts` without the final zero: the tree and the length of the text before
`return_parse_end`. -/
abbrev CJsonParser := List UInt8 → Option (CJson × ℕ)

namespace CJson

/-- `cJSON_GetObjectItemCaseSensitive`. -/
def objectItem (root : CJson) (key : String) : Option CJson :=
  match root with
  | .object members => (members.find? fun member => member.1.bytes = bytesOf key).map Prod.snd
  | _ => none

/-- `cJSON_IsString` and `valuestring`. -/
def stringItem (root : CJson) (key : String) : Option CString :=
  match root.objectItem key with
  | some (.string valuestring) => some valuestring
  | _ => none

/-- `cJSON_IsNumber` and `valuedouble`. -/
def numberItem (root : CJson) (key : String) : Option (Option ℚ) :=
  match root.objectItem key with
  | some (.number valuedouble) => some valuedouble
  | _ => none

end CJson

end CLib
