import FilterQuery.Conversion.Custom
import FilterQuery.Error
import FilterQuery.Number.Literal
import FilterQuery.Text.Case
import FilterQuery.Time.Reader

namespace FilterQuery.Conversion

open Schema (ValueType EnumType)

def refuse {α : Type} (raw : String) (target : ValueType) (detail : String) : Except Error α :=
  .error (.argument raw target.describe (some detail) none)

def readBoolean? (raw : String) : Option Bool :=
  let word := Text.lower (String.ofList (Text.trim raw.toList))
  if ["true", "yes", "y"].contains word then some true
  else if ["false", "no", "n"].contains word then some false
  else none

def toBoolean (raw : String) : Except Error Value :=
  match readBoolean? raw with
  | some b => .ok (.boolean b)
  | none => refuse raw .boolean "expected one of true, yes, y, false, no, n"

def toInteger (bits : Nat) (target : ValueType) (raw : String) : Except Error Value :=
  match Number.readInteger bits raw.toList with
  | .ok n => .ok (.integer n)
  | .error fault => refuse raw target fault.message

def toDouble (raw : String) : Except Error Value :=
  match Number.readDouble .double raw.toList with
  | .ok d => .ok (.double d)
  | .error fault => refuse raw .double fault.message

def toFloat (raw : String) : Except Error Value :=
  match Number.readDouble .single raw.toList with
  | .ok d =>
      if d.isFinite || Number.isNonFiniteLiteral raw.toList then .ok (.double d)
      else refuse raw .float "out of range, magnitude above 3.4028235e38"
  | .error fault => refuse raw .float fault.message

def toInstant (offset : Int) (raw : String) : Except Error Value :=
  match Time.readInstant offset raw.toList with
  | some t => .ok (.instant t)
  | none => refuse raw .date Time.acceptedForms

def toObjectId (raw : String) : Except Error Value :=
  if raw.toList.length = 24 ∧ raw.toList.all Text.isHexDigit then
    .ok (.objectId (Text.lower raw))
  else
    refuse raw .objectId "expected 24 hexadecimal digits"

def toMember (e : EnumType) (raw : String) : Except Error Value :=
  match e.member? raw with
  | some m => .ok (.member e.name m)
  | none => refuse raw (.enum e) ("expected one of " ++ ", ".intercalate e.members)

def toCustom (types : CustomTypes) (name raw : String) : Except Error Value :=
  match types.find? name with
  | none => .error (.unsupportedType name none)
  | some type =>
      match type.read raw with
      | .ok v => .ok v
      | .error (.format detail) => refuse raw (.custom name) detail
      | .error (.internal detail) => .error (.internal (.customType name detail))

def convert (types : CustomTypes) (offset : Int) (target : ValueType) (raw : String) :
    Except Error Value :=
  match target with
  | .boolean => toBoolean raw
  | .integer => toInteger 31 .integer raw
  | .long => toInteger 63 .long raw
  | .float => toFloat raw
  | .double => toDouble raw
  | .string => .ok (.string raw)
  | .date => toInstant offset raw
  | .objectId => toObjectId raw
  | .enum type => toMember type raw
  | .custom name => toCustom types name raw

def convertAll (types : CustomTypes) (offset : Int) (target : ValueType) :
    List String → Except Error (List Value)
  | [] => .ok []
  | raw :: rest => do
      let v ← convert types offset target raw
      let vs ← convertAll types offset target rest
      return v :: vs

end FilterQuery.Conversion
