import FilterQuery.Conversion.Basic

namespace FilterQuery.Conversion

open Schema (ValueType EnumType)

inductive Typed (types : CustomTypes) (enums : List EnumType) (raw : String) :
    ValueType → Value → Prop
  | boolean (b : Bool) : Typed types enums raw .boolean (.boolean b)
  | integer {n : Int} (h : -2147483648 ≤ n) (k : n ≤ 2147483647) :
      Typed types enums raw .integer (.integer n)
  | long {n : Int} (h : -9223372036854775808 ≤ n) (k : n ≤ 9223372036854775807) :
      Typed types enums raw .long (.integer n)
  | float (d : Number.Double) : Typed types enums raw .float (.double d)
  | double (d : Number.Double) : Typed types enums raw .double (.double d)
  | string : Typed types enums raw .string (.string raw)
  | date (t : Time.Instant) : Typed types enums raw .date (.instant t)
  | objectId {digits : String} (hl : digits.toList.length = 24)
      (hd : ∀ c ∈ digits.toList, c ∈ "0123456789abcdef".toList) :
      Typed types enums raw .objectId (.objectId digits)
  | member {e : EnumType} {m : String} (he : e ∈ enums) (hm : m ∈ e.members)
      (hs : Text.sameLetters m raw) : Typed types enums raw (.enum e) (.member e.name m)
  | custom {name : String} {type : CustomType} {v : Value} (ht : types.find? name = some type)
      (hv : type.read raw = .ok v) : Typed types enums raw (.custom name) v

inductive Refused (types : CustomTypes) (raw : String) : ValueType → Error → Prop
  | argument (target : ValueType) (detail : String) :
      Refused types raw target (.argument raw target.describe (some detail) none)
  | unregistered {name : String} (h : types.find? name = none) :
      Refused types raw (.custom name) (.unsupportedType name none)
  | broken {name detail : String} {type : CustomType} (ht : types.find? name = some type)
      (hr : type.read raw = .error (.internal detail)) :
      Refused types raw (.custom name) (.internal (.customType name detail))

inductive Converts (types : CustomTypes) (enums : List EnumType) (raw : String)
    (target : ValueType) : Except Error Value → Prop
  | typed {v : Value} (h : Typed types enums raw target v) :
      Converts types enums raw target (.ok v)
  | refused {e : Error} (h : Refused types raw target e) :
      Converts types enums raw target (.error e)

section

variable {types : CustomTypes} {enums : List EnumType} {raw : String} {target : ValueType}

theorem converts_refuse (detail : String) :
    Converts types enums raw target (refuse raw target detail) :=
  .refused (.argument target detail)

theorem converts_toBoolean : Converts types enums raw .boolean (toBoolean raw) := by
  unfold toBoolean
  split
  · next b _ => exact .typed (.boolean b)
  · exact converts_refuse _

theorem converts_toInteger : Converts types enums raw .integer (toInteger 31 .integer raw) := by
  unfold toInteger
  split
  · next n hn =>
      obtain ⟨low, high⟩ := Number.readInteger_bounds hn
      exact .typed (.integer low (Int.le_of_lt_add_one high))
  · exact converts_refuse _

theorem converts_toLong : Converts types enums raw .long (toInteger 63 .long raw) := by
  unfold toInteger
  split
  · next n hn =>
      obtain ⟨low, high⟩ := Number.readInteger_bounds hn
      exact .typed (.long low (Int.le_of_lt_add_one high))
  · exact converts_refuse _

theorem converts_toDouble : Converts types enums raw .double (toDouble raw) := by
  unfold toDouble
  split
  · next d _ => exact .typed (.double d)
  · exact converts_refuse _

theorem converts_toFloat : Converts types enums raw .float (toFloat raw) := by
  unfold toFloat
  split
  · next d _ =>
      split
      · exact .typed (.float d)
      · exact converts_refuse _
  · exact converts_refuse _

theorem converts_toInstant (offset : Int) :
    Converts types enums raw .date (toInstant offset raw) := by
  unfold toInstant
  split
  · next t _ => exact .typed (.date t)
  · exact converts_refuse _

theorem converts_toObjectId : Converts types enums raw .objectId (toObjectId raw) := by
  unfold toObjectId
  split
  · next h =>
      obtain ⟨hl, hd⟩ := h
      refine .typed (.objectId (by simpa [Text.lower] using hl) fun c hc => ?_)
      simp only [Text.lower, String.toList_ofList, List.mem_map] at hc
      obtain ⟨c, hc, rfl⟩ := hc
      exact Text.toLower_mem_of_isHexDigit (List.all_eq_true.1 hd c hc)
  · exact converts_refuse _

theorem converts_toMember {e : EnumType} (he : e ∈ enums) :
    Converts types enums raw (.enum e) (toMember e raw) := by
  unfold toMember
  split
  · next m hm =>
      obtain ⟨member, same⟩ := EnumType.mem_of_member? hm
      exact .typed (.member he member same)
  · exact converts_refuse _

theorem converts_toCustom (name : String) :
    Converts types enums raw (.custom name) (toCustom types name raw) := by
  unfold toCustom
  split
  · next h => exact .refused (.unregistered h)
  · next type ht =>
      split
      · next v hv => exact .typed (.custom ht hv)
      · exact converts_refuse _
      · next detail hr => exact .refused (.broken ht hr)

theorem converts_convert (offset : Int) (h : ∀ e, target = .enum e → e ∈ enums) :
    Converts types enums raw target (convert types offset target raw) := by
  cases target with
  | boolean => exact converts_toBoolean
  | integer => exact converts_toInteger
  | long => exact converts_toLong
  | float => exact converts_toFloat
  | double => exact converts_toDouble
  | string => exact .typed .string
  | date => exact converts_toInstant offset
  | objectId => exact converts_toObjectId
  | enum e => exact converts_toMember (h e rfl)
  | custom name => exact converts_toCustom name

theorem refused_of_convert {offset : Int} {e : Error}
    (h : convert types offset target raw = .error e) : Refused types raw target e := by
  obtain ⟨enums, declared⟩ : ∃ enums : List EnumType, ∀ e, target = .enum e → e ∈ enums := by
    cases target with
    | enum e => exact ⟨[e], by simp⟩
    | _ => exact ⟨[], nofun⟩
  have converted : Converts types enums raw target _ := converts_convert offset declared
  rw [h] at converted
  cases converted with
  | refused refused => exact refused

end

end FilterQuery.Conversion
