import FritzboxVpn.OrderedDict

namespace FritzboxVpn.JsonValue

open OrderedDict

/-- A float, by what the code can observe of it. -/
structure PyFloat where
  repr : String
  /-- `int(x)`; none for the non-finite ones, where it raises. -/
  toInt : Option Int
  isZero : Bool
deriving DecidableEq

inductive Json
  | null
  | bool (b : Bool)
  | int (n : Int)
  | float (x : PyFloat)
  | str (s : String)
  | arr (items : List Json)
  | obj (fields : List (String × Json))

/-- `isinstance(value, dict)`; of two fields with one key the last counts. -/
def asDict : Json → Option (Dict String Json)
  | .obj fields => some (Dict.ofList fields)
  | _ => none

def truthy : Json → Bool
  | .null => false
  | .bool b => b
  | .int n => n != 0
  | .float x => !x.isZero
  | .str s => s != ""
  | .arr items => !items.isEmpty
  | .obj fields => !fields.isEmpty

def pyStr (reprContainer : Json → String) : Json → String
  | .null => "None"
  | .bool true => "True"
  | .bool false => "False"
  | .int n => toString n
  | .float x => x.repr
  | .str s => s
  | v => reprContainer v

/-- `value.get(key)` of a dict, where null and an absent key both give None. -/
def field (fields : Dict String Json) (key : String) : Option Json :=
  match fields.get? key with
  | none | some .null => none
  | some v => some v

@[simp]
theorem pyStr_str (reprContainer : Json → String) (s : String) :
    pyStr reprContainer (.str s) = s := rfl

theorem field_eq_some_iff {fields : Dict String Json} {key : String} {v : Json} :
    field fields key = some v ↔ fields.get? key = some v ∧ v ≠ .null := by
  rw [field]
  cases h : fields.get? key with
  | none => simp
  | some w =>
      cases w with
      | null =>
          simp only [reduceCtorEq, Option.some.injEq, false_iff, not_and, not_not]
          exact fun hv => hv.symm
      | _ =>
          simp only [Option.some.injEq]
          constructor
          · rintro rfl
            exact ⟨rfl, by simp⟩
          · exact fun hv => hv.1

theorem field_eq_none_iff {fields : Dict String Json} {key : String} :
    field fields key = none ↔ fields.get? key = none ∨ fields.get? key = some .null := by
  rw [field]
  cases fields.get? key with
  | none => simp
  | some w => cases w <;> simp

@[simp]
theorem truthy_bool (b : Bool) : truthy (.bool b) = b := rfl

end FritzboxVpn.JsonValue
