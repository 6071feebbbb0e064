import Mathlib.Data.List.Basic
import Mathlib.Data.Option.Basic

/-!
# Values and the JSON text they are written to

What `json.dumps` accepts and what `json.loads` gives back.  A document stands for
its text; a value that JSON has no form for is refused.
-/

namespace DbBuddy.Library

/-- A value as a driver returns it.  A `dict` is its keys and their values in order;
`other` is what JSON has no form for: a `Decimal`, a date, bytes. -/
inductive PyValue where
  | none
  | bool (value : Bool)
  | int (value : Int)
  | float (bits : UInt64)
  | str (value : String)
  | list (items : List PyValue)
  | dict (keys : List String) (values : List PyValue)
  | other (shown : String)

inductive Json where
  | null
  | bool (value : Bool)
  | integer (value : Int)
  | real (bits : UInt64)
  | string (value : String)
  | array (items : List Json)
  | object (keys : List String) (values : List Json)

mutual

/-- `json.dumps`; none is the `TypeError`. -/
def dumps : PyValue → Option Json
  | .none => some .null
  | .bool value => some (.bool value)
  | .int value => some (.integer value)
  | .float bits => some (.real bits)
  | .str value => some (.string value)
  | .list items => (dumpsAll items).map .array
  | .dict keys values => (dumpsAll values).map (.object keys)
  | .other _ => none

def dumpsAll : List PyValue → Option (List Json)
  | [] => some []
  | value :: rest =>
      match dumps value, dumpsAll rest with
      | some written, some others => some (written :: others)
      | _, _ => none

end

mutual

/-- `json.loads` -/
def loads : Json → PyValue
  | .null => .none
  | .bool value => .bool value
  | .integer value => .int value
  | .real bits => .float bits
  | .string value => .str value
  | .array items => .list (loadsAll items)
  | .object keys values => .dict keys (loadsAll values)

def loadsAll : List Json → List PyValue
  | [] => []
  | document :: rest => loads document :: loadsAll rest

end

mutual

/-- What can be written is read back as it was. -/
theorem loads_dumps : ∀ {value : PyValue} {document : Json},
    dumps value = some document → loads document = value
  | .none, _, written => by
      cases written
      rfl
  | .bool _, _, written => by
      cases written
      rfl
  | .int _, _, written => by
      cases written
      rfl
  | .float _, _, written => by
      cases written
      rfl
  | .str _, _, written => by
      cases written
      rfl
  | .list items, _, written => by
      obtain ⟨documents, all, rfl⟩ := Option.map_eq_some_iff.mp written
      rw [loads, loadsAll_dumpsAll all]
  | .dict keys values, _, written => by
      obtain ⟨documents, all, rfl⟩ := Option.map_eq_some_iff.mp written
      rw [loads, loadsAll_dumpsAll all]
  | .other _, _, written => by
      cases written

theorem loadsAll_dumpsAll : ∀ {values : List PyValue} {documents : List Json},
    dumpsAll values = some documents → loadsAll documents = values
  | [], _, written => by
      cases written
      rfl
  | value :: rest, _, written => by
      simp only [dumpsAll] at written
      split at written
      · rename_i first others isFirst isRest
        cases written
        rw [loadsAll, loads_dumps isFirst, loadsAll_dumpsAll isRest]
      · cases written

end

end DbBuddy.Library
