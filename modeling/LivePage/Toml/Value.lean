import LivePage.Binary64.Basic

/-!
# TOML values

What a TOML document says, without how it is written down.
-/

namespace LivePage
namespace Toml

/-- A value of a TOML document. -/
inductive Value where
  | string (text : String)
  | integer (n : Int)
  | float (x : Binary64)
  /-- A float beyond the greatest finite one. -/
  | hugeFloat
  | boolean (b : Bool)
  /-- A date, a time, or both, as written. -/
  | dateTime (text : String)
  | array (items : List Value)
  | table (entries : List (String × Value))
  deriving Repr

/-- A table, each key once. -/
abbrev Table := List (String × Value)

mutual

/-- Whether the integers in a value lie between two bounds and none of its floats
is too large. -/
def Value.isWithin (least greatest : Int) : Value → Bool
  | .integer n => least ≤ n && n ≤ greatest
  | .hugeFloat => false
  | .array items => itemsWithin least greatest items
  | .table entries => entriesWithin least greatest entries
  | .string _ | .float _ | .boolean _ | .dateTime _ => true

/-- Whether all items of an array are within two bounds. -/
def itemsWithin (least greatest : Int) : List Value → Bool
  | [] => true
  | v :: vs => v.isWithin least greatest && itemsWithin least greatest vs

/-- Whether all entries of a table are within two bounds. -/
def entriesWithin (least greatest : Int) : List (String × Value) → Bool
  | [] => true
  | (_, v) :: es => v.isWithin least greatest && entriesWithin least greatest es

end

/-- Whether the integers in a value have at most 64 bits, with a sign or without
one. -/
def Value.fitsWord64 : Value → Bool :=
  Value.isWithin (-0x8000000000000000) 0xFFFFFFFFFFFFFFFF

/-- Whether the integers in a value have at most 128 bits, with a sign or without
one. -/
def Value.fitsWord128 : Value → Bool :=
  Value.isWithin (-0x80000000000000000000000000000000) 0xFFFFFFFFFFFFFFFFFFFFFFFFFFFFFFFF

end Toml
end LivePage
