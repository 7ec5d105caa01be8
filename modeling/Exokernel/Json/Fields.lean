/-
Reading records out of JSON values.

* `Json.natBelow?`, `Json.word?`, `Json.count?`, `Json.bool?`: single values of a field's type;
* `Json.choice?`: one of several names, written as a string or as the only member of an object;
* `Json.fields?`: the values of the named fields of a record, which may be written as an object or
  as an array in the order of the fields. A field that is given twice makes the record unreadable,
  and members with other names are passed over;
* `Fields`: the values found, one for each name, for `Fields.required`, `Fields.optional` and
  `Fields.default` to read.
-/
import Exokernel.Json

namespace Exokernel

namespace Json

/-- A whole number from zero up to, but not including, `bound`. -/
def natBelow? (bound : Nat) : Json → Option Nat
  | .whole n => if 0 ≤ n ∧ n.toNat < bound then some n.toNat else none
  | _ => none

/-- A 32-bit word. -/
def word? (v : Json) : Option UInt32 :=
  (v.natBelow? UInt32.size).map UInt32.ofNat

/-- A number of things, which fits 64 bits. -/
def count? (v : Json) : Option Nat :=
  v.natBelow? UInt64.size

/-- A truth value. -/
def bool? : Json → Option Bool
  | .bool b => some b
  | _ => none

/-- A list whose items `read` reads. -/
def list? {α : Type} (read : Json → Option α) : Json → Option (List α)
  | .arr items => items.mapM read
  | _ => none

/-- The one of `choices` that the value names: as a string, or as an object with that one member,
whose value is then `null`. -/
def choice? {α : Type} (choices : List (String × α)) : Json → Option α
  | .str (some name) => choices.lookup name
  | .obj [(some name, .null)] => choices.lookup name
  | _ => none

end Json

/-- The fields of a record that was read, by name; `positional` if they were told apart by their
place alone. -/
structure Fields where
  values : List (String × Json)
  positional : Bool

namespace Json

/-- The fields called `names` of the record that `v` writes. -/
def fields? (names : List String) : Json → Option Fields
  | .arr items =>
    if items.length ≤ names.length then some ⟨names.zip items, true⟩ else none
  | .obj members => do
    let named ← members.mapM fun (name, value) => name.map (·, value)
    let known := named.filter fun (name, _) => names.contains name
    if (known.map Prod.fst).Nodup then some ⟨known, false⟩ else none
  | _ => none

end Json

namespace Fields

variable {α : Type}

/-- The value of a field that the record must have. -/
def required (fs : Fields) (name : String) (read : Json → Option α) : Option α :=
  (fs.values.lookup name).bind read

/-- The value of a field that may be `null`. By name it may also be left out; by place it may
not. -/
def optional (fs : Fields) (name : String) (read : Json → Option α) : Option (Option α) :=
  match fs.values.lookup name with
  | none => if fs.positional then none else some none
  | some .null => some none
  | some v => (read v).map some

/-- The value of a field that stands for `fallback` where it is left out. -/
def default (fs : Fields) (name : String) (read : Json → Option α) (fallback : α) : Option α :=
  match fs.values.lookup name with
  | none => some fallback
  | some v => read v

end Fields

end Exokernel
