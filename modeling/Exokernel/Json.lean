/-
JSON values, as configurations and snapshots of the kernel are written in them.

* `Json`: a value. Whole numbers are kept apart from all others, since a field that counts something
  takes no fraction and no exponent; members of an object keep their order and may repeat a name,
  so that a reader can refuse a field given twice;
* `Json.render`: the text of a value, without blanks.
-/

namespace Exokernel

/-- A JSON value. A string is `none` if one of its escapes names half of a surrogate pair, so that
it is a string by its grammar and still no text. -/
inductive Json where
  | null
  | bool (b : Bool)
  /-- A number written without a fraction or an exponent; `-0` is not one of them. -/
  | whole (n : Int)
  /-- Any other number, as it was written. -/
  | decimal (numeral : String)
  | str (text : Option String)
  | arr (items : List Json)
  | obj (members : List (Option String × Json))
  deriving Inhabited

namespace Json

/-- A string value with the given text. -/
def text (s : String) : Json := .str (some s)

/-- A number that counts something. -/
def nat (n : Nat) : Json := .whole n

/-- A 32-bit word, unsigned. -/
def word (w : UInt32) : Json := .whole w.toNat

/-- A value that may be absent, as `null` then. -/
def orNull {α : Type} (write : α → Json) : Option α → Json
  | none => .null
  | some a => write a

/-- An object with the given members. -/
def record (members : List (String × Json)) : Json :=
  .obj (members.map fun (name, value) => (some name, value))

/-! ### The text of a value -/

/-- How a character is written inside quotes. -/
def escape (c : Char) : List Char :=
  match c with
  | '"' => ['\\', '"']
  | '\\' => ['\\', '\\']
  | '\n' => ['\\', 'n']
  | '\r' => ['\\', 'r']
  | '\t' => ['\\', 't']
  | c =>
    if c.toNat < 0x20 then
      let digits := Nat.toDigits 16 c.toNat
      ['\\', 'u'] ++ List.replicate (4 - digits.length) '0' ++ digits
    else [c]

/-- A quoted string. -/
def quote (s : String) : String :=
  "\"" ++ String.ofList (s.toList.flatMap escape) ++ "\""

mutual

/-- The text of a value, without blanks. A string that is no text is written as the empty one. -/
def render : Json → String
  | .null => "null"
  | .bool b => if b then "true" else "false"
  | .whole n => toString n
  | .decimal numeral => numeral
  | .str s => quote (s.getD "")
  | .arr items => "[" ++ renderItems items ++ "]"
  | .obj members => "\x7b" ++ renderMembers members ++ "\x7d"

/-- The items of an array, with commas between them. -/
def renderItems : List Json → String
  | [] => ""
  | [v] => v.render
  | v :: vs => v.render ++ "," ++ renderItems vs

/-- The members of an object, with commas between them. -/
def renderMembers : List (Option String × Json) → String
  | [] => ""
  | [(name, v)] => quote (name.getD "") ++ ":" ++ v.render
  | (name, v) :: ms => quote (name.getD "") ++ ":" ++ v.render ++ "," ++ renderMembers ms

end

end Json

end Exokernel
