/-
Reading JSON text.

* `Json.blank`, `Json.number`, `Json.string`: what the grammar calls whitespace, a number and a
  string, each taken off the front of the text;
* `Json.ofText?`: the value that a text writes, or nothing if the text is not one JSON value with
  nothing but blanks around it.

Every reader takes the characters that are left and returns what is left after it. The reader of
values spends one unit of fuel for each value, item and member; each of these takes at least one
character, so as many units as there are characters are always enough.
-/
import Exokernel.Json

namespace Exokernel.Json

/-- The four characters that may stand between tokens. -/
def blank (c : Char) : Bool :=
  c = ' ' || c = '\n' || c = '\t' || c = '\r'

/-- Drops the blanks in front. -/
def skipBlanks (cs : List Char) : List Char :=
  cs.dropWhile blank

/-! ### Numbers -/

/-- Takes a fraction, if one begins here: `none` if a point has no digit after it. -/
def fraction : List Char → Option (List Char × List Char)
  | '.' :: cs =>
    let digits := cs.takeWhile Char.isDigit
    if digits.isEmpty then none else some ('.' :: digits, cs.dropWhile Char.isDigit)
  | cs => some ([], cs)

/-- Takes an exponent, if one begins here: `none` if it has no digit. -/
def exponent : List Char → Option (List Char × List Char)
  | c :: cs =>
    if c = 'e' || c = 'E' then
      let (sign, rest) := match cs with
        | '+' :: r => (['+'], r)
        | '-' :: r => (['-'], r)
        | r => ([], r)
      let digits := rest.takeWhile Char.isDigit
      if digits.isEmpty then none
      else some (c :: sign ++ digits, rest.dropWhile Char.isDigit)
    else some ([], c :: cs)
  | [] => some ([], [])

/-- The number that decimal digits write. -/
def digitsValue (digits : List Char) : Nat :=
  digits.foldl (fun n d => 10 * n + (d.toNat - '0'.toNat)) 0

/-- Takes a number whose sign has been taken already. The whole part has no needless zero in
front. -/
def unsignedNumber (negative : Bool) (cs : List Char) : Option (Json × List Char) := do
  let digits := cs.takeWhile Char.isDigit
  let rest := cs.dropWhile Char.isDigit
  if digits.isEmpty || (digits.length > 1 && digits.head? == some '0') then none
  let (frac, rest) ← fraction rest
  let (exp, rest) ← exponent rest
  let value := digitsValue digits
  if frac.isEmpty && exp.isEmpty && !(negative && value = 0) then
    return (.whole (if negative then -(value : Int) else value), rest)
  else
    return (.decimal (String.ofList ((if negative then ['-'] else []) ++ digits ++ frac ++ exp)),
      rest)

/-- Takes a number. -/
def number : List Char → Option (Json × List Char)
  | '-' :: cs => unsignedNumber true cs
  | cs => unsignedNumber false cs

/-! ### Strings -/

/-- The value of a hexadecimal digit of either case. -/
def hexDigit? (c : Char) : Option Nat :=
  if c.isDigit then some (c.toNat - '0'.toNat)
  else if 'a' ≤ c ∧ c ≤ 'f' then some (c.toNat - 'a'.toNat + 10)
  else if 'A' ≤ c ∧ c ≤ 'F' then some (c.toNat - 'A'.toNat + 10)
  else none

/-- One unit of a string: a character, or a number that an escape gives and that may be half of a
surrogate pair. -/
inductive Piece where
  | char (c : Char)
  | unit (n : Nat)

/-- The character that an escape of one letter stands for. -/
def shortEscape? (c : Char) : Option Char :=
  match c with
  | '"' => some '"'
  | '\\' => some '\\'
  | '/' => some '/'
  | 'b' => some '\x08'
  | 'f' => some '\x0c'
  | 'n' => some '\n'
  | 'r' => some '\r'
  | 't' => some '\t'
  | _ => none

/-- Takes the rest of a string whose opening quote has been taken. -/
def pieces : List Char → Option (List Piece × List Char)
  | [] => none
  | '"' :: cs => some ([], cs)
  | '\\' :: 'u' :: a :: b :: c :: d :: cs => do
    let a ← hexDigit? a
    let b ← hexDigit? b
    let c ← hexDigit? c
    let d ← hexDigit? d
    let (ps, rest) ← pieces cs
    return (.unit (((a * 16 + b) * 16 + c) * 16 + d) :: ps, rest)
  | '\\' :: c :: cs => do
    let c ← shortEscape? c
    let (ps, rest) ← pieces cs
    return (.char c :: ps, rest)
  | c :: cs =>
    if c.toNat < 0x20 then none else do
      let (ps, rest) ← pieces cs
      return (.char c :: ps, rest)

/-- The text of the pieces of a string: two escapes that make a surrogate pair are one character,
and a half without its partner makes no text. -/
def joinPieces : List Piece → Option (List Char)
  | [] => some []
  | .char c :: ps => (joinPieces ps).map (c :: ·)
  | .unit n :: .unit m :: ps =>
    if 0xD800 ≤ n ∧ n ≤ 0xDBFF then
      if 0xDC00 ≤ m ∧ m ≤ 0xDFFF then
        (joinPieces ps).map (Char.ofNat (0x10000 + (n - 0xD800) * 0x400 + (m - 0xDC00)) :: ·)
      else none
    else if 0xDC00 ≤ n ∧ n ≤ 0xDFFF then none
    else (joinPieces (.unit m :: ps)).map (Char.ofNat n :: ·)
  | .unit n :: ps =>
    if 0xD800 ≤ n ∧ n ≤ 0xDFFF then none else (joinPieces ps).map (Char.ofNat n :: ·)

/-- Takes the rest of a string whose opening quote has been taken, as its text. -/
def string (cs : List Char) : Option (Option String × List Char) := do
  let (ps, rest) ← pieces cs
  return ((joinPieces ps).map String.ofList, rest)

/-! ### Values -/

/-- What is left after `word`, if the text begins with it. -/
def literal : List Char → List Char → Option (List Char)
  | [], cs => some cs
  | w :: ws, c :: cs => if w = c then literal ws cs else none
  | _ :: _, [] => none

mutual

/-- Takes a value, with the blanks in front of it. -/
def value : Nat → List Char → Option (Json × List Char)
  | 0, _ => none
  | fuel + 1, cs =>
    match skipBlanks cs with
    | [] => none
    | '"' :: cs => (string cs).map fun (s, rest) => (.str s, rest)
    | '[' :: cs =>
      match skipBlanks cs with
      | ']' :: rest => some (.arr [], rest)
      | cs => (items fuel cs).map fun (vs, rest) => (.arr vs, rest)
    | '\x7b' :: cs =>
      match skipBlanks cs with
      | '\x7d' :: rest => some (.obj [], rest)
      | cs => (members fuel cs).map fun (ms, rest) => (.obj ms, rest)
    | 'n' :: cs => (literal ['u', 'l', 'l'] cs).map fun rest => (.null, rest)
    | 't' :: cs => (literal ['r', 'u', 'e'] cs).map fun rest => (.bool true, rest)
    | 'f' :: cs => (literal ['a', 'l', 's', 'e'] cs).map fun rest => (.bool false, rest)
    | cs => number cs

/-- Takes the items of an array up to its closing bracket. -/
def items : Nat → List Char → Option (List Json × List Char)
  | 0, _ => none
  | fuel + 1, cs => do
    let (v, rest) ← value fuel cs
    match skipBlanks rest with
    | ',' :: rest => do
      let (vs, rest) ← items fuel rest
      return (v :: vs, rest)
    | ']' :: rest => return ([v], rest)
    | _ => none

/-- Takes the members of an object up to its closing brace. -/
def members : Nat → List Char → Option (List (Option String × Json) × List Char)
  | 0, _ => none
  | fuel + 1, cs =>
    match skipBlanks cs with
    | '"' :: cs => do
      let (name, rest) ← string cs
      match skipBlanks rest with
      | ':' :: rest => do
        let (v, rest) ← value fuel rest
        match skipBlanks rest with
        | ',' :: rest => do
          let (ms, rest) ← members fuel rest
          return ((name, v) :: ms, rest)
        | '\x7d' :: rest => return ([(name, v)], rest)
        | _ => none
      | _ => none
    | _ => none

end

/-- The value that `s` writes, if it writes one and nothing else. -/
def ofText? (s : String) : Option Json :=
  let cs := s.toList
  match value (cs.length + 1) cs with
  | some (v, rest) => if (skipBlanks rest).isEmpty then some v else none
  | none => none

end Exokernel.Json
