/-
Hexadecimal numerals, as the console and the logs write them: lower-case digits, and zeros in front
up to a least number of digits.

* `Text.hex`: the shortest numeral of a number;
* `Text.hexPadded`: the numeral with at least so many digits;
* `Text.hexWord`, `Text.hexSelector`, `Text.hexCode`: a 32-bit word behind `0x`, with at least
  eight digits, four digits and one digit.
-/

namespace Exokernel.Text

/-- The shortest lower-case hexadecimal numeral of `n`. -/
def hex (n : Nat) : String :=
  String.ofList (Nat.toDigits 16 n)

/-- The hexadecimal numeral of `n` with zeros in front up to `width` digits; a longer numeral is
written in full. -/
def hexPadded (width n : Nat) : String :=
  let digits := Nat.toDigits 16 n
  String.ofList (List.replicate (width - digits.length) '0' ++ digits)

/-- A word as `0x` and eight digits. -/
def hexWord (w : UInt32) : String :=
  "0x" ++ hexPadded 8 w.toNat

/-- A segment selector as `0x` and at least four digits. -/
def hexSelector (w : UInt32) : String :=
  "0x" ++ hexPadded 4 w.toNat

/-- A word as `0x` and as few digits as it needs. -/
def hexCode (w : UInt32) : String :=
  "0x" ++ hex w.toNat

end Exokernel.Text
