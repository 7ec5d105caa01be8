/-
Reading console bytes as text. A process may print any bytes at all, and what is not UTF-8 must
still come out as text: each ill-formed stretch is replaced by one U+FFFD.

* `Text.Utf8.Pending`: a sequence that has begun and still waits for continuation bytes, with the
  range that the next of them has to lie in;
* `Text.decodeUtf8`: the text of a byte string, where the longest beginning of a sequence that no
  continuation completes, and every byte that begins none, becomes one replacement character.
-/

namespace Exokernel.Text

namespace Utf8

/-- The character that stands for an ill-formed stretch. -/
def replacement : Char := '\uFFFD'

/-- A sequence under way: `missing` continuation bytes are still to come, the next one between `low`
and `high`, and `value` is the number read so far. -/
structure Pending where
  missing : Nat
  low : UInt8
  high : UInt8
  value : Nat

/-- What the first byte of a sequence says about it. -/
inductive Lead where
  /-- The byte is a character of its own. -/
  | single (c : Char)
  /-- The byte begins a longer sequence. -/
  | longer (p : Pending)
  /-- No sequence begins with this byte. -/
  | none

/-- Classifies a first byte. The narrowed ranges after `E0`, `ED`, `F0` and `F4` leave out overlong
forms, surrogates and numbers beyond the last character. -/
def lead (b : UInt8) : Lead :=
  let n := b.toNat
  if n < 0x80 then .single (Char.ofNat n)
  else if n < 0xC2 then .none
  else if n < 0xE0 then .longer ⟨1, 0x80, 0xBF, n - 0xC0⟩
  else if n = 0xE0 then .longer ⟨2, 0xA0, 0xBF, 0⟩
  else if n = 0xED then .longer ⟨2, 0x80, 0x9F, 0xD⟩
  else if n < 0xF0 then .longer ⟨2, 0x80, 0xBF, n - 0xE0⟩
  else if n = 0xF0 then .longer ⟨3, 0x90, 0xBF, 0⟩
  else if n < 0xF4 then .longer ⟨3, 0x80, 0xBF, n - 0xF0⟩
  else if n = 0xF4 then .longer ⟨3, 0x80, 0x8F, 4⟩
  else .none

/-- Begins a sequence at `b`: the characters that `b` completes and what it leaves pending. -/
def start (b : UInt8) : List Char × Option Pending :=
  match lead b with
  | .single c => ([c], none)
  | .longer p => ([], some p)
  | .none => ([replacement], none)

/-- Reads one byte after `pending`: the characters that it completes and what is pending then. A
byte that cannot continue the sequence ends it, and begins the next one itself. -/
def step (pending : Option Pending) (b : UInt8) : List Char × Option Pending :=
  match pending with
  | none => start b
  | some p =>
    if p.low ≤ b ∧ b ≤ p.high then
      let value := p.value * 64 + b.toNat % 64
      match p.missing with
      | 0 | 1 => ([Char.ofNat value], none)
      | missing + 1 => ([], some ⟨missing, 0x80, 0xBF, value⟩)
    else
      let (cs, next) := start b
      (replacement :: cs, next)

/-- The characters of the bytes that follow `pending`. -/
def chars (pending : Option Pending) : List UInt8 → List Char
  | [] => if pending.isSome then [replacement] else []
  | b :: bytes =>
    let (cs, next) := step pending b
    cs ++ chars next bytes

end Utf8

/-- The text of a byte string, with one replacement character for each ill-formed stretch. -/
def decodeUtf8 (bytes : List UInt8) : String :=
  String.ofList (Utf8.chars none bytes)

end Exokernel.Text
