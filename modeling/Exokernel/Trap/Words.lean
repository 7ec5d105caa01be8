/-
Words in memory. A 32-bit word is four bytes, least first, and a register frame is a row of words.

* `Words.toBytes`, `Words.ofBytes`: a row of words as bytes and back;
* `Words.ofBytes_toBytes`, `Words.toBytes_ofBytes`: nothing is lost either way, as long as the bytes
  make whole words.
-/

namespace Exokernel.Words

/-- The four bytes of a word, least first. -/
def wordBytes (w : UInt32) : List UInt8 :=
  let n := w.toNat
  [UInt8.ofNat n, UInt8.ofNat (n / 256), UInt8.ofNat (n / 65536), UInt8.ofNat (n / 16777216)]

/-- The word of four bytes, least first. -/
def bytesWord (a b c d : UInt8) : UInt32 :=
  UInt32.ofNat (a.toNat + 256 * b.toNat + 65536 * c.toNat + 16777216 * d.toNat)

/-- The bytes of a row of words. -/
def toBytes (ws : List UInt32) : List UInt8 :=
  ws.flatMap wordBytes

/-- The words that a row of bytes makes, four at a time; bytes that make no whole word are left
out. -/
def ofBytes : List UInt8 → List UInt32
  | a :: b :: c :: d :: rest => bytesWord a b c d :: ofBytes rest
  | _ => []

theorem wordBytes_bytesWord (a b c d : UInt8) : wordBytes (bytesWord a b c d) = [a, b, c, d] := by
  have := a.toNat_lt
  have := b.toNat_lt
  have := c.toNat_lt
  have := d.toNat_lt
  simp only [wordBytes, bytesWord, List.cons.injEq, and_true, ← UInt8.toNat_inj, UInt8.toNat_ofNat',
    UInt32.toNat_ofNat']
  omega

theorem bytesWord_of_wordBytes {w : UInt32} {a b c d : UInt8} (h : wordBytes w = [a, b, c, d]) :
    bytesWord a b c d = w := by
  have := w.toNat_lt
  simp only [wordBytes, List.cons.injEq, and_true] at h
  obtain ⟨rfl, rfl, rfl, rfl⟩ := h
  simp only [bytesWord, ← UInt32.toNat_inj, UInt8.toNat_ofNat', UInt32.toNat_ofNat']
  omega

theorem ofBytes_toBytes (ws : List UInt32) : ofBytes (toBytes ws) = ws := by
  induction ws with
  | nil => rfl
  | cons w ws ih =>
    simp only [toBytes, List.flatMap_cons, wordBytes, List.cons_append, List.nil_append, ofBytes,
      bytesWord_of_wordBytes rfl, List.cons.injEq, true_and]
    exact ih

theorem toBytes_ofBytes {n : Nat} {bytes : List UInt8} (h : bytes.length = 4 * n) :
    toBytes (ofBytes bytes) = bytes := by
  induction n generalizing bytes with
  | zero => simp_all [ofBytes, toBytes]
  | succ n ih =>
    match bytes, h with
    | a :: b :: c :: d :: rest, h =>
      simp only [ofBytes, toBytes, List.flatMap_cons, wordBytes_bytesWord, List.cons_append,
        List.nil_append, List.cons.injEq, true_and]
      exact ih (by simp only [List.length_cons] at h; omega)

theorem length_toBytes (ws : List UInt32) : (toBytes ws).length = 4 * ws.length := by
  induction ws with
  | nil => rfl
  | cons w ws ih =>
    simp only [toBytes, List.flatMap_cons, List.length_append, List.length_cons] at ih ⊢
    simp only [wordBytes, List.length_cons, List.length_nil, ih]; omega

theorem length_ofBytes {n : Nat} {bytes : List UInt8} (h : bytes.length = 4 * n) :
    (ofBytes bytes).length = n := by
  have := congrArg List.length (toBytes_ofBytes h)
  rw [length_toBytes] at this
  omega

end Exokernel.Words
