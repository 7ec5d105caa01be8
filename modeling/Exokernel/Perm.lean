/-
Permission words of page mappings.

* `Perm`: the 32 bits that accompany a mapping, with the bits that have a meaning as constants;
* `Perm.contains`, `Perm.meets`: whether a word has all, or some, bits of another;
* `Perm.isRequestable`: whether a system call may ask for these bits: user-readable, and nothing
  outside `Perm.requestable`.
-/

namespace Exokernel

/-- The permission bits of a page mapping. All 32 bits are kept, whether they mean something or
not. -/
structure Perm where
  bits : UInt32
  deriving DecidableEq

namespace Perm

instance : Inhabited Perm := ⟨⟨0⟩⟩

/-! ### The bits -/

/-- No bit at all. -/
def none : Perm := ⟨0⟩
/-- The page is there. -/
def present : Perm := ⟨0x001⟩
/-- The page may be written. -/
def writable : Perm := ⟨0x002⟩
/-- User code may use the page. -/
def user : Perm := ⟨0x004⟩
/-- Writes go through the cache. -/
def writeThrough : Perm := ⟨0x008⟩
/-- The cache is not used. -/
def cacheDisable : Perm := ⟨0x010⟩
/-- The page has been used. -/
def accessed : Perm := ⟨0x020⟩
/-- The page has been written. -/
def dirty : Perm := ⟨0x040⟩
/-- For software: not put to any use. -/
def available : Perm := ⟨0x200⟩
/-- For software: the page stays shared across a fork. -/
def share : Perm := ⟨0x400⟩
/-- For software: the page is to be copied before it is written. -/
def copyOnWrite : Perm := ⟨0x800⟩

/-- The bits that a system call may ask for. -/
def requestable : Perm := ⟨0xE07⟩
/-- The bits that every mapping for user code has. -/
def userRead : Perm := ⟨0x005⟩
/-- A page that user code may read and write. -/
def userWrite : Perm := ⟨0x007⟩

/-! ### Operations -/

/-- The bits of either word. -/
def union (p q : Perm) : Perm := ⟨p.bits ||| q.bits⟩

/-- The bits of both words. -/
def inter (p q : Perm) : Perm := ⟨p.bits &&& q.bits⟩

/-- The bits of `p` that `q` does not have. -/
def minus (p q : Perm) : Perm := ⟨p.bits &&& ~~~q.bits⟩

instance : OrOp Perm := ⟨union⟩
instance : AndOp Perm := ⟨inter⟩
instance : Sub Perm := ⟨minus⟩

/-- Whether `p` has all bits of `q`. -/
def contains (p q : Perm) : Bool := p &&& q = q

/-- Whether `p` has some bit of `q`. -/
def meets (p q : Perm) : Bool := p &&& q ≠ none

/-- Whether no bit is set. -/
def isEmpty (p : Perm) : Bool := p = none

/-- Whether a system call may ask for `p`. -/
def isRequestable (p : Perm) : Bool := p.contains userRead && requestable.contains p

theorem bits_or (p q : Perm) : (p ||| q).bits = p.bits ||| q.bits := rfl
theorem bits_and (p q : Perm) : (p &&& q).bits = p.bits &&& q.bits := rfl
theorem bits_sub (p q : Perm) : (p - q).bits = p.bits &&& ~~~q.bits := rfl

theorem contains_iff {p q : Perm} : p.contains q = true ↔ p.bits &&& q.bits = q.bits := by
  simp only [contains, decide_eq_true_eq]
  exact ⟨fun h => congrArg Perm.bits h, fun h => congrArg Perm.mk h⟩

end Perm

end Exokernel
