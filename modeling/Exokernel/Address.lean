/-
Virtual addresses and how the address space is laid out.

* `Layout`: the boundaries of the address space, as numbers. User code owns what lies below
  `Layout.userTop`, may look at what lies below `Layout.userLimit`, and sees nothing above;
* `VirtAddr`: a 32-bit virtual address with its page, its offset in the page and its text;
* `VirtAddr.add?`: the address some bytes further on, which exists only below
  `Layout.addressCount`;
* `roundDown`, `roundUp`: page boundaries around a number; rounding up stops at the last page.
-/
import Exokernel.Text.Hex

namespace Exokernel

/-! ### The layout of the address space

```text
4 GiB ------------>  +-------------------------+
                     | kernel, not for users   |
kernelBase ------->  +-------------------------+ 0xf0000000
                     | kernel stacks, devices  |
userLimit -------->  +-------------------------+ 0xef800000
                     | page table window       |
pageTableWindow -->  +-------------------------+ 0xef400000
                     | frame table window      |
frameWindow ------>  +-------------------------+ 0xef000000
                     | process table window    |
userTop ---------->  +-------------------------+ 0xeec00000
                     | exception stack         |
                     +-------------------------+ 0xeebff000
                     | guard page              |
stackTop --------->  +-------------------------+ 0xeebfe000
                     | stack                   |
                     ~~~~~~~~~~~~~~~~~~~~~~~~~~~
                     | text, data, heap        |
textBase --------->  +-------------------------+ 0x00800000
                     | scratch page            |
scratchPage ------>  +-------------------------+ 0x007ff000
tempBase --------->  +-------------------------+ 0x00400000
```
-/

namespace Layout

/-- How many addresses there are. -/
abbrev addressCount : Nat := 0x100000000

/-- Bytes in a page. -/
abbrev pageSize : Nat := 4096

/-- A page number is an address without its last `pageShift` bits. -/
abbrev pageShift : Nat := 12

/-- Bytes that one page table maps. -/
abbrev tableSpan : Nat := 1024 * pageSize

/-- Where the kernel's own mappings begin. -/
abbrev kernelBase : Nat := 0xF0000000

/-- The end of what user code may look at. -/
abbrev userLimit : Nat := 0xEF800000

/-- The window on the page tables. -/
abbrev pageTableWindow : Nat := userLimit - tableSpan

/-- The window on the frame table. -/
abbrev frameWindow : Nat := pageTableWindow - tableSpan

/-- The window on the process table. -/
abbrev processWindow : Nat := frameWindow - tableSpan

/-- The end of what user code owns. System calls map no page here or above. -/
abbrev userTop : Nat := processWindow

/-- The end of the exception stack, which is one page. -/
abbrev exceptionStackTop : Nat := userTop

/-- The first byte of the exception stack. -/
abbrev exceptionStackBottom : Nat := exceptionStackTop - pageSize

/-- The end of the ordinary stack, one guard page below the exception stack. -/
abbrev stackTop : Nat := userTop - 2 * pageSize

/-- The page of the ordinary stack that a fresh process gets. -/
abbrev stackPage : Nat := stackTop - pageSize

/-- Where programs begin. -/
abbrev textBase : Nat := 2 * tableSpan

/-- The area for temporary mappings. -/
abbrev tempBase : Nat := tableSpan

/-- The page at which a private copy is prepared before it takes its place. -/
abbrev scratchPage : Nat := tempBase + tableSpan - pageSize

end Layout

open Layout

/-! ### Page boundaries -/

/-- The greatest page boundary that is not above `n`. -/
def roundDown (n : Nat) : Nat :=
  n / pageSize * pageSize

/-- The least page boundary that is not below `n`, or the last page of the address space where that
boundary would lie beyond it. -/
def roundUp (n : Nat) : Nat :=
  if n + (pageSize - 1) < addressCount then roundDown (n + (pageSize - 1))
  else addressCount - pageSize

/-! ### Addresses -/

/-- A 32-bit virtual address. -/
structure VirtAddr where
  word : UInt32
  deriving DecidableEq

namespace VirtAddr

/-- The address with the given number, taken modulo `Layout.addressCount`. -/
def ofNat (n : Nat) : VirtAddr := ⟨UInt32.ofNat n⟩

/-- The address as a number. -/
def toNat (va : VirtAddr) : Nat := va.word.toNat

instance : Inhabited VirtAddr := ⟨⟨0⟩⟩

/-- The number of the page that the address lies in. -/
def page (va : VirtAddr) : Nat := va.toNat / pageSize

/-- The distance from the beginning of the page. -/
def offset (va : VirtAddr) : Nat := va.toNat % pageSize

/-- The address at which the page begins. -/
def pageBase (va : VirtAddr) : VirtAddr := ofNat (roundDown va.toNat)

/-- Whether the address is a page boundary. -/
def isAligned (va : VirtAddr) : Bool := va.offset = 0

/-- Whether a system call may map a page here: a page boundary in what user code owns. -/
def isMappable (va : VirtAddr) : Bool := va.toNat < userTop && va.isAligned

/-- The address `n` bytes further on, if it lies in the address space. -/
def add? (va : VirtAddr) (n : Nat) : Option VirtAddr :=
  if va.toNat + n < addressCount then some (ofNat (va.toNat + n)) else none

/-- The address as it is written in messages. -/
def text (va : VirtAddr) : String := Text.hexWord va.word

instance : ToString VirtAddr := ⟨text⟩

@[ext] theorem ext {a b : VirtAddr} (h : a.toNat = b.toNat) : a = b := by
  obtain ⟨a⟩ := a
  obtain ⟨b⟩ := b
  exact congrArg VirtAddr.mk (UInt32.toNat_inj.1 h)

theorem toNat_lt (va : VirtAddr) : va.toNat < addressCount := va.word.toNat_lt

@[simp] theorem toNat_ofNat (n : Nat) : (ofNat n).toNat = n % addressCount := by
  simp [ofNat, toNat]

theorem toNat_ofNat_of_lt {n : Nat} (h : n < addressCount) : (ofNat n).toNat = n := by
  rw [toNat_ofNat, Nat.mod_eq_of_lt h]

theorem page_ofNat_of_lt {n : Nat} (h : n < addressCount) : (ofNat n).page = n / pageSize := by
  rw [page, toNat_ofNat_of_lt h]

/-- A page that user code owns begins at its own address. -/
theorem toNat_ofNat_mul {n : Nat} (h : n * pageSize < userTop) :
    (ofNat (n * pageSize)).toNat = n * pageSize :=
  toNat_ofNat_of_lt (Nat.lt_trans h (by decide))

theorem page_ofNat_mul {n : Nat} (h : n * pageSize < userTop) :
    (ofNat (n * pageSize)).page = n := by
  rw [page, toNat_ofNat_mul h, Nat.mul_div_cancel _ (by decide)]

@[simp] theorem ofNat_toNat (va : VirtAddr) : ofNat va.toNat = va := by
  ext; rw [toNat_ofNat, Nat.mod_eq_of_lt va.toNat_lt]

theorem offset_lt (va : VirtAddr) : va.offset < pageSize := Nat.mod_lt _ (by decide)

/-- An address is its page and its offset. -/
theorem page_mul_add_offset (va : VirtAddr) : va.page * pageSize + va.offset = va.toNat := by
  simp only [page, offset, pageSize]; omega

@[simp] theorem toNat_pageBase (va : VirtAddr) : va.pageBase.toNat = va.page * pageSize := by
  have hround : roundDown va.toNat = va.page * pageSize := rfl
  have hlt : va.page * pageSize < addressCount :=
    Nat.lt_of_le_of_lt (Nat.div_mul_le_self ..) va.toNat_lt
  rw [pageBase, hround, toNat_ofNat_of_lt hlt]

@[simp] theorem page_pageBase (va : VirtAddr) : va.pageBase.page = va.page := by
  have h := va.toNat_pageBase
  simp only [page, pageSize] at h ⊢
  omega

theorem add?_eq_some_iff {va vb : VirtAddr} {n : Nat} :
    va.add? n = some vb ↔ va.toNat + n = vb.toNat := by
  have hb := vb.toNat_lt
  simp only [add?]
  split
  · next h =>
    rw [Option.some.injEq]
    constructor
    · rintro rfl; rw [toNat_ofNat_of_lt h]
    · intro h'; ext; rw [toNat_ofNat_of_lt h, h']
  · next h => exact ⟨fun h' => (nomatch h'), fun h' => absurd (h' ▸ hb) h⟩

end VirtAddr

end Exokernel
