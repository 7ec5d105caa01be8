/-
Ranges of addresses, page by page. Memory is mapped in pages, so a range of bytes is handled as the
pieces that lie in one page each.

* `Piece`, `pieces`: the pieces of a range, in ascending order;
* `writePieces`, `readPieces`: move bytes through the frames that a function assigns to addresses.
  A write that comes to an address without a frame stops there, and what was written stays written.
-/
import Exokernel.Machine.Frames

namespace Exokernel

open Layout

/-- The bytes of a range that lie in one page. -/
structure Piece where
  /-- The address of the first byte. -/
  start : Nat
  /-- The number of bytes. -/
  size : Nat
  deriving DecidableEq

namespace Piece

/-- The number of the page. -/
def page (p : Piece) : Nat := p.start / pageSize

/-- The place of the first byte in its page. -/
def offset (p : Piece) : Nat := p.start % pageSize

/-- The bytes of the range of `len` bytes from `start` on that lie in page `page`. -/
def ofPage (start len page : Nat) : Piece :=
  let low := max start (page * pageSize)
  let high := min (start + len) ((page + 1) * pageSize)
  ⟨low, high - low⟩

end Piece

/-- The numbers of the pages that a range of `len` bytes from `start` on touches. -/
def pagesOf (start len : Nat) : List Nat :=
  if len = 0 then []
  else
    let first := start / pageSize
    let last := (start + len - 1) / pageSize
    List.range' first (last - first + 1)

/-- The pieces of a range of `len` bytes from `start` on. -/
def pieces (start len : Nat) : List Piece :=
  (pagesOf start len).map (Piece.ofPage start len)

/-! ### Moving bytes -/

variable {ε : Type}

/-- Writes `data` to the pieces of a range, each through the frame that `frameOf` finds for its
first address. -/
def writePieces (frameOf : Nat → Except ε Nat) :
    List Piece → List UInt8 → FramePool → Except ε Unit × FramePool
  | [], _, pool => (.ok (), pool)
  | p :: ps, data, pool =>
    match frameOf p.start with
    | .error e => (.error e, pool)
    | .ok n =>
      writePieces frameOf ps (data.drop p.size) (pool.write n p.offset (data.take p.size))

/-- Reads the pieces of a range, each through the frame that `frameOf` finds for its first address.
What a frame does not hold reads as `absent`. -/
def readPieces (frameOf : Nat → Except ε Nat) (absent : UInt8) (pool : FramePool) :
    List Piece → Except ε (List UInt8)
  | [] => .ok []
  | p :: ps =>
    match frameOf p.start with
    | .error e => .error e
    | .ok n =>
      (readPieces frameOf absent pool ps).map (pool.read n p.offset p.size absent ++ ·)

/-- Whether `frameOf` finds a frame for every piece, and if not, why not for the first. -/
def checkPieces (frameOf : Nat → Except ε Nat) : List Piece → Except ε Unit
  | [] => .ok ()
  | p :: ps =>
    match frameOf p.start with
    | .error e => .error e
    | .ok _ => checkPieces frameOf ps

/-- A read succeeds exactly if there is a frame for every piece, and fails for the same reason
otherwise. -/
theorem readPieces_eq_checkPieces (frameOf : Nat → Except ε Nat) (absent : UInt8)
    (pool : FramePool) (ps : List Piece) :
    (readPieces frameOf absent pool ps).map (fun _ => ()) = checkPieces frameOf ps := by
  induction ps with
  | nil => rfl
  | cons p ps ih =>
    simp only [readPieces, checkPieces]
    cases frameOf p.start with
    | error e => rfl
    | ok n =>
      rw [← ih]
      cases readPieces frameOf absent pool ps <;> rfl

/-- A write succeeds exactly if there is a frame for every piece, and fails for the same reason
otherwise. -/
theorem writePieces_eq_checkPieces (frameOf : Nat → Except ε Nat) (ps : List Piece)
    (data : List UInt8) (pool : FramePool) :
    (writePieces frameOf ps data pool).1 = checkPieces frameOf ps := by
  induction ps generalizing data pool with
  | nil => rfl
  | cons p ps ih =>
    simp only [writePieces, checkPieces]
    cases frameOf p.start with
    | error e => rfl
    | ok n => exact ih _ _

end Exokernel
