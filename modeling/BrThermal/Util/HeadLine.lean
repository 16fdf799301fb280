/-
`util::buildHeadLine`: one raster line of PAPPL's, as the print head wants it.

The media sits in the middle of the head, so a narrow line is padded and a wide
one cropped, half on each side.  The dots are then mirrored: the bytes in reverse
order and the bits of each byte reversed.  Sizes are `size_t`, so the two places
where the source can wrap, the rounding up of `headDots` and the dot count of the
buffer, are reduced modulo `2 ^ 64`.
-/
import Mathlib.Algebra.Group.Nat.Defs

namespace BrThermal
namespace Util

/-- A value stored in a `size_t`. -/
def sizeT (n : Nat) : Nat := n % 2 ^ 64

def reverseBitOrder (value : UInt8) : UInt8 :=
  (value &&& 0x01) <<< 7 |||
  (value &&& 0x02) <<< 5 |||
  (value &&& 0x04) <<< 3 |||
  (value &&& 0x08) <<< 1 |||
  (value &&& 0x10) >>> 1 |||
  (value &&& 0x20) >>> 3 |||
  (value &&& 0x40) >>> 5 |||
  (value &&& 0x80) >>> 7

def mirrorLine (data : List UInt8) : List UInt8 := data.reverse.map reverseBitOrder

/-- Where the copied dots start in the delivered line and on the head, and how
many there are. -/
structure Placement where
  srcStart : Nat
  dstStart : Nat
  copyDots : Nat

def placement (availableDots headDots : Nat) : Placement :=
  if availableDots < headDots then
    { srcStart := 0, dstStart := (headDots - availableDots) / 2, copyDots := availableDots }
  else
    { srcStart := (availableDots - headDots) / 2, dstStart := 0, copyDots := headDots }

/-- The bit of dot `p` in its byte, most significant first. -/
def dotMask (p : Nat) : UInt8 := 0x80 >>> UInt8.ofNat (p % 8)

def copyDot (delivered : List UInt8) (place : Placement) (head : List UInt8) (i : Nat) :
    List UInt8 :=
  let src := place.srcStart + i
  let dst := place.dstStart + i
  if delivered.getD (src / 8) 0 &&& dotMask src ≠ 0 then
    head.modify (dst / 8) (· ||| dotMask dst)
  else head

def buildHeadLine (delivered : List UInt8) (deliveredDots headDots : Nat) : List UInt8 :=
  let headBytes := sizeT (headDots + 7) / 8
  let availableDots := min deliveredDots (sizeT (delivered.length * 8))
  let place := placement availableDots headDots
  mirrorLine ((List.range place.copyDots).foldl (copyDot delivered place)
    (List.replicate headBytes 0))

theorem length_mirrorLine (data : List UInt8) : (mirrorLine data).length = data.length := by
  rw [mirrorLine, List.length_map, List.length_reverse]

theorem length_copyDot (delivered : List UInt8) (place : Placement) (head : List UInt8)
    (i : Nat) : (copyDot delivered place head i).length = head.length := by
  rw [copyDot]
  split
  · exact List.length_modify _ _ _
  · rfl

theorem length_foldl_copyDot (delivered : List UInt8) (place : Placement) :
    ∀ (dots : List Nat) (head : List UInt8),
      (dots.foldl (copyDot delivered place) head).length = head.length := by
  intro dots
  induction dots with
  | nil => exact fun _ => rfl
  | cons i dots ih =>
    intro head
    rw [List.foldl_cons, ih, length_copyDot]

theorem length_buildHeadLine (delivered : List UInt8) (deliveredDots headDots : Nat) :
    (buildHeadLine delivered deliveredDots headDots).length = sizeT (headDots + 7) / 8 := by
  simp only [buildHeadLine, length_mirrorLine, length_foldl_copyDot, List.length_replicate]

end Util
end BrThermal
