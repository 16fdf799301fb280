/-
`util::buildHeadLine` and its two buffers.

`delivered[src / 8]` and `head[dst / 8]` are unchecked accesses and the two
subtractions are on `size_t`, so here is the function once more with a check at each
of them: `none` where the source would read or write outside a buffer or go below
zero.  The checks never fail, and the buffer has the size it is meant to have, until
the rounding up of `headDots` wraps.
-/
import BrThermal.Util.HeadLine
import Mathlib.Data.List.GetD

namespace BrThermal
namespace Util

/-! ## The checked function -/

/-- `a - b` on unsigned values. -/
def checkedSub (a b : Nat) : Option Nat := if b ≤ a then some (a - b) else none

def checkedPlacement (availableDots headDots : Nat) : Option Placement :=
  if availableDots < headDots then do
    let blank ← checkedSub headDots availableDots
    return { srcStart := 0, dstStart := blank / 2, copyDots := availableDots }
  else do
    let surplus ← checkedSub availableDots headDots
    return { srcStart := surplus / 2, dstStart := 0, copyDots := headDots }

def checkedCopyDot (delivered : List UInt8) (place : Placement) (head : List UInt8) (i : Nat) :
    Option (List UInt8) := do
  let src := place.srcStart + i
  let dst := place.dstStart + i
  let byte ← delivered[src / 8]?
  if byte &&& dotMask src ≠ 0 then
    if dst / 8 < head.length then return head.modify (dst / 8) (· ||| dotMask dst)
    else none
  else return head

def checkedHeadLine (delivered : List UInt8) (deliveredDots headDots : Nat) :
    Option (List UInt8) := do
  let headBytes := sizeT (headDots + 7) / 8
  let availableDots := min deliveredDots (sizeT (delivered.length * 8))
  let place ← checkedPlacement availableDots headDots
  let head ← (List.range place.copyDots).foldlM (checkedCopyDot delivered place)
    (List.replicate headBytes 0)
  return mirrorLine head

/-! ## Where the accesses are -/

/-- Both subtractions stay above zero: each is made on the side where it can be. -/
theorem checkedPlacement_eq (availableDots headDots : Nat) :
    checkedPlacement availableDots headDots = some (placement availableDots headDots) := by
  rw [checkedPlacement, placement]
  split
  case isTrue hnarrow =>
    rw [checkedSub, if_pos (by omega)]
    rfl
  case isFalse hwide =>
    rw [checkedSub, if_pos (by omega)]
    rfl

/-- The dots copied lie inside the available dots and inside the head. -/
theorem placement_inside {availableDots headDots i : Nat}
    (hi : i < (placement availableDots headDots).copyDots) :
    (placement availableDots headDots).srcStart + i < availableDots ∧
      (placement availableDots headDots).dstStart + i < headDots := by
  rw [placement] at hi ⊢
  split at hi
  case isTrue hnarrow =>
    rw [if_pos hnarrow]
    dsimp only at hi ⊢
    omega
  case isFalse hwide =>
    rw [if_neg hwide]
    dsimp only at hi ⊢
    omega

section Copy

variable {delivered : List UInt8} {place : Placement}

theorem checkedCopyDot_eq {head : List UInt8} {i : Nat}
    (hsrc : (place.srcStart + i) / 8 < delivered.length)
    (hdst : (place.dstStart + i) / 8 < head.length) :
    checkedCopyDot delivered place head i = some (copyDot delivered place head i) := by
  rw [checkedCopyDot, copyDot, List.getElem?_eq_getElem hsrc, List.getD_eq_getElem _ _ hsrc,
    Option.bind_eq_bind, Option.bind_some, if_pos hdst]
  split <;> rfl

theorem checkedCopyDots_eq {dots : List Nat} {head : List UInt8}
    (hsrc : ∀ i ∈ dots, (place.srcStart + i) / 8 < delivered.length)
    (hdst : ∀ i ∈ dots, (place.dstStart + i) / 8 < head.length) :
    dots.foldlM (checkedCopyDot delivered place) head =
      some (dots.foldl (copyDot delivered place) head) := by
  induction dots generalizing head with
  | nil => rfl
  | cons i dots ih =>
    have hfirst := checkedCopyDot_eq (hsrc i List.mem_cons_self) (hdst i List.mem_cons_self)
    have hrest : dots.foldlM (checkedCopyDot delivered place) (copyDot delivered place head i) =
        some (dots.foldl (copyDot delivered place) (copyDot delivered place head i)) := by
      refine ih (fun j hj => hsrc j (List.mem_cons_of_mem _ hj)) (fun j hj => ?_)
      rw [length_copyDot]
      exact hdst j (List.mem_cons_of_mem _ hj)
    rw [List.foldlM_cons, hfirst, Option.bind_eq_bind, Option.bind_some, hrest, List.foldl_cons]

end Copy

theorem checkedHeadLine_eq {delivered : List UInt8} (deliveredDots : Nat) {headDots : Nat}
    (hspan : 8 * delivered.length < 2 ^ 64) (hhead : headDots + 7 < 2 ^ 64) :
    checkedHeadLine delivered deliveredDots headDots =
      some (buildHeadLine delivered deliveredDots headDots) := by
  have hsize : sizeT (delivered.length * 8) = 8 * delivered.length := by
    rw [sizeT]
    omega
  have hheadBytes : sizeT (headDots + 7) = headDots + 7 := by
    rw [sizeT]
    omega
  rw [checkedHeadLine, buildHeadLine, hsize, hheadBytes, checkedPlacement_eq, Option.bind_eq_bind,
    Option.bind_some, checkedCopyDots_eq]
  · rfl
  · intro i hi
    have hinside := placement_inside (List.mem_range.mp hi)
    omega
  · intro i hi
    have hinside := placement_inside (List.mem_range.mp hi)
    rw [List.length_replicate]
    omega

/-! ## The exact range -/

/-- Every access of the call is inside its buffer, no subtraction goes below zero, and
the line has a byte for every eight dots of the head. -/
def NeverLeaves (delivered : List UInt8) (deliveredDots headDots : Nat) : Prop :=
  checkedHeadLine delivered deliveredDots headDots =
      some (buildHeadLine delivered deliveredDots headDots) ∧
    (buildHeadLine delivered deliveredDots headDots).length = (headDots + 7) / 8

/-- The buffers are never left, unless rounding `headDots` up to whole bytes wraps. -/
theorem neverLeaves_iff (delivered : List UInt8) (deliveredDots headDots : Nat)
    (hspan : 8 * delivered.length < 2 ^ 64) (hhead : headDots < 2 ^ 64) :
    NeverLeaves delivered deliveredDots headDots ↔ headDots + 7 < 2 ^ 64 := by
  constructor
  · rintro ⟨-, hlength⟩
    rw [length_buildHeadLine, sizeT] at hlength
    omega
  · intro hfits
    refine ⟨checkedHeadLine_eq deliveredDots hspan hfits, ?_⟩
    rw [length_buildHeadLine, sizeT]
    omega

/-- A head of thirteen dots, with more dots announced than delivered. -/
theorem neverLeaves_iff_thirteenDots : NeverLeaves [0xA0] 1000 13 ↔ 13 + 7 < 2 ^ 64 :=
  neverLeaves_iff [0xA0] 1000 13 (by decide) (by decide)

/-- A head of `2 ^ 64 - 1` dots gets no byte at all, and one set dot is written past it. -/
theorem not_neverLeaves_widestHead :
    ¬∀ (delivered : List UInt8) (deliveredDots headDots : Nat),
      8 * delivered.length < 2 ^ 64 → headDots < 2 ^ 64 →
        NeverLeaves delivered deliveredDots headDots := by
  intro h
  have hout : checkedHeadLine [0x80] 1 (2 ^ 64 - 1) = none := by decide +kernel
  obtain ⟨hline, -⟩ := h [0x80] 1 (2 ^ 64 - 1) (by decide) (by decide)
  rw [hout] at hline
  cases hline

end Util
end BrThermal
