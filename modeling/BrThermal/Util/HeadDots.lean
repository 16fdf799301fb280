/-
`util::buildHeadLine`, dot by dot.

A line is its dots, most significant bit first, and the copy loop moves one dot at
a time.  What the loop has done after `n` turns is a statement about one dot of the
head, proved by induction on `n`; the mirroring at the end then turns the line
round.  As a list, the line that leaves is the delivered dots between two margins,
or what is left of them between two cuts, read backwards.
-/
import BrThermal.Codec.Bits
import BrThermal.Util.HeadLine

namespace BrThermal
namespace Util

open Codec

theorem testBit_reverseBitOrder (b : UInt8) :
    ∀ i < 8, (reverseBitOrder b).toNat.testBit i = b.toNat.testBit (7 - i) := by
  have hbytes : ∀ n < 256, ∀ i < 8, (reverseBitOrder (UInt8.ofNat n)).toNat.testBit i =
      (UInt8.ofNat n).toNat.testBit (7 - i) := by decide +kernel
  intro i hi
  have hb := hbytes b.toNat b.toNat_lt i hi
  rwa [UInt8.ofNat_toNat] at hb

theorem bit_mirrorLine {data : List UInt8} {p : Nat} (hp : p < 8 * data.length) :
    bit (mirrorLine data) p = bit data (8 * data.length - 1 - p) :=
  bit_map_reverse testBit_reverseBitOrder hp

/-! ## The copy loop -/

section Copy

variable (delivered : List UInt8) (place : Placement)

/-- One turn of the loop sets at most one dot, and that one from the delivered line. -/
theorem bit_copyDot (head : List UInt8) (i p : Nat) :
    bit (copyDot delivered place head i) p =
      (bit head p || decide (p = place.dstStart + i ∧ place.dstStart + i < 8 * head.length) &&
        bit delivered (place.srcStart + i)) := by
  have hread : delivered.getD ((place.srcStart + i) / 8) 0 &&& dotMask (place.srcStart + i) ≠ 0 ↔
      bit delivered (place.srcStart + i) = true := and_bitMask_ne_zero _ _
  rw [copyDot]
  split
  case isTrue hset =>
    rw [hread.mp hset, Bool.and_true]
    exact bit_modify_or head p (place.dstStart + i)
  case isFalse hclear =>
    have hfalse : bit delivered (place.srcStart + i) = false :=
      Bool.eq_false_iff.mpr fun hset => hclear (hread.mpr hset)
    rw [hfalse, Bool.and_false, Bool.or_false]

/-- After `n` turns the dots from `dstStart` on are those from `srcStart` on. -/
theorem bit_copyDots (n : Nat) {head : List UInt8} {p : Nat} (hp : p < 8 * head.length) :
    bit ((List.range n).foldl (copyDot delivered place) head) p =
      (bit head p || decide (place.dstStart ≤ p ∧ p < place.dstStart + n) &&
        bit delivered (place.srcStart + (p - place.dstStart))) := by
  induction n with
  | zero =>
    have hnone : decide (place.dstStart ≤ p ∧ p < place.dstStart + 0) = false := by
      rw [decide_eq_false_iff_not]
      omega
    rw [hnone, Bool.false_and, Bool.or_false]
    rfl
  | succ n ih =>
    rw [List.range_succ, List.foldl_append, List.foldl_cons, List.foldl_nil, bit_copyDot, ih,
      length_foldl_copyDot, Bool.or_assoc]
    congr 1
    by_cases hlast : p = place.dstStart + n
    · have hnew :
          decide (p = place.dstStart + n ∧ place.dstStart + n < 8 * head.length) = true := by
        rw [decide_eq_true_iff]
        omega
      have hold : decide (place.dstStart ≤ p ∧ p < place.dstStart + n) = false := by
        rw [decide_eq_false_iff_not]
        omega
      have hin : decide (place.dstStart ≤ p ∧ p < place.dstStart + (n + 1)) = true := by
        rw [decide_eq_true_iff]
        omega
      have hsrc : place.srcStart + (p - place.dstStart) = place.srcStart + n := by omega
      rw [hnew, hold, hin, hsrc, Bool.false_and, Bool.false_or]
    · have hnew : decide (p = place.dstStart + n ∧ place.dstStart + n < 8 * head.length) =
          false := by
        rw [decide_eq_false_iff_not]
        omega
      have hsame : decide (place.dstStart ≤ p ∧ p < place.dstStart + n) =
          decide (place.dstStart ≤ p ∧ p < place.dstStart + (n + 1)) := by
        rw [decide_eq_decide]
        omega
      rw [hnew, hsame, Bool.false_and, Bool.or_false]

end Copy

/-! ## The line -/

/-- Dot `d` of the head, before the mirroring, when `a` delivered dots are available. -/
def headDot (delivered : List UInt8) (a headDots d : Nat) : Bool :=
  if a < headDots then
    let pad := (headDots - a) / 2
    if pad ≤ d ∧ d < pad + a then bit delivered (d - pad) else false
  else bit delivered (d + (a - headDots) / 2)

/-- A line without one dot too many or too few: the delivered dots in the middle of the
head, mirrored. -/
structure Centred (delivered : List UInt8) (deliveredDots headDots : Nat) (line : List UInt8) :
    Prop where
  length : line.length = headDots / 8
  dots : ∀ p < headDots, bit line p =
    headDot delivered (min deliveredDots (8 * delivered.length)) headDots (headDots - 1 - p)
  /-- Narrow media: every dot once, between margins that differ by at most one. -/
  padded : min deliveredDots (8 * delivered.length) ≤ headDots → ∃ left right,
    left + min deliveredDots (8 * delivered.length) + right = headDots ∧
      left ≤ right + 1 ∧ right ≤ left + 1 ∧
      bits line = (List.replicate left false ++
        ((bits delivered).take (min deliveredDots (8 * delivered.length)) ++
          List.replicate right false)).reverse
  /-- Wide media: the cuts differ by at most one, and what is between them is left. -/
  cropped : headDots ≤ min deliveredDots (8 * delivered.length) → ∃ left right,
    left + headDots + right = min deliveredDots (8 * delivered.length) ∧
      left ≤ right + 1 ∧ right ≤ left + 1 ∧
      bits line = (((bits delivered).drop left).take headDots).reverse
  exactFit : 8 * delivered.length = headDots → headDots ≤ deliveredDots →
    line = mirrorLine delivered
  /-- Another span with the same dots below `deliveredDots` gives the same line. -/
  clipped : ∀ delivered' : List UInt8, 8 * delivered'.length < 2 ^ 64 →
    min deliveredDots (8 * delivered'.length) = min deliveredDots (8 * delivered.length) →
    (∀ p < deliveredDots, bit delivered' p = bit delivered p) →
      buildHeadLine delivered' deliveredDots headDots = line

section Line

variable {delivered : List UInt8} (deliveredDots : Nat) {headDots : Nat}

theorem length_line (hhead : headDots < 2 ^ 64) (hbytes : 8 ∣ headDots) :
    (buildHeadLine delivered deliveredDots headDots).length = headDots / 8 := by
  rw [length_buildHeadLine, sizeT]
  omega

theorem bit_buildHeadLine (hspan : 8 * delivered.length < 2 ^ 64) (hhead : headDots < 2 ^ 64)
    (hbytes : 8 ∣ headDots) {p : Nat} (hp : p < headDots) :
    bit (buildHeadLine delivered deliveredDots headDots) p =
      headDot delivered (min deliveredDots (8 * delivered.length)) headDots (headDots - 1 - p) := by
  have hsize : sizeT (delivered.length * 8) = 8 * delivered.length := by
    rw [sizeT]
    omega
  have hheadBytes : 8 * (sizeT (headDots + 7) / 8) = headDots := by
    rw [sizeT]
    omega
  rw [buildHeadLine, hsize]
  generalize min deliveredDots (8 * delivered.length) = a
  have hlength : 8 * ((List.range (placement a headDots).copyDots).foldl
      (copyDot delivered (placement a headDots))
      (List.replicate (sizeT (headDots + 7) / 8) 0)).length = headDots := by
    rw [length_foldl_copyDot, List.length_replicate, hheadBytes]
  have hzero : headDots - 1 - p <
      8 * (List.replicate (sizeT (headDots + 7) / 8) (0 : UInt8)).length := by
    rw [List.length_replicate, hheadBytes]
    omega
  rw [bit_mirrorLine (by omega), hlength, bit_copyDots _ _ _ hzero, bit_replicate_zero,
    Bool.false_or, headDot, placement]
  split
  case isTrue hnarrow =>
    dsimp only
    split
    case isTrue hin => rw [decide_eq_true hin, Bool.true_and, Nat.zero_add]
    case isFalse hout => rw [decide_eq_false hout, Bool.false_and]
  case isFalse hwide =>
    have hin : 0 ≤ headDots - 1 - p ∧ headDots - 1 - p < 0 + headDots := by omega
    dsimp only
    rw [decide_eq_true hin, Bool.true_and, Nat.sub_zero, Nat.add_comm]

/-- The dots of the line are those of the head in reverse. -/
theorem bits_buildHeadLine (hspan : 8 * delivered.length < 2 ^ 64) (hhead : headDots < 2 ^ 64)
    (hbytes : 8 ∣ headDots) :
    bits (buildHeadLine delivered deliveredDots headDots) =
      ((List.range headDots).map
        (headDot delivered (min deliveredDots (8 * delivered.length)) headDots)).reverse := by
  have hlength : 8 * (buildHeadLine delivered deliveredDots headDots).length = headDots := by
    rw [length_line deliveredDots hhead hbytes]
    omega
  refine List.ext_getElem ?_ (fun p hp hp' => ?_)
  · rw [length_bits, hlength, List.length_reverse, List.length_map, List.length_range]
  · rw [length_bits, hlength] at hp
    rw [getElem_bits, bit_buildHeadLine deliveredDots hspan hhead hbytes hp]
    simp only [List.getElem_reverse, List.getElem_map, List.getElem_range, List.length_map,
      List.length_range]

end Line

/-! ## The head as a list of dots -/

section Head

variable {delivered : List UInt8} {a headDots : Nat}

theorem map_headDot_of_le (ha : a ≤ 8 * delivered.length) (hfits : a ≤ headDots) :
    (List.range headDots).map (headDot delivered a headDots) =
      List.replicate ((headDots - a) / 2) false ++ ((bits delivered).take a ++
        List.replicate (headDots - a - (headDots - a) / 2) false) := by
  have htake : ((bits delivered).take a).length = a := by
    rw [List.length_take, length_bits]
    omega
  refine List.ext_getElem ?_ (fun d hd hd' => ?_)
  · simp only [List.length_map, List.length_range, List.length_append, List.length_replicate, htake]
    omega
  · rw [List.length_map, List.length_range] at hd
    rw [List.getElem_map, List.getElem_range, headDot]
    by_cases hleft : d < (headDots - a) / 2
    · rw [List.getElem_append_left (by rwa [List.length_replicate]), List.getElem_replicate,
        if_pos (by omega)]
      exact if_neg (by omega)
    · rw [List.getElem_append_right (by rw [List.length_replicate]; omega)]
      simp only [List.length_replicate]
      by_cases hmid : d < (headDots - a) / 2 + a
      · rw [List.getElem_append_left (by omega), List.getElem_take, getElem_bits]
        split
        · exact if_pos (by omega)
        · congr 1
          omega
      · rw [List.getElem_append_right (by omega), List.getElem_replicate, if_pos (by omega)]
        exact if_neg (by omega)

theorem map_headDot_of_ge (ha : a ≤ 8 * delivered.length) (hwide : headDots ≤ a) :
    (List.range headDots).map (headDot delivered a headDots) =
      ((bits delivered).drop ((a - headDots) / 2)).take headDots := by
  refine List.ext_getElem ?_ (fun d hd hd' => ?_)
  · simp only [List.length_map, List.length_range, List.length_take, List.length_drop, length_bits]
    omega
  · rw [List.getElem_map, List.getElem_range, List.getElem_take, List.getElem_drop, getElem_bits,
      headDot, if_neg (by omega), Nat.add_comm]

end Head

/-- Wherever the line comes from, the dots it delivers stand in the middle of the head. -/
theorem buildHeadLine_centred (delivered : List UInt8) (deliveredDots headDots : Nat)
    (hspan : 8 * delivered.length < 2 ^ 64) (hhead : headDots < 2 ^ 64) (hbytes : 8 ∣ headDots) :
    Centred delivered deliveredDots headDots
      (buildHeadLine delivered deliveredDots headDots) where
  length := length_line deliveredDots hhead hbytes
  dots _ hp := bit_buildHeadLine deliveredDots hspan hhead hbytes hp
  padded hfits := by
    have hline := bits_buildHeadLine deliveredDots hspan hhead hbytes
    rw [map_headDot_of_le (Nat.min_le_right _ _) hfits] at hline
    exact ⟨_, _, by omega, by omega, by omega, hline⟩
  cropped hwide := by
    have hline := bits_buildHeadLine deliveredDots hspan hhead hbytes
    rw [map_headDot_of_ge (Nat.min_le_right _ _) hwide] at hline
    exact ⟨_, min deliveredDots (8 * delivered.length) - headDots -
      (min deliveredDots (8 * delivered.length) - headDots) / 2, by omega, by omega, by omega,
      hline⟩
  exactFit hexact hdots := by
    have hlength : (buildHeadLine delivered deliveredDots headDots).length = headDots / 8 :=
      length_line deliveredDots hhead hbytes
    refine eq_of_bit (by rw [hlength, length_mirrorLine]; omega) (fun p hp => ?_)
    rw [bit_buildHeadLine deliveredDots hspan hhead hbytes (by omega), bit_mirrorLine (by omega),
      headDot, if_neg (by omega)]
    congr 1
    omega
  clipped delivered' hspan' havailable hsame := by
    have hlength : ∀ line, (buildHeadLine line deliveredDots headDots).length = headDots / 8 :=
      fun line => length_line deliveredDots hhead hbytes
    refine eq_of_bit (by rw [hlength, hlength]) (fun p hp => ?_)
    rw [hlength] at hp
    rw [bit_buildHeadLine deliveredDots hspan' hhead hbytes (by omega),
      bit_buildHeadLine deliveredDots hspan hhead hbytes (by omega), havailable, headDot, headDot]
    dsimp only
    split
    · split
      · exact hsame _ (by omega)
      · rfl
    · exact hsame _ (by omega)

/-- Three dots delivered to a head of sixteen. -/
theorem buildHeadLine_centred_threeDots :
    Centred [0xA0] 3 16 (buildHeadLine [0xA0] 3 16) :=
  buildHeadLine_centred [0xA0] 3 16 (by decide) (by decide) (by decide)

end Util
end BrThermal
