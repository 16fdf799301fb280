/-
`util::compressLine` and its round trip.

The loops of the source walk an index over the line.  Here the index is a suffix:
`countRun` and `countLiteral` are the two inner `while` loops, over the bytes
after the one at `i`, and `compressLine` is the outer one.  Each pass of the
outer loop emits one packet of the format and consumes exactly the bytes that
packet stands for, and that is all the round trip needs.
-/
import BrThermal.Codec.PackBits

namespace BrThermal
namespace Util

open Codec

def countRun (currentByte : UInt8) : List UInt8 → Nat → Nat
  | [], runLength => runLength
  | next :: rest, runLength =>
    if next = currentByte ∧ runLength < 128 then countRun currentByte rest (runLength + 1)
    else runLength

def countLiteral : List UInt8 → Nat → Nat
  | [], literalLength => literalLength
  | next :: rest, literalLength =>
    if literalLength < 128 then
      -- the next byte starts a run of two or more
      if rest.head? = some next then literalLength
      else countLiteral rest (literalLength + 1)
    else literalLength

/-- What the first loop leaves behind: it counted `k` copies of the byte, and
stopped at the cap, at the end, or at a different byte. -/
theorem countRun_spec (b : UInt8) : ∀ (rest : List UInt8) (n : Nat),
    ∃ k, countRun b rest n = n + k ∧ k ≤ rest.length ∧
      rest.take k = List.replicate k b ∧ (n ≤ 128 → n + k ≤ 128) ∧
      (128 ≤ n + k ∨ (rest.drop k).head? ≠ some b) := by
  intro rest
  induction rest with
  | nil =>
    intro n
    exact ⟨0, rfl, Nat.le_refl 0, rfl, id, Or.inr (by simp)⟩
  | cons next rest ih =>
    intro n
    rw [countRun]
    by_cases hc : next = b ∧ n < 128
    · obtain ⟨k, hk, hlen, htake, hcap, hstop⟩ := ih (n + 1)
      refine ⟨k + 1, ?_, ?_, ?_, ?_, ?_⟩
      · rw [if_pos hc, hk]
        omega
      · rw [List.length_cons]
        omega
      · rw [List.take_succ_cons, htake, hc.1, List.replicate_succ]
      · intro _
        have := hcap (by omega)
        omega
      · rw [List.drop_succ_cons]
        rcases hstop with hstop | hstop
        · exact Or.inl (by omega)
        · exact Or.inr hstop
    · refine ⟨0, by rw [if_neg hc]; rfl, Nat.zero_le _, rfl, id, ?_⟩
      rcases Nat.lt_or_ge n 128 with hn | hn
      · refine Or.inr ?_
        rw [List.drop_zero, List.head?_cons]
        exact fun h => hc ⟨Option.some.inj h, hn⟩
      · exact Or.inl hn

/-- The line goes on with a run. -/
def StartsRun (data : List UInt8) : Prop := ∃ b tail, data = b :: b :: tail

/-- What the second loop leaves behind: it stopped at the cap, at the end, or in
front of two equal bytes. -/
theorem countLiteral_spec : ∀ (rest : List UInt8) (n : Nat),
    ∃ k, countLiteral rest n = n + k ∧ k ≤ rest.length ∧ (n ≤ 128 → n + k ≤ 128) ∧
      (128 ≤ n + k ∨ rest.drop k = [] ∨ StartsRun (rest.drop k)) := by
  intro rest
  induction rest with
  | nil =>
    intro n
    exact ⟨0, rfl, Nat.le_refl 0, id, Or.inr (Or.inl rfl)⟩
  | cons next rest ih =>
    intro n
    rw [countLiteral]
    rcases Nat.lt_or_ge n 128 with hn | hn
    · rw [if_pos hn]
      by_cases hb : rest.head? = some next
      · refine ⟨0, by rw [if_pos hb]; rfl, Nat.zero_le _, id, Or.inr (Or.inr ?_)⟩
        obtain ⟨tail, rfl⟩ := List.head?_eq_some_iff.mp hb
        exact ⟨next, tail, rfl⟩
      · obtain ⟨k, hk, hlen, hcap, hstop⟩ := ih (n + 1)
        refine ⟨k + 1, ?_, ?_, ?_, ?_⟩
        · rw [if_neg hb, hk]
          omega
        · rw [List.length_cons]
          omega
        · intro _
          have := hcap (by omega)
          omega
        · rw [List.drop_succ_cons]
          rcases hstop with hstop | hstop
          · exact Or.inl (by omega)
          · exact Or.inr hstop
    · exact ⟨0, by rw [if_neg (by omega)]; rfl, Nat.zero_le _, id, Or.inl hn⟩

theorem one_le_countRun (b : UInt8) (rest : List UInt8) : 1 ≤ countRun b rest 1 := by
  obtain ⟨k, hk, -⟩ := countRun_spec b rest 1
  omega

theorem one_le_countLiteral (rest : List UInt8) : 1 ≤ countLiteral rest 1 := by
  obtain ⟨k, hk, -⟩ := countLiteral_spec rest 1
  omega

/-- Each pass of the outer loop advances `i` by at least one, so it terminates. -/
def compressLine : List UInt8 → List UInt8
  | [] => []
  | currentByte :: rest =>
    let data := currentByte :: rest
    let runLength := countRun currentByte rest 1
    if runLength ≥ 2 then
      UInt8.ofNat (257 - runLength) :: currentByte :: compressLine (data.drop runLength)
    else
      let literalLength := countLiteral rest 1
      UInt8.ofNat (literalLength - 1) ::
        (data.take literalLength ++ compressLine (data.drop literalLength))
termination_by data => data.length
decreasing_by
  · have := one_le_countRun currentByte rest
    simp only [List.length_drop, List.length_cons]
    omega
  · have := one_le_countLiteral rest
    simp only [List.length_drop, List.length_cons]
    omega

/-- A pass that counted `k` further copies of the byte. -/
theorem compressLine_run {b : UInt8} {rest : List UInt8} {k : Nat}
    (hcount : countRun b rest 1 = 1 + k) (hk : 1 ≤ k) :
    compressLine (b :: rest) =
      UInt8.ofNat (257 - (1 + k)) :: b :: compressLine (rest.drop k) := by
  have hrun : 1 + k ≥ 2 := by omega
  have hdrop : (b :: rest).drop (1 + k) = rest.drop k := by
    rw [Nat.add_comm, List.drop_succ_cons]
  rw [compressLine]
  dsimp only
  rw [hcount, if_pos hrun, hdrop]

/-- A pass that counted `m` further bytes of a literal. -/
theorem compressLine_literal {b : UInt8} {rest : List UInt8} {m : Nat}
    (hrun : countRun b rest 1 < 2) (hcount : countLiteral rest 1 = 1 + m) :
    compressLine (b :: rest) =
      UInt8.ofNat m :: b :: (rest.take m ++ compressLine (rest.drop m)) := by
  have htake : (b :: rest).take (1 + m) = b :: rest.take m := by
    rw [Nat.add_comm, List.take_succ_cons]
  have hdrop : (b :: rest).drop (1 + m) = rest.drop m := by
    rw [Nat.add_comm, List.drop_succ_cons]
  rw [compressLine]
  dsimp only
  rw [if_neg (Nat.not_le.mpr hrun), hcount, htake, hdrop, Nat.add_sub_cancel_left,
    List.cons_append]

theorem cons_eq_replicate_append {b : UInt8} {rest : List UInt8} {k : Nat}
    (htake : rest.take k = List.replicate k b) :
    b :: rest = List.replicate (1 + k) b ++ rest.drop k := by
  rw [Nat.add_comm, List.replicate_succ, List.cons_append, ← htake, List.take_append_drop]

/-- What one pass of the outer loop emits: a packet that stands for a nonempty prefix of
the line.  A run is never missed, and a literal stops only in front of one, at the cap or
at the end. -/
structure Pass (data : List UInt8) (p : Packet) (tail : List UInt8) : Prop where
  expand : data = p.expand ++ tail
  shorter : tail.length < data.length
  encode : compressLine data = p.encode ++ compressLine tail
  isRun : StartsRun data → p.IsRun
  stops : p.IsRun ∨ p.expand.length = 128 ∨ tail = [] ∨ StartsRun tail

theorem pass_run {b : UInt8} {rest : List UInt8} (hrun : 2 ≤ countRun b rest 1) :
    ∃ p tail, Pass (b :: rest) p tail := by
  obtain ⟨k, hk, hlen, htake, hcap, -⟩ := countRun_spec b rest 1
  refine ⟨.run (1 + k) b (by omega) (hcap (by omega)), rest.drop k, ?_, ?_, ?_, ?_, .inl trivial⟩
  · exact cons_eq_replicate_append htake
  · rw [List.length_drop, List.length_cons]
    omega
  · exact compressLine_run hk (by omega)
  · exact fun _ => trivial

theorem pass_literal {b : UInt8} {rest : List UInt8} (hrun : countRun b rest 1 < 2) :
    ∃ p tail, Pass (b :: rest) p tail := by
  obtain ⟨m, hm, hmlen, hmcap, hstop⟩ := countLiteral_spec rest 1
  have hcap := hmcap (by decide)
  have hsize : (b :: rest.take m).length = 1 + m := by
    rw [List.length_cons, List.length_take]
    omega
  refine ⟨.literal (b :: rest.take m) (by omega) (by omega), rest.drop m, ?_, ?_, ?_, ?_, ?_⟩
  · show b :: rest = b :: rest.take m ++ rest.drop m
    rw [List.cons_append, List.take_append_drop]
  · rw [List.length_drop, List.length_cons]
    omega
  · rw [compressLine_literal hrun hm, Packet.encode, Packet.control, Packet.operand, hsize,
      Nat.add_sub_cancel_left]
    rfl
  · -- a second copy of the byte would have been counted
    rintro ⟨c, tail, hdata⟩
    obtain ⟨rfl, rfl⟩ := List.cons.inj hdata
    have hcount : countRun b (b :: tail) 1 = countRun b tail 2 := if_pos ⟨rfl, by decide⟩
    obtain ⟨k, hk, -⟩ := countRun_spec b tail 2
    omega
  · have hfull : 128 ≤ 1 + m → (b :: rest.take m).length = 128 := by omega
    exact .inr (hstop.imp hfull id)

theorem pass_cons (b : UInt8) (rest : List UInt8) : ∃ p tail, Pass (b :: rest) p tail := by
  rcases Nat.lt_or_ge (countRun b rest 1) 2 with hrun | hrun
  · exact pass_literal hrun
  · exact pass_run hrun

/-- A compressed line is a sequence of packets that stand for the line, and no literal
of it is broken off early. -/
theorem compressLine_packets (data : List UInt8) :
    ∃ ps : List Packet, compressLine data = ps.flatMap Packet.encode ∧
      data = ps.flatMap Packet.expand ∧ ps.IsChain Packet.Apart ∧
      (data = [] ∨ StartsRun data → ∀ p ∈ ps.head?, p.IsRun) := by
  induction hn : data.length using Nat.strongRecOn generalizing data with
  | _ n ih =>
    cases data with
    | nil => exact ⟨[], by rw [compressLine]; rfl, rfl, .nil, fun _ p hp => by cases hp⟩
    | cons b rest =>
      obtain ⟨p, tail, hpass⟩ := pass_cons b rest
      have hlt := hpass.shorter
      obtain ⟨ps, hps, htail, hchain, hhead⟩ := ih tail.length (by omega) tail rfl
      refine ⟨p :: ps, ?_, ?_, List.isChain_cons.mpr ⟨fun q hq => ?_, hchain⟩,
        fun hdata q hq => ?_⟩
      · rw [hpass.encode, hps, List.flatMap_cons]
      · rw [hpass.expand, List.flatMap_cons, ← htail]
      · rcases hpass.stops with hrun | hfull | hnext
        · exact .inl hrun
        · exact .inr (.inr hfull)
        · exact .inr (.inl (hhead hnext q hq))
      · cases hq
        exact hpass.isRun (hdata.resolve_left (List.cons_ne_nil b rest))

theorem unpackBits_compressLine (data : List UInt8) :
    unpackBits (compressLine data) = some data := by
  obtain ⟨ps, hps, hdata, -⟩ := compressLine_packets data
  rw [hps, unpackBits_packets, ← hdata]

/-- The control bytes make a line longer by at most a third, rounded up. -/
theorem length_compressLine_le (data : List UInt8) :
    (compressLine data).length ≤ data.length + (data.length + 2) / 3 := by
  obtain ⟨ps, hps, hdata, hchain, -⟩ := compressLine_packets data
  have hlength := Packet.length_encode_le hchain
  rwa [← hps, ← hdata] at hlength

/-- The strict reader accepts every compressed line and returns the line, and
no packet of a compressed line uses the reserved control byte. -/
theorem compressLine_roundTrip (data : List UInt8) :
    unpackBits (compressLine data) = some data ∧
      ∃ ps : List Packet, compressLine data = ps.flatMap Packet.encode ∧
        ps.flatMap Packet.expand = data ∧ ∀ p ∈ ps, p.control ≠ 128 := by
  obtain ⟨ps, hps, hdata, -⟩ := compressLine_packets data
  exact ⟨unpackBits_compressLine data, ps, hps, hdata.symm, fun p _ => p.control_ne⟩

/-! ## The longest compressed lines -/

/-- A line of single bytes, each but the last in front of a pair. -/
def sparseLine : Nat → List UInt8
  | 0 => []
  | 1 => [0]
  | 2 => [0, 1]
  | n + 3 => 0 :: 1 :: 1 :: sparseLine n

theorem length_sparseLine (n : Nat) : (sparseLine n).length = n := by
  induction n using sparseLine.induct with
  | case1 => rfl
  | case2 => rfl
  | case3 => rfl
  | case4 n ih => rw [sparseLine, List.length_cons, List.length_cons, List.length_cons, ih]

theorem head?_sparseLine_ne (n : Nat) : (sparseLine n).head? ≠ some 1 := by
  cases n using sparseLine.induct with
  | case1 => decide
  | case2 => decide
  | case3 => decide
  | case4 n => exact fun h => by cases h

/-- The single byte becomes a literal of its own, and the pair a run. -/
theorem compressLine_pair {tail : List UInt8} (h : tail.head? ≠ some 1) :
    compressLine (0 :: 1 :: 1 :: tail) = 0 :: 0 :: 255 :: 1 :: compressLine tail := by
  have hsingle : countRun 0 (1 :: 1 :: tail) 1 < 2 := by
    rw [countRun, if_neg (by decide)]
    decide
  have hliteral : countLiteral (1 :: 1 :: tail) 1 = 1 + 0 := by
    rw [countLiteral, if_pos (by decide), List.head?_cons, if_pos rfl]
  have hpair : countRun 1 (1 :: tail) 1 = 1 + 1 := by
    rw [countRun, if_pos (by decide)]
    cases tail with
    | nil => rfl
    | cons next tail =>
      have hne : next ≠ 1 := fun heq => h (congrArg some heq)
      rw [countRun, if_neg fun hmore => hne hmore.1]
  rw [compressLine_literal hsingle hliteral, List.drop_zero,
    compressLine_run hpair (Nat.le_refl 1)]
  rfl

theorem length_compressLine_sparseLine (n : Nat) :
    (compressLine (sparseLine n)).length = n + (n + 2) / 3 := by
  induction n using sparseLine.induct with
  | case1 => rw [sparseLine, compressLine, List.length_nil]
  | case2 =>
    have hliteral : countLiteral [] 1 = 1 + 0 := rfl
    rw [sparseLine, compressLine_literal (by decide) hliteral, List.drop_zero, compressLine]
    rfl
  | case3 =>
    have hliteral : countLiteral [1] 1 = 1 + 1 := rfl
    rw [sparseLine, compressLine_literal (by decide) hliteral, List.drop_one, List.tail_cons,
      compressLine]
    rfl
  | case4 n ih =>
    rw [sparseLine, compressLine_pair (head?_sparseLine_ne n)]
    simp only [List.length_cons, ih]
    omega

end Util
end BrThermal
