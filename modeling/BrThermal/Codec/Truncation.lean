/-
A stream of commands that is cut off, and what follows it.

A sender hands over its stream in blocks, and a stream that breaks off does so in one
of them.  A reader cannot know that a stream was cut: it takes what comes next as the rest of
the command.  Cut inside the data of a command, a stream goes on with any bytes as
the same command with other data, and then with the commands that follow.  Cut
inside a header or a count this need not be so, because what comes next then decides
how the command is read.
-/
import BrThermal.Codec.CommandSet

namespace BrThermal
namespace Codec

/-! ## Blocks -/

/-- The first of some blocks, and perhaps the beginning of the next, which broke off at
one of the lengths `K`. -/
inductive BrokenOff (K : Nat → Prop) (blocks : List (List UInt8)) : List UInt8 → Prop
  | between {first : List (List UInt8)} (h : first <+: blocks) :
    BrokenOff K blocks first.flatten
  | within {first : List (List UInt8)} {block : List UInt8} {k : Nat}
      (h : first ++ [block] <+: blocks) (hk : K k) :
    BrokenOff K blocks (first.flatten ++ block.take k)

namespace BrokenOff

variable {K : Nat → Prop} {blocks : List (List UInt8)} {bs : List UInt8}

theorem nothing : BrokenOff K blocks [] := .between List.nil_prefix

theorem whole (blocks : List (List UInt8)) : BrokenOff K blocks blocks.flatten :=
  .between (List.prefix_refl _)

theorem prefix_flatten (h : BrokenOff K blocks bs) : bs <+: blocks.flatten := by
  cases h with
  | between h =>
    obtain ⟨rest, rfl⟩ := h
    rw [List.flatten_append]
    exact List.prefix_append _ _
  | @within first block k h =>
    obtain ⟨rest, rfl⟩ := h
    rw [List.flatten_append, List.flatten_append, List.append_assoc]
    refine (List.prefix_append_right_inj _).mpr ((List.take_prefix k block).trans ?_)
    rw [List.flatten_singleton]
    exact List.prefix_append _ _

theorem append_right (h : BrokenOff K blocks bs) (blocks' : List (List UInt8)) :
    BrokenOff K (blocks ++ blocks') bs := by
  cases h with
  | between h => exact .between (h.trans (List.prefix_append _ _))
  | within h hk => exact .within (h.trans (List.prefix_append _ _)) hk

theorem append_left (h : BrokenOff K blocks bs) (blocks' : List (List UInt8)) :
    BrokenOff K (blocks' ++ blocks) (blocks'.flatten ++ bs) := by
  cases h with
  | between h =>
    rw [← List.flatten_append]
    exact .between ((List.prefix_append_right_inj _).mpr h)
  | within h hk =>
    rw [← List.append_assoc, ← List.flatten_append]
    refine .within ?_ hk
    rw [List.append_assoc]
    exact (List.prefix_append_right_inj _).mpr h

/-- The break is at the start, in the first block or after it. -/
theorem cons_cases {block : List UInt8} (h : BrokenOff K (block :: blocks) bs) :
    bs = [] ∨ (∃ k, K k ∧ bs = block.take k) ∨
      ∃ bs', bs = block ++ bs' ∧ BrokenOff K blocks bs' := by
  cases h with
  | @between first h =>
    cases first with
    | nil => exact .inl rfl
    | cons block' first =>
      obtain ⟨rfl, hfirst⟩ := List.cons_prefix_cons.mp h
      exact .inr (.inr ⟨first.flatten, rfl, .between hfirst⟩)
  | @within first block' k h hk =>
    cases first with
    | nil =>
      obtain ⟨rfl, -⟩ := List.cons_prefix_cons.mp h
      exact .inr (.inl ⟨k, hk, rfl⟩)
    | cons block'' first =>
      obtain ⟨rfl, hfirst⟩ := List.cons_prefix_cons.mp h
      refine .inr (.inr ⟨first.flatten ++ block'.take k, ?_, .within hfirst hk⟩)
      rw [List.flatten_cons, List.append_assoc]

end BrokenOff

/-! ## Commands -/

namespace Operand

theorem count_congr (o : Operand) {data data' : List UInt8} (h : data.length = data'.length) :
    o.count data = o.count data' := by
  cases o with
  | fixed n => rfl
  | counted width => rw [count, count, h]

theorem fits_congr (o : Operand) {data data' : List UInt8} (h : data.length = data'.length)
    (hfits : o.Fits data) : o.Fits data' := by
  cases o with
  | fixed n => exact h.symm.trans hfits
  | counted width =>
    rw [Fits, h] at hfits
    exact hfits

/-- The bytes of the count. -/
def width : Operand → Nat
  | fixed _ => 0
  | counted width => width

theorem length_count (o : Operand) (data : List UInt8) : (o.count data).length = o.width := by
  cases o with
  | fixed n => rfl
  | counted width => exact length_littleEndian width data.length

end Operand

namespace CommandSet

variable {κ : Type} {s : CommandSet κ}

theorem encodeAll_injective {cs ds : List s.Command} (h : s.encodeAll cs = s.encodeAll ds) :
    cs = ds := by
  have hcs := decodeAll_encodeAll cs
  rw [h, decodeAll_encodeAll] at hcs
  exact (Option.some.inj hcs).symm

theorem length_data_le (c : s.Command) : c.data.length ≤ (s.encode c).length := by
  rw [encode, List.length_append, List.length_append]
  omega

/-- `part` is the command up to a place inside its data. -/
def CutInData (c : s.Command) (part : List UInt8) : Prop :=
  ∃ k < c.data.length,
    part = s.header c.opcode ++ ((s.operand c.opcode).count c.data ++ c.data.take k)

/-- Whatever comes after the cut becomes the rest of the data. -/
theorem completed_of_cutInData {c : s.Command} {part : List UInt8} (h : CutInData c part) :
    ∃ missing, 0 < missing ∧ missing ≤ c.data.length ∧ ∀ rest : List UInt8,
      rest.length = missing → ∃ c' : s.Command, c'.opcode = c.opcode ∧
        c'.data.length = c.data.length ∧ s.encode c' = part ++ rest := by
  obtain ⟨k, hk, rfl⟩ := h
  refine ⟨c.data.length - k, by omega, by omega, fun rest hrest => ?_⟩
  have hlength : c.data.length = (c.data.take k ++ rest).length := by
    rw [List.length_append, List.length_take, hrest]
    omega
  refine ⟨⟨c.opcode, c.data.take k ++ rest, Operand.fits_congr _ hlength c.fits⟩, rfl,
    hlength.symm, ?_⟩
  rw [encode, ← Operand.count_congr _ hlength, List.append_assoc, List.append_assoc]

/-- `bs` is the stream of `cs` cut between two commands or inside the data of one:
the commands in front of the cut, and the part of a command behind them. -/
inductive CutAt (cs : List s.Command) : List s.Command → List UInt8 → Prop
  | between {whole : List s.Command} (h : whole <+: cs) : CutAt cs whole []
  | inData {whole : List s.Command} {c : s.Command} {part : List UInt8}
      (h : whole ++ [c] <+: cs) (hpart : CutInData c part) : CutAt cs whole part

theorem CutAt.whole_prefix {cs whole : List s.Command} {part : List UInt8}
    (h : CutAt cs whole part) : whole <+: cs := by
  cases h with
  | between h => exact h
  | inData h => exact (List.prefix_append _ _).trans h

/-- The stream is cut, and what was sent is `bs`. -/
def CutsCleanly (cs : List s.Command) (bs : List UInt8) : Prop :=
  ∃ whole part, CutAt cs whole part ∧ bs = s.encodeAll whole ++ part

theorem CutsCleanly.append_right {cs : List s.Command} {bs : List UInt8} (h : CutsCleanly cs bs)
    (ds : List s.Command) : CutsCleanly (cs ++ ds) bs := by
  obtain ⟨whole, part, hcut, rfl⟩ := h
  cases hcut with
  | between h => exact ⟨whole, [], .between (h.trans (List.prefix_append _ _)), rfl⟩
  | inData h hpart => exact ⟨whole, part, .inData (h.trans (List.prefix_append _ _)) hpart, rfl⟩

theorem CutsCleanly.append_left {cs : List s.Command} {bs : List UInt8} (h : CutsCleanly cs bs)
    (ds : List s.Command) : CutsCleanly (ds ++ cs) (s.encodeAll ds ++ bs) := by
  obtain ⟨whole, part, hcut, rfl⟩ := h
  refine ⟨ds ++ whole, part, ?_, by rw [encodeAll_append, List.append_assoc]⟩
  cases hcut with
  | between h => exact .between ((List.prefix_append_right_inj _).mpr h)
  | inData h hpart =>
    refine .inData ?_ hpart
    rw [List.append_assoc]
    exact (List.prefix_append_right_inj _).mpr h

/-- A block of whole commands, with at most `n` bytes of data each, which is cut between
commands or inside data wherever it breaks off at one of the lengths `K`. -/
def Cuttable (s : CommandSet κ) (K : Nat → Prop) (n : Nat) (block : List UInt8) : Prop :=
  ∃ cs : List s.Command, s.encodeAll cs = block ∧ (∀ c ∈ cs, c.data.length ≤ n) ∧
    ∀ k, K k → CutsCleanly cs (block.take k)

/-- A stream of such blocks that breaks off is cut between commands or inside data. -/
theorem cutsCleanly_of_brokenOff {K : Nat → Prop} {n : Nat} {blocks : List (List UInt8)}
    (hblocks : ∀ block ∈ blocks, s.Cuttable K n block) :
    ∃ cs : List s.Command, s.encodeAll cs = blocks.flatten ∧ (∀ c ∈ cs, c.data.length ≤ n) ∧
      ∀ bs, BrokenOff K blocks bs → CutsCleanly cs bs := by
  induction blocks with
  | nil =>
    refine ⟨[], rfl, fun c hc => absurd hc List.not_mem_nil, fun bs h => ?_⟩
    have hnil : bs = [] := List.prefix_nil.mp h.prefix_flatten
    exact ⟨[], [], .between (List.prefix_refl _), hnil⟩
  | cons block blocks ih =>
    obtain ⟨cs, hcs, hdata, hcuts⟩ := hblocks block List.mem_cons_self
    obtain ⟨ds, hds, hdata', hcuts'⟩ := ih fun b hb => hblocks b (List.mem_cons_of_mem _ hb)
    refine ⟨cs ++ ds, ?_, fun c hc => ?_, fun bs h => ?_⟩
    · rw [encodeAll_append, hcs, hds, List.flatten_cons]
    · exact (List.mem_append.mp hc).elim (hdata c) (hdata' c)
    · rcases h.cons_cases with rfl | ⟨k, hk, rfl⟩ | ⟨bs', rfl, hbs'⟩
      · exact ⟨[], [], .between List.nil_prefix, rfl⟩
      · exact (hcuts k hk).append_right ds
      · rw [← hcs]
        exact (hcuts' bs' hbs').append_left cs

/-- One command in a block, if it does not break off in its header or its count. -/
theorem cuttable_encode {c : s.Command} {h n : Nat} (hdata : c.data.length ≤ n)
    (hhead : (s.header c.opcode).length + (s.operand c.opcode).width ≤ h) :
    s.Cuttable (fun k => k = 0 ∨ h ≤ k) n (s.encode c) := by
  rw [← Operand.length_count _ c.data] at hhead
  refine ⟨[c], List.append_nil _, fun c' hc' => ?_, fun k hk => ?_⟩
  · rw [List.mem_singleton.mp hc']
    exact hdata
  · rcases hk with rfl | hk
    · exact ⟨[], [], .between List.nil_prefix, rfl⟩
    · by_cases hwhole : (s.encode c).length ≤ k
      · refine ⟨[c], [], .between (List.prefix_refl _), ?_⟩
        rw [List.take_of_length_le hwhole, List.append_nil]
        exact (List.append_nil _).symm
      · have hlength : (s.encode c).length = (s.header c.opcode).length +
            ((s.operand c.opcode).count c.data).length + c.data.length := by
          rw [encode, List.length_append, List.length_append, Nat.add_assoc]
        refine ⟨[], (s.encode c).take k, .inData (List.prefix_refl _)
          ⟨k - (s.header c.opcode).length - ((s.operand c.opcode).count c.data).length,
            by omega, ?_⟩, rfl⟩
        rw [encode, List.take_append, List.take_of_length_le (by omega), List.take_append,
          List.take_of_length_le (by omega)]

variable {pad : s.Command} {z : UInt8}

theorem encodeAll_replicate (hpad : s.encode pad = [z]) (n : Nat) :
    s.encodeAll (List.replicate n pad) = List.replicate n z := by
  induction n with
  | zero => rfl
  | succ n ih =>
    rw [List.replicate_succ, encodeAll_cons, ih, hpad]
    rfl

/-- After a cut stream come at most one byte and then enough bytes each of which is
a command: reading goes on at the command after them.  At the cut there is read
either what came there, or one command that took it in; that one has data. -/
theorem resumes_of_cutAt (hpad : s.encode pad = [z]) {cs whole : List s.Command}
    {part : List UInt8} (h : CutAt cs whole part) {n : Nat}
    (hcs : ∀ c ∈ cs, c.data.length ≤ n) (more : List s.Command)
    (hmore : (s.encodeAll more).length ≤ 1) :
    ∃ here m, s.encodeAll whole ++ part ++ s.encodeAll more ++ List.replicate n z =
        s.encodeAll (whole ++ here ++ List.replicate m pad) ∧
      ((part = [] ∧ here = more) ∨ ∃ c, c.data ≠ [] ∧ here = [c]) := by
  cases h with
  | between h =>
    refine ⟨more, n, ?_, .inl ⟨rfl, rfl⟩⟩
    rw [List.append_nil, encodeAll_append, encodeAll_append, encodeAll_replicate hpad]
  | @inData c _ h hpart =>
    obtain ⟨missing, hpos, hmissing, hcomplete⟩ := completed_of_cutInData hpart
    have hc := hcs c (h.subset (List.mem_append_right _ List.mem_cons_self))
    obtain ⟨c', -, hlength, hc'⟩ := hcomplete
      (s.encodeAll more ++ List.replicate (missing - (s.encodeAll more).length) z) (by
        rw [List.length_append, List.length_replicate]
        omega)
    refine ⟨[c'], n - (missing - (s.encodeAll more).length), ?_, .inr ⟨c', ?_, rfl⟩⟩
    · have hsplit : List.replicate n z =
          List.replicate (missing - (s.encodeAll more).length) z ++
            List.replicate (n - (missing - (s.encodeAll more).length)) z := by
        rw [List.replicate_append_replicate]
        congr 1
        omega
      rw [encodeAll_append, encodeAll_append, encodeAll_cons, hc', encodeAll_replicate hpad, hsplit]
      simp only [List.append_assoc, encodeAll, List.flatMap_nil, List.nil_append]
    · rw [← List.length_pos_iff]
      omega

end CommandSet

end Codec
end BrThermal
