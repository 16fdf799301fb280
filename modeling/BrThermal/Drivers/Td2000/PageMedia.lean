/-
What a page says of its medium.

ESC i U carries the record of the medium, and ESC i z repeats the dimensions, which
the printer compares.  Here the bytes of the second command are read as the printer
reads them, by their position in it, and held against the record in the first.
-/
import BrThermal.Drivers.Wire
import BrThermal.Drivers.Written

namespace BrThermal
namespace Drivers
namespace Td2000

open Codec Effect Effect.Prog Pappl Util.Units

/-! ## The bytes of ESC i z -/

def IsPrintInformation (command : List UInt8) : Prop := [0x1B, 0x69, 0x7A] <+: command

instance (command : List UInt8) : Decidable (IsPrintInformation command) :=
  inferInstanceAs (Decidable (_ <+: _))

/-- The operand byte that the specification calls {n}. -/
def operand (command : List UInt8) (n : Nat) : UInt8 := command.getD (n + 2) 0

/-- The flag is set in {n1}. -/
def Valid (command : List UInt8) (flag : UInt8) : Prop := operand command 1 &&& flag ≠ 0

/-- The requested length in whole millimetres, truncated towards zero. -/
def requestedMm (media : MediaCol) : Int := media.sizeLength.toInt.tdiv 100

/-- ESC i z says of the medium what the record says, and of the length of tape what
the page asks for, as far as one byte can and the length in micrometres fits an `int`. -/
structure AgreesWith (record : MediaInfo) (type : MediaType) (options : PrOptions)
    (command : List UInt8) : Prop where
  width : operand command 3 = record.paperWidth
  label : type = .dieCutLabels →
    operand command 4 = record.paperLengthMm ∧ Valid command PrintInfoFlags.piLength
  tape : type = .continuousLengthTape → FitsInt (micrometres options.media.sizeLength) →
    (Valid command PrintInfoFlags.piLength ↔
      0 ≤ requestedMm options.media ∧ requestedMm options.media ≤ 255) ∧
    ((operand command 4).toNat : Int) =
      if 0 ≤ requestedMm options.media ∧ requestedMm options.media ≤ 255 then
        requestedMm options.media
      else 0
  flags : Valid command PrintInfoFlags.piKind ∧ Valid command PrintInfoFlags.piWidth ∧
    Valid command PrintInfoFlags.piRecover
  lineCount : (operand command 5).toNat + 256 * (operand command 6).toNat +
    256 ^ 2 * (operand command 7).toNat + 256 ^ 3 * (operand command 8).toNat =
      options.header.cupsHeight.toNat

theorem toWholeMillimetres_fromPwg {media : MediaCol}
    (hfits : FitsInt (micrometres media.sizeLength)) :
    toWholeMillimetres (fromPwg media.sizeLength) = requestedMm media := by
  rw [fromPwg_of_fitsInt hfits]
  exact Int.mul_tdiv_mul_of_pos_left media.sizeLength.toInt 100 (by decide)

theorem ofLittleEndian_four (a b c d : UInt8) : ofLittleEndian [a, b, c, d] =
    a.toNat + 256 * b.toNat + 256 ^ 2 * c.toNat + 256 ^ 3 * d.toNat := by
  simp only [ofLittleEndian]
  omega

section PrintInfo

variable (options : PrOptions) (type : MediaType) (record : MediaInfo) (length : MediaSize)
  (pageNumber : UInt32)

/-- The mask clears the one flag it is meant to. -/
theorem valid_printInfo (flag : UInt8) :
    Valid (Commands.printInformation (printInfo options type record length pageNumber)) flag ↔
      (if (Media.printInfoMedia record type length).lengthValid then 0x8E else 0x86) &&&
        flag ≠ 0 := Iff.rfl

theorem valid_piLength :
    Valid (Commands.printInformation (printInfo options type record length pageNumber))
      PrintInfoFlags.piLength ↔ (Media.printInfoMedia record type length).lengthValid = true := by
  rw [valid_printInfo]
  cases (Media.printInfoMedia record type length).lengthValid <;> decide

theorem printInfoMedia_width :
    (Media.printInfoMedia record type length).width = record.paperWidth := by
  rw [Media.printInfoMedia]
  split
  · rfl
  · dsimp only
    split <;> rfl

theorem printInfoMedia_tape {media : MediaCol}
    (hfits : FitsInt (micrometres media.sizeLength)) :
    Media.printInfoMedia record .continuousLengthTape (fromPwg media.sizeLength) =
      if 0 ≤ requestedMm media ∧ requestedMm media ≤ 255 then
        ⟨record.paperWidth, UInt8.ofInt (requestedMm media), true⟩
      else ⟨record.paperWidth, 0, false⟩ := by
  rw [Media.printInfoMedia, if_neg (by decide)]
  dsimp only
  rw [toWholeMillimetres_fromPwg hfits]
  by_cases hbyte : 0 ≤ requestedMm media ∧ requestedMm media ≤ 255
  · rw [if_pos hbyte, if_neg (by omega)]
  · rw [if_neg hbyte, if_pos (by omega)]

theorem toNat_ofInt {n : Int} (h : 0 ≤ n ∧ n ≤ 255) : ((UInt8.ofInt n).toNat : Int) = n := by
  rw [UInt8.ofInt, UInt8.toNat_ofNat']
  omega

theorem agreesWith_printInfo :
    AgreesWith record type options (Commands.printInformation
      (printInfo options type record (fromPwg options.media.sizeLength) pageNumber)) := by
  refine ⟨printInfoMedia_width type record _, fun htype => ?_, fun htype hfits => ?_, ?_, ?_⟩
  · subst htype
    exact ⟨rfl, (valid_piLength options _ record _ pageNumber).mpr rfl⟩
  · subst htype
    have hlength : operand (Commands.printInformation (printInfo options .continuousLengthTape
        record (fromPwg options.media.sizeLength) pageNumber)) 4 =
      (Media.printInfoMedia record .continuousLengthTape
        (fromPwg options.media.sizeLength)).length := rfl
    rw [valid_piLength, hlength, printInfoMedia_tape record hfits]
    by_cases hbyte : 0 ≤ requestedMm options.media ∧ requestedMm options.media ≤ 255
    · rw [if_pos hbyte, if_pos hbyte]
      exact ⟨iff_of_true rfl hbyte, toNat_ofInt hbyte⟩
    · rw [if_neg hbyte, if_neg hbyte]
      exact ⟨iff_of_false Bool.false_ne_true hbyte, rfl⟩
  · simp only [valid_printInfo]
    split <;> decide
  · rw [← ofLittleEndian_four]
    exact ofLittleEndian_le32 options.header.cupsHeight

end PrintInfo

/-! ## The two commands of a page -/

/-- What a page writes, if anything, is a first part of its commands. -/
theorem startPage_written (job : Job) (options : PrOptions) (device : Handle) (pageNumber : UInt32)
    (w : World JobData) :
    (startPage (some job) (some options) (some device) pageNumber).wp World.env (fun _ es _ =>
      written es = [] ∨ ∃ jobData type record, mediaTypeOf options.media.type = some type ∧
        written es <+: pageCommands jobData options type record pageNumber) w := by
  rw [startPage]
  cases htype : mediaTypeOf options.media.type with
  | none => exact .inl rfl
  | some type =>
    dsimp only
    rw [call_bind, wp_ask]
    cases (World.env (.jobGetData job) w).1 with
    | none => exact .inl rfl
    | some jobData =>
      dsimp only
      split
      · exact .inl rfl
      · refine wp_mono (writeCommands_writesUpTo _ _) (fun ok es _ hes => .inr ?_)
        exact ⟨jobData, type, _, rfl, hes.written⟩

/-- ESC i z is the second of the commands. -/
theorem pageCommands_printInformation {jobData : JobData} {options : PrOptions} {type : MediaType}
    {record : MediaInfo} {pageNumber : UInt32} {i : Nat} {command : List UInt8}
    (hcommand : (pageCommands jobData options type record pageNumber)[i]? = some command)
    (hprint : IsPrintInformation command) :
    i = 1 ∧ command = Commands.printInformation
      (printInfo options type record (fromPwg options.media.sizeLength) pageNumber) := by
  match i, hcommand with
  | 1, hcommand => exact ⟨rfl, (Option.some.inj hcommand).symm⟩
  | 0, hcommand | 2, hcommand | 3, hcommand | 4, hcommand =>
    obtain rfl := Option.some.inj hcommand
    obtain ⟨rest, hrest⟩ := hprint
    cases hrest

/-- Each ESC i z follows the ESC i U whose record it agrees with. -/
def MediaAgrees (options : PrOptions) (commands : List (List UInt8)) : Prop :=
  ∀ i command, commands[i]? = some command → IsPrintInformation command →
    ∃ type record k, mediaTypeOf options.media.type = some type ∧ i = k + 1 ∧
      commands[k]? = some (Commands.additionalMediaInformation record) ∧
      AgreesWith record type options command

/-- Whatever the device takes of it, a page announces the medium whose record it has
just sent. -/
theorem startPage_mediaAgrees (job : Job) (options : PrOptions) (device : Handle)
    (pageNumber : UInt32) (w : World JobData) :
    MediaAgrees options
      (written ((startPage (some job) (some options) (some device) pageNumber).trace w)) := by
  intro i command hcommand hprint
  rcases startPage_written job options device pageNumber w with
    hnone | ⟨_, type, record, htype, hes⟩
  · rw [hnone] at hcommand
    cases hcommand
  · have hsent := List.prefix_iff_getElem?.mp hes
    obtain ⟨hi, rfl⟩ := List.getElem?_eq_some_iff.mp hcommand
    obtain ⟨rfl, hsecond⟩ := pageCommands_printInformation (hsent i hi) hprint
    have hfirst := hsent 0 (Nat.zero_lt_of_lt hi)
    refine ⟨type, record, 0, htype, rfl, ?_, ?_⟩
    · rw [List.getElem?_eq_getElem (Nat.zero_lt_of_lt hi), ← hfirst]
      rfl
    · rw [hsecond]
      exact agreesWith_printInfo options type record pageNumber

/-- A TD-2020 between `startJob` and the first page, whose device takes every write. -/
def pageWorld : World JobData :=
  { (World.fresh fun _ => 1 : World JobData) with
    jobData := fun _ => some (Driver.td2000.jobData .td2x2x) }

/-- A page of 100 mm of tape. -/
theorem startPage_mediaAgrees_tape :
    let commands := written ((startPage (some ⟨"usb://TD-2020", 0⟩) (some oneLinePage)
      (some ⟨"usb://TD-2020", 0⟩) 0).trace pageWorld)
    (∃ command ∈ commands, IsPrintInformation command ∧ operand command 4 = 100) ∧
      MediaAgrees oneLinePage commands :=
  ⟨by decide +kernel, startPage_mediaAgrees ⟨"usb://TD-2020", 0⟩ oneLinePage _ 0 pageWorld⟩

end Td2000
end Drivers
end BrThermal
