/-
The errors of a packet and the reasons shown for them.

A driver names some bits of the two error bytes and adds up the reasons of those
that are set.  What it shows is therefore a union over the flags raised, which makes
it monotone, and it shows nothing exactly where no flag raised has a reason.
-/
import BrThermal.Drivers.Device
import BrThermal.Drivers.Driver

namespace BrThermal
namespace Drivers

open Effect Effect.Prog Pappl

theorem mem_ite_empty {α : Type} {c : Prop} [Decidable c] {s : Finset α} {a : α} :
    (a ∈ if c then s else ∅) ↔ c ∧ a ∈ s := by
  by_cases hc : c
  · rw [if_pos hc, and_iff_right hc]
  · rw [if_neg hc]
    exact iff_of_false (Finset.notMem_empty a) fun h => hc h.1

namespace Td2000

/-- The flags named in the two error bytes. -/
inductive ErrorFlag where
  | noMedia
  | endOfMedia
  | printerInUse
  | replacingMedia
  | communicationError
  | coverOpen
  | mediaCannotBeFed
  | systemError
deriving DecidableEq

namespace ErrorFlag

def raised (info : PrinterInfo) : ErrorFlag → Bool
  | noMedia => (ErrorInformation1Fields.ofByte info.errorInformation1).noMedia
  | endOfMedia => (ErrorInformation1Fields.ofByte info.errorInformation1).endOfMedia
  | printerInUse => (ErrorInformation1Fields.ofByte info.errorInformation1).printerInUse
  | replacingMedia => (ErrorInformation2Fields.ofByte info.errorInformation2).replacingMedia
  | communicationError => (ErrorInformation2Fields.ofByte info.errorInformation2).communicationError
  | coverOpen => (ErrorInformation2Fields.ofByte info.errorInformation2).coverOpen
  | mediaCannotBeFed => (ErrorInformation2Fields.ofByte info.errorInformation2).mediaCannotBeFed
  | systemError => (ErrorInformation2Fields.ofByte info.errorInformation2).systemError

/-- What a flag adds to the reasons. -/
def reasons : ErrorFlag → Reasons
  | noMedia | endOfMedia => {.mediaEmpty, .mediaNeeded}
  | replacingMedia => {.mediaNeeded}
  | coverOpen => {.coverOpen}
  | mediaCannotBeFed => {.mediaJam, .mediaEmpty}
  | printerInUse | communicationError | systemError => {.other}

theorem reasons_ne_empty (flag : ErrorFlag) : flag.reasons ≠ ∅ := by
  cases flag <;> decide

end ErrorFlag

theorem mem_errorReasons {info : PrinterInfo} {r : PReason} :
    r ∈ errorReasons info ↔ ∃ flag : ErrorFlag, flag.raised info ∧ r ∈ flag.reasons := by
  simp only [errorReasons, Finset.mem_union, mem_ite_empty, Bool.or_eq_true]
  constructor
  · rintro ((((⟨h, hr⟩ | ⟨h | h, hr⟩) | ⟨h, hr⟩) | ⟨h, hr⟩) | ⟨(h | h) | h, hr⟩)
    · exact ⟨.coverOpen, h, hr⟩
    · exact ⟨.noMedia, h, hr⟩
    · exact ⟨.endOfMedia, h, hr⟩
    · exact ⟨.replacingMedia, h, hr⟩
    · exact ⟨.mediaCannotBeFed, h, hr⟩
    · exact ⟨.printerInUse, h, hr⟩
    · exact ⟨.systemError, h, hr⟩
    · exact ⟨.communicationError, h, hr⟩
  · rintro ⟨flag, h, hr⟩
    cases flag with
    | _ =>
      simp only [ErrorFlag.raised, ErrorFlag.reasons] at h hr
      simp only [h, hr, true_or, or_true, and_self]

end Td2000

namespace Pte550w

/-- The flags named in the two error bytes. -/
inductive ErrorFlag where
  | noMedia
  | cutterJam
  | weakBatteries
  | highVoltage
  | wrongMedia
  | coverOpen
  | overheating
deriving DecidableEq

namespace ErrorFlag

def raised (info : PrinterInfo) : ErrorFlag → Bool
  | noMedia => (ErrorInformation1Fields.ofByte info.errorInformation1).noMedia
  | cutterJam => (ErrorInformation1Fields.ofByte info.errorInformation1).cutterJam
  | weakBatteries => (ErrorInformation1Fields.ofByte info.errorInformation1).weakBatteries
  | highVoltage => (ErrorInformation1Fields.ofByte info.errorInformation1).highVoltage
  | wrongMedia => (ErrorInformation2Fields.ofByte info.errorInformation2).wrongMedia
  | coverOpen => (ErrorInformation2Fields.ofByte info.errorInformation2).coverOpen
  | overheating => (ErrorInformation2Fields.ofByte info.errorInformation2).overheating

/-- What a flag adds to the reasons; `highVoltage` is declared but not looked at. -/
def reasons : ErrorFlag → Reasons
  | noMedia => {.mediaEmpty, .mediaNeeded}
  | wrongMedia => {.mediaNeeded}
  | coverOpen => {.coverOpen}
  | cutterJam => {.mediaJam}
  | weakBatteries | overheating => {.other}
  | highVoltage => ∅

theorem reasons_eq_empty_iff (flag : ErrorFlag) : flag.reasons = ∅ ↔ flag = .highVoltage := by
  cases flag <;> decide

end ErrorFlag

theorem mem_errorReasons {info : PrinterInfo} {r : PReason} :
    r ∈ errorReasons info ↔ ∃ flag : ErrorFlag, flag.raised info ∧ r ∈ flag.reasons := by
  simp only [errorReasons, Finset.mem_union, mem_ite_empty, Bool.or_eq_true]
  constructor
  · rintro ((((⟨h, hr⟩ | ⟨h, hr⟩) | ⟨h, hr⟩) | ⟨h, hr⟩) | ⟨h | h, hr⟩)
    · exact ⟨.coverOpen, h, hr⟩
    · exact ⟨.noMedia, h, hr⟩
    · exact ⟨.wrongMedia, h, hr⟩
    · exact ⟨.cutterJam, h, hr⟩
    · exact ⟨.weakBatteries, h, hr⟩
    · exact ⟨.overheating, h, hr⟩
  · rintro ⟨flag, h, hr⟩
    cases flag with
    | highVoltage => exact absurd hr (Finset.notMem_empty r)
    | _ =>
      simp only [ErrorFlag.raised, ErrorFlag.reasons] at h hr
      simp only [h, hr, true_or, or_true, and_self]

end Pte550w

/-! ## Either driver -/

namespace Driver

abbrev ErrorFlag : Driver → Type
  | td2000 => Td2000.ErrorFlag
  | pte550w => Pte550w.ErrorFlag

/-- The flag is set in the packet. -/
def raised : (d : Driver) → PrinterInfo → d.ErrorFlag → Bool
  | td2000 => Td2000.ErrorFlag.raised
  | pte550w => Pte550w.ErrorFlag.raised

def flagReasons : (d : Driver) → d.ErrorFlag → Reasons
  | td2000 => Td2000.ErrorFlag.reasons
  | pte550w => Pte550w.ErrorFlag.reasons

theorem mem_errorReasons {d : Driver} {info : PrinterInfo} {r : PReason} :
    r ∈ d.errorReasons info ↔ ∃ flag, d.raised info flag ∧ r ∈ d.flagReasons flag := by
  cases d with
  | td2000 => exact Td2000.mem_errorReasons
  | pte550w => exact Pte550w.mem_errorReasons

/-- The one flag that a driver names and adds no reason for. -/
def unexplained : (d : Driver) → Option d.ErrorFlag
  | td2000 => none
  | pte550w => some .highVoltage

theorem flagReasons_eq_empty_iff {d : Driver} (flag : d.ErrorFlag) :
    d.flagReasons flag = ∅ ↔ d.unexplained = some flag := by
  cases d with
  | td2000 => exact iff_of_false flag.reasons_ne_empty fun h => nomatch h
  | pte550w =>
    rw [unexplained, Option.some.injEq, eq_comm (b := flag)]
    exact flag.reasons_eq_empty_iff

variable {d : Driver} {p q : PrinterInfo}

/-- More flags, more reasons. -/
theorem errorReasons_mono (h : ∀ flag, d.raised p flag → d.raised q flag) :
    d.errorReasons p ⊆ d.errorReasons q := by
  intro r hr
  obtain ⟨flag, hflag, hr⟩ := mem_errorReasons.mp hr
  exact mem_errorReasons.mpr ⟨flag, h flag hflag, hr⟩

/-- A packet shows no reason where every flag it raises is the unexplained one. -/
theorem errorReasons_eq_empty_iff :
    d.errorReasons p = ∅ ↔ ∀ flag, d.raised p flag → d.unexplained = some flag := by
  simp only [Finset.eq_empty_iff_forall_notMem, mem_errorReasons, not_exists, not_and,
    ← flagReasons_eq_empty_iff]
  exact ⟨fun h flag hflag r => h r flag hflag, fun h r flag hflag => h flag hflag r⟩

end Driver

section Shown

variable (d : Driver)

/-- The reasons of the printer once `applyPrinterStatus` has run. -/
def reasonsShown (uri : String) (info : PrinterInfo) (w : World d.JobData) : Reasons :=
  ((applyPrinterStatus d.errorReasons uri info).final w).reasons uri

theorem reasonsShown_eq (uri : String) {info : PrinterInfo}
    (herror : info.statusType = .errorOccurred) (w : World d.JobData) :
    reasonsShown d uri info w = d.errorReasons info := by
  have hshown : reasonsShown d uri info w = statusReasons d.errorReasons info :=
    Function.update_self _ _ _
  rw [hshown, statusReasons, if_pos herror]

/-- An error that the driver has a name for shows some reason, and a packet with more
errors shows no fewer. -/
structure ShowsErrors (p : PrinterInfo) : Prop where
  named : ∀ flag uri w, d.raised p flag → reasonsShown d uri p w ≠ ∅
  monotone : ∀ q uri w w', q.statusType = .errorOccurred →
    (∀ flag, d.raised p flag → d.raised q flag) →
      reasonsShown d uri p w ⊆ reasonsShown d uri q w'

/-- Of the flags that the pte550w driver names, the packet raises `highVoltage` alone. -/
def HighVoltageOnly : Driver → PrinterInfo → Prop
  | .td2000, _ => False
  | .pte550w, p => ∀ flag, Pte550w.ErrorFlag.raised p flag ↔ flag = .highVoltage

/-- An error packet of either driver is shown for what it names, unless it reports a
high voltage and nothing else to the pte550w driver. -/
theorem showsErrors_iff (p : PrinterInfo) (herror : p.statusType = .errorOccurred) :
    ShowsErrors d p ↔ ¬HighVoltageOnly d p := by
  have hshown := fun uri w => reasonsShown_eq d uri herror w
  constructor
  · intro hshows honly
    cases d with
    | td2000 => exact honly
    | pte550w =>
      have hempty : Pte550w.errorReasons p = ∅ :=
        Driver.errorReasons_eq_empty_iff (d := .pte550w).mpr fun flag hflag =>
          congrArg some ((honly flag).mp hflag).symm
      have hne := hshows.named .highVoltage "" (World.fresh fun _ => 1) ((honly _).mpr rfl)
      rw [hshown] at hne
      exact hne hempty
  · intro hother
    refine ⟨fun flag uri w hflag hempty => ?_, fun q uri w w' hq hflags => ?_⟩
    · rw [hshown] at hempty
      have hall := Driver.errorReasons_eq_empty_iff.mp hempty
      cases d with
      | td2000 => cases hall flag hflag
      | pte550w =>
        refine hother fun flag' => ⟨fun h => (Option.some.inj (hall flag' h)).symm, ?_⟩
        rintro rfl
        rw [Option.some.inj (hall flag hflag)]
        exact hflag
    · rw [hshown, reasonsShown_eq d uri hq]
      exact Driver.errorReasons_mono hflags

def errorPacket (error1 error2 : UInt8) : PrinterInfo :=
  ⟨[0x80] ++ List.replicate 7 0 ++ [error1, error2] ++ List.replicate 8 0 ++ [0x02] ++
    List.replicate 13 0, rfl⟩

/-- An open cover, at a TD-2020. -/
theorem showsErrors_iff_coverOpen :
    ShowsErrors .td2000 (errorPacket 0x00 0x10) ↔
      ¬HighVoltageOnly .td2000 (errorPacket 0x00 0x10) :=
  showsErrors_iff .td2000 (errorPacket 0x00 0x10) rfl

/-- A high voltage, at a PT-E550W. -/
theorem not_showsErrors_highVoltage :
    ¬∀ (d : Driver) (p : PrinterInfo), p.statusType = .errorOccurred → ShowsErrors d p := by
  intro h
  have hnamed := (h .pte550w (errorPacket 0x40 0x00) rfl).named .highVoltage "usb://PT-E550W"
    (World.fresh fun _ => 1) (by decide +kernel)
  revert hnamed
  decide +kernel

end Shown

end Drivers
end BrThermal
