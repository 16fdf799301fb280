/-
The 32-byte status packet.

Both drivers declare the same packet layout and the same enumerations for it, so
the layout lives here once.  They disagree only on what the bits of the two error
bytes mean, and those meanings stay with each driver.
-/

namespace BrThermal
namespace Drivers

/-- `PackedProtocolBlock<Fields, Size>`: the raw bytes of a packed record. -/
structure PackedProtocolBlock (size : Nat) where
  raw : List UInt8
  size_eq : raw.length = size
deriving DecidableEq

namespace PackedProtocolBlock

variable {size : Nat}

/-- The byte at offset `i` of the record. -/
def byte (b : PackedProtocolBlock size) (i : Nat) : UInt8 := b.raw.getD i 0

/-- `{}`: the record of zero bytes. -/
def zero (size : Nat) : PackedProtocolBlock size := ⟨List.replicate size 0, List.length_replicate⟩

@[ext] theorem ext {a b : PackedProtocolBlock size} (h : a.raw = b.raw) : a = b := by
  cases a
  cases b
  cases h
  rfl

end PackedProtocolBlock

abbrev PrinterInfo := PackedProtocolBlock 32

/-- An `enum class` over a byte admits every byte, so the bytes no enumerator
names keep a constructor of their own here and below. -/
inductive StatusType where
  | replyToStatusRequest
  | printingCompleted
  | errorOccurred
  | exitIfMode
  | turnedOff
  | notification
  | phaseChange
  | unnamed (b : UInt8)
deriving DecidableEq

def StatusType.ofByte (b : UInt8) : StatusType :=
  if b = 0x00 then .replyToStatusRequest
  else if b = 0x01 then .printingCompleted
  else if b = 0x02 then .errorOccurred
  else if b = 0x03 then .exitIfMode
  else if b = 0x04 then .turnedOff
  else if b = 0x05 then .notification
  else if b = 0x06 then .phaseChange
  else .unnamed b

inductive Phase where
  | receivingState
  | printingState
  | unnamed (b : UInt8)
deriving DecidableEq

def Phase.ofByte (b : UInt8) : Phase :=
  if b = 0x00 then .receivingState
  else if b = 0x01 then .printingState
  else .unnamed b

inductive NotificationNumber where
  | notAvailable
  | coolingStarted
  | coolingFinished
  | waitingForPeeling
  | finishedWaitingForPeeling
  | printerPaused
  | finishedPrinterPaused
  | unnamed (b : UInt8)
deriving DecidableEq

def NotificationNumber.ofByte (b : UInt8) : NotificationNumber :=
  if b = 0x00 then .notAvailable
  else if b = 0x03 then .coolingStarted
  else if b = 0x04 then .coolingFinished
  else if b = 0x05 then .waitingForPeeling
  else if b = 0x06 then .finishedWaitingForPeeling
  else if b = 0x07 then .printerPaused
  else if b = 0x08 then .finishedPrinterPaused
  else .unnamed b

/-! The fields of `PrinterInfoFields` that the callbacks read. -/

namespace PrinterInfo

def printHeadMark (info : PrinterInfo) : UInt8 := info.byte 0

/-- The byte that each driver splits into its own flags. -/
def errorInformation1 (info : PrinterInfo) : UInt8 := info.byte 8

def errorInformation2 (info : PrinterInfo) : UInt8 := info.byte 9

def statusType (info : PrinterInfo) : StatusType := .ofByte (info.byte 18)

def phaseType (info : PrinterInfo) : Phase := .ofByte (info.byte 19)

def notificationNumber (info : PrinterInfo) : NotificationNumber := .ofByte (info.byte 22)

/-- A notification that cooling or a pause began. -/
def holds (info : PrinterInfo) : Prop :=
  info.statusType = .notification ∧
    (info.notificationNumber = .coolingStarted ∨ info.notificationNumber = .printerPaused)

/-- A notification that cooling or a pause ended. -/
def resumes (info : PrinterInfo) : Prop :=
  info.statusType = .notification ∧
    (info.notificationNumber = .coolingFinished ∨
      info.notificationNumber = .finishedPrinterPaused)

instance (info : PrinterInfo) : Decidable info.holds := inferInstanceAs (Decidable (_ ∧ _))

instance (info : PrinterInfo) : Decidable info.resumes := inferInstanceAs (Decidable (_ ∧ _))

/-! An error is no notification, and no notification says two things. -/

variable {info : PrinterInfo}

theorem not_holds_of_error (h : info.statusType = .errorOccurred) : ¬info.holds :=
  fun hholds => by cases h.symm.trans hholds.1

theorem not_resumes_of_error (h : info.statusType = .errorOccurred) : ¬info.resumes :=
  fun hresumes => by cases h.symm.trans hresumes.1

theorem not_resumes_of_holds (h : info.holds) : ¬info.resumes := by
  rintro ⟨-, hresumes⟩
  obtain ⟨-, hholds⟩ := h
  rcases hholds with hholds | hholds <;> rw [hholds] at hresumes <;>
    rcases hresumes with hresumes | hresumes <;> cases hresumes

end PrinterInfo

end Drivers
end BrThermal
