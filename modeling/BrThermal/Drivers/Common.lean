/-
The code the two drivers have in common.

The pte550w driver repeats much of the td2000 driver under its own namespace.
What the two copies share is defined here once, over the parts in which they
differ: the reasons a driver derives from an error packet, and the bytes of a
command.  Each driver defines its own callbacks from these.
-/
import BrThermal.Pappl.Call

namespace BrThermal
namespace Pappl

open Drivers

/-- A complete packet: 32 bytes, the first of them the print head mark. -/
def ReadReply.packet (reply : ReadReply) : Option PrinterInfo :=
  if reply.result = 32 ∧ reply.raw.printHeadMark = 0x80 then some reply.raw else none

end Pappl

namespace Drivers

open Effect Pappl

variable {δ : Type}

/-- `util::writeToDevice`.  A failed write closes the device. -/
def writeToDevice (data : List UInt8) : Option Handle → Code δ Bool
  | none => return false
  | some device => do
    if (← papplDeviceWrite device data) ≠ data.length then
      papplDeviceClose device
      return false
    else
      papplDeviceFlush device
      return true

/-- `if (!util::writeToDevice(command)) return false;` for one command after
another. -/
def writeCommands : List (List UInt8) → Handle → Code δ Bool
  | [], _ => return true
  | command :: commands, device => do
    if ← writeToDevice command device then writeCommands commands device
    else return false

def readStatusPacket (device : Handle) : Code δ (Option PrinterInfo) := do
  let reply ← papplDeviceRead device
  return reply.packet

/-- The reasons that replace the printer's device-status reasons. -/
def statusReasons (errorReasons : PrinterInfo → Reasons) (info : PrinterInfo) : Reasons :=
  if info.statusType = .errorOccurred then errorReasons info
  else if info.statusType = .turnedOff then {.offline}
  else if info.statusType = .notification then
    if info.notificationNumber = .coolingStarted ∨
        info.notificationNumber = .waitingForPeeling ∨
        info.notificationNumber = .printerPaused then {.other}
    else ∅
  else ∅

section Callbacks

variable (errorReasons : PrinterInfo → Reasons)

def applyPrinterStatus (uri : String) (info : PrinterInfo) : Code δ Unit := do
  storePrinterStatus uri info
  papplPrinterSetReasons uri (statusReasons errorReasons info)

/-- One turn of the wait: `some` leaves it with the value returned. -/
def resumeAttempt (device : Handle) (uri : String) : Code δ (Option Bool) := do
  match ← readStatusPacket device with
  | none => return none
  | some packet =>
    applyPrinterStatus errorReasons uri packet
    if packet.resumes then return some true
    else if packet.statusType = .errorOccurred then return some false
    else return none

/-- `kMaxWaitMs = 120'000` in steps of `kDelayMs = 100`. -/
def waitForPrinterResume (device : Handle) (uri : String) : Code δ Bool := do
  let resumed ← Prog.poll (120000 / 100) (resumeAttempt errorReasons device uri)
  return resumed.getD false

/-- The branch of `writeLine` after the device took the whole command. -/
def lineWritten (device : Handle) (uri : String) : Code δ Bool := do
  papplDeviceFlush device
  match ← readStatusPacket device with
  | none => return true
  | some packet =>
    applyPrinterStatus errorReasons uri packet
    if packet.statusType = .errorOccurred then return false
    else if packet.holds then waitForPrinterResume errorReasons device uri
    else return true

/-- The retry loop of `writeLine` with `n` attempts left.  It never ends by
running out of them: the last failed attempt leaves the loop itself. -/
def writeAttempts (device : Handle) (uri : String) (rasterCmd : List UInt8) : Nat → Code δ Bool
  | 0 => return false
  | n + 1 => do
    if (← papplDeviceWrite device rasterCmd) = rasterCmd.length then
      lineWritten errorReasons device uri
    else if n = 0 then return false
    else
      match ← Prog.poll 20 (readStatusPacket device) with
      | none => return false
      | some packet =>
        applyPrinterStatus errorReasons uri packet
        if packet.holds then
          if ← waitForPrinterResume errorReasons device uri then
            writeAttempts device uri rasterCmd n
          else return false
        else return false

/-- Pushed status of `getStatus`: record the packet, if one was read. -/
def applyIfRead (uri : String) : Option PrinterInfo → Code δ Unit
  | none => return ()
  | some packet => applyPrinterStatus errorReasons uri packet

/-- `getStatus` while a job is active: no request, one read. -/
def pushedStatus (uri : String) : Code δ Bool := do
  match ← papplPrinterOpenDevice uri with
  | none => return true
  | some device =>
    let packet ← readStatusPacket device
    applyIfRead errorReasons uri packet
    papplPrinterCloseDevice uri
    return true

end Callbacks

/-- FF after every page but the last; the page count is an `int` of PAPPL's
taken as unsigned. -/
def endPage (print : List UInt8) :
    Option Job → Option PrOptions → Option Handle → UInt32 → Code δ Bool
  | some job, some _, some device, pageNumber => do
    let pageCount := (← papplJobGetImpressions job).toUInt32
    if pageNumber < pageCount - 1 then
      if ← writeToDevice print device then return true else return false
    else return true
  | _, _, _, _ => return false

/-- One turn of the end-of-job drain: `some` leaves the loop. -/
def drainAttempt (device : Handle) : Code δ (Option Unit) := do
  match ← readStatusPacket device with
  | none => return none
  | some packet =>
    if packet.statusType = .phaseChange ∧ packet.phaseType = .receivingState then
      return some ()
    else if packet.statusType = .errorOccurred then return some ()
    else return none

def endJob (printWithFeeding : List UInt8) :
    Option Job → Option PrOptions → Option Handle → Code δ Bool
  | some job, some _, some device => do
    if ← writeToDevice printWithFeeding device then
      let _ ← Prog.poll 200 (drainAttempt device)
      storePrinterStatusPolling job.printer false
      let _ ← papplJobGetData job
      papplJobSetData job none
      return true
    else return false
  | _, _, _ => return false

end Drivers
end BrThermal
