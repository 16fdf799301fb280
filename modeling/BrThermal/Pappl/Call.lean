/-
The calls that the callbacks make into PAPPL and into the shared driver state.

Each constructor of `Call` is one indivisible operation: one device operation,
one PAPPL accessor, or one section under `printerStateMutex`.  Arguments that
only reach a log line, log calls themselves and sleeps have no constructor: no
callback reads anything back from them.  Nor have four lookups that the data here
already answer: `papplJobGetPrinter` and `papplPrinterGetDeviceURI`, since a job
carries the URI of its printer; `papplJobGetID`, which only reaches log lines; and
`papplDeviceParseID`, with the CUPS calls around it, since a `DeviceId` is split.

A printer is named by its device URI, the key under which the drivers file their
state.  `pappl_job_t`, `pappl_device_t` and `pappl_pr_options_t` pointers are
`Option` where a callback tests them for null.
-/
import Mathlib.Data.Finset.Basic
import BrThermal.Effect.Prog
import BrThermal.Drivers.Status

namespace BrThermal
namespace Pappl

open Drivers

/-- An open connection to the printer at `uri`; `serial` tells apart the
connections opened to one printer. -/
structure Handle where
  uri : String
  serial : Nat
deriving DecidableEq

structure Job where
  printer : String
  id : Nat
deriving DecidableEq

/-- What the callbacks read of an IEEE-1284 device ID once
`papplDeviceParseID` has split it: the value of the `MDL` key, `none` where
`cupsGetOption` returns null. -/
structure DeviceId where
  mdl : Option String
deriving DecidableEq

/-- `pappl_media_col_t`, dimensions in hundredths of a millimetre; `int` fields. -/
structure MediaCol where
  type : String
  sizeWidth : Int32
  sizeLength : Int32
deriving DecidableEq

/-- The raster header fields the callbacks read; `hwResolution` is
`HWResolution[0]`. -/
structure Header where
  cupsBytesPerLine : UInt32
  cupsWidth : UInt32
  cupsHeight : UInt32
  hwResolution : UInt32
deriving DecidableEq

structure PrOptions where
  header : Header
  media : MediaCol
deriving DecidableEq

/-- The device-status bits of `pappl_preason_t` that the drivers set. -/
inductive PReason where
  | other
  | coverOpen
  | mediaEmpty
  | mediaJam
  | mediaNeeded
  | offline
deriving DecidableEq

/-- A set of reasons; `PAPPL_PREASON_NONE` is the empty one. -/
abbrev Reasons := Finset PReason

/-- What `papplDeviceRead` leaves behind: its result and the 32-byte buffer. -/
structure ReadReply where
  result : Int
  raw : PrinterInfo
deriving DecidableEq

/-- The operations a callback performs; `δ` is the driver's job data. -/
inductive Call (δ : Type) where
  | deviceGetID (device : Handle)
  | deviceWrite (device : Handle) (data : List UInt8)
  | deviceFlush (device : Handle)
  | deviceRead (device : Handle)
  | deviceClose (device : Handle)
  | printerOpenDevice (uri : String)
  | printerCloseDevice (uri : String)
  | printerSetReasons (uri : String) (reasons : Reasons)
  | jobGetImpressions (job : Job)
  | jobGetData (job : Job)
  | jobSetData (job : Job) (data : Option δ)
  | storeStatus (uri : String) (info : PrinterInfo)
  | storePolling (uri : String) (polling : Bool)
  | loadPolling (uri : String)
deriving DecidableEq

/-- `papplDeviceWrite` returns the number of bytes it took or -1.  Opening the
device of a printer yields the serial number of the new connection. -/
abbrev Call.Reply {δ : Type} : Call δ → Type
  | .deviceGetID _ => Option DeviceId
  | .deviceWrite _ _ => Int
  | .deviceRead _ => ReadReply
  | .printerOpenDevice _ => Option Nat
  | .jobGetImpressions _ => Int32
  | .jobGetData _ => Option δ
  | .loadPolling _ => Bool
  | _ => Unit

/-- The printer a call concerns. -/
def Call.printer {δ : Type} : Call δ → String
  | .deviceGetID d | .deviceWrite d _ | .deviceFlush d | .deviceRead d | .deviceClose d => d.uri
  | .printerOpenDevice uri | .printerCloseDevice uri | .printerSetReasons uri _ => uri
  | .jobGetImpressions job | .jobGetData job | .jobSetData job _ => job.printer
  | .storeStatus uri _ | .storePolling uri _ | .loadPolling uri => uri

/-- Code that runs against PAPPL. -/
abbrev Code (δ : Type) := Effect.Prog (Call δ) Call.Reply

abbrev Event (δ : Type) := Effect.Event (Call δ) Call.Reply

section Calls

variable {δ : Type}

open Effect

abbrev papplDeviceGetID (device : Handle) : Code δ (Option DeviceId) :=
  Prog.call (Call.deviceGetID device)

abbrev papplDeviceWrite (device : Handle) (data : List UInt8) : Code δ Int :=
  Prog.call (Call.deviceWrite device data)

abbrev papplDeviceFlush (device : Handle) : Code δ Unit := Prog.call (Call.deviceFlush device)

abbrev papplDeviceRead (device : Handle) : Code δ ReadReply := Prog.call (Call.deviceRead device)

abbrev papplDeviceClose (device : Handle) : Code δ Unit := Prog.call (Call.deviceClose device)

abbrev papplPrinterOpenDevice (uri : String) : Code δ (Option Handle) :=
  Prog.ask (Call.printerOpenDevice uri) fun serial => Prog.ret (serial.map (Handle.mk uri))

abbrev papplPrinterCloseDevice (uri : String) : Code δ Unit :=
  Prog.call (Call.printerCloseDevice uri)

/-- `papplPrinterSetReasons(printer, add, PAPPL_PREASON_DEVICE_STATUS)`: every
caller removes all device-status reasons and adds its own, so the reasons are
replaced. -/
abbrev papplPrinterSetReasons (uri : String) (reasons : Reasons) : Code δ Unit :=
  Prog.call (Call.printerSetReasons uri reasons)

abbrev papplJobGetImpressions (job : Job) : Code δ Int32 := Prog.call (Call.jobGetImpressions job)

abbrev papplJobGetData (job : Job) : Code δ (Option δ) := Prog.call (Call.jobGetData job)

abbrev papplJobSetData (job : Job) (data : Option δ) : Code δ Unit :=
  Prog.call (Call.jobSetData job data)

/-- `printerStatus[uri] = info` under the lock. -/
abbrev storePrinterStatus (uri : String) (info : PrinterInfo) : Code δ Unit :=
  Prog.call (Call.storeStatus uri info)

/-- `printerStatusPolling[uri] = polling` under the lock. -/
abbrev storePrinterStatusPolling (uri : String) (polling : Bool) : Code δ Unit :=
  Prog.call (Call.storePolling uri polling)

/-- `try_emplace(uri, false)` and `at(uri)` under one lock. -/
abbrev loadPrinterStatusPolling (uri : String) : Code δ Bool :=
  Prog.call (Call.loadPolling uri)

end Calls

end Pappl
end BrThermal
