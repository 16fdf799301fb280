/-
The callbacks of the pte550w driver.
-/
import BrThermal.Drivers.Common
import BrThermal.Drivers.Pte550w.Types
import BrThermal.Util.CompressLine
import BrThermal.Util.HeadLine

namespace BrThermal
namespace Drivers
namespace Pte550w

open Effect Pappl Util Util.Units

namespace Commands

export Drivers.Commands (initializeCommand statusInformationRequest switchDynamicCommandMode
  printInformation variousModeSettings specifyMarginAmount selectCompressionMode print
  printWithFeeding)

def invalidate : List UInt8 := List.replicate 100 0x00

def switchAutoStatusNotify : List UInt8 := [0x1B, 0x69, 0x21, 0x00]

def advancedModeSettings (settings : UInt8) : List UInt8 := [0x1B, 0x69, 0x4B, settings]

def specifyPageNumber (pageCount : UInt8) : List UInt8 := [0x1B, 0x69, 0x41, pageCount]

def rasterGraphicsTransfer (numberOfBytes : Int) (raster : List UInt8) : List UInt8 :=
  [0x47, UInt8.ofInt numberOfBytes, UInt8.ofInt (numberOfBytes >>> (8 : Nat))] ++ raster

end Commands

/-- What `startJob` sends to every model. -/
def startCommands : List (List UInt8) := [Commands.invalidate, Commands.initializeCommand]

/-- The status exchange of `startJob`, which only the PT-P710BT supports. -/
def checkStatus (variant : ModelVariant) (device : Handle) : Code JobData Bool := do
  if variant = .ptP710BT then
    if ← writeToDevice Commands.statusInformationRequest device then
      match ← readStatusPacket device with
      | some packet => return packet.statusType ≠ .errorOccurred
      | none => return true
    else return false
  else return true

def startJob : Option Job → Option PrOptions → Option Handle → Code JobData Bool
  | some job, some _, some device => do
    match ← papplDeviceGetID device with
    | none => return false
    | some did =>
      let model := did.mdl.getD ""
      if model = "" then return false
      else
        match modelVariantMap.lookup model with
        | none => return false
        | some variant =>
          let jobData : JobData :=
            { variant, useCompression := true, bytesPerLine := (lineWidth variant).toNat }
          if ← writeCommands startCommands device then
            if ← checkStatus variant device then
              storePrinterStatusPolling job.printer true
              papplJobSetData job jobData
              return true
            else return false
          else return false
  | _, _, _ => return false

def printInfo (options : PrOptions) (pageNumber : UInt32) : PrintInfoFields where
  validFields := PrintInfoFlags.piRecover ||| PrintInfoFlags.piWidth ||| PrintInfoFlags.piKind
  mediaType := laminatedTape
  mediaWidth := UInt8.ofInt (toWholeMillimetres (fromPwg options.media.sizeWidth))
  mediaLength := 0
  rasterNumber := options.header.cupsHeight
  pageType := .ofNumber pageNumber
  quality := 0x00

/-- The margin doubles in the 360 dpi pass. -/
def feedMargin (jobData : JobData) (options : PrOptions) : DotCount :=
  if options.header.hwResolution = 360 then minFeedMargin jobData.variant * 2
  else minFeedMargin jobData.variant

/-- The control codes of a page, in the order the specification requires. -/
def pageCommands (jobData : JobData) (options : PrOptions) (pageNumber : UInt32) :
    List (List UInt8) :=
  [Commands.switchDynamicCommandMode .raster,
   Commands.switchAutoStatusNotify,
   Commands.printInformation (printInfo options pageNumber),
   Commands.variousModeSettings (VariousModeSettingsFields.raw { autoCut := true }),
   Commands.specifyPageNumber 1,
   Commands.advancedModeSettings (AdvancedModeSettingsFields.raw { noChainPrinting := true }),
   Commands.specifyMarginAmount (feedMargin jobData options) 0,
   Commands.selectCompressionMode .compression]

def startPage : Option Job → Option PrOptions → Option Handle → UInt32 → Code JobData Bool
  | some job, some options, some device, pageNumber => do
    if options.media.type ≠ "continuous" ∧ options.media.type ≠ "labels-continuous" then
      return false
    else
      match ← papplJobGetData job with
      | none => return false
      | some jobData => writeCommands (pageCommands jobData options pageNumber) device
  | _, _, _, _ => return false

def applyPrinterStatus (uri : String) (info : PrinterInfo) : Code JobData Unit :=
  Drivers.applyPrinterStatus errorReasons uri info

def waitForPrinterResume (device : Handle) (uri : String) : Code JobData Bool :=
  Drivers.waitForPrinterResume errorReasons device uri

/-- The head has 128 pins whatever the job data says. -/
def mirroredLine (header : Header) (pixels : List UInt8) : List UInt8 :=
  buildHeadLine (pixels.take header.cupsBytesPerLine.toNat) header.cupsWidth.toNat (16 * 8)

def rasterCommand (header : Header) (pixels : List UInt8) : List UInt8 :=
  let compressed := compressLine (mirroredLine header pixels)
  Commands.rasterGraphicsTransfer compressed.length compressed

def writeLine : Option Job → Option PrOptions → Option Handle → UInt32 →
    Option (List UInt8) → Code JobData Bool
  | some job, some options, some device, _, some pixels => do
    match ← papplJobGetData job with
    | none => return false
    | some _ =>
      writeAttempts errorReasons device job.printer (rasterCommand options.header pixels) 2
  | _, _, _, _, _ => return false

def endPage : Option Job → Option PrOptions → Option Handle → UInt32 → Code JobData Bool :=
  Drivers.endPage Commands.print

def endJob : Option Job → Option PrOptions → Option Handle → Code JobData Bool :=
  Drivers.endJob Commands.printWithFeeding

/-- The device ID `getStatus` reads over a connection of its own; where the
device does not open or gives no ID, the buffer stays empty and has no `MDL`. -/
def statusDeviceID (uri : String) : Code JobData DeviceId := do
  match ← papplPrinterOpenDevice uri with
  | none => return ⟨none⟩
  | some device =>
    let did ← papplDeviceGetID device
    papplPrinterCloseDevice uri
    return did.getD ⟨none⟩

def pulledStatus (uri : String) : Code JobData Bool := do
  match ← papplPrinterOpenDevice uri with
  | none => return false
  | some device =>
    if ← writeToDevice Commands.statusInformationRequest device then
      match ← Prog.poll 100 (readStatusPacket device) with
      | some received =>
        papplPrinterCloseDevice uri
        applyPrinterStatus uri received
        return true
      | none =>
        papplPrinterCloseDevice uri
        return false
    else
      papplPrinterCloseDevice uri
      return false

def getStatus (uri : String) : Code JobData Bool := do
  if ← loadPrinterStatusPolling uri then pushedStatus errorReasons uri
  else
    let did ← statusDeviceID uri
    -- Only the PT-P710BT answers ESC i S.
    if modelVariantMap.lookup (did.mdl.getD "") = some .ptP710BT then pulledStatus uri
    else return true

end Pte550w
end Drivers
end BrThermal
