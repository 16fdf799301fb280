/-
The two drivers behind one table of callbacks.

PAPPL holds a driver as a record of function pointers, and a result about both
drivers is one about every `Driver`.  The callbacks are written out twice in the
source; `startJob_eq` to `endJob_eq` say that each is one piece of code in what the
drivers differ in, so that what follows is proved once.
-/
import BrThermal.Drivers.Td2000.Callbacks
import BrThermal.Drivers.Pte550w.Callbacks

namespace BrThermal
namespace Drivers

open Pappl

/-- The callbacks of `pappl_pr_driver_data_t` that the drivers fill in. -/
structure Callbacks (δ : Type) where
  startJob : Option Job → Option PrOptions → Option Handle → Code δ Bool
  startPage : Option Job → Option PrOptions → Option Handle → UInt32 → Code δ Bool
  writeLine : Option Job → Option PrOptions → Option Handle → UInt32 →
    Option (List UInt8) → Code δ Bool
  endPage : Option Job → Option PrOptions → Option Handle → UInt32 → Code δ Bool
  endJob : Option Job → Option PrOptions → Option Handle → Code δ Bool
  getStatus : String → Code δ Bool

/-- One call of a callback with the arguments PAPPL passes beside the job and
its device. -/
inductive Callback where
  | startJob (options : PrOptions)
  | startPage (options : PrOptions) (pageNumber : UInt32)
  | writeLine (options : PrOptions) (y : UInt32) (pixels : List UInt8)
  | endPage (options : PrOptions) (pageNumber : UInt32)
  | endJob (options : PrOptions)
  | getStatus
deriving DecidableEq

/-- The callbacks between `startJob` and `endJob`. -/
def Callback.OfPage : Callback → Prop
  | .startPage _ _ | .writeLine _ _ _ | .endPage _ _ => True
  | _ => False

/-- The code of a callback for the printer at `uri`, on one of its jobs and one of
the connections to it; a status request is on neither. -/
def Callbacks.code {δ : Type} (callbacks : Callbacks δ) (uri : String) (job device : Nat) :
    Callback → Code δ Bool
  | .startJob options => callbacks.startJob (some ⟨uri, job⟩) (some options) (some ⟨uri, device⟩)
  | .startPage options pageNumber =>
    callbacks.startPage (some ⟨uri, job⟩) (some options) (some ⟨uri, device⟩) pageNumber
  | .writeLine options y pixels =>
    callbacks.writeLine (some ⟨uri, job⟩) (some options) (some ⟨uri, device⟩) y (some pixels)
  | .endPage options pageNumber =>
    callbacks.endPage (some ⟨uri, job⟩) (some options) (some ⟨uri, device⟩) pageNumber
  | .endJob options => callbacks.endJob (some ⟨uri, job⟩) (some options) (some ⟨uri, device⟩)
  | .getStatus => callbacks.getStatus uri

/-- A page of one raster line on continuous 57 mm tape. -/
def oneLinePage : PrOptions where
  header := { cupsBytesPerLine := 56, cupsWidth := 448, cupsHeight := 1, hwResolution := 203 }
  media := { type := "continuous", sizeWidth := 5700, sizeLength := 10000 }

inductive Driver where
  | td2000
  | pte550w
deriving DecidableEq

namespace Driver

abbrev JobData : Driver → Type
  | td2000 => Td2000.JobData
  | pte550w => Pte550w.JobData

def callbacks : (d : Driver) → Callbacks d.JobData
  | td2000 =>
    { startJob := Td2000.startJob
      startPage := Td2000.startPage
      writeLine := Td2000.writeLine
      endPage := Td2000.endPage
      endJob := Td2000.endJob
      getStatus := Td2000.getStatus }
  | pte550w =>
    { startJob := Pte550w.startJob
      startPage := Pte550w.startPage
      writeLine := Pte550w.writeLine
      endPage := Pte550w.endPage
      endJob := Pte550w.endJob
      getStatus := Pte550w.getStatus }

def errorReasons : Driver → PrinterInfo → Reasons
  | td2000 => Td2000.errorReasons
  | pte550w => Pte550w.errorReasons

/-! ## What the drivers differ in -/

/-- The models a driver tells apart. -/
abbrev Model : Driver → Type
  | td2000 => Td2000.ModelFamily
  | pte550w => Pte550w.ModelVariant

def modelMap : (d : Driver) → List (String × d.Model)
  | td2000 => Td2000.modelFamilyMap
  | pte550w => Pte550w.modelVariantMap

/-- The job data `startJob` attaches. -/
def jobData : (d : Driver) → d.Model → d.JobData
  | td2000, modelFamily =>
    { modelFamily, useCompression := false
      bytesPerLine := (Td2000.lineWidth modelFamily).toNat }
  | pte550w, variant =>
    { variant, useCompression := true, bytesPerLine := (Pte550w.lineWidth variant).toNat }

def startCommands : (d : Driver) → d.Model → List (List UInt8)
  | td2000, _ => Td2000.startCommands
  | pte550w, variant =>
    Pte550w.startCommands ++
      if variant = .ptP710BT then [Pte550w.Commands.statusInformationRequest] else []

/-- The control codes of a page, `none` where `startPage` rejects its media. -/
def pageCommands : (d : Driver) → d.JobData → PrOptions → UInt32 → Option (List (List UInt8))
  | td2000, jobData, options, pageNumber =>
    match Td2000.mediaTypeOf options.media.type with
    | none => none
    | some mediaType =>
      let mediaInfo := Td2000.Media.getMediaInfoForMedia jobData.modelFamily
        (Util.Units.fromPwg options.media.sizeWidth)
        (Util.Units.fromPwg options.media.sizeLength) mediaType
      if mediaInfo = Td2000.Media.none then none
      else some (Td2000.pageCommands jobData options mediaType mediaInfo pageNumber)
  | pte550w, jobData, options, pageNumber =>
    if options.media.type ≠ "continuous" ∧ options.media.type ≠ "labels-continuous" then none
    else some (Pte550w.pageCommands jobData options pageNumber)

def rasterCommand : (d : Driver) → d.JobData → Header → List UInt8 → List UInt8
  | td2000, jobData, header, pixels => Td2000.rasterCommand jobData header pixels
  | pte550w, _, header, pixels => Pte550w.rasterCommand header pixels

/-- The commands `startJob` sends to every model. -/
def openingCommands : Driver → List (List UInt8)
  | td2000 => Td2000.startCommands
  | pte550w => Pte550w.startCommands

/-- What `startJob` asks of the device before it sets push mode. -/
def checkStatus : (d : Driver) → d.Model → Handle → Code d.JobData Bool
  | td2000, _, _ => return true
  | pte550w, variant, device => Pte550w.checkStatus variant device

/-- `startJob` once it knows the model. -/
def start (d : Driver) (model : d.Model) (job : Job) (device : Handle) : Code d.JobData Bool := do
  if ← writeCommands d.openingCommands device then
    if ← d.checkStatus model device then
      storePrinterStatusPolling job.printer true
      papplJobSetData job (d.jobData model)
      return true
    else return false
  else return false

/-- The media types `startPage` takes. -/
def takesMediaType : Driver → String → Bool
  | td2000, type => (Td2000.mediaTypeOf type).isSome
  | pte550w, type => type = "continuous" || type = "labels-continuous"

/-! ## The callbacks as one -/

/-- No driver knows a model without a name. -/
theorem lookup_empty (d : Driver) : d.modelMap.lookup "" = none := by
  cases d <;> decide

theorem startJob_eq (d : Driver) (job : Job) (options : PrOptions) (device : Handle) :
    d.callbacks.startJob (some job) (some options) (some device) = (do
      match ← papplDeviceGetID device with
      | none => return false
      | some did =>
        match d.modelMap.lookup (did.mdl.getD "") with
        | none => return false
        | some model => d.start model job device) := by
  have hempty := d.lookup_empty
  cases d with
  | td2000 =>
    refine congrArg (papplDeviceGetID device >>= ·) (funext fun did => ?_)
    cases did with
    | none => rfl
    | some did =>
      dsimp only
      by_cases hname : did.mdl.getD "" = ""
      · rw [hname, hempty]
        rfl
      · rw [if_neg hname]
        simp only [modelMap]
        cases Td2000.modelFamilyMap.lookup (did.mdl.getD "") <;> rfl
  | pte550w =>
    refine congrArg (papplDeviceGetID device >>= ·) (funext fun did => ?_)
    cases did with
    | none => rfl
    | some did =>
      dsimp only
      by_cases hname : did.mdl.getD "" = ""
      · rw [hname, hempty]
        rfl
      · rw [if_neg hname]
        simp only [modelMap]
        cases Pte550w.modelVariantMap.lookup (did.mdl.getD "") <;> rfl

theorem startPage_eq (d : Driver) (job : Job) (options : PrOptions) (device : Handle)
    (pageNumber : UInt32) :
    d.callbacks.startPage (some job) (some options) (some device) pageNumber =
      if d.takesMediaType options.media.type then do
        match ← papplJobGetData job with
        | none => return false
        | some jobData =>
          match d.pageCommands jobData options pageNumber with
          | none => return false
          | some commands => writeCommands commands device
      else return false := by
  cases d with
  | td2000 =>
    show Td2000.startPage (some job) (some options) (some device) pageNumber = _
    rw [Td2000.startPage, takesMediaType]
    cases htype : Td2000.mediaTypeOf options.media.type with
    | none => rfl
    | some mediaType =>
      refine congrArg (papplJobGetData job >>= ·) (funext fun jobData => ?_)
      cases jobData with
      | none => rfl
      | some jobData =>
        simp only [pageCommands, htype]
        split <;> rfl
  | pte550w =>
    show Pte550w.startPage (some job) (some options) (some device) pageNumber = _
    rw [Pte550w.startPage, takesMediaType]
    by_cases htype : options.media.type ≠ "continuous" ∧ options.media.type ≠ "labels-continuous"
    · rw [if_pos htype, decide_eq_false htype.1, decide_eq_false htype.2]
      rfl
    · have htakes : (options.media.type = "continuous" ||
          options.media.type = "labels-continuous") = true := by
        simpa [or_iff_not_imp_left] using htype
      rw [if_neg htype, htakes, if_pos rfl]
      refine congrArg (papplJobGetData job >>= ·) (funext fun jobData => ?_)
      cases jobData with
      | none => rfl
      | some jobData => simp only [pageCommands, if_neg htype]

theorem writeLine_eq (d : Driver) (job : Job) (options : PrOptions) (device : Handle)
    (y : UInt32) (pixels : List UInt8) :
    d.callbacks.writeLine (some job) (some options) (some device) y (some pixels) = (do
      match ← papplJobGetData job with
      | none => return false
      | some jobData =>
        writeAttempts d.errorReasons device job.printer
          (d.rasterCommand jobData options.header pixels) 2) := by
  cases d <;> exact congrArg (Effect.Prog.ask _) (funext fun jobData => by cases jobData <;> rfl)

theorem endPage_eq (d : Driver) : d.callbacks.endPage = endPage Commands.print := by
  cases d <;> rfl

theorem endJob_eq (d : Driver) : d.callbacks.endJob = endJob Commands.printWithFeeding := by
  cases d <;> rfl

end Driver

end Drivers
end BrThermal
