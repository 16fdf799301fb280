/-
From a device ID to paper.

`driver_cb` offers the media types of the driver's table, and `startPage` compares the type
of a page with texts of its own.  The two agree: a page is taken where its type is on offer
and, for labels, where some label holds it, and no other page is, as long as the sizes of a
page of labels fit an `int` in micrometres.  So what is printed on a printer that `driver_cb`
took follows from what it offered.
-/
import BrThermal.Drivers.Service
import BrThermal.Drivers.Td2000.MediaChoice
import BrThermal.Server.Selection

namespace BrThermal
namespace Server

open Effect Effect.Prog Pappl Drivers Codec Raster Util.Units

/-! ## What is offered -/

/-- Some label holds the page. -/
def LabelHolds (media : MediaCol) : Prop :=
  ∃ size ∈ Td2000.Media.sizes .dieCutLabels, Td2000.Media.Holds .dieCutLabels size
    (micrometres media.sizeWidth) (micrometres media.sizeLength)

/-- The size of a page of labels can be told in micrometres. -/
def LabelFitsInt (media : MediaCol) : Prop :=
  media.type = "labels" →
    FitsInt (micrometres media.sizeWidth) ∧ FitsInt (micrometres media.sizeLength)

/-- The type is on offer, and for labels there is one that holds the page. -/
def Offers (types : List String) (media : MediaCol) : Prop :=
  media.type ∈ types ∧ (media.type = "labels" → LabelHolds media)

section Driver

variable {d : Driver} {model : d.Model} {media : MediaCol}

theorem acceptsMedia_td2000 (family : Td2000.ModelFamily) (hfits : LabelFitsInt media) :
    Driver.td2000.AcceptsMedia family media ↔ Offers Td2000.mediaTypes media := by
  have hlabels := Td2000.Media.labels_none_iff family (micrometres media.sizeWidth)
    (micrometres media.sizeLength)
  have hfrom : media.type = "labels" → fromPwg media.sizeWidth = micrometres media.sizeWidth ∧
      fromPwg media.sizeLength = micrometres media.sizeLength := fun hlabel =>
    (hfits hlabel).imp fromPwg_of_fitsInt fromPwg_of_fitsInt
  constructor
  · rintro ⟨type, htype, hrecord⟩
    rw [Td2000.mediaTypeOf] at htype
    split at htype
    case isTrue htape =>
      refine ⟨?_, fun hlabel => ?_⟩
      · rcases htape with h | h <;> rw [h] <;> decide
      · rcases htape with h | h <;> exact absurd (h.symm.trans hlabel) (by decide)
    case isFalse =>
      split at htype
      case isTrue hlabel =>
        obtain rfl := Option.some.inj htype
        obtain ⟨hwidth, hlength⟩ := hfrom hlabel
        rw [hwidth, hlength] at hrecord
        refine ⟨by rw [hlabel]; decide, fun _ => ?_⟩
        by_contra hnone
        exact hrecord (hlabels.mpr fun size hsize hholds => hnone ⟨size, hsize, hholds⟩)
      case isFalse => cases htype
  · rintro ⟨htype, hholds⟩
    simp only [Td2000.mediaTypes, List.mem_cons, List.not_mem_nil, or_false] at htype
    -- Every width of tape has a record.
    have htape := (Td2000.Media.getMediaInfoForMedia_tape family (fromPwg media.sizeWidth)
      (fromPwg media.sizeLength)).1
    rcases htype with h | h | h
    · exact ⟨.continuousLengthTape, by rw [h]; rfl, htape⟩
    · obtain ⟨size, hsize, hlarge⟩ := hholds h
      obtain ⟨hwidth, hlength⟩ := hfrom h
      refine ⟨.dieCutLabels, by rw [h]; rfl, fun hnone => ?_⟩
      rw [hwidth, hlength] at hnone
      exact hlabels.mp hnone size hsize hlarge
    · exact ⟨.continuousLengthTape, by rw [h]; rfl, htape⟩

theorem acceptsMedia_pte550w (variant : Pte550w.ModelVariant) (media : MediaCol) :
    Driver.pte550w.AcceptsMedia variant media ↔ Offers Pte550w.mediaTypes media := by
  simp only [Driver.AcceptsMedia, Offers, Pte550w.mediaTypes, List.mem_cons, List.not_mem_nil,
    or_false]
  refine ⟨fun h => ⟨h, fun hlabel => ?_⟩, fun h => h.1⟩
  rcases h with h | h <;> exact absurd (h.symm.trans hlabel) (by decide)

theorem acceptsMedia_iff (d : Driver) (model : d.Model) (hfits : LabelFitsInt media) :
    d.AcceptsMedia model media ↔ Offers (driverTables d).mediaTypes media := by
  cases d with
  | td2000 => exact acceptsMedia_td2000 model hfits
  | pte550w => exact acceptsMedia_pte550w model media

theorem isSome_pageCommands_iff (options : PrOptions) (pageNumber : UInt32) :
    (d.pageCommands (d.jobData model) options pageNumber).isSome = true ↔
      d.AcceptsMedia model options.media := by
  constructor
  · cases d with
    | td2000 =>
      simp only [Driver.pageCommands]
      cases htype : Td2000.mediaTypeOf options.media.type with
      | none => exact fun h => absurd h Bool.false_ne_true
      | some type =>
        dsimp only
        split
        case isTrue => exact fun h => absurd h Bool.false_ne_true
        case isFalse hrecord => exact fun _ => ⟨type, htype, hrecord⟩
    | pte550w =>
      simp only [Driver.pageCommands]
      split
      case isTrue => exact fun h => absurd h Bool.false_ne_true
      case isFalse htype =>
        intro _
        by_contra hnone
        exact htype (not_or.mp hnone)
  · intro h
    obtain ⟨commands, hcommands⟩ := pageCommands_of_acceptsMedia h pageNumber
    rw [hcommands]
    rfl

end Driver

/-! ## A printer that was added -/

section Added

variable {pwgMediaForPWG : String → Option PwgMedia} {deviceUri : Option String}
  {deviceId : Option DeviceId} {driverData : DriverData}

theorem fillMediaReady_offer {μ : Type} (tables : DriverTables μ)
    (pwgMediaForPWG : String → Option PwgMedia) (model : μ) (driverData : DriverData) :
    (fillMediaReady tables pwgMediaForPWG model driverData).2.type = driverData.type ∧
      (fillMediaReady tables pwgMediaForPWG model driverData).2.callbacks =
        driverData.callbacks := by
  rw [fillMediaReady]
  split
  · exact ⟨rfl, rfl⟩
  · dsimp only
    split
    · exact ⟨rfl, rfl⟩
    · split <;> exact ⟨rfl, rfl⟩

/-- What `driver_cb` settles when it takes a printer. -/
structure Added (d : Driver) (model : d.Model) (name : String) (offer : DriverData) : Prop where
  callbacks : offer.callbacks = some d
  model : d.modelMap.lookup name = some model
  types : offer.type = (driverTables d).mediaTypes

variable {d : Driver}

theorem added_of_driverCb (hadded : (driverCb pwgMediaForPWG (some (driverName d)) deviceUri
    deviceId driverData).1 = true) :
    ∃ model : d.Model, Added d model (modelOf deviceUri deviceId)
      (driverCb pwgMediaForPWG (some (driverName d)) deviceUri deviceId driverData).2 := by
  rw [driverCb_driverName, updateDriverData, modelMap_driverTables] at hadded ⊢
  cases hmodel : d.modelMap.lookup (modelOf deviceUri deviceId) with
  | none =>
    rw [hmodel] at hadded
    exact absurd hadded Bool.false_ne_true
  | some model =>
    dsimp only
    obtain ⟨htypes, hcallbacks⟩ := fillMediaReady_offer (driverTables d) pwgMediaForPWG model
      (fillDriver (driverTables d) model (modelOf deviceUri deviceId)
        { driverData with format := "image/pwg-raster" })
    refine ⟨model, hcallbacks.trans ?_, hmodel, htypes⟩
    cases d <;> rfl

/-- Where `driver_cb` took a printer, the driver's `startPage` takes exactly the pages that
were offered, among those it can tell the size of, and of any other it sends nothing. -/
theorem startPage_offered_iff (hadded : (driverCb pwgMediaForPWG (some (driverName d)) deviceUri
      deviceId driverData).1 = true) {model : d.Model} {job : Job} {device : Handle}
    {w : World d.JobData} (hs : (w.script device.uri).Completes)
    (hdata : w.jobData job = some (d.jobData model)) (options : PrOptions)
    (hfits : LabelFitsInt options.media) (pageNumber : UInt32) :
    let offer := (driverCb pwgMediaForPWG (some (driverName d)) deviceUri deviceId driverData).2
    let code := d.callbacks.startPage (some job) (some options) (some device) pageNumber
    (code.value w = true ↔ Offers offer.type options.media) ∧
      (¬Offers offer.type options.media → written (code.trace w) = []) := by
  intro offer code
  obtain ⟨_, hadd⟩ := added_of_driverCb hadded
  have hiff : (d.pageCommands (d.jobData model) options pageNumber).isSome = true ↔
      Offers offer.type options.media := by
    rw [isSome_pageCommands_iff, acceptsMedia_iff d model hfits, ← hadd.types]
  have hsent := startPage_sent device job options hs hdata pageNumber
  have hwrites := startPage_writesUpTo device options hdata pageNumber
  refine ⟨?_, fun hnot => ?_⟩
  · rw [← hiff, ← hsent.2]
  · have hnone : d.pageCommands (d.jobData model) options pageNumber = none := by
      rw [← Option.not_isSome_iff_eq_none, hiff]
      exact hnot
    rw [hnone] at hwrites
    exact List.prefix_nil.mp hwrites.written

/-- A TD-2020 between `startJob` and the first page. -/
def startedWorld : World Td2000.JobData :=
  { twiceNamed with jobData := fun _ => some (Driver.td2000.jobData .td2x2x) }

/-- A page for the label of 30 mm by 30 mm. -/
def labelPage : PrOptions :=
  { oneLinePage with media := { type := "labels", sizeWidth := 3000, sizeLength := 3000 } }

theorem startPage_offered_iff_td2020 :
    let offer := (driverCb labelSize (some (driverName .td2000)) none (some ⟨some "TD-2020"⟩)
      default).2
    let code := Driver.td2000.callbacks.startPage (some ⟨"usb://TD-2020", 0⟩) (some labelPage)
      (some ⟨"usb://TD-2020", 0⟩) 0
    (code.value startedWorld = true ↔ Offers offer.type labelPage.media) ∧
      (¬Offers offer.type labelPage.media → written (code.trace startedWorld) = []) :=
  startPage_offered_iff (d := .td2000) (by decide) (fun _ ho => absurd ho List.not_mem_nil) rfl
    labelPage (fun _ => by decide) 0

end Added

/-! ## Printing what was offered -/

section Prints

variable {pwgMediaForPWG : String → Option PwgMedia} {deviceUri : Option String}
  {driverData : DriverData} {d : Driver} {name uri : String} {τ : Type} [DecidableEq τ]
  {queues : String → List Queued} {w : World d.JobData}

/-- A printer that `driver_cb` took under the name its device gives prints, page for page,
every job whose pages were on offer and were counted by PAPPL, beside any other queues and
any clients.  The device takes every write, reports neither an error nor a hold, and names
its model whenever a job asks. -/
theorem offered_prints (hname : name ≠ "") (hadded : (driverCb pwgMediaForPWG
      (some (driverName d)) deviceUri (some ⟨some name⟩) driverData).1 = true)
    (polls : τ → List String) (hs : Agreeable name (w.script uri)) (hcalm : (w.script uri).Calm)
    (hoffered : ∀ q ∈ queues uri, q.pages ≠ [] ∧
      (w.impressions ⟨uri, q.job⟩).toInt = q.pages.length ∧
      ∀ page ∈ q.pages, LabelFitsInt page.options.media ∧
        Offers (driverCb pwgMediaForPWG (some (driverName d)) deviceUri
          (some ⟨some name⟩) driverData).2.type page.options.media)
    {schedule : List (String ⊕ τ)}
    (hnames : ∀ e ∈ Pool.eventsOf (.inl uri)
      ((servicePool d queues polls w).trace World.env schedule), Names name e)
    (hsteps : d.longestQueue (queues uri) ≤ schedule.countP (· = .inl uri)) :
    ∃ (model : d.Model) (cs : List Command) (printed : List (List Raster.Page)),
      d.modelMap.lookup name = some model ∧
      commandSet.decodeAll (stream uri ((servicePool d queues polls w).trace World.env schedule)) =
        some cs ∧
      (Reader.takeAll {} cs).pages = printed.flatten ∧
      List.Forall₂ (fun q pages => List.Forall₂ (Shows d model q.pages.length) q.pages.zipIdx pages)
        (queues uri) printed := by
  obtain ⟨model, hadd⟩ := added_of_driverCb hadded
  have hmodel : d.modelMap.lookup name = some model := by
    have hlookup := hadd.model
    rwa [modelOf_of_ne (show (⟨some name⟩ : DeviceId).mdl.getD "" ≠ "" from hname)] at hlookup
  have hfits : ∀ q ∈ queues uri, q.Fits d model (w.impressions ⟨uri, q.job⟩) := by
    intro q hq
    obtain ⟨hne, hcount, hpages⟩ := hoffered q hq
    refine ⟨hne, hcount, fun page hpage => ?_⟩
    obtain ⟨hlabel, hoffer⟩ := hpages page hpage
    rw [acceptsMedia_iff d model hlabel, ← hadd.types]
    exact hoffer
  have hdone := queue_through polls hmodel hs hcalm (fun q hq => (hfits q hq).media) hnames hsteps
  obtain ⟨results, sent, hthrough, hsent, hresults⟩ := queue_sent polls hmodel hs schedule
  obtain ⟨rfl, -⟩ := hresults _ hdone
  obtain ⟨cs, printed, hstream, hpages, hprinted⟩ := pages_of_sent polls hs hfits hthrough hsent
  exact ⟨model, cs, printed, hmodel, hstream, hpages,
    (hprinted.forall_true rfl).imp fun q pages h => h.whole rfl⟩

theorem offered_twoJobs : ∀ q ∈ twoJobs "usb://TD-2020", q.pages ≠ [] ∧
    (twiceNamed.impressions ⟨"usb://TD-2020", q.job⟩).toInt = q.pages.length ∧
    ∀ page ∈ q.pages, LabelFitsInt page.options.media ∧
      Offers (driverCb labelSize (some (driverName .td2000)) none
        (some ⟨some "TD-2020"⟩) default).2.type page.options.media := by
  have htape : ∀ q ∈ twoJobs "usb://TD-2020", ∀ page ∈ q.pages,
      page.options.media.type ≠ "labels" := by decide
  intro q hq
  obtain ⟨hne, hcount, hmedia⟩ := fits_twoJobs q hq
  refine ⟨hne, hcount, fun page hpage => ?_⟩
  have hfits : LabelFitsInt page.options.media := fun hlabel =>
    absurd hlabel (htape q hq page hpage)
  exact ⟨hfits, (acceptsMedia_td2000 _ hfits).mp (hmedia page hpage)⟩

theorem offered_prints_desk :
    ∃ (model : Td2000.ModelFamily) (cs : List Command) (printed : List (List Raster.Page)),
      Driver.td2000.modelMap.lookup "TD-2020" = some model ∧
      commandSet.decodeAll (stream "usb://TD-2020"
        ((servicePool .td2000 twoJobs deskPolls twiceNamed).trace World.env
          (deskSchedule 600 ++ List.replicate
            (Driver.td2000.longestQueue (twoJobs "usb://TD-2020")) (.inl "usb://TD-2020")))) =
        some cs ∧
      (Reader.takeAll {} cs).pages = printed.flatten ∧
      List.Forall₂ (fun q pages =>
          List.Forall₂ (Shows .td2000 model q.pages.length) q.pages.zipIdx pages)
        (twoJobs "usb://TD-2020") printed :=
  offered_prints (d := .td2000) (show "TD-2020" ≠ "" by decide) (by decide) deskPolls
    agreeable_twiceNamed (fun _ hreply => absurd hreply List.not_mem_nil) offered_twoJobs
    (names_deskSchedule _) (le_countP_desk _ _)

end Prints

end Server
end BrThermal
