/-
The calls each callback can make.

A callback of a job touches its own job, its own connection and its own printer.
A status request touches its own printer and the connections it opens to it.
Each structure below says that a property holds of the calls some callbacks make,
`PageCalls` of `startPage` and `endPage`, `EndCalls` of `endJob`, `JobCalls` of
`startJob`, `LineCalls` and `StatusStores` of `writeLine`, `StatusCalls` of
`getStatus`, so every frame condition of a callback is a result here at a property
of its own.  Only `startJob` and `getStatus` ever write a status request.
-/
import BrThermal.Drivers.Driver

namespace BrThermal
namespace Drivers

open Effect Effect.Prog Pappl

variable {δ : Type}

structure LineCalls (P : Call δ → Prop) (device : Handle) : Prop where
  write : ∀ data, data ≠ Commands.statusInformationRequest → P (.deviceWrite device data)
  flush : P (.deviceFlush device)
  read : P (.deviceRead device)

structure DeviceCalls (P : Call δ → Prop) (device : Handle) : Prop
    extends LineCalls P device where
  close : P (.deviceClose device)
  request : P (.deviceWrite device Commands.statusInformationRequest)

structure StatusStores (P : Call δ → Prop) (uri : String) : Prop where
  status : ∀ info, P (.storeStatus uri info)
  reasons : ∀ reasons, P (.printerSetReasons uri reasons)

structure PageCalls (P : Call δ → Prop) (job : Job) (device : Handle) : Prop where
  write : ∀ data, data ≠ Commands.statusInformationRequest → P (.deviceWrite device data)
  flush : P (.deviceFlush device)
  close : P (.deviceClose device)
  impressions : P (.jobGetImpressions job)
  data : P (.jobGetData job)

structure EndCalls (P : Call δ → Prop) (job : Job) (device : Handle) : Prop
    extends PageCalls P job device where
  read : P (.deviceRead device)
  polling : ∀ polling, P (.storePolling job.printer polling)
  setData : ∀ data, P (.jobSetData job data)

structure JobCalls (P : Call δ → Prop) (job : Job) (device : Handle) : Prop
    extends EndCalls P job device where
  id : P (.deviceGetID device)
  request : P (.deviceWrite device Commands.statusInformationRequest)

structure StatusCalls (P : Call δ → Prop) (uri : String) : Prop
    extends StatusStores P uri where
  device : ∀ serial, DeviceCalls P ⟨uri, serial⟩
  id : ∀ serial, P (.deviceGetID ⟨uri, serial⟩)
  openDevice : P (.printerOpenDevice uri)
  closeDevice : P (.printerCloseDevice uri)
  loadPolling : P (.loadPolling uri)

section Common

variable {P : Call δ → Prop} {device : Handle} {uri : String}

theorem asks_writeToDevice {data : List UInt8} (hwrite : P (.deviceWrite device data))
    (hflush : P (.deviceFlush device)) (hclose : P (.deviceClose device)) :
    (writeToDevice data (some device)).Asks P := by
  refine asks_bind (asks_call hwrite) (fun n => ?_)
  split
  · exact asks_bind (asks_call hclose) (fun _ => asks_ret _)
  · exact asks_bind (asks_call hflush) (fun _ => asks_ret _)

theorem asks_writeCommands {commands : List (List UInt8)}
    (hwrite : ∀ command ∈ commands, P (.deviceWrite device command))
    (hflush : P (.deviceFlush device)) (hclose : P (.deviceClose device)) :
    (writeCommands commands device).Asks P := by
  induction commands with
  | nil => exact asks_ret _
  | cons command commands ih =>
    refine asks_bind (asks_writeToDevice (hwrite command List.mem_cons_self) hflush hclose)
      (fun ok => ?_)
    cases ok with
    | true => exact ih fun command hc => hwrite command (List.mem_cons_of_mem _ hc)
    | false => exact asks_ret _

theorem asks_readStatusPacket (h : P (.deviceRead device)) :
    (readStatusPacket device).Asks P :=
  asks_bind (asks_call h) (fun _ => asks_ret _)

theorem asks_applyPrinterStatus (errorReasons : PrinterInfo → Reasons)
    (h : StatusStores P uri) (info : PrinterInfo) :
    (applyPrinterStatus errorReasons uri info).Asks P :=
  asks_bind (asks_call (h.status info)) (fun _ => asks_call (h.reasons _))

variable (errorReasons : PrinterInfo → Reasons)

theorem asks_waitForPrinterResume (h : P (.deviceRead device)) (hs : StatusStores P uri) :
    (waitForPrinterResume errorReasons device uri).Asks P := by
  refine asks_bind (asks_poll ?_ _) (fun _ => asks_ret _)
  refine asks_bind (asks_readStatusPacket h) (fun packet => ?_)
  cases packet with
  | none => exact asks_ret _
  | some packet =>
    refine asks_bind (asks_applyPrinterStatus errorReasons hs packet) (fun _ => ?_)
    split
    · exact asks_ret _
    · split <;> exact asks_ret _

theorem asks_lineWritten (hflush : P (.deviceFlush device)) (hread : P (.deviceRead device))
    (hs : StatusStores P uri) : (lineWritten errorReasons device uri).Asks P := by
  refine asks_bind (asks_call hflush) (fun _ => ?_)
  refine asks_bind (asks_readStatusPacket hread) (fun packet => ?_)
  cases packet with
  | none => exact asks_ret _
  | some packet =>
    refine asks_bind (asks_applyPrinterStatus errorReasons hs packet) (fun _ => ?_)
    split
    · exact asks_ret _
    · split
      · exact asks_waitForPrinterResume errorReasons hread hs
      · exact asks_ret _

theorem asks_writeAttempts (hd : LineCalls P device) (hs : StatusStores P uri)
    {rasterCmd : List UInt8} (hne : rasterCmd ≠ Commands.statusInformationRequest) (n : Nat) :
    (writeAttempts errorReasons device uri rasterCmd n).Asks P := by
  induction n with
  | zero => exact asks_ret _
  | succ n ih =>
    refine asks_bind (asks_call (hd.write rasterCmd hne)) (fun written => ?_)
    split
    · exact asks_lineWritten errorReasons hd.flush hd.read hs
    · split
      · exact asks_ret _
      · refine asks_bind (asks_poll (asks_readStatusPacket hd.read) _) (fun packet => ?_)
        cases packet with
        | none => exact asks_ret _
        | some packet =>
          refine asks_bind (asks_applyPrinterStatus errorReasons hs packet) (fun _ => ?_)
          split
          · refine asks_bind (asks_waitForPrinterResume errorReasons hd.read hs) (fun resumed => ?_)
            cases resumed with
            | true => exact ih
            | false => exact asks_ret _
          · exact asks_ret _

/-- The connection a status request opens is one to its own printer. -/
theorem asks_openDevice {α : Type} {f : Option Handle → Code δ α}
    (h : P (.printerOpenDevice uri)) (hnone : (f none).Asks P)
    (hsome : ∀ serial, (f (some ⟨uri, serial⟩)).Asks P) :
    (papplPrinterOpenDevice uri >>= f).Asks P := by
  refine ⟨h, fun serial => ?_⟩
  cases serial with
  | none => exact hnone
  | some serial => exact hsome serial

theorem asks_pushedStatus (hopen : P (.printerOpenDevice uri))
    (hread : ∀ serial, P (.deviceRead ⟨uri, serial⟩)) (hclose : P (.printerCloseDevice uri))
    (hs : StatusStores P uri) : (pushedStatus errorReasons uri).Asks P := by
  refine asks_openDevice hopen (asks_ret _) (fun serial => ?_)
  refine asks_bind (asks_readStatusPacket (hread serial)) (fun packet => ?_)
  refine asks_bind ?_ (fun _ => asks_bind (asks_call hclose) (fun _ => asks_ret _))
  cases packet with
  | none => exact asks_ret _
  | some packet => exact asks_applyPrinterStatus errorReasons hs packet

variable {job : Job} (options : PrOptions)

theorem asks_endPage (h : PageCalls P job device) {print : List UInt8}
    (hne : print ≠ Commands.statusInformationRequest) (pageNumber : UInt32) :
    (endPage print (some job) (some options) (some device) pageNumber).Asks P := by
  refine asks_bind (asks_call h.impressions) (fun count => ?_)
  dsimp only
  split
  · refine asks_bind (asks_writeToDevice (h.write print hne) h.flush h.close) (fun ok => ?_)
    cases ok <;> exact asks_ret _
  · exact asks_ret _

theorem asks_drainAttempt (h : P (.deviceRead device)) : (drainAttempt device).Asks P := by
  refine asks_bind (asks_readStatusPacket h) (fun packet => ?_)
  cases packet with
  | none => exact asks_ret _
  | some packet =>
    dsimp only
    split
    · exact asks_ret _
    · split <;> exact asks_ret _

theorem asks_endJob (h : EndCalls P job device) {printWithFeeding : List UInt8}
    (hne : printWithFeeding ≠ Commands.statusInformationRequest) :
    (endJob printWithFeeding (some job) (some options) (some device)).Asks P := by
  refine asks_bind (asks_writeToDevice (h.write printWithFeeding hne) h.flush h.close)
    (fun ok => ?_)
  cases ok with
  | false => exact asks_ret _
  | true =>
    refine asks_bind (asks_poll (asks_drainAttempt h.read) _) (fun _ => ?_)
    refine asks_bind (asks_call (h.polling false)) (fun _ => ?_)
    refine asks_bind (asks_call h.data) (fun _ => ?_)
    exact asks_bind (asks_call (h.setData none)) (fun _ => asks_ret _)

end Common

/-! ## The td2000 driver -/

namespace Td2000

variable {P : Call JobData → Prop} {uri : String}

theorem pageCommands_ne (jobData : JobData) (options : PrOptions) (mediaType : MediaType)
    (mediaInfo : MediaInfo) (pageNumber : UInt32) :
    ∀ c ∈ pageCommands jobData options mediaType mediaInfo pageNumber,
      c ≠ Commands.statusInformationRequest := by
  simp [pageCommands, Commands.additionalMediaInformation, Drivers.Commands.printInformation,
    Drivers.Commands.variousModeSettings, Drivers.Commands.specifyMarginAmount,
    Drivers.Commands.selectCompressionMode, Drivers.Commands.statusInformationRequest]

theorem rasterCommand_ne (jobData : JobData) (header : Header) (pixels : List UInt8) :
    rasterCommand jobData header pixels ≠ Commands.statusInformationRequest := by
  rw [rasterCommand]
  split <;> exact fun h => absurd (List.cons.inj h).1 (by decide)

theorem asks_getStatus (h : StatusCalls P uri) : (getStatus uri).Asks P := by
  refine asks_bind (asks_call h.loadPolling) (fun polling => ?_)
  cases polling with
  | true =>
    exact asks_pushedStatus errorReasons h.openDevice (fun serial => (h.device serial).read)
      h.closeDevice h.toStatusStores
  | false =>
    refine asks_openDevice h.openDevice (asks_ret _) (fun serial => ?_)
    refine asks_bind (asks_writeToDevice (h.device serial).request (h.device serial).flush
      (h.device serial).close) (fun ok => ?_)
    have hclose : ∀ a : Bool, (papplPrinterCloseDevice uri >>= fun _ => pure a).Asks P :=
      fun a => asks_bind (asks_call h.closeDevice) (fun _ => asks_ret a)
    cases ok with
    | false => exact hclose false
    | true =>
      refine asks_bind (asks_poll ?_ _) (fun status => ?_)
      · refine asks_bind (asks_readStatusPacket (h.device serial).read) (fun packet => ?_)
        cases packet with
        | some packet => exact asks_ret _
        | none =>
          refine asks_bind (asks_call (h.device serial).read) (fun probe => ?_)
          split <;> exact asks_ret _
      · rcases status with _ | _ | received
        · exact hclose false
        · refine asks_bind (asks_call h.closeDevice) (fun _ => ?_)
          exact asks_bind (asks_call (h.reasons _)) (fun _ => asks_ret _)
        · refine asks_bind (asks_call h.closeDevice) (fun _ => ?_)
          exact asks_bind (asks_applyPrinterStatus errorReasons h.toStatusStores received)
            (fun _ => asks_ret _)

end Td2000

/-! ## The pte550w driver -/

namespace Pte550w

variable {P : Call JobData → Prop} {device : Handle} {uri : String}

theorem pageCommands_ne (jobData : JobData) (options : PrOptions) (pageNumber : UInt32) :
    ∀ c ∈ pageCommands jobData options pageNumber, c ≠ Commands.statusInformationRequest := by
  simp [pageCommands, Commands.switchAutoStatusNotify, Commands.specifyPageNumber,
    Commands.advancedModeSettings, Drivers.Commands.switchDynamicCommandMode,
    Drivers.Commands.printInformation, Drivers.Commands.variousModeSettings,
    Drivers.Commands.specifyMarginAmount, Drivers.Commands.selectCompressionMode,
    Drivers.Commands.statusInformationRequest]

theorem rasterCommand_ne (header : Header) (pixels : List UInt8) :
    rasterCommand header pixels ≠ Commands.statusInformationRequest :=
  fun h => absurd (List.cons.inj h).1 (by decide)

theorem asks_checkStatus (h : DeviceCalls P device) (variant : ModelVariant) :
    (checkStatus variant device).Asks P := by
  unfold checkStatus
  split
  · refine asks_bind (asks_writeToDevice h.request h.flush h.close) (fun ok => ?_)
    cases ok with
    | false => exact asks_ret _
    | true =>
      refine asks_bind (asks_readStatusPacket h.read) (fun packet => ?_)
      cases packet <;> exact asks_ret _
  · exact asks_ret _

theorem asks_statusDeviceID (h : StatusCalls P uri) : (statusDeviceID uri).Asks P := by
  refine asks_openDevice h.openDevice (asks_ret _) (fun serial => ?_)
  refine asks_bind (asks_call (h.id serial)) (fun did => ?_)
  exact asks_bind (asks_call h.closeDevice) (fun _ => asks_ret _)

theorem asks_pulledStatus (h : StatusCalls P uri) : (pulledStatus uri).Asks P := by
  refine asks_openDevice h.openDevice (asks_ret _) (fun serial => ?_)
  refine asks_bind (asks_writeToDevice (h.device serial).request (h.device serial).flush
      (h.device serial).close) (fun ok => ?_)
  have hclose : (papplPrinterCloseDevice uri >>= fun _ => pure false).Asks P :=
    asks_bind (asks_call h.closeDevice) (fun _ => asks_ret _)
  cases ok with
  | false => exact hclose
  | true =>
    refine asks_bind (asks_poll (asks_readStatusPacket (h.device serial).read) _) (fun packet => ?_)
    cases packet with
    | none => exact hclose
    | some received =>
      refine asks_bind (asks_call h.closeDevice) (fun _ => ?_)
      exact asks_bind (asks_applyPrinterStatus errorReasons h.toStatusStores received)
        (fun _ => asks_ret _)

theorem asks_getStatus (h : StatusCalls P uri) : (getStatus uri).Asks P := by
  refine asks_bind (asks_call h.loadPolling) (fun polling => ?_)
  cases polling with
  | true =>
    exact asks_pushedStatus errorReasons h.openDevice (fun serial => (h.device serial).read)
      h.closeDevice h.toStatusStores
  | false =>
    refine asks_bind (asks_statusDeviceID h) (fun did => ?_)
    split
    · exact asks_pulledStatus h
    · exact asks_ret _

end Pte550w

theorem jobCalls_printer {δ : Type} (uri : String) (job device : Nat) :
    JobCalls (fun c : Call δ => c.printer = uri) ⟨uri, job⟩ ⟨uri, device⟩ where
  write _ _ := rfl
  flush := rfl
  close := rfl
  impressions := rfl
  data := rfl
  read := rfl
  id := rfl
  polling _ := rfl
  setData _ := rfl
  request := rfl

theorem statusCalls_printer {δ : Type} (uri : String) :
    StatusCalls (fun c : Call δ => c.printer = uri) uri where
  status _ := rfl
  reasons _ := rfl
  device _ := ⟨⟨fun _ _ => rfl, rfl, rfl⟩, rfl, rfl⟩
  id _ := rfl
  openDevice := rfl
  closeDevice := rfl
  loadPolling := rfl

/-! ## Every driver -/

namespace Driver

variable {d : Driver} {P : Call d.JobData → Prop} {job : Job} {device : Handle} {uri : String}
variable (options : PrOptions)

theorem openingCommands_ne (d : Driver) :
    ∀ c ∈ d.openingCommands, c ≠ Commands.statusInformationRequest := by
  cases d <;> decide

theorem pageCommands_ne {jobData : d.JobData} {pageNumber : UInt32}
    {commands : List (List UInt8)}
    (h : d.pageCommands jobData options pageNumber = some commands) :
    ∀ c ∈ commands, c ≠ Commands.statusInformationRequest := by
  cases d with
  | td2000 =>
    simp only [pageCommands] at h
    split at h
    · cases h
    · split at h
      · cases h
      · obtain rfl := Option.some.inj h
        exact Td2000.pageCommands_ne _ _ _ _ _
  | pte550w =>
    simp only [pageCommands] at h
    split at h
    · cases h
    · obtain rfl := Option.some.inj h
      exact Pte550w.pageCommands_ne _ _ _

theorem asks_checkStatus (h : DeviceCalls P device) (model : d.Model) :
    (d.checkStatus model device).Asks P := by
  cases d with
  | td2000 => exact asks_ret _
  | pte550w => exact Pte550w.asks_checkStatus h model

theorem asks_startJob (h : JobCalls P job device) :
    (d.callbacks.startJob (some job) (some options) (some device)).Asks P := by
  rw [startJob_eq]
  refine asks_bind (asks_call h.id) (fun did => ?_)
  cases did with
  | none => exact asks_ret _
  | some did =>
    dsimp only
    split
    · exact asks_ret _
    · refine asks_bind (asks_writeCommands (fun c hc => h.write c (openingCommands_ne d c hc))
        h.flush h.close) (fun ok => ?_)
      cases ok with
      | false => exact asks_ret _
      | true =>
        refine asks_bind (asks_checkStatus ⟨⟨h.write, h.flush, h.read⟩, h.close, h.request⟩ _)
          (fun ok => ?_)
        cases ok with
        | false => exact asks_ret _
        | true =>
          refine asks_bind (asks_call (h.polling true)) (fun _ => ?_)
          exact asks_bind (asks_call (h.setData _)) (fun _ => asks_ret _)

theorem asks_startPage (h : PageCalls P job device) (pageNumber : UInt32) :
    (d.callbacks.startPage (some job) (some options) (some device) pageNumber).Asks P := by
  rw [startPage_eq]
  split
  · refine asks_bind (asks_call h.data) (fun jobData => ?_)
    cases jobData with
    | none => exact asks_ret _
    | some jobData =>
      dsimp only
      split
      case h_1 => exact asks_ret _
      case h_2 commands hcommands =>
        exact asks_writeCommands (fun c hc => h.write c (pageCommands_ne options hcommands c hc))
          h.flush h.close
  · exact asks_ret _

theorem rasterCommand_ne (jobData : d.JobData) (header : Header) (pixels : List UInt8) :
    d.rasterCommand jobData header pixels ≠ Commands.statusInformationRequest := by
  cases d with
  | td2000 => exact Td2000.rasterCommand_ne jobData header pixels
  | pte550w => exact Pte550w.rasterCommand_ne header pixels

theorem asks_writeLine (hdata : P (.jobGetData job)) (hd : LineCalls P device)
    (hs : StatusStores P job.printer) (y : UInt32) (pixels : List UInt8) :
    (d.callbacks.writeLine (some job) (some options) (some device) y (some pixels)).Asks P := by
  rw [writeLine_eq]
  refine asks_bind (asks_call hdata) (fun jobData => ?_)
  cases jobData with
  | none => exact asks_ret _
  | some jobData => exact asks_writeAttempts d.errorReasons hd hs (rasterCommand_ne _ _ _) _

theorem asks_endPage (h : PageCalls P job device) (pageNumber : UInt32) :
    (d.callbacks.endPage (some job) (some options) (some device) pageNumber).Asks P := by
  rw [endPage_eq]
  exact Drivers.asks_endPage options h (by decide) pageNumber

theorem asks_endJob (h : EndCalls P job device) :
    (d.callbacks.endJob (some job) (some options) (some device)).Asks P := by
  rw [endJob_eq]
  exact Drivers.asks_endJob options h (by decide)

theorem asks_getStatus (h : StatusCalls P uri) : (d.callbacks.getStatus uri).Asks P := by
  cases d with
  | td2000 => exact Td2000.asks_getStatus h
  | pte550w => exact Pte550w.asks_getStatus h

theorem asks_code {job device : Nat} (hj : JobCalls P ⟨uri, job⟩ ⟨uri, device⟩)
    (hs : StatusCalls P uri) (c : Callback) :
    (d.callbacks.code uri job device c).Asks P := by
  cases c with
  | startJob options => exact asks_startJob options hj
  | startPage options pageNumber => exact asks_startPage options hj.toPageCalls pageNumber
  | writeLine options y pixels =>
    exact asks_writeLine options hj.data ⟨hj.write, hj.flush, hj.read⟩ hs.toStatusStores y pixels
  | endPage options pageNumber => exact asks_endPage options hj.toPageCalls pageNumber
  | endJob options => exact asks_endJob options hj.toEndCalls
  | getStatus => exact asks_getStatus hs

/-- A callback concerns no printer but its own. -/
theorem asks_code_printer (uri : String) (job device : Nat) (c : Callback) :
    (d.callbacks.code uri job device c).Asks fun c => c.printer = uri :=
  asks_code (jobCalls_printer uri job device) (statusCalls_printer uri) c

end Driver

end Drivers
end BrThermal
