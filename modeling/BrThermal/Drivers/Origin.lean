/-
Where what a printer shows comes from.

A driver files one status and one set of reasons per printer, a flag for push mode and
the data of each job, and any thread may write any of them.  Under interleavings nothing
ties them to the packet that was read last: two threads may each read a packet and file
the two in the other order.  What survives is where they come from.  A callback leaves a
mark on what is shared only for what its own thread heard from that very printer, so a
printer never shows what it did not say.
-/
import BrThermal.Drivers.Isolation
import BrThermal.Drivers.Bracket
import BrThermal.Drivers.StatusKept
import BrThermal.Drivers.StatusPoll
import BrThermal.Effect.Warrant

namespace BrThermal
namespace Drivers

open Effect Effect.Prog Pappl

/-! ## What a thread has heard -/

section Heard

variable {δ : Type}

/-- The printer at `uri` delivered the packet. -/
def Heard (es : List (Event δ)) (uri : String) (info : PrinterInfo) : Prop :=
  ∃ device reply, device.uri = uri ∧ (⟨.deviceRead device, reply⟩ : Event δ) ∈ es ∧
    reply.packet = some info

/-- A read from the printer at `uri` ended in a hard error. -/
def HeardFailure (es : List (Event δ)) (uri : String) : Prop :=
  ∃ device reply, device.uri = uri ∧ (⟨.deviceRead device, reply⟩ : Event δ) ∈ es ∧
    reply.result < 0

/-- The device took the whole command. -/
def Took (es : List (Event δ)) (device : Handle) (command : List UInt8) : Prop :=
  (⟨.deviceWrite device command, (command.length : Int)⟩ : Event δ) ∈ es

/-- The printer at `uri` took all of them on one connection. -/
def TookAll (es : List (Event δ)) (uri : String) (commands : List (List UInt8)) : Prop :=
  ∃ device, device.uri = uri ∧ ∀ command ∈ commands, Took es device command

/-- The printer at `uri` named itself, and the driver knows the name. -/
def Named (d : Driver) (es : List (Event d.JobData)) (uri : String) (model : d.Model) : Prop :=
  ∃ device did, device.uri = uri ∧ (⟨.deviceGetID device, some did⟩ : Event d.JobData) ∈ es ∧
    d.modelMap.lookup (did.mdl.getD "") = some model

/-- Knowledge that no further event takes back. -/
def Lasting (K : List (Event δ) → Prop) : Prop := ∀ xs ys, xs ⊆ ys → K xs → K ys

theorem Lasting.and {K L : List (Event δ) → Prop} (hK : Lasting K) (hL : Lasting L) :
    Lasting fun es => K es ∧ L es :=
  fun xs ys hsub h => ⟨hK xs ys hsub h.1, hL xs ys hsub h.2⟩

theorem lasting_true : Lasting fun _ : List (Event δ) => True := fun _ _ _ _ => trivial

theorem lasting_heard (uri : String) (info : PrinterInfo) :
    Lasting fun es : List (Event δ) => Heard es uri info :=
  fun _ _ hsub ⟨device, reply, huri, hmem, hreply⟩ => ⟨device, reply, huri, hsub hmem, hreply⟩

theorem lasting_heardFailure (uri : String) :
    Lasting fun es : List (Event δ) => HeardFailure es uri :=
  fun _ _ hsub ⟨device, reply, huri, hmem, hreply⟩ => ⟨device, reply, huri, hsub hmem, hreply⟩

theorem lasting_took (device : Handle) (command : List UInt8) :
    Lasting fun es : List (Event δ) => Took es device command :=
  fun _ _ hsub h => hsub h

theorem lasting_tookAll (uri : String) (commands : List (List UInt8)) :
    Lasting fun es : List (Event δ) => TookAll es uri commands :=
  fun _ _ hsub ⟨device, huri, htook⟩ => ⟨device, huri, fun c hc => hsub (htook c hc)⟩

theorem lasting_named (d : Driver) (uri : String) (model : d.Model) :
    Lasting fun es => Named d es uri model :=
  fun _ _ hsub ⟨device, did, huri, hmem, hmodel⟩ => ⟨device, did, huri, hsub hmem, hmodel⟩

theorem Lasting.snoc {K : List (Event δ) → Prop} (hK : Lasting K) {past : List (Event δ)}
    (h : K past) (e : Event δ) : K (past ++ [e]) :=
  hK past _ (List.subset_append_left past [e]) h

end Heard

/-- The calls that leave no mark on what is shared. -/
def Markless {δ : Type} : Call δ → Prop
  | .storeStatus _ _ | .printerSetReasons _ _ | .storePolling _ _ | .jobSetData _ _ => False
  | _ => True

/-- What a thread must have heard to leave a mark. -/
def Warrant (d : Driver) (past : List (Event d.JobData)) : Call d.JobData → Prop
  | .storeStatus uri info => Heard past uri info
  | .printerSetReasons uri reasons =>
    (∃ info, Heard past uri info ∧ reasons = statusReasons d.errorReasons info) ∨
      HeardFailure past uri ∧ reasons = {.other, .offline}
  | .storePolling uri true =>
    ∃ model, Named d past uri model ∧ TookAll past uri (d.startCommands model)
  | .storePolling uri false => TookAll past uri [Commands.printWithFeeding]
  | .jobSetData job (some data) =>
    ∃ model, Named d past job.printer model ∧ data = d.jobData model
  | .jobSetData job none => TookAll past job.printer [Commands.printWithFeeding]
  | _ => True

section Common

variable {d : Driver} {past : List (Event d.JobData)} {K : List (Event d.JobData) → Prop}
  {device : Handle} {uri : String}

theorem warrant_of_markless {c : Call d.JobData} (hc : Markless c) : Warrant d past c := by
  cases c with
  | storeStatus | printerSetReasons | storePolling | jobSetData => exact hc.elim
  | _ => trivial

/-- A call that leaves no mark teaches its answer. -/
theorem learns_call {c : Call d.JobData} (hc : Markless c) (hK : Lasting K) (h : K past) :
    (Prog.call c : Code d.JobData c.Reply).Warranted (Warrant d)
      (fun past r => K past ∧ (⟨c, r⟩ : Event d.JobData) ∈ past) past :=
  ⟨warrant_of_markless hc, fun _ => ⟨hK.snoc h _,
    List.mem_append_right _ (List.mem_singleton_self _)⟩⟩

theorem learns_markless {α : Type} {p : Code d.JobData α} (hp : p.Asks Markless)
    (hK : Lasting K) (h : K past) : p.Warranted (Warrant d) (fun past _ => K past) past :=
  warranted_of_asks hp (fun _ _ _ _ h => hK.snoc h _) (fun _ _ hc _ => warrant_of_markless hc) h

/-! ## What the callbacks have in common -/

theorem learns_writeToDevice (hK : Lasting K) (data : List UInt8) (h : K past) :
    (writeToDevice data (some device) : Code d.JobData Bool).Warranted (Warrant d)
      (fun past ok => K past ∧ (ok = true → Took past device data)) past := by
  refine warranted_bind (learns_call trivial hK h) (fun past n hn => ?_)
  obtain ⟨h, hwrite⟩ := hn
  split
  case isTrue hshort =>
    refine warranted_bind (learns_call trivial hK h) (fun past _ hclose => ?_)
    exact warranted_ret ⟨hclose.1, fun hok => absurd hok Bool.false_ne_true⟩
  case isFalse hwhole =>
    obtain rfl : n = data.length := not_not.mp hwhole
    refine warranted_bind (learns_call trivial (hK.and (lasting_took device data)) ⟨h, hwrite⟩)
      (fun past _ hflush => ?_)
    exact warranted_ret ⟨hflush.1.1, fun _ => hflush.1.2⟩

theorem learns_writeCommands (hK : Lasting K) (commands : List (List UInt8)) (h : K past) :
    (writeCommands commands device : Code d.JobData Bool).Warranted (Warrant d)
      (fun past ok => K past ∧ (ok = true → ∀ command ∈ commands, Took past device command))
      past := by
  induction commands generalizing K past with
  | nil => exact warranted_ret ⟨h, fun _ _ hc => absurd hc List.not_mem_nil⟩
  | cons command commands ih =>
    refine warranted_bind (learns_writeToDevice hK command h) (fun past ok hok => ?_)
    obtain ⟨h, htook⟩ := hok
    cases ok with
    | false => exact warranted_ret ⟨h, fun hok => absurd hok Bool.false_ne_true⟩
    | true =>
      refine warranted_mono (ih (hK.and (lasting_took device command)) ⟨h, htook rfl⟩)
        (fun past ok hrest => ?_)
      obtain ⟨⟨h, hfirst⟩, hrest⟩ := hrest
      exact ⟨h, fun hok => List.forall_mem_cons.mpr ⟨hfirst, hrest hok⟩⟩

theorem learns_readStatusPacket (hdevice : device.uri = uri) (hK : Lasting K) (h : K past) :
    (readStatusPacket device : Code d.JobData (Option PrinterInfo)).Warranted (Warrant d)
      (fun past packet => K past ∧ ∀ info, packet = some info → Heard past uri info) past := by
  refine warranted_bind (learns_call trivial hK h) (fun past reply hreply => ?_)
  exact warranted_ret ⟨hreply.1, fun info hinfo => ⟨device, reply, hdevice, hreply.2, hinfo⟩⟩

theorem warranted_applyPrinterStatus {info : PrinterInfo} (hK : Lasting K) (h : K past)
    (hheard : Heard past uri info) :
    (applyPrinterStatus d.errorReasons uri info).Warranted (Warrant d) (fun past _ => K past)
      past := by
  refine warranted_ask hheard (fun r => warranted_ask (.inl ⟨info, ?_, rfl⟩) (fun r => ?_))
  · exact (lasting_heard uri info).snoc hheard _
  · exact hK.snoc (hK.snoc h _) _

/-- Nothing that follows depends on what a callback learned before it returns. -/
def Warrants {α : Type} (d : Driver) (p : Code d.JobData α) : Prop :=
  ∀ past, p.Warranted (Warrant d) (fun _ _ => True) past

theorem warrants_ret {α : Type} (a : α) : Warrants d (ret a) := fun _ => trivial

theorem warrants_of_markless {α : Type} {p : Code d.JobData α} (hp : p.Asks Markless) :
    Warrants d p := fun _ => learns_markless hp lasting_true trivial

theorem warrants_bind {α β : Type} {p : Code d.JobData α} {f : α → Code d.JobData β}
    (hp : Warrants d p) (hf : ∀ a, Warrants d (f a)) : Warrants d (p >>= f) :=
  fun past => warranted_bind (hp past) fun past a _ => hf a past

/-- A packet may be filed by what follows the read. -/
theorem warrants_read {α : Type} {f : Option PrinterInfo → Code d.JobData α}
    (hdevice : device.uri = uri) (hnone : Warrants d (f none))
    (hsome : ∀ past info, Heard past uri info →
      (f (some info)).Warranted (Warrant d) (fun _ _ => True) past) :
    Warrants d (readStatusPacket device >>= f) := by
  intro past
  refine warranted_bind (learns_readStatusPacket hdevice lasting_true trivial)
    (fun past packet hpacket => ?_)
  cases packet with
  | none => exact hnone past
  | some info => exact hsome past info (hpacket.2 info rfl)

theorem warranted_apply_bind {α : Type} {info : PrinterInfo} {f : Unit → Code d.JobData α}
    (hheard : Heard past uri info) (hf : Warrants d (f ())) :
    (applyPrinterStatus d.errorReasons uri info >>= f).Warranted (Warrant d)
      (fun _ _ => True) past :=
  warranted_bind (warranted_applyPrinterStatus lasting_true trivial hheard)
    fun past _ _ => hf past

theorem warrants_waitForPrinterResume (hdevice : device.uri = uri) :
    Warrants d (waitForPrinterResume d.errorReasons device uri) := by
  have hattempt : Warrants d (resumeAttempt d.errorReasons device uri) := by
    refine warrants_read hdevice (warrants_ret none) (fun past info hheard => ?_)
    refine warranted_apply_bind hheard ?_
    split
    · exact warrants_ret _
    · split <;> exact warrants_ret _
  exact warrants_bind (fun past => warranted_poll (fun past _ => hattempt past) _ trivial)
    fun resumed => warrants_ret _

theorem warrants_lineWritten (hdevice : device.uri = uri) :
    Warrants d (lineWritten d.errorReasons device uri) := by
  refine warrants_bind (warrants_of_markless (asks_call (P := Markless) trivial)) (fun _ => ?_)
  refine warrants_read hdevice (warrants_ret _) (fun past info hheard => ?_)
  refine warranted_apply_bind hheard ?_
  split
  · exact warrants_ret _
  · split
    · exact warrants_waitForPrinterResume hdevice
    · exact warrants_ret _

theorem warrants_writeAttempts (hdevice : device.uri = uri) (rasterCmd : List UInt8) (n : Nat) :
    Warrants d (writeAttempts d.errorReasons device uri rasterCmd n) := by
  induction n with
  | zero => exact warrants_ret false
  | succ n ih =>
    refine warrants_bind (warrants_of_markless (asks_call (P := Markless) trivial))
      (fun written => ?_)
    split
    · exact warrants_lineWritten hdevice
    · split
      · exact warrants_ret false
      · -- Up to 20 reads look for the packet that explains the failed write.
        intro past
        have hprobe : ∀ past : List (Event d.JobData),
            (readStatusPacket device : Code d.JobData (Option PrinterInfo)).Warranted (Warrant d)
              (fun past packet => ∀ info, packet = some info → Heard past uri info) past :=
          fun past => warranted_mono (learns_readStatusPacket hdevice lasting_true trivial)
            fun _ _ h => h.2
        refine warranted_bind (warranted_poll (fun past _ => hprobe past) 20
          fun info hinfo => nomatch hinfo) (fun past packet hpacket => ?_)
        cases packet with
        | none => exact warrants_ret false past
        | some info =>
          refine warranted_apply_bind (hpacket info rfl) ?_
          split
          · refine warrants_bind (warrants_waitForPrinterResume hdevice) (fun resumed => ?_)
            cases resumed with
            | true => exact ih
            | false => exact warrants_ret false
          · exact warrants_ret false

theorem warrants_open {α : Type} {f : Option Handle → Code d.JobData α}
    (hnone : Warrants d (f none)) (hsome : ∀ serial, Warrants d (f (some ⟨uri, serial⟩))) :
    Warrants d (papplPrinterOpenDevice uri >>= f) := by
  refine fun past => warranted_ask trivial (fun serial => ?_)
  cases serial with
  | none => exact hnone _
  | some serial => exact hsome serial _

theorem warrants_pushedStatus : Warrants d (pushedStatus d.errorReasons uri) := by
  have hclose : Warrants d (papplPrinterCloseDevice uri >>= fun _ => pure true) :=
    warrants_of_markless (asks_bind (asks_call (P := Markless) trivial) fun _ => asks_ret true)
  refine warrants_open (warrants_ret true) (fun serial => ?_)
  refine warrants_read (show (Handle.mk uri serial).uri = uri from rfl)
    (warrants_bind (warrants_ret ()) fun _ => hclose)
    (fun past info hheard => ?_)
  exact warranted_apply_bind hheard hclose

theorem warrants_endJob (job : Job) (options : PrOptions) (hdevice : device.uri = job.printer) :
    Warrants d (endJob Commands.printWithFeeding (some job) (some options) (some device)) := by
  intro past
  refine warranted_bind (learns_writeToDevice lasting_true Commands.printWithFeeding trivial)
    (fun past ok hok => ?_)
  cases ok with
  | false => exact warrants_ret false past
  | true =>
    have hlasting := lasting_tookAll (δ := d.JobData) job.printer [Commands.printWithFeeding]
    have htook : TookAll past job.printer [Commands.printWithFeeding] :=
      ⟨device, hdevice, List.forall_mem_singleton.mpr (hok.2 rfl)⟩
    refine warranted_bind (learns_markless (asks_poll (asks_drainAttempt ?_) 200) hlasting htook)
      (fun past _ htook => ?_)
    · trivial
    · refine warranted_ask htook (fun r => warranted_ask trivial (fun data => ?_))
      refine warranted_ask ?_ (fun r => warranted_ret trivial)
      exact hlasting.snoc (hlasting.snoc htook _) _

end Common

/-! ## The callbacks of each driver -/

namespace Td2000

theorem learns_statusAttempt {device : Handle} {uri : String} (hdevice : device.uri = uri)
    (past : List (Event JobData)) :
    (statusAttempt device).Warranted (Warrant .td2000)
      (fun past status => (status = some none → HeardFailure past uri) ∧
        ∀ info, status = some (some info) → Heard past uri info) past := by
  refine warranted_bind (learns_readStatusPacket (d := .td2000) hdevice lasting_true trivial)
    (fun past packet hpacket => ?_)
  cases packet with
  | some info =>
    refine warranted_ret ⟨fun h => (nomatch h), fun info' hinfo => ?_⟩
    obtain rfl : info = info' := by simpa using hinfo
    exact hpacket.2 info rfl
  | none =>
    refine warranted_bind (learns_call (d := .td2000) (c := .deviceRead device) trivial
      lasting_true trivial) (fun past probe hprobe => ?_)
    split
    case isTrue hneg =>
      exact warranted_ret ⟨fun _ => ⟨device, probe, hdevice, hprobe.2, hneg⟩,
        fun info hinfo => nomatch hinfo⟩
    case isFalse => exact warranted_ret ⟨fun h => (nomatch h), fun info hinfo => (nomatch hinfo)⟩

theorem warrants_pulledStatus (uri : String) : Warrants .td2000 (pulledStatus uri) := by
  have hclose : Warrants .td2000 (papplPrinterCloseDevice uri >>= fun _ => pure false) :=
    warrants_of_markless (asks_bind (asks_call (P := Markless) trivial) fun _ => asks_ret false)
  refine warrants_open (warrants_ret false) (fun serial past => ?_)
  refine warranted_bind (learns_writeToDevice (d := .td2000) lasting_true _ trivial)
    (fun past ok _ => ?_)
  cases ok with
  | false => exact hclose past
  | true =>
    refine warranted_bind (warranted_poll (fun past _ => learns_statusAttempt rfl past) 100
      ⟨fun h => (nomatch h), fun info hinfo => (nomatch hinfo)⟩) (fun past status hstatus => ?_)
    rcases status with _ | _ | info
    · exact hclose past
    · have hfailed : HeardFailure past uri := hstatus.1 rfl
      refine warranted_ask trivial (fun r => warranted_ask (.inr ⟨?_, rfl⟩) fun r => ?_)
      · exact (lasting_heardFailure uri).snoc hfailed _
      · exact warranted_ret trivial
    · have hheard : Heard past uri info := hstatus.2 info rfl
      refine warranted_ask trivial (fun r => ?_)
      exact warranted_apply_bind (d := .td2000) ((lasting_heard uri info).snoc hheard _)
        (warrants_ret true)

theorem warrants_getStatus (uri : String) : Warrants .td2000 (getStatus uri) := by
  refine fun past => warranted_ask trivial (fun polling => ?_)
  cases polling with
  | true => exact warrants_pushedStatus (d := .td2000) _
  | false => exact warrants_pulledStatus uri _

end Td2000

namespace Pte550w

theorem warrants_pulledStatus (uri : String) : Warrants .pte550w (pulledStatus uri) := by
  have hclose : Warrants .pte550w (papplPrinterCloseDevice uri >>= fun _ => pure false) :=
    warrants_of_markless (asks_bind (asks_call (P := Markless) trivial) fun _ => asks_ret false)
  refine warrants_open (warrants_ret false) (fun serial past => ?_)
  refine warranted_bind (learns_writeToDevice (d := .pte550w) lasting_true _ trivial)
    (fun past ok _ => ?_)
  cases ok with
  | false => exact hclose past
  | true =>
    have hread : ∀ past : List (Event JobData),
        (readStatusPacket ⟨uri, serial⟩ : Code JobData (Option PrinterInfo)).Warranted
          (Warrant .pte550w)
          (fun past packet => ∀ info, packet = some info → Heard past uri info) past :=
      fun past => warranted_mono
        (learns_readStatusPacket (d := .pte550w) rfl lasting_true trivial) fun _ _ h => h.2
    refine warranted_bind (warranted_poll (fun past _ => hread past) 100
      fun info hinfo => nomatch hinfo) (fun past packet hpacket => ?_)
    cases packet with
    | none => exact hclose past
    | some info =>
      refine warranted_ask trivial (fun r => ?_)
      exact warranted_apply_bind (d := .pte550w)
        ((lasting_heard uri info).snoc (hpacket info rfl) _) (warrants_ret true)

theorem warrants_statusDeviceID (uri : String) : Warrants .pte550w (statusDeviceID uri) := by
  refine warrants_of_markless (asks_openDevice trivial (asks_ret _) fun serial => ?_)
  refine asks_bind (asks_call ?_) fun did => asks_bind (asks_call ?_) fun _ => asks_ret _
  · trivial
  · trivial

theorem warrants_getStatus (uri : String) : Warrants .pte550w (getStatus uri) := by
  refine fun past => warranted_ask trivial (fun polling => ?_)
  cases polling with
  | true => exact warrants_pushedStatus (d := .pte550w) _
  | false =>
    refine warrants_bind (warrants_statusDeviceID uri) (fun did => ?_) _
    split
    · exact warrants_pulledStatus uri
    · exact warrants_ret true

end Pte550w

namespace Driver

variable {d : Driver} {job : Job} {device : Handle} {past : List (Event d.JobData)}
  {K : List (Event d.JobData) → Prop}

/-- With the check of its status a model has taken all of its start sequence. -/
theorem learns_checkStatus (hK : Lasting K) (model : d.Model) (h : K past)
    (hopening : ∀ command ∈ d.openingCommands, Took past device command) :
    (d.checkStatus model device).Warranted (Warrant d)
      (fun past ok => K past ∧
        (ok = true → ∀ command ∈ d.startCommands model, Took past device command)) past := by
  cases d with
  | td2000 => exact warranted_ret ⟨h, fun _ => hopening⟩
  | pte550w =>
    have hlasting : Lasting fun past : List (Event Pte550w.JobData) =>
        K past ∧ ∀ command ∈ Pte550w.startCommands, Took past device command :=
      hK.and fun xs ys hsub htook c hc => hsub (htook c hc)
    show (Pte550w.checkStatus model device).Warranted _ _ _
    rw [Pte550w.checkStatus]
    split
    case isTrue hmodel =>
      refine warranted_bind (learns_writeToDevice (d := .pte550w) hlasting _ ⟨h, hopening⟩)
        (fun past ok hok => ?_)
      obtain ⟨⟨h, hopening⟩, hrequest⟩ := hok
      cases ok with
      | false => exact warranted_ret ⟨h, fun hok => absurd hok Bool.false_ne_true⟩
      | true =>
        have hall : Lasting fun past : List (Event Pte550w.JobData) =>
            K past ∧ ∀ command ∈ Driver.pte550w.startCommands model, Took past device command :=
          hK.and fun xs ys hsub htook c hc => hsub (htook c hc)
        have hstart : ∀ command ∈ Driver.pte550w.startCommands model,
            Took past device command := by
          intro command hc
          rcases List.mem_append.mp hc with hc | hc
          · exact hopening command hc
          · rw [if_pos hmodel, List.mem_singleton] at hc
            subst hc
            exact hrequest rfl
        refine warranted_bind (learns_readStatusPacket (d := .pte550w) rfl hall ⟨h, hstart⟩)
          (fun past packet hpacket => ?_)
        cases packet with
        | none => exact warranted_ret ⟨hpacket.1.1, fun _ => hpacket.1.2⟩
        | some packet => exact warranted_ret ⟨hpacket.1.1, fun _ => hpacket.1.2⟩
    case isFalse hmodel =>
      refine warranted_ret ⟨h, fun _ command hc => ?_⟩
      rw [startCommands, if_neg hmodel, List.append_nil] at hc
      exact hopening command hc

theorem warranted_start {model : d.Model} (hdevice : device.uri = job.printer)
    (h : Named d past job.printer model) :
    (d.start model job device).Warranted (Warrant d) (fun _ _ => True) past := by
  have hnamed := lasting_named d job.printer model
  refine warranted_bind (learns_writeCommands hnamed d.openingCommands h) (fun past ok hok => ?_)
  obtain ⟨h, hopening⟩ := hok
  cases ok with
  | false => exact warranted_ret trivial
  | true =>
    refine warranted_bind (learns_checkStatus hnamed model h (hopening rfl))
      (fun past ok hok => ?_)
    obtain ⟨h, hstart⟩ := hok
    cases ok with
    | false => exact warranted_ret trivial
    | true =>
      refine warranted_ask ⟨model, h, device, hdevice, hstart rfl⟩ (fun r => ?_)
      exact warranted_ask ⟨model, hnamed.snoc h _, rfl⟩ fun r => warranted_ret trivial

theorem warrants_startJob (options : PrOptions) (hdevice : device.uri = job.printer) :
    Warrants d (d.callbacks.startJob (some job) (some options) (some device)) := by
  intro past
  rw [startJob_eq]
  refine warranted_bind (learns_call (c := .deviceGetID device) trivial lasting_true trivial)
    (fun past did hdid => ?_)
  cases did with
  | none => exact warranted_ret trivial
  | some did =>
    dsimp only
    split
    case h_1 => exact warranted_ret trivial
    case h_2 model hmodel => exact warranted_start hdevice ⟨device, did, hdevice, hdid.2, hmodel⟩

theorem warrants_writeLine (options : PrOptions) (hdevice : device.uri = job.printer)
    (y : UInt32) (pixels : List UInt8) :
    Warrants d (d.callbacks.writeLine (some job) (some options) (some device) y (some pixels)) := by
  intro past
  rw [writeLine_eq]
  refine warranted_ask trivial (fun jobData => ?_)
  cases jobData with
  | none => exact warranted_ret trivial
  | some jobData => exact warrants_writeAttempts hdevice _ 2 _

theorem warrants_code (uri : String) (job device : Nat) (c : Callback) :
    Warrants d (d.callbacks.code uri job device c) := by
  have hpage : PageCalls (Markless (δ := d.JobData)) ⟨uri, job⟩ ⟨uri, device⟩ :=
    ⟨fun _ _ => trivial, trivial, trivial, trivial, trivial⟩
  cases c with
  | startJob options => exact warrants_startJob options rfl
  | startPage options pageNumber =>
    exact warrants_of_markless (asks_startPage options hpage pageNumber)
  | writeLine options y pixels => exact warrants_writeLine options rfl y pixels
  | endPage options pageNumber =>
    exact warrants_of_markless (asks_endPage options hpage pageNumber)
  | endJob options =>
    show Warrants d (d.callbacks.endJob _ _ _)
    rw [endJob_eq]
    exact warrants_endJob ⟨uri, job⟩ options rfl
  | getStatus =>
    cases d with
    | td2000 => exact Td2000.warrants_getStatus uri
    | pte550w => exact Pte550w.warrants_getStatus uri

end Driver

/-! ## What marks the shared state -/

section Marks

variable {δ : Type}

def statusMark (uri : String) : Call δ → Option (Option PrinterInfo)
  | .storeStatus u info => if u = uri then some (some info) else none
  | _ => none

def reasonsMark (uri : String) : Call δ → Option Reasons
  | .printerSetReasons u reasons => if u = uri then some reasons else none
  | _ => none

def pollingMark (uri : String) : Call δ → Option Bool
  | .storePolling u polling => if u = uri then some polling else none
  | _ => none

def dataMark (job : Job) : Call δ → Option (Option δ)
  | .jobSetData j data => if j = job then some data else none
  | _ => none

/-- A key of a map is given the new value where it is the one updated. -/
theorem update_mark {κ β : Type} [DecidableEq κ] (m : κ → β) (k key : κ) (b : β) :
    Function.update m k b key = (if k = key then some b else none).getD (m key) := by
  by_cases hk : k = key
  · subst hk
    rw [if_pos rfl, Function.update_self]
    rfl
  · rw [if_neg hk, Function.update_of_ne (Ne.symm hk)]
    rfl

theorem printerStatus_answer (uri : String) (c : Call δ) (w : World δ) :
    (World.answer c w).2.printerStatus uri = (statusMark uri c).getD (w.printerStatus uri) := by
  cases c with
  | storeStatus u info => exact update_mark w.printerStatus u uri (some info)
  | printerOpenDevice u =>
    simp only [World.answer]
    split <;> rfl
  | _ => rfl

theorem reasons_answer (uri : String) (c : Call δ) (w : World δ) :
    (World.answer c w).2.reasons uri = (reasonsMark uri c).getD (w.reasons uri) := by
  cases c with
  | printerSetReasons u reasons => exact update_mark w.reasons u uri reasons
  | printerOpenDevice u =>
    simp only [World.answer]
    split <;> rfl
  | _ => rfl

/-- Looking the flag up enters it, without a change to what it says. -/
theorem pushMode_answer (uri : String) (c : Call δ) (w : World δ) :
    pushMode (World.answer c w).2 uri = (pollingMark uri c).getD (pushMode w uri) := by
  cases c with
  | storePolling u polling =>
    have hupdate := update_mark w.printerStatusPolling u uri (some polling)
    refine (congrArg (Option.getD · false) hupdate).trans ?_
    rw [pollingMark]
    split <;> rfl
  | loadPolling u =>
    have hupdate := update_mark w.printerStatusPolling u uri
      (some ((w.printerStatusPolling u).getD false))
    refine (congrArg (Option.getD · false) hupdate).trans ?_
    split
    case isTrue hu =>
      subst hu
      rfl
    case isFalse => rfl
  | printerOpenDevice u =>
    simp only [World.answer]
    split <;> rfl
  | _ => rfl

theorem jobData_answer (job : Job) (c : Call δ) (w : World δ) :
    (World.answer c w).2.jobData job = (dataMark job c).getD (w.jobData job) := by
  cases c with
  | jobSetData j data => exact update_mark w.jobData j job data
  | printerOpenDevice u =>
    simp only [World.answer]
    split <;> rfl
  | _ => rfl

end Marks

/-! ## Threads of callbacks -/

/-- Code that calls the callbacks, in any order and as their results decide. -/
inductive Client {δ α : Type} (callbacks : Callbacks δ) : Code δ α → Prop
  | ret (a : α) : Client callbacks (ret a)
  | call (uri : String) (job device : Nat) (c : Callback) {k : Bool → Code δ α}
      (hk : ∀ ok, Client callbacks (k ok)) :
      Client callbacks (callbacks.code uri job device c >>= k)

theorem client_bind {δ α β : Type} {callbacks : Callbacks δ} {p : Code δ α} {f : α → Code δ β}
    (hp : Client callbacks p) (hf : ∀ a, Client callbacks (f a)) :
    Client callbacks (p >>= f) := by
  induction hp with
  | ret a => exact hf a
  | call uri job device c hk ih =>
    rw [bind_assoc]
    exact .call uri job device c ih

theorem client_serve {δ : Type} (callbacks : Callbacks δ) (uri : String)
    (requests : List Request) : Client callbacks (serve callbacks uri requests) := by
  induction requests with
  | nil => exact .ret []
  | cons r rs ih =>
    exact .call uri r.job r.device r.callback fun ok => client_bind ih fun results => .ret _

theorem warrants_client {α : Type} {d : Driver} {p : Code d.JobData α}
    (hp : Client d.callbacks p) : Warrants d p := by
  induction hp with
  | ret a => exact warrants_ret a
  | call uri job device c hk ih => exact warrants_bind (Driver.warrants_code uri job device c) ih

section Schedule

variable {τ α : Type} [DecidableEq τ] {d : Driver} {prog : τ → Code d.JobData α}
  {w : World d.JobData}

/-- Each mark is warranted by what its own thread saw before it, and what the callbacks
share is as the last mark left it. -/
structure Explained (d : Driver) (trace : List (τ × Event d.JobData)) (w final : World d.JobData) :
    Prop where
  warranted : ∀ xs t e ys, trace = xs ++ (t, e) :: ys → Warrant d (Pool.eventsOf t xs) e.1
  status : ∀ uri, final.printerStatus uri =
    Pool.lastMark (statusMark uri) (w.printerStatus uri) trace
  reasons : ∀ uri, final.reasons uri = Pool.lastMark (reasonsMark uri) (w.reasons uri) trace
  polling : ∀ uri, pushMode final uri = Pool.lastMark (pollingMark uri) (pushMode w uri) trace
  data : ∀ job, final.jobData job = Pool.lastMark (dataMark job) (w.jobData job) trace

/-- Whatever the threads and the schedule: a thread files a status, and the reasons it calls
for, only of a packet it read from that printer, or OTHER and OFFLINE after a read of its
own that failed; it sets the flag after the device named a model and took that model's
whole start sequence, clears it after a whole print command, and gives a job the data of
the model its device named.  What was filed last is what is shared. -/
theorem shared_explained (hprog : ∀ t, Client d.callbacks (prog t)) (w : World d.JobData)
    (schedule : List τ) :
    let pool : Pool τ (Call d.JobData) Call.Reply α (World d.JobData) := ⟨w, prog⟩
    Explained d (pool.trace World.env schedule) w (pool.run World.env schedule).state := by
  intro pool
  have hwarrants : ∀ t, (pool.prog t).Warranted (Warrant d) (fun _ _ => True) [] :=
    fun t => warrants_client (hprog t) []
  constructor
  · exact fun xs t e ys htrace => Pool.trace_of_warranted schedule hwarrants htrace
  · exact fun uri => Pool.lastMark_run (f := fun w : World d.JobData => w.printerStatus uri)
      (printerStatus_answer uri) schedule pool
  · exact fun uri => Pool.lastMark_run (f := fun w : World d.JobData => w.reasons uri)
      (reasons_answer uri) schedule pool
  · exact fun uri => Pool.lastMark_run (f := fun w : World d.JobData => pushMode w uri)
      (pushMode_answer uri) schedule pool
  · exact fun job => Pool.lastMark_run (f := fun w : World d.JobData => w.jobData job)
      (jobData_answer job) schedule pool

end Schedule

/-- In push mode the TD-2020 reports an open cover, and then that it was closed. -/
def coverWorld : World Td2000.JobData :=
  { repliesWorld [⟨32, coverOpenPacket⟩, ⟨32, idlePacket⟩] with
    printerStatusPolling := fun _ => some true }

def statusPool : Pool Bool (Call Td2000.JobData) Call.Reply (List Bool) (World Td2000.JobData) :=
  ⟨coverWorld, fun _ => serve Driver.td2000.callbacks "usb://TD-2020" [⟨0, 0, .getStatus⟩]⟩

/-- One status call reads the first packet and files it after the other call has read and
filed the second one. -/
def crossingSchedule : List Bool :=
  [false, false, false, true, true, true, true, false, false, true, true, false]

theorem shared_explained_crossing :
    Explained .td2000 (statusPool.trace World.env crossingSchedule) coverWorld
      (statusPool.run World.env crossingSchedule).state :=
  shared_explained (d := .td2000) (fun _ => client_serve _ _ _) coverWorld crossingSchedule

/-- The status is the first packet, and the reasons are those of the second. -/
example :
    (statusPool.run World.env crossingSchedule).state.printerStatus "usb://TD-2020" =
        some coverOpenPacket ∧
      (statusPool.run World.env crossingSchedule).state.reasons "usb://TD-2020" =
        statusReasons Td2000.errorReasons idlePacket := by
  decide +kernel

end Drivers
end BrThermal
