/-
One thread that works on a printer, beside others that leave its work alone.

The others serve other printers, or ask this one for its status: they share the device
with the thread, take packets it waits for and may send ESC i S anywhere between its
commands.  What the thread does in a schedule it also does alone on a device that
reports what the thread came to see.  Where the device takes every write, what the others
add to the stream are whole status requests between whole commands of the thread.
-/
import BrThermal.Drivers.JobStream
import BrThermal.Drivers.RequestWindow
import BrThermal.Drivers.Written
import BrThermal.Effect.Replay

namespace BrThermal
namespace Drivers

open Effect Effect.Prog Pappl Codec Raster

/-! ## What a thread saw of the device -/

section Seen

variable {δ : Type} {uri : String}

/-- An outcome with the given result. -/
def outcomeOf (data : List UInt8) (result : Int) : WriteOutcome :=
  if result = (data.length : Int) then .complete
  else if result < 0 then .error
  else .short result.toNat

theorem result_outcomeOf (data : List UInt8) (o : WriteOutcome) :
    (outcomeOf data (o.result data)).result data = o.result data := by
  rw [outcomeOf]
  split
  case isTrue hwhole => exact hwhole.symm
  case isFalse hshort =>
    split
    case isTrue hneg =>
      cases o with
      | error => rfl
      | complete => exact absurd rfl hshort
      | short n =>
        rw [WriteOutcome.result] at hneg
        omega
    case isFalse hneg =>
      have hle := result_le data o
      rw [WriteOutcome.result]
      omega

/-- The device as it answered some calls. -/
def seen : List (Event δ) → DeviceScript
  | [] => {}
  | ⟨.deviceGetID _, did⟩ :: es => { seen es with ids := did :: (seen es).ids }
  | ⟨.deviceWrite _ data, result⟩ :: es =>
    { seen es with writes := outcomeOf data result :: (seen es).writes }
  | ⟨.deviceRead _, reply⟩ :: es => { seen es with reads := reply :: (seen es).reads }
  | _ :: es => seen es

/-- The calls of a job on the printer: their answers depend on the device, and on what
no status call changes. -/
def OwnCall (uri : String) : Call δ → Prop
  | .printerOpenDevice _ | .loadPolling _ => False
  | c => c.printer = uri

theorem printer_of_ownCall {c : Call δ} (h : OwnCall uri c) : c.printer = uri := by
  cases c with
  | printerOpenDevice | loadPolling => exact h.elim
  | _ => exact h

/-- The calls of another thread: on the printer they leave the data of jobs alone and
send nothing but status requests. -/
def Bystands (uri : String) (c : Call δ) : Prop :=
  c.printer = uri →
    match c with
    | .jobSetData _ _ => False
    | .deviceWrite _ data => data = Commands.statusInformationRequest
    | _ => True

theorem Bystands.keepsJobData {c : Call δ} (h : Bystands uri c) (hc : c.printer = uri) :
    KeepsJobData c := by
  cases c with
  | jobSetData => exact h hc
  | _ => trivial

/-- The world `w'` of a job run alone that sees of the device what it sees in `w`. -/
structure Sees (uri : String) (es : List (Event δ)) (w' w : World δ) : Prop where
  script : w'.script uri = seen es
  jobData : ∀ id, w'.jobData ⟨uri, id⟩ = w.jobData ⟨uri, id⟩
  impressions : ∀ id, w'.impressions ⟨uri, id⟩ = w.impressions ⟨uri, id⟩

/-- Thread `t` works on the printer, and the others stand by. -/
def besideCalls {τ : Type} [DecidableEq τ] (uri : String) (t u : τ) : Call δ → Prop :=
  if u = t then OwnCall uri else Bystands uri

theorem ownCall_of_beside {τ : Type} [DecidableEq τ] {t : τ} {c : Call δ}
    (h : besideCalls uri t t c) : OwnCall uri c := by
  rwa [besideCalls, if_pos rfl] at h

theorem bystands_of_beside {τ : Type} [DecidableEq τ] {t u : τ} {c : Call δ} (hu : u ≠ t)
    (h : besideCalls uri t u c) : Bystands uri c := by
  rwa [besideCalls, if_neg hu] at h

/-- Alone, the job gets the answers it got. -/
theorem answer_of_sees {c : Call δ} {es : List (Event δ)} {w' w : World δ} (hc : OwnCall uri c)
    (hw : Sees uri (⟨c, (World.env c w).1⟩ :: es) w' w) :
    (World.env c w').1 = (World.env c w).1 := by
  have hscript := hw.script
  cases c with
  | deviceGetID device | deviceRead device =>
    obtain rfl : device.uri = uri := hc
    simp only [World.answer]
    rw [hscript]
    rfl
  | deviceWrite device data =>
    obtain rfl : device.uri = uri := hc
    simp only [World.answer]
    rw [hscript]
    exact result_outcomeOf data _
  | jobGetImpressions job =>
    obtain rfl : job.printer = uri := hc
    exact hw.impressions job.id
  | jobGetData job =>
    obtain rfl : job.printer = uri := hc
    exact hw.jobData job.id
  | printerOpenDevice | loadPolling => exact hc.elim
  | _ => rfl

/-- And afterwards it is still like that. -/
theorem follow_of_sees {c : Call δ} {es : List (Event δ)} {w' w : World δ} (hc : OwnCall uri c)
    (hw : Sees uri (⟨c, (World.env c w).1⟩ :: es) w' w) :
    Sees uri es (World.env c w').2 (World.env c w).2 := by
  obtain ⟨hscript, hdata, himp⟩ := hw
  cases c with
  | deviceGetID device | deviceRead device | deviceWrite device data =>
    obtain rfl : device.uri = uri := hc
    refine ⟨?_, hdata, himp⟩
    simp only [World.answer, World.withScript, Function.update_self]
    rw [hscript]
    rfl
  | jobSetData job data =>
    refine ⟨hscript, fun id => ?_, himp⟩
    simp only [World.answer, Function.update_apply]
    split
    · rfl
    · exact hdata id
  | printerOpenDevice | loadPolling => exact hc.elim
  | _ => exact ⟨hscript, hdata, himp⟩

theorem mimics_sees {τ : Type} [DecidableEq τ] (uri : String) (t : τ) :
    Pool.Mimics (World.env (δ := δ)) (besideCalls uri t) t (Sees uri) where
  answer _ _ _ _ hc := answer_of_sees (ownCall_of_beside hc)
  follow _ _ _ _ hc := follow_of_sees (ownCall_of_beside hc)
  ignore u c es w' w hu hc hw := by
    obtain ⟨hscript, hdata, himp⟩ := hw
    have hbystands : Bystands uri c := bystands_of_beside hu hc
    by_cases hu : c.printer = uri
    · have hdata' := jobData_final (asks_call (hbystands.keepsJobData hu)) w
      have himp' := impressions_final (call c : Code δ _) w
      exact ⟨hscript, fun id => (hdata id).trans (congrFun hdata' _).symm,
        fun id => (himp id).trans (congrFun himp' _).symm⟩
    · have hview := World.view_answer_of_ne c w uri (Ne.symm hu)
      have hdata' := congrArg PrinterView.jobData hview
      have himp' := congrArg PrinterView.impressions hview
      exact ⟨hscript, fun id => (hdata id).trans (congrFun hdata' id).symm,
        fun id => (himp id).trans (congrFun himp' id).symm⟩

end Seen

/-! ## Which calls the callbacks make -/

section Calls

variable {d : Driver} {uri : String}

theorem asks_code_own {c : Callback} (hc : c ≠ .getStatus) (job device : Nat) :
    (d.callbacks.code uri job device c).Asks (OwnCall uri) := by
  have hcalls : JobCalls (OwnCall uri : Call d.JobData → Prop) ⟨uri, job⟩ ⟨uri, device⟩ :=
    ⟨⟨⟨fun _ _ => rfl, rfl, rfl, rfl, rfl⟩, rfl, fun _ => rfl, fun _ => rfl⟩, rfl, rfl⟩
  cases c with
  | startJob options => exact Driver.asks_startJob options hcalls
  | startPage options pageNumber =>
    exact Driver.asks_startPage options hcalls.toPageCalls pageNumber
  | writeLine options y pixels =>
    exact Driver.asks_writeLine options hcalls.data ⟨hcalls.write, hcalls.flush, hcalls.read⟩
      ⟨fun _ => rfl, fun _ => rfl⟩ y pixels
  | endPage options pageNumber => exact Driver.asks_endPage options hcalls.toPageCalls pageNumber
  | endJob options => exact Driver.asks_endJob options hcalls.toEndCalls
  | getStatus => exact absurd rfl hc

/-- What a status call does with the connection it opens. -/
theorem asks_request {δ α : Type} {P : Call δ → Prop} {device : Handle} {f : Bool → Code δ α}
    (hwrite : P (.deviceWrite device Commands.statusInformationRequest))
    (hflush : P (.deviceFlush device)) (hclose : P (.deviceClose device)) (hok : (f true).Asks P)
    (hfailed : (f false).Asks P) :
    (writeToDevice Commands.statusInformationRequest (some device) >>= f).Asks P := by
  refine asks_bind (asks_writeToDevice hwrite hflush hclose) (fun ok => ?_)
  cases ok with
  | true => exact hok
  | false => exact hfailed

theorem Td2000.asks_getStatus_bystands :
    (Td2000.getStatus uri).Asks (Bystands uri) := by
  have hstores : StatusStores (Bystands uri : Call Td2000.JobData → Prop) uri :=
    ⟨fun _ _ => trivial, fun _ _ => trivial⟩
  have hread : ∀ serial, Bystands uri (.deviceRead ⟨uri, serial⟩ : Call Td2000.JobData) :=
    fun _ _ => trivial
  have hclose : ∀ a : Bool, (papplPrinterCloseDevice uri >>= fun _ => pure a :
      Code Td2000.JobData Bool).Asks (Bystands uri) :=
    fun a => asks_bind (asks_call fun _ => trivial) (fun _ => asks_ret a)
  refine asks_bind (asks_call fun _ => trivial) (fun polling => ?_)
  cases polling with
  | true =>
    exact asks_pushedStatus Td2000.errorReasons (fun _ => trivial) hread (fun _ => trivial) hstores
  | false =>
    refine asks_openDevice (fun _ => trivial) (asks_ret _) (fun serial => ?_)
    refine asks_request (fun _ => rfl) (fun _ => trivial) (fun _ => trivial) ?_ (hclose false)
    refine asks_bind (asks_poll ?_ _) (fun status => ?_)
    · refine asks_bind (asks_readStatusPacket (hread serial)) (fun packet => ?_)
      cases packet with
      | some packet => exact asks_ret _
      | none =>
        refine asks_bind (asks_call (hread serial)) (fun probe => ?_)
        split <;> exact asks_ret _
    · rcases status with _ | _ | received
      · exact hclose false
      · refine asks_bind (asks_call fun _ => trivial) (fun _ => ?_)
        exact asks_bind (asks_call (hstores.reasons _)) (fun _ => asks_ret _)
      · refine asks_bind (asks_call fun _ => trivial) (fun _ => ?_)
        exact asks_bind (asks_applyPrinterStatus Td2000.errorReasons hstores received)
          (fun _ => asks_ret _)

theorem Pte550w.asks_getStatus_bystands :
    (Pte550w.getStatus uri).Asks (Bystands uri) := by
  have hstores : StatusStores (Bystands uri : Call Pte550w.JobData → Prop) uri :=
    ⟨fun _ _ => trivial, fun _ _ => trivial⟩
  have hread : ∀ serial, Bystands uri (.deviceRead ⟨uri, serial⟩ : Call Pte550w.JobData) :=
    fun _ _ => trivial
  have hclose : (papplPrinterCloseDevice uri >>= fun _ => pure false :
      Code Pte550w.JobData Bool).Asks (Bystands uri) :=
    asks_bind (asks_call fun _ => trivial) (fun _ => asks_ret _)
  refine asks_bind (asks_call fun _ => trivial) (fun polling => ?_)
  cases polling with
  | true =>
    exact asks_pushedStatus Pte550w.errorReasons (fun _ => trivial) hread (fun _ => trivial) hstores
  | false =>
    refine asks_bind ?_ (fun did => ?_)
    · refine asks_openDevice (fun _ => trivial) (asks_ret _) (fun serial => ?_)
      refine asks_bind (asks_call fun _ => trivial) (fun did => ?_)
      exact asks_bind (asks_call fun _ => trivial) (fun _ => asks_ret _)
    · split
      · refine asks_openDevice (fun _ => trivial) (asks_ret _) (fun serial => ?_)
        refine asks_request (fun _ => rfl) (fun _ => trivial) (fun _ => trivial) ?_ hclose
        refine asks_bind (asks_poll (asks_readStatusPacket (hread serial)) _) (fun packet => ?_)
        cases packet with
        | none => exact hclose
        | some received =>
          refine asks_bind (asks_call fun _ => trivial) (fun _ => ?_)
          exact asks_bind (asks_applyPrinterStatus Pte550w.errorReasons hstores received)
            (fun _ => asks_ret _)
      · exact asks_ret _

/-- A callback for another printer, or a status call. -/
theorem asks_code_bystands {u : String} {c : Callback} (hstatus : u = uri → c = .getStatus)
    (job device : Nat) : (d.callbacks.code u job device c).Asks (Bystands uri) := by
  by_cases hu : u = uri
  · subst hu
    rw [hstatus rfl]
    cases d with
    | td2000 => exact Td2000.asks_getStatus_bystands
    | pte550w => exact Pte550w.asks_getStatus_bystands
  · have hother : ∀ c : Call d.JobData, c.printer = u → Bystands uri c :=
      fun c hc huri => absurd (hc.symm.trans huri) hu
    have hcalls : JobCalls (Bystands uri : Call d.JobData → Prop) ⟨u, job⟩ ⟨u, device⟩ :=
      ⟨⟨⟨fun _ _ => hother _ rfl, hother _ rfl, hother _ rfl, hother _ rfl, hother _ rfl⟩,
        hother _ rfl, fun _ => hother _ rfl, fun _ => hother _ rfl⟩, hother _ rfl, hother _ rfl⟩
    have hstatuses : StatusCalls (Bystands uri : Call d.JobData → Prop) u :=
      ⟨⟨fun _ => hother _ rfl, fun _ => hother _ rfl⟩, fun _ => ⟨⟨fun _ _ => hother _ rfl,
        hother _ rfl, hother _ rfl⟩, hother _ rfl, hother _ rfl⟩, fun _ => hother _ rfl,
        hother _ rfl, hother _ rfl, hother _ rfl⟩
    exact Driver.asks_code hcalls hstatuses c

end Calls

/-! ## On a device that takes every write -/

section Agreeable

variable {δ : Type} {uri name : String}

/-- The device takes every write, and a name that it gives is `name`. -/
structure Agreeable (name : String) (s : DeviceScript) : Prop where
  completes : s.Completes
  named : ∀ did ∈ s.ids, did = none ∨ did = some ⟨some name⟩

/-- The answer of such a device. -/
def Agrees (uri name : String) : Event δ → Prop
  | ⟨.deviceWrite device data, result⟩ => device.uri = uri → result = (data.length : Int)
  | ⟨.deviceGetID device, did⟩ => device.uri = uri → did = none ∨ did = some ⟨some name⟩
  | _ => True

theorem Agreeable.headD {s : DeviceScript} (h : Agreeable name s) :
    s.ids.headD none = none ∨ s.ids.headD none = some ⟨some name⟩ := by
  cases hids : s.ids with
  | nil => exact .inl rfl
  | cons did ids => exact h.named did (hids ▸ List.mem_cons_self)

theorem agreeable_answer (c : Call δ) (w : World δ) (h : Agreeable name (w.script uri)) :
    Agrees uri name ⟨c, (World.env c w).1⟩ ∧ Agreeable name ((World.env c w).2.script uri) := by
  have hcompletes := (leaves_answer c w uri).completes h.completes
  by_cases hu : uri = c.printer
  · subst hu
    cases c with
    | deviceGetID device =>
      refine ⟨fun _ => h.headD, hcompletes, ?_⟩
      simp only [World.answer, World.withScript, Call.printer, Function.update_self]
      exact fun did hdid => h.named did (List.mem_of_mem_tail hdid)
    | deviceWrite device data =>
      refine ⟨fun _ => ?_, hcompletes, ?_⟩
      · have hcomplete : (w.script device.uri).writes.headD .complete = .complete :=
          h.completes.headD
        simp only [World.answer, hcomplete, WriteOutcome.result]
      · simp only [World.answer, World.withScript, Call.printer, Function.update_self]
        exact h.named
    | deviceRead device =>
      refine ⟨trivial, hcompletes, ?_⟩
      simp only [World.answer, World.withScript, Call.printer, Function.update_self]
      exact h.named
    | printerOpenDevice u =>
      refine ⟨trivial, hcompletes, ?_⟩
      simp only [World.answer, Call.printer]
      split <;> simp only [World.withScript, Function.update_self] <;> exact h.named
    | _ => exact ⟨trivial, hcompletes, h.named⟩
  · have hscript : (World.env c w).2.script uri = w.script uri :=
      congrArg PrinterView.script (World.view_answer_of_ne c w uri hu)
    refine ⟨?_, hscript ▸ h⟩
    cases c with
    | deviceGetID | deviceWrite => exact fun huri => absurd huri.symm hu
    | _ => trivial

/-- Who got such answers saw such a device. -/
theorem agreeable_seen {es : List (Event δ)} (hes : ∀ e ∈ es, Agrees uri name e)
    (hown : ∀ e ∈ es, OwnCall uri e.1) : Agreeable name (seen es) := by
  induction es with
  | nil =>
    refine ⟨fun o ho => ?_, fun did hdid => ?_⟩
    · exact absurd ho List.not_mem_nil
    · exact absurd hdid List.not_mem_nil
  | cons e es ih =>
    obtain ⟨hcompletes, hnamed⟩ := ih (fun e he => hes e (List.mem_cons_of_mem _ he))
      fun e he => hown e (List.mem_cons_of_mem _ he)
    have he := hes e List.mem_cons_self
    have hcall := hown e List.mem_cons_self
    obtain ⟨c, r⟩ := e
    cases c with
    | deviceGetID device =>
      refine ⟨hcompletes, fun did hdid => ?_⟩
      rcases List.mem_cons.mp hdid with rfl | hdid
      · exact he hcall
      · exact hnamed did hdid
    | deviceWrite device data =>
      refine ⟨fun o ho => ?_, hnamed⟩
      rcases List.mem_cons.mp ho with rfl | ho
      · exact if_pos (he hcall)
      · exact hcompletes o ho
    | _ => exact ⟨hcompletes, hnamed⟩

/-- Such a device accepts the commands written to it. -/
theorem accepted_of_agrees {es : List (Event δ)}
    (hes : ∀ e ∈ es, Agrees uri name e ∧ e.1.printer = uri) :
    accepted es = (written es).flatten := by
  induction es with
  | nil => rfl
  | cons e es ih =>
    obtain ⟨he, hcall⟩ := hes e List.mem_cons_self
    have hrest := ih fun e he => hes e (List.mem_cons_of_mem _ he)
    obtain ⟨c, r⟩ := e
    cases c with
    | deviceWrite device data =>
      obtain rfl : r = (data.length : Int) := he hcall
      rw [accepted_cons, accepted_deviceWrite, hrest]
      rfl
    | _ => exact hrest

end Agreeable

/-! ## The stream -/

/-- A command that is no status request. -/
def isWork (c : Command) : Bool := c.opcode ≠ .statusInformationRequest

theorem encodeAll_of_blocks {blocks : List (List UInt8)}
    (h : ∀ block ∈ blocks, ∃ cs, commandSet.encodeAll cs = block) :
    ∃ cs, commandSet.encodeAll cs = blocks.flatten := by
  induction blocks with
  | nil => exact ⟨[], rfl⟩
  | cons block blocks ih =>
    obtain ⟨cs, hcs⟩ := h block List.mem_cons_self
    obtain ⟨ds, hds⟩ := ih fun b hb => h b (List.mem_cons_of_mem _ hb)
    exact ⟨cs ++ ds, by rw [CommandSet.encodeAll_append, hcs, hds, List.flatten_cons]⟩

/-- Where one thread writes whole commands and the others status requests, the stream is
that of the thread with requests between its commands. -/
theorem written_merges {δ τ : Type} [DecidableEq τ] {t : τ} (trace : List (τ × Event δ))
    (hown : ∀ block ∈ written (Pool.eventsOf t trace), ∃ cs, commandSet.encodeAll cs = block)
    (hother : ∀ e ∈ trace, e.1 ≠ t →
      ∀ block ∈ written [e.2], block = Commands.statusInformationRequest) :
    ∃ cs js, commandSet.encodeAll cs = (written (trace.map Prod.snd)).flatten ∧
      commandSet.encodeAll js = (written (Pool.eventsOf t trace)).flatten ∧
      cs.filter isWork = js.filter isWork := by
  induction trace with
  | nil => exact ⟨[], [], rfl, rfl, rfl⟩
  | cons e trace ih =>
    have hsplit : Pool.eventsOf t (e :: trace) =
        Pool.eventsOf t [e] ++ Pool.eventsOf t trace := Pool.eventsOf_append [e] trace
    rw [hsplit, written_append] at hown
    obtain ⟨cs, js, hcs, hjs, hfilter⟩ :=
      ih (fun block hblock => hown block (List.mem_append_right _ hblock))
        fun e he => hother e (List.mem_cons_of_mem _ he)
    rw [hsplit, written_append, List.flatten_append, ← hjs, List.map_cons, ← List.singleton_append,
      written_append, List.flatten_append, ← hcs]
    by_cases he : e.1 = t
    · have hsame : Pool.eventsOf t [e] = [e.2] :=
        congrArg (List.map Prod.snd) (List.filter_cons_of_pos (decide_eq_true he))
      rw [hsame] at hown ⊢
      obtain ⟨block, hblock⟩ := encodeAll_of_blocks fun block hblock =>
        hown block (List.mem_append_left _ hblock)
      refine ⟨block ++ cs, block ++ js, ?_, ?_, ?_⟩
      · rw [CommandSet.encodeAll_append, hblock]
      · rw [CommandSet.encodeAll_append, hblock]
      · rw [List.filter_append, List.filter_append, hfilter]
    · have hnone : Pool.eventsOf t [e] = [] :=
        congrArg (List.map Prod.snd) (List.filter_cons_of_neg fun heq => he (of_decide_eq_true heq))
      have hrequest : ∃ rs : List Command, commandSet.encodeAll rs = (written [e.2]).flatten ∧
          rs.filter isWork = [] := by
        have hblocks := hother e List.mem_cons_self he
        obtain ⟨_, c, r⟩ := e
        cases c with
        | deviceWrite device data =>
          obtain rfl : data = Commands.statusInformationRequest := hblocks data List.mem_cons_self
          exact ⟨[⟨.statusInformationRequest, [], rfl⟩], rfl, rfl⟩
        | _ => exact ⟨[], rfl, rfl⟩
      obtain ⟨rs, hrs, hrs'⟩ := hrequest
      rw [hnone]
      refine ⟨rs ++ cs, js, ?_, ?_, ?_⟩
      · rw [CommandSet.encodeAll_append, hrs]
      · rfl
      · rw [List.filter_append, hrs', hfilter, List.nil_append]

/-! ## Every schedule -/

section Schedule

variable {δ σ α : Type} [DecidableEq σ] {uri name : String} {t : σ}
  {pool : Pool σ (Call δ) Call.Reply α (World δ)}

/-- Thread `t` of a pool works on the printer at `uri`, and the others stand by. -/
structure Beside (uri : String) (t : σ) (pool : Pool σ (Call δ) Call.Reply α (World δ)) : Prop where
  own : (pool.prog t).Asks (OwnCall uri)
  others : ∀ u, u ≠ t → (pool.prog u).Asks (Bystands uri)

namespace Beside

theorem asks (h : Beside uri t pool) (u : σ) : (pool.prog u).Asks (besideCalls uri t u) := by
  rw [besideCalls]
  split
  case isTrue hu =>
    subst hu
    exact h.own
  case isFalse hu => exact h.others u hu

/-- What the thread does in a schedule, and then would do next, it does alone on a
device that answers as the thread was answered. -/
theorem alone (h : Beside uri t pool) (schedule : List σ) :
    let own := Pool.eventsOf t (pool.trace World.env schedule)
    let next := (pool.run World.env schedule).prog t
    ∃ w', (pool.prog t).events World.env (pool.state.withScript uri (seen own)) =
        own ++ next.events World.env w' ∧
      (pool.prog t).run World.env (pool.state.withScript uri (seen own)) =
        next.run World.env w' := by
  intro own next
  have hsees : Sees uri own (pool.state.withScript uri (seen own)) pool.state :=
    ⟨Function.update_self _ _ _, fun _ => rfl, fun _ => rfl⟩
  exact Pool.replay (mimics_sees uri t) schedule h.asks hsees

theorem own_call (h : Beside uri t pool) (schedule : List σ) :
    ∀ e ∈ Pool.eventsOf t (pool.trace World.env schedule), OwnCall uri e.1 := fun _ he =>
  ownCall_of_beside (Pool.trace_of_asks schedule h.asks _ (Pool.mem_of_mem_eventsOf he))

/-- The device that the thread sees takes every write if the device does. -/
theorem agreeable (h : Beside uri t pool) (hs : Agreeable name (pool.state.script uri))
    (schedule : List σ) :
    Agreeable name (seen (Pool.eventsOf t (pool.trace World.env schedule))) := by
  refine agreeable_seen (fun e he => ?_) (h.own_call schedule)
  exact Pool.trace_of_invariant (I := fun w : World δ => Agreeable name (w.script uri))
    agreeable_answer schedule hs _ (Pool.mem_of_mem_eventsOf he)

/-- The stream is the thread's, with status requests between its commands. -/
theorem stream_eq (h : Beside uri t pool) (hs : Agreeable name (pool.state.script uri))
    {schedule : List σ} (hown : ∀ block ∈
      written (Pool.eventsOf t (pool.trace World.env schedule)),
        ∃ cs, commandSet.encodeAll cs = block) :
    ∃ cs js, stream uri (pool.trace World.env schedule) = commandSet.encodeAll cs ∧
      commandSet.encodeAll js =
        (written (Pool.eventsOf t (pool.trace World.env schedule))).flatten ∧
      cs.filter isWork = js.filter isWork := by
  have hcalls : ∀ e ∈ pool.trace World.env schedule, besideCalls uri t e.1 e.2.1 :=
    Pool.trace_of_asks schedule h.asks
  have hagrees : ∀ e ∈ pool.trace World.env schedule, Agrees uri name e.2 :=
    Pool.trace_of_invariant (I := fun w : World δ => Agreeable name (w.script uri))
      agreeable_answer schedule hs
  let here := (pool.trace World.env schedule).filter fun e => e.2.1.printer = uri
  have hmem : ∀ e ∈ here, e ∈ pool.trace World.env schedule ∧ e.2.1.printer = uri := by
    intro e he
    obtain ⟨he, hu⟩ := List.mem_filter.mp he
    exact ⟨he, of_decide_eq_true hu⟩
  have hsame : Pool.eventsOf t here = Pool.eventsOf t (pool.trace World.env schedule) := by
    refine Pool.eventsOf_filter fun e he ht => decide_eq_true ?_
    have hcall := hcalls e he
    rw [ht] at hcall
    exact printer_of_ownCall (ownCall_of_beside hcall)
  -- The others add whole requests.
  obtain ⟨cs, js, hcs, hjs, hfilter⟩ := written_merges (t := t) here (hsame ▸ hown)
    (fun e he hne block hblock => by
      obtain ⟨he, hu⟩ := hmem e he
      have hcall := bystands_of_beside hne (hcalls e he)
      obtain ⟨u, c, r⟩ := e
      cases c with
      | deviceWrite device data =>
        obtain rfl := List.mem_singleton.mp hblock
        exact hcall hu
      | _ => exact absurd hblock List.not_mem_nil)
  refine ⟨cs, js, ?_, hsame ▸ hjs, hfilter⟩
  have hall : ∀ e ∈ here.map Prod.snd, Agrees uri name e ∧ e.1.printer = uri := by
    intro e he
    obtain ⟨e', he', rfl⟩ := List.mem_map.mp he
    exact ⟨hagrees e' (hmem e' he').1, (hmem e' he').2⟩
  rw [hcs, ← accepted_of_agrees hall, stream, List.filter_map]
  rfl

end Beside

end Schedule

end Drivers
end BrThermal
