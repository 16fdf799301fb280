/-
Jobs that go through.

That every callback ends says nothing of how.  On a device that takes every write and
reports neither an error nor a hold, a job alone returns true from each of its callbacks:
the packets it reads only go on record.  Status calls may take some of these packets from
it and send requests between its commands, and none of that can make it fail.
-/
import BrThermal.Drivers.Progress

namespace BrThermal
namespace Pappl

/-- No packet of the device is an error or a hold. -/
def DeviceScript.Calm (s : DeviceScript) : Prop :=
  ∀ reply ∈ s.reads, ∀ packet, reply.packet = some packet →
    packet.statusType ≠ .errorOccurred ∧ ¬packet.holds

theorem DeviceScript.Leaves.calm {s s' : DeviceScript} (h : s.Leaves s') (hs : s.Calm) :
    s'.Calm :=
  fun reply hreply => hs reply (h.reads.mem hreply)

theorem DeviceScript.Calm.headD {s : DeviceScript} (hs : s.Calm) {packet : Drivers.PrinterInfo}
    (hpacket : (s.reads.headD .empty).packet = some packet) :
    packet.statusType ≠ .errorOccurred ∧ ¬packet.holds := by
  cases hr : s.reads with
  | nil =>
    rw [hr] at hpacket
    exact nomatch hpacket
  | cons reply reads =>
    rw [hr] at hpacket
    exact hs reply (hr ▸ List.mem_cons_self) packet hpacket

end Pappl

namespace Drivers

open Effect Effect.Prog Pappl

/-! ## The job alone -/

/-- The device takes every write and reports nothing wrong. -/
structure Easy (s : DeviceScript) : Prop where
  completes : s.Completes
  calm : s.Calm

theorem Easy.leaves {s s' : DeviceScript} (hs : Easy s) (h : s.Leaves s') : Easy s' :=
  ⟨h.completes hs.completes, h.calm hs.calm⟩

section Alone

variable {d : Driver} {device : Handle} {job : Job} {model : d.Model} {w : World d.JobData}
  (options : PrOptions)

theorem easy_final {δ α : Type} (p : Code δ α) {w : World δ} {uri : String}
    (hs : Easy (w.script uri)) : Easy ((p.final w).script uri) :=
  hs.leaves (leaves_final p w uri)

theorem checkStatus_easy (model : d.Model) (hs : Easy (w.script device.uri)) :
    (d.checkStatus model device).value w = true := by
  cases d with
  | td2000 => rfl
  | pte550w =>
    show (Pte550w.checkStatus model device).value w = true
    rw [Pte550w.checkStatus]
    split
    · have hs' := easy_final (writeToDevice Commands.statusInformationRequest (some device)) hs
      rw [Code.value_bind, value_writeToDevice (takesFirst_of_completes hs.completes _),
        if_pos rfl, Code.value_bind]
      cases hpacket : (readStatusPacket device).value
          ((writeToDevice Commands.statusInformationRequest (some device)).final w) with
      | none => rfl
      | some packet => exact decide_eq_true (hs'.calm.headD hpacket).1
    · rfl

theorem startJob_easy {name : String} (hs : Easy (w.script device.uri))
    (hid : (w.script device.uri).ids.headD none = some ⟨some name⟩)
    (hmodel : d.modelMap.lookup name = some model) :
    (d.callbacks.startJob (some job) (some options) (some device)).value w = true := by
  have hanswer : (papplDeviceGetID device).value w = some ⟨some name⟩ := hid
  have hs₁ := easy_final (papplDeviceGetID device) hs
  have hs₂ := easy_final (writeCommands d.openingCommands device) hs₁
  rw [Driver.startJob_eq, Code.value_bind, hanswer]
  simp only [Option.getD_some, hmodel]
  have hok : (writeCommands d.openingCommands device).value
      ((papplDeviceGetID device).final w) = true := (writeCommands_sent hs₁.completes).1
  rw [Driver.start, Code.value_bind, hok, if_pos rfl, Code.value_bind, checkStatus_easy model hs₂,
    if_pos rfl]
  rfl

theorem startPage_easy (hs : Easy (w.script device.uri))
    (hdata : w.jobData job = some (d.jobData model)) (pageNumber : UInt32)
    (hmedia : d.AcceptsMedia model options.media) :
    (d.callbacks.startPage (some job) (some options) (some device) pageNumber).value w = true := by
  have hsent := startPage_sent device job options hs.completes hdata pageNumber
  obtain ⟨commands, hcommands⟩ := pageCommands_of_acceptsMedia hmedia pageNumber
  rw [hcommands] at hsent
  exact hsent.2

theorem lineWritten_easy (errorReasons : PrinterInfo → Reasons) {δ : Type} {w : World δ}
    (uri : String) (hs : Easy (w.script device.uri)) :
    (lineWritten errorReasons device uri).value w = true := by
  rw [lineWritten, Code.value_bind, Code.value_bind]
  cases hpacket : (readStatusPacket device).value ((papplDeviceFlush device).final w) with
  | none => rfl
  | some packet =>
    obtain ⟨herror, hholds⟩ := hs.calm.headD hpacket
    dsimp only
    rw [Code.value_bind, if_neg herror, if_neg hholds]
    rfl

theorem writeLine_easy (hs : Easy (w.script device.uri))
    (hdata : w.jobData job = some (d.jobData model)) (y : UInt32) (pixels : List UInt8) :
    (d.callbacks.writeLine (some job) (some options) (some device) y (some pixels)).value w =
      true := by
  have hanswer : (papplJobGetData job).value w = some (d.jobData model) := hdata
  let command := d.rasterCommand (d.jobData model) options.header pixels
  have hwhole : (papplDeviceWrite device command).value w = (command.length : Int) :=
    takesFirst_of_completes hs.completes command
  rw [Driver.writeLine_eq, Code.value_bind, hanswer]
  show Code.value (papplDeviceWrite device command >>= _) w = true
  rw [Code.value_bind, hwhole, if_pos rfl]
  exact lineWritten_easy d.errorReasons _ (easy_final (papplDeviceWrite device command) hs)

theorem endPage_easy (hs : Easy (w.script device.uri)) (pageNumber : UInt32) :
    (d.callbacks.endPage (some job) (some options) (some device) pageNumber).value w = true := by
  have hs' := easy_final (papplJobGetImpressions job) hs
  rw [Driver.endPage_eq, endPage, Code.value_bind]
  dsimp only
  split
  · rw [Code.value_bind, value_writeToDevice (takesFirst_of_completes hs'.completes _)]
    rfl
  · rfl

/-! ## A whole job alone -/

variable {uri : String}

/-- The callbacks a job may make once it has started. -/
def Printable (d : Driver) (model : d.Model) : Callback → Prop
  | .startPage options _ => d.AcceptsMedia model options.media
  | .writeLine _ _ _ | .endPage _ _ => True
  | _ => False

theorem code_easy {job device : Nat} {c : Callback} (hc : Printable d model c)
    (hs : Easy (w.script uri)) (hdata : w.jobData ⟨uri, job⟩ = some (d.jobData model)) :
    (d.callbacks.code uri job device c).value w = true := by
  cases c with
  | startPage options pageNumber =>
    show (d.callbacks.startPage _ _ (some ⟨uri, device⟩) _).value w = true
    exact startPage_easy options hs hdata pageNumber hc
  | writeLine options y pixels =>
    show (d.callbacks.writeLine _ _ (some ⟨uri, device⟩) _ _).value w = true
    exact writeLine_easy options hs hdata y pixels
  | endPage options pageNumber =>
    show (d.callbacks.endPage _ _ (some ⟨uri, device⟩) _).value w = true
    exact endPage_easy options hs pageNumber
  | startJob | endJob | getStatus => exact hc.elim

theorem printable_of_mem {pages : List JobPage} {k : Nat}
    (hmedia : ∀ page ∈ pages, d.AcceptsMedia model page.options.media) :
    ∀ c ∈ pageCallbacks k pages, Printable d model c := by
  intro c hc
  obtain ⟨⟨page, i⟩, hpage, hc⟩ := List.mem_flatMap.mp hc
  simp only [JobPage.callbacks, List.mem_cons, List.mem_append, List.not_mem_nil, or_false] at hc
  rcases hc with rfl | hc | rfl
  · exact hmedia page (List.fst_mem_of_mem_zipIdx hpage)
  · obtain ⟨⟨row, y⟩, -, rfl⟩ := List.mem_map.mp hc
    trivial
  · trivial

theorem attemptCode_easy {job device : Nat} {cs : List Callback}
    (hcs : ∀ c ∈ cs, Printable d model c) (hs : Easy (w.script uri))
    (hdata : w.jobData ⟨uri, job⟩ = some (d.jobData model)) :
    (attemptCode d.callbacks uri job device (cs ++ [.endJob options])).value w = true := by
  induction cs generalizing w with
  | nil =>
    have hend : (d.callbacks.code uri job device (.endJob options)).value w = true :=
      Driver.value_endJob ⟨uri, job⟩ options ⟨uri, device⟩ d w
        (takesFirst_of_completes hs.completes _)
    rw [List.nil_append, attemptCode, Code.value_bind, hend, if_pos rfl]
    rfl
  | cons c cs ih =>
    have hc := hcs c List.mem_cons_self
    have hpage : c.OfPage := by
      cases c with
      | startPage | writeLine | endPage => trivial
      | startJob | endJob | getStatus => exact hc.elim
    have hkeeps : ((d.callbacks.code uri job device c).final w).jobData = w.jobData :=
      jobData_final (code_keepsJobData (r := ⟨job, device⟩) hpage) w
    rw [List.cons_append, attemptCode, Code.value_bind, code_easy hc hs hdata, if_pos rfl]
    exact ih (fun c hc => hcs c (List.mem_cons_of_mem _ hc)) (easy_final _ hs)
      ((congrFun hkeeps _).trans hdata)

theorem jobThread_easy {job device : Nat} {name : String} {pages : List JobPage}
    (hs : Easy (w.script uri)) (hid : (w.script uri).ids.headD none = some ⟨some name⟩)
    (hmodel : d.modelMap.lookup name = some model)
    (hmedia : ∀ page ∈ pages, d.AcceptsMedia model page.options.media) :
    (jobThread d uri job device options pages).value w = [true] := by
  have hstart : (d.callbacks.code uri job device (.startJob options)).value w = true := by
    show (d.callbacks.startJob _ _ (some ⟨uri, device⟩)).value w = true
    exact startJob_easy options hs hid hmodel
  have hdata : ((d.callbacks.code uri job device (.startJob options)).final w).jobData ⟨uri, job⟩ =
      some (d.jobData model) :=
    (startJob_sent ⟨uri, device⟩ ⟨uri, job⟩ options hs.completes hid hmodel).2.1 hstart
  have hattempt : (attemptCode d.callbacks uri job device (jobCallbacks options pages)).value w =
      true := by
    rw [jobCallbacks, attemptCode, Code.value_bind, hstart, if_pos rfl]
    exact attemptCode_easy options (printable_of_mem hmedia) (easy_final _ hs) hdata
  rw [jobThread, Code.value_bind, hattempt]
  rfl

end Alone

/-! ## Every schedule -/

section Calms

variable {δ : Type} {uri : String}

/-- The answer of a calm device. -/
def Calms (uri : String) : Event δ → Prop
  | ⟨.deviceRead device, reply⟩ => device.uri = uri → ∀ packet, reply.packet = some packet →
      packet.statusType ≠ .errorOccurred ∧ ¬packet.holds
  | _ => True

theorem calm_answer (c : Call δ) (w : World δ) (h : (w.script uri).Calm) :
    Calms uri ⟨c, (World.env c w).1⟩ ∧ ((World.env c w).2.script uri).Calm := by
  refine ⟨?_, (leaves_answer c w uri).calm h⟩
  cases c with
  | deviceRead device =>
    intro huri packet hpacket
    subst huri
    exact h.headD hpacket
  | _ => trivial

/-- Who got such answers saw such a device. -/
theorem calm_seen {es : List (Event δ)} (hes : ∀ e ∈ es, Calms uri e)
    (hown : ∀ e ∈ es, OwnCall uri e.1) : (seen es).Calm := by
  induction es with
  | nil => exact fun reply hreply => absurd hreply List.not_mem_nil
  | cons e es ih =>
    have hrest := ih (fun e he => hes e (List.mem_cons_of_mem _ he))
      fun e he => hown e (List.mem_cons_of_mem _ he)
    have he := hes e List.mem_cons_self
    have hcall := hown e List.mem_cons_self
    obtain ⟨c, r⟩ := e
    cases c with
    | deviceRead device =>
      intro reply hreply packet hpacket
      rcases List.mem_cons.mp hreply with rfl | hreply
      · exact he hcall packet hpacket
      · exact hrest reply hreply packet hpacket
    | _ => exact hrest

variable {σ α : Type} [DecidableEq σ] {t : σ} {pool : Pool σ (Call δ) Call.Reply α (World δ)}

/-- The device that the thread sees is as easy as the device is. -/
theorem Beside.easy {name : String} (h : Beside uri t pool)
    (hs : Agreeable name (pool.state.script uri)) (hcalm : (pool.state.script uri).Calm)
    (schedule : List σ) : Easy (seen (Pool.eventsOf t (pool.trace World.env schedule))) := by
  refine ⟨(h.agreeable hs schedule).completes, calm_seen (fun e he => ?_) (h.own_call schedule)⟩
  exact Pool.trace_of_invariant (I := fun w : World δ => (w.script uri).Calm) calm_answer
    schedule hcalm _ (Pool.mem_of_mem_eventsOf he)

end Calms

section Schedule

variable {d : Driver} {τ : Type} [DecidableEq τ] {uri name : String} {owner : τ → String}
  {requests : τ → List Request} {model : d.Model} {pages : List JobPage} {w : World d.JobData}

variable (uri pages) in
/-- The first thing a job does is to ask for the device ID. -/
theorem jobThread_asksID (job device : Nat) (options : PrOptions) :
    ∃ k, jobThread d uri job device options pages = .ask (.deviceGetID ⟨uri, device⟩) k := by
  cases d <;> exact ⟨_, rfl⟩

/-- On a device that takes every write and reports neither an error nor a hold, a job whose
model the device names and whose media fit is done after a bounded number of its own
steps, wherever the steps of other threads fall, and each of its callbacks returned
true. -/
theorem overlap_succeeds (job device : Nat) (options : PrOptions)
    (hstatus : ∀ t, owner t = uri → ∀ r ∈ requests t, r.callback = .getStatus)
    (hmodel : d.modelMap.lookup name = some model) (hs : Agreeable name (w.script uri))
    (hcalm : (w.script uri).Calm) (hmedia : ∀ page ∈ pages, d.AcceptsMedia model page.options.media)
    {schedule : List (Option τ)}
    (hid : (Pool.eventsOf none ((overlapPool d uri job device options pages owner requests w).trace
      World.env schedule)).head? = some ⟨.deviceGetID ⟨uri, device⟩, some ⟨some name⟩⟩)
    (hsteps : d.longestJob options pages ≤ schedule.countP (· = none)) :
    ((overlapPool d uri job device options pages owner requests w).run World.env schedule).prog
      none = .ret [true] := by
  let pool := overlapPool d uri job device options pages owner requests w
  let own := Pool.eventsOf none (pool.trace World.env schedule)
  obtain ⟨results, hdone⟩ : ∃ results, (pool.run World.env schedule).prog none = .ret results :=
    jobThread_done job device options pages w hsteps
  obtain ⟨w', hevents, hrun⟩ := jobThread_alone job device options pages hstatus w schedule
  change (pool.run World.env schedule).prog none = .ret [true]
  rw [hdone] at hevents hrun ⊢
  have htrace : (jobThread d uri job device options pages).trace (w.withScript uri (seen own)) =
      own := hevents.trans (List.append_nil own)
  have hvalue : (jobThread d uri job device options pages).value (w.withScript uri (seen own)) =
      results := congrArg Prod.fst hrun
  have hscript : (w.withScript uri (seen own)).script uri = seen own := Function.update_self _ _ _
  have heasy : Easy ((w.withScript uri (seen own)).script uri) := by
    rw [hscript]
    exact (beside_overlapPool job device options pages hstatus w).easy hs hcalm schedule
  have hnamed : ((w.withScript uri (seen own)).script uri).ids.headD none =
      some ⟨some name⟩ := by
    obtain ⟨k, hk⟩ := jobThread_asksID uri pages job device options
    rw [Code.trace, hk, events_ask] at htrace
    change own.head? = _ at hid
    rw [← htrace, List.head?_cons, Option.some.injEq] at hid
    exact eq_of_heq (Sigma.mk.inj hid).2
  rw [← hvalue, jobThread_easy options heasy hnamed hmodel hmedia]

theorem countP_raceSchedule (n : Nat) :
    n ≤ (raceSchedule ++ List.replicate n none).countP (· = none) := by
  rw [List.countP_append, List.countP_replicate, if_pos (decide_eq_true rfl)]
  exact Nat.le_add_left n _

theorem overlap_succeeds_race :
    ((overlapPool .td2000 "usb://TD-2020" 0 0 oneLinePage [oneRow] statusOwner statusRequests
      answeringWorld).run World.env (raceSchedule ++
        List.replicate (Driver.td2000.longestJob oneLinePage [oneRow]) none)).prog none =
        .ret [true] :=
  overlap_succeeds (d := .td2000) 0 0 oneLinePage (fun t _ => statusRequests_getStatus t)
    (show Driver.td2000.modelMap.lookup "TD-2020" = some .td2x2x by decide)
    ⟨fun o ho => absurd ho List.not_mem_nil, fun did hdid => .inr (List.mem_singleton.mp hdid)⟩
    (fun reply hreply => absurd hreply List.not_mem_nil) acceptsMedia_singleton rfl
    (countP_raceSchedule _)

end Schedule

end Drivers
end BrThermal
