/-
No status request during a job.

A printer in push mode reports by itself and must not be asked, so `startJob` sets
`printerStatusPolling` and `getStatus` looks at it before it sends ESC i S.  Looking
and sending are separate steps with the opening of the device between them, and
another thread may run `startJob` there.
-/
import BrThermal.Drivers.Bracket
import BrThermal.Drivers.Isolation
import BrThermal.Drivers.PrintJob
import BrThermal.Effect.Window

namespace BrThermal
namespace Drivers

open Effect Effect.Prog Pappl

variable {δ : Type}

/-- The job of the printer at `uri` as a window: ESC i S must not be written in it,
`startJob` opens it, `endJob` closes it, and a status call that finds the flag clear
goes on to ask. -/
def jobWindow (uri : String) : Watch (Call δ) Call.Reply where
  acts
    | .deviceWrite _ data => data = Commands.statusInformationRequest
    | _ => false
  sets
    | .storePolling u polling => if u = uri then some polling else none
    | _ => none
  passes
    | .loadPolling u, polling => u = uri && !polling
    | _, _ => false

/-- The thread of one job: `startJob`, and if it returns true the callbacks of the
pages and `endJob`. -/
def jobCode (callbacks : Callbacks δ) (uri : String) (job device : Nat) (options : PrOptions)
    (pages : List Callback) : Code δ (List Bool) := do
  if ← callbacks.code uri job device (.startJob options) then
    serve callbacks uri ((pages ++ [Callback.endJob options]).map (Request.mk job device))
  else return []

/-- One job on a printer and any number of status calls to it, each a thread. -/
def jobPool (d : Driver) (uri : String) (job device : Nat) (options : PrOptions)
    (pages : List Callback) (w : World d.JobData) :
    Pool (Option Nat) (Call d.JobData) Call.Reply (List Bool) (World d.JobData) where
  state := w
  prog
    | none => jobCode d.callbacks uri job device options pages
    | some _ => serve d.callbacks uri [⟨0, 0, .getStatus⟩]

theorem guards_jobWindow (uri : String) :
    (jobWindow uri).Guards (World.env (δ := δ)) (fun w => pushMode w uri) where
  check c w hopen := by
    cases c with
    | loadPolling u =>
      show (u = uri && !(w.printerStatusPolling u).getD false) = false
      by_cases hu : u = uri
      · have hset : (w.printerStatusPolling uri).getD false = true := hopen
        rw [hu, hset, Bool.not_true, Bool.and_false]
      · rw [decide_eq_false hu, Bool.false_and]
    | _ => rfl
  keeps c w hsets hopen := by
    have hsame : Unbracketed c → pushMode (World.answer c w).2 uri = true :=
      fun hc => (congrFun (sameBracket_answer c w hc).pushMode uri).trans hopen
    cases c with
    | storePolling u polling =>
      have hu : uri ≠ u := by
        rintro rfl
        exact absurd hsets (by simp [jobWindow])
      simp only [pushMode, World.answer, Function.update_of_ne hu]
      exact hopen
    | jobSetData => exact hopen
    | _ => exact hsame trivial
  opens c w hsets := by
    cases c with
    | storePolling u polling =>
      simp only [jobWindow] at hsets
      split at hsets
      case isTrue hu =>
        cases hsets
        subst hu
        simp only [pushMode, World.answer, Function.update_self, Option.getD_some]
      case isFalse => cases hsets
    | _ => cases hsets

section Threads

variable {uri : String} {job device : Nat}

/-- Calls that are no status request. -/
abbrev NoRequest (uri : String) (c : Call δ) : Prop := (jobWindow uri).acts c = false

theorem noRequest_write {device : Handle} {data : List UInt8}
    (h : data ≠ Commands.statusInformationRequest) :
    NoRequest uri (.deviceWrite device data : Call δ) := decide_eq_false h

variable (uri) in
theorem endCalls_noRequest (job : Job) (device : Handle) :
    EndCalls (NoRequest uri : Call δ → Prop) job device :=
  ⟨⟨fun _ h => noRequest_write h, rfl, rfl, rfl, rfl⟩, rfl, fun _ => rfl, fun _ => rfl⟩

theorem lineCalls_noRequest (device : Handle) :
    LineCalls (NoRequest uri : Call δ → Prop) device := ⟨fun _ h => noRequest_write h, rfl, rfl⟩

theorem statusStores_noRequest (u : String) :
    StatusStores (NoRequest uri : Call δ → Prop) u := ⟨fun _ => rfl, fun _ => rfl⟩

/-- Neither the callbacks of a page nor `endJob` ask for the status. -/
theorem asks_pages_noRequest (d : Driver) {callbacks : List Callback}
    (h : ∀ c ∈ callbacks, c.OfPage ∨ ∃ options, c = .endJob options) :
    (serve d.callbacks uri (callbacks.map (Request.mk job device))).Asks (NoRequest uri) := by
  induction callbacks with
  | nil => exact asks_ret _
  | cons c callbacks ih =>
    refine asks_bind ?_ (fun _ => asks_bind (ih fun c hc => h c (List.mem_cons_of_mem _ hc))
      (fun _ => asks_ret _))
    have hend := endCalls_noRequest (δ := d.JobData) uri ⟨uri, job⟩ ⟨uri, device⟩
    rcases h c List.mem_cons_self with hc | ⟨options, rfl⟩
    · cases c with
      | startPage options pageNumber =>
        exact Driver.asks_startPage options hend.toPageCalls pageNumber
      | writeLine options y pixels =>
        exact Driver.asks_writeLine (P := NoRequest uri) options rfl (lineCalls_noRequest _)
          (statusStores_noRequest _) y pixels
      | endPage options pageNumber => exact Driver.asks_endPage options hend.toPageCalls pageNumber
      | startJob | endJob | getStatus => exact hc.elim
    · exact Driver.asks_endJob options hend

/-- Calls that leave the flag of the printer alone. -/
abbrev KeepsFlag (uri : String) (c : Call δ) : Prop := (jobWindow uri).sets c = none

theorem deviceCalls_keepsFlag (device : Handle) :
    DeviceCalls (KeepsFlag uri : Call δ → Prop) device := ⟨⟨fun _ _ => rfl, rfl, rfl⟩, rfl, rfl⟩

theorem statusCalls_keepsFlag (u : String) : StatusCalls (KeepsFlag uri : Call δ → Prop) u where
  status _ := rfl
  reasons _ := rfl
  device serial := deviceCalls_keepsFlag ⟨u, serial⟩
  id _ := rfl
  openDevice := rfl
  closeDevice := rfl
  loadPolling := rfl

/-- `startJob` sends its last status request, if any, before it sets the flag. -/
theorem actsFirst_startJob (d : Driver) (job : Job) (device : Handle) (options : PrOptions) :
    (jobWindow uri).ActsFirst
      (d.callbacks.startJob (some job) (some options) (some device)) := by
  rw [Driver.startJob_eq]
  refine Watch.actsFirst_bind (asks_call rfl) (fun did => ?_)
  cases did with
  | none => trivial
  | some did =>
    dsimp only
    split
    · trivial
    · refine Watch.actsFirst_bind (asks_writeCommands (fun _ _ => rfl) rfl rfl) (fun ok => ?_)
      cases ok with
      | false => trivial
      | true =>
        refine Watch.actsFirst_bind (Driver.asks_checkStatus (deviceCalls_keepsFlag device) _)
          (fun ok => ?_)
        cases ok with
        | false => trivial
        | true =>
          refine Watch.actsFirst_of_asks (asks_bind (asks_call rfl) (fun _ => ?_))
          exact asks_bind (asks_call rfl) (fun _ => asks_ret _)

theorem actsFirst_jobCode (d : Driver) (options : PrOptions) {pages : List Callback}
    (hpages : ∀ c ∈ pages, c.OfPage) :
    (jobWindow uri).ActsFirst (jobCode d.callbacks uri job device options pages) := by
  refine Watch.actsFirst_seq (actsFirst_startJob d ⟨uri, job⟩ ⟨uri, device⟩ options) (fun ok => ?_)
  cases ok with
  | false => exact asks_ret _
  | true =>
    refine asks_pages_noRequest d fun c hc => ?_
    rw [List.mem_append, List.mem_singleton] at hc
    exact hc.imp (hpages c) fun h => ⟨options, h⟩

theorem asks_status_keepsFlag (d : Driver) (u : String) :
    (serve d.callbacks u [⟨0, 0, .getStatus⟩]).Asks (KeepsFlag uri) :=
  asks_bind (Driver.asks_getStatus (statusCalls_keepsFlag u)) (fun _ => asks_ret _)

/-- A status call that has not looked at the flag yet. -/
theorem cautious_status (d : Driver) :
    (jobWindow uri).Cautious (serve d.callbacks uri [⟨0, 0, .getStatus⟩]) := by
  have hpushed : (pushedStatus d.errorReasons uri : Code d.JobData Bool).Asks (NoRequest uri) :=
    asks_pushedStatus d.errorReasons rfl (fun _ => rfl) rfl (statusStores_noRequest uri)
  have hrest : (jobWindow uri).Cautious
      ((pushedStatus d.errorReasons uri : Code d.JobData Bool) >>= fun result =>
        serve d.callbacks uri [] >>= fun results => pure (result :: results)) :=
    Watch.cautious_of_asks (asks_bind hpushed fun _ => asks_ret _)
  have hpasses : (jobWindow uri).passes (.loadPolling uri : Call d.JobData) false = true := by
    simp [jobWindow]
  cases d with
  | td2000 =>
    refine ⟨rfl, fun polling => ?_⟩
    cases polling with
    | false => exact .inl hpasses
    | true => exact .inr hrest
  | pte550w =>
    refine ⟨rfl, fun polling => ?_⟩
    cases polling with
    | false => exact .inl hpasses
    | true => exact .inr hrest

end Threads

/-- After `startJob` has set the flag of the printer and until `endJob` clears it, no
ESC i S is written. -/
def NoRequestInJob {τ : Type} (uri : String) (trace : List (τ × Event δ)) : Prop :=
  (jobWindow uri).Clear false (trace.map Prod.snd)

/-- No schedule of a job and of any number of status calls has a status request in
the job, if no status call is between its look at the flag and its ESC i S when
`startJob` sets it. -/
theorem schedule_noRequestInJob (d : Driver) (uri : String) (job device : Nat)
    (options : PrOptions) {pages : List Callback} (hpages : ∀ c ∈ pages, c.OfPage)
    (w : World d.JobData) (schedule : List (Option Nat))
    (hsafe : (jobWindow uri).SetsSafely World.env none schedule
      (jobPool d uri job device options pages w)) :
    NoRequestInJob uri
      ((jobPool d uri job device options pages w).trace World.env schedule) := by
  refine Watch.trace_clear (guards_jobWindow uri) schedule ⟨?_, fun t ht => ?_, ?_, ?_, ?_⟩ hsafe
  · exact actsFirst_jobCode d options hpages
  · cases t with
    | none => exact absurd rfl ht
    | some n => exact asks_status_keepsFlag d uri
  · exact fun h => absurd h Bool.false_ne_true
  · exact fun h => absurd h Bool.false_ne_true
  · exact fun h => absurd h Bool.false_ne_true

/-- A TD-2020 that answers at once. -/
def answeringWorld : World Td2000.JobData :=
  { (World.fresh fun _ => 1 : World Td2000.JobData) with
    script := fun _ => { ids := [some ⟨some "TD-2020"⟩] } }

/-- A status call made after `startJob` has set the flag. -/
theorem schedule_noRequestInJob_after :
    NoRequestInJob "usb://TD-2020"
      ((jobPool .td2000 "usb://TD-2020" 0 0 oneLinePage [] answeringWorld).trace World.env
        (List.replicate 8 none ++ [some 0, some 0, some 0])) := by
  refine schedule_noRequestInJob .td2000 "usb://TD-2020" 0 0 oneLinePage
    (fun _ h => absurd h List.not_mem_nil) answeringWorld _ ?_
  refine Watch.setsSafely_ownerFirst (fun u hu => ?_) 8 (by decide)
  cases u with
  | none => exact absurd rfl hu
  | some n => exact cautious_status .td2000

/-- A status call looks at the flag, `startJob` runs up to and including the setting
of the flag, and the status call goes on to ask. -/
theorem not_noRequestInJob_race :
    ¬∀ (d : Driver) (uri : String) (job device : Nat) (options : PrOptions)
      (pages : List Callback), (∀ c ∈ pages, c.OfPage) →
      ∀ (w : World d.JobData) (schedule : List (Option Nat)),
        NoRequestInJob uri
          ((jobPool d uri job device options pages w).trace World.env schedule) := by
  intro h
  have hrace := h .td2000 "usb://TD-2020" 0 0 oneLinePage []
    (fun _ h => absurd h List.not_mem_nil) answeringWorld
    ([some 0] ++ List.replicate 8 none ++ [some 0, some 0])
  revert hrace
  rw [NoRequestInJob]
  decide +kernel

end Drivers
end BrThermal
