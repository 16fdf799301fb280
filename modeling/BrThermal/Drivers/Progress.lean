/-
How long a callback can take.

Every loop of a callback counts its turns: 20 reads after a failed write, 1200 turns of
the wait for a held printer, 200 reads at the end of a job, 100 for a status.  So each
callback ends after a fixed number of calls, whatever the device and PAPPL answer, and a
thread that is scheduled often enough is done whatever the other threads do to it.  With
a device that takes every write and reports nothing wrong, done means that the whole job
went through.
-/
import BrThermal.Drivers.Overlap
import BrThermal.Effect.Budget

namespace BrThermal
namespace Drivers

open Effect Effect.Prog Pappl

/-! ## What the callbacks have in common -/

section Common

variable {δ : Type} {device : Handle} {uri : String} {n : Nat}

theorem within_writeToDevice (data : List UInt8) :
    (writeToDevice data (some device) : Code δ Bool).Within (fun _ => n) (n + 2) := by
  refine within_bind within_call (fun written => ?_)
  split <;> exact within_bind within_call fun _ => within_ret (Nat.le_refl n)

theorem within_writeCommands (commands : List (List UInt8)) :
    (writeCommands commands device : Code δ Bool).Within (fun _ => n)
      (n + 2 * commands.length) := by
  induction commands with
  | nil => exact within_ret (Nat.le_refl n)
  | cons command commands ih =>
    refine within_bind (within_writeToDevice (n := n + 2 * commands.length) command)
      (fun ok => ?_)
    cases ok with
    | true => exact ih
    | false => exact within_ret (Nat.le_add_right n _)

theorem within_readStatusPacket :
    (readStatusPacket device : Code δ (Option PrinterInfo)).Within (fun _ => n) (n + 1) :=
  within_bind within_call fun _ => within_ret (Nat.le_refl n)

variable (errorReasons : PrinterInfo → Reasons)

theorem within_applyPrinterStatus (info : PrinterInfo) :
    (applyPrinterStatus errorReasons uri info : Code δ Unit).Within (fun _ => n) (n + 2) :=
  within_bind within_call fun _ => within_call

/-- Three calls a turn. -/
theorem within_waitForPrinterResume :
    (waitForPrinterResume errorReasons device uri : Code δ Bool).Within (fun _ => n)
      (n + 3 * (120000 / 100)) := by
  have hturn : ∀ k, (resumeAttempt errorReasons device uri : Code δ (Option Bool)).Within
      (turnLeaves (n + 3 * k) fun _ => n) (n + 3 * (k + 1)) := by
    intro k
    refine within_bind (within_readStatusPacket (n := n + 3 * k + 2)) (fun packet => ?_)
    cases packet with
    | none => exact within_ret (Nat.le_add_right _ 2)
    | some packet =>
      refine within_bind (within_applyPrinterStatus (n := n + 3 * k) errorReasons packet)
        (fun _ => ?_)
      split
      · exact within_ret (Nat.le_add_right n _)
      · split
        · exact within_ret (Nat.le_add_right n _)
        · exact within_ret (Nat.le_refl _)
  exact within_bind (within_poll (c := fun k => n + 3 * k) (Nat.le_add_right n _) hturn _)
    fun resumed => within_ret (Nat.le_refl n)

theorem within_lineWritten :
    (lineWritten errorReasons device uri : Code δ Bool).Within (fun _ => n) (n + 3604) := by
  refine within_bind (within_call (b := n + 3603)) (fun _ => ?_)
  refine within_bind (within_readStatusPacket (n := n + 3602)) (fun packet => ?_)
  cases packet with
  | none => exact within_ret (Nat.le_add_right n _)
  | some packet =>
    refine within_bind (within_applyPrinterStatus (n := n + 3600) errorReasons packet)
      (fun _ => ?_)
    split
    · exact within_ret (Nat.le_add_right n _)
    · split
      · exact within_waitForPrinterResume errorReasons
      · exact within_ret (Nat.le_add_right n _)

/-- An attempt that the device refuses costs a write, 20 reads and a wait. -/
theorem within_writeAttempts (rasterCmd : List UInt8) (attempts : Nat) :
    (writeAttempts errorReasons device uri rasterCmd (attempts + 1) : Code δ Bool).Within
      (fun _ => n) (n + (3605 + 3623 * attempts)) := by
  induction attempts with
  | zero =>
    refine within_mono (b := n + 3604 + 1) ?_ (by omega)
    refine within_bind within_call (fun written => ?_)
    split
    · exact within_lineWritten errorReasons
    · exact within_ret (Nat.le_add_right n _)
  | succ attempts ih =>
    refine within_mono (b := n + (3605 + 3623 * attempts) + 3622 + 1) ?_ (by omega)
    refine within_bind within_call (fun written => ?_)
    split
    · exact within_mono (within_lineWritten errorReasons) (by omega)
    · rw [if_neg (Nat.succ_ne_zero attempts)]
      have hprobe : ∀ k, (readStatusPacket device : Code δ (Option PrinterInfo)).Within
          (turnLeaves (n + (3605 + 3623 * attempts) + 3602 + k)
            fun _ => n + (3605 + 3623 * attempts) + 3602)
          (n + (3605 + 3623 * attempts) + 3602 + (k + 1)) := by
        intro k
        refine within_bind (within_call (b := n + (3605 + 3623 * attempts) + 3602 + k))
          (fun reply => ?_)
        cases hpacket : reply.packet with
        | none => exact within_ret (Nat.le_refl _)
        | some packet => exact within_ret (Nat.le_add_right _ k)
      refine within_bind (within_poll (c := fun k => n + (3605 + 3623 * attempts) + 3602 + k)
        (Nat.le_refl _) hprobe 20) (fun packet => ?_)
      cases packet with
      | none => exact within_ret (by omega)
      | some packet =>
        refine within_bind (within_applyPrinterStatus (n := n + (3605 + 3623 * attempts) + 3600)
          errorReasons packet) (fun _ => ?_)
        split
        · refine within_bind (within_waitForPrinterResume (n := n + (3605 + 3623 * attempts))
            errorReasons) (fun resumed => ?_)
          cases resumed with
          | true => exact ih
          | false => exact within_ret (Nat.le_add_right n _)
        · exact within_ret (by omega)

theorem within_open {α : Type} {f : Option Handle → Code δ α} {left : α → Nat}
    (hnone : (f none).Within left n) (hsome : ∀ serial, (f (some ⟨uri, serial⟩)).Within left n) :
    (papplPrinterOpenDevice uri >>= f).Within left (n + 1) := by
  refine within_ask (fun serial => ?_)
  cases serial with
  | none => exact hnone
  | some serial => exact hsome serial

theorem within_closeDevice {α : Type} (a : α) :
    (papplPrinterCloseDevice uri >>= fun _ => (ret a : Code δ α)).Within (fun _ => n) (n + 1) :=
  within_bind within_call fun _ => within_ret (Nat.le_refl n)

theorem within_pushedStatus :
    (pushedStatus errorReasons uri : Code δ Bool).Within (fun _ => n) (n + 5) := by
  refine within_open (within_ret (Nat.le_add_right n 4)) (fun serial => ?_)
  refine within_bind (within_readStatusPacket (n := n + 3)) (fun packet => ?_)
  refine within_bind (l := fun _ => n + 1) ?_ (fun _ => within_closeDevice true)
  cases packet with
  | none => exact within_ret (Nat.le_add_right _ 2)
  | some packet => exact within_applyPrinterStatus errorReasons packet

variable (job : Job) (options : PrOptions)

theorem within_endPage (print : List UInt8) (pageNumber : UInt32) :
    (endPage print (some job) (some options) (some device) pageNumber : Code δ Bool).Within
      (fun _ => n) (n + 3) := by
  refine within_bind (within_call (b := n + 2)) (fun count => ?_)
  dsimp only
  split
  · refine within_bind (within_writeToDevice (n := n) print) (fun ok => ?_)
    cases ok <;> exact within_ret (Nat.le_refl n)
  · exact within_ret (Nat.le_add_right n 2)

theorem within_endJob (printWithFeeding : List UInt8) :
    (endJob printWithFeeding (some job) (some options) (some device) : Code δ Bool).Within
      (fun _ => n) (n + 205) := by
  refine within_bind (within_writeToDevice (n := n + 203) printWithFeeding) (fun ok => ?_)
  cases ok with
  | false => exact within_ret (Nat.le_add_right n _)
  | true =>
    have hturn : ∀ k, (drainAttempt device : Code δ (Option Unit)).Within
        (turnLeaves (n + 3 + k) fun _ => n + 3) (n + 3 + (k + 1)) := by
      intro k
      refine within_bind (within_readStatusPacket (n := n + 3 + k)) (fun packet => ?_)
      cases packet with
      | none => exact within_ret (Nat.le_refl _)
      | some packet =>
        dsimp only
        split
        · exact within_ret (Nat.le_add_right _ k)
        · split
          · exact within_ret (Nat.le_add_right _ k)
          · exact within_ret (Nat.le_refl _)
    refine within_bind (within_poll (c := fun k => n + 3 + k) (Nat.le_refl _) hturn 200)
      (fun _ => ?_)
    refine within_bind within_call (fun _ => within_bind within_call fun data => ?_)
    exact within_bind within_call fun _ => within_ret (Nat.le_refl n)

end Common

/-! ## The callbacks of each driver -/

/-- A turn without a packet costs two reads, and a packet is worth three more calls. -/
theorem Td2000.within_pulledStatus (uri : String) (n : Nat) :
    (Td2000.pulledStatus uri).Within (fun _ => n) (n + 205) := by
  have hturn : ∀ serial k, (Td2000.statusAttempt ⟨uri, serial⟩).Within
      (turnLeaves (n + 2 + 2 * k) fun | some (some _) => n + 3 | some none => n + 2 | none => n + 1)
      (n + 2 + 2 * (k + 1)) := by
    intro serial k
    refine within_bind (within_readStatusPacket (n := n + 2 + 2 * k + 1)) (fun packet => ?_)
    cases packet with
    | some packet => exact within_ret (Nat.add_le_add_left (Nat.le_add_left 1 _) (n + 2))
    | none =>
      refine within_bind (within_call (b := n + 2 + 2 * k)) (fun probe => ?_)
      split
      · exact within_ret (Nat.le_add_right (n + 2) _)
      · exact within_ret (Nat.le_refl _)
  refine within_open (within_ret (Nat.le_add_right n _)) (fun serial => ?_)
  refine within_bind (within_writeToDevice (n := n + 202) _) (fun ok => ?_)
  cases ok with
  | false => exact within_mono (within_closeDevice false) (by omega)
  | true =>
    refine within_bind (within_poll (c := fun k => n + 2 + 2 * k) (Nat.le_add_right (n + 1) 1)
      (hturn serial) 100) (fun status => ?_)
    rcases status with _ | _ | received
    · exact within_closeDevice false
    · refine within_bind within_call (fun _ => ?_)
      exact within_bind within_call fun _ => within_ret (Nat.le_refl n)
    · refine within_bind within_call (fun _ => ?_)
      exact within_bind (within_applyPrinterStatus Td2000.errorReasons received)
        fun _ => within_ret (Nat.le_refl n)

theorem Pte550w.within_pulledStatus (uri : String) (n : Nat) :
    (Pte550w.pulledStatus uri).Within (fun _ => n) (n + 106) := by
  have hturn : ∀ serial k,
      (readStatusPacket ⟨uri, serial⟩ : Code JobData (Option PrinterInfo)).Within
        (turnLeaves (n + 3 + k) fun _ => n + 3) (n + 3 + (k + 1)) := by
    intro serial k
    refine within_bind (within_call (b := n + 3 + k)) (fun reply => ?_)
    cases hpacket : reply.packet with
    | none => exact within_ret (Nat.le_refl _)
    | some packet => exact within_ret (Nat.le_add_right _ k)
  refine within_open (within_ret (Nat.le_add_right n _)) (fun serial => ?_)
  refine within_bind (within_writeToDevice (n := n + 103) _) (fun ok => ?_)
  cases ok with
  | false => exact within_mono (within_closeDevice false) (by omega)
  | true =>
    refine within_bind (within_poll (c := fun k => n + 3 + k) (Nat.le_refl _) (hturn serial) 100)
      (fun packet => ?_)
    cases packet with
    | none => exact within_mono (within_closeDevice false) (by omega)
    | some received =>
      refine within_bind within_call (fun _ => ?_)
      exact within_bind (within_applyPrinterStatus Pte550w.errorReasons received)
        fun _ => within_ret (Nat.le_refl n)

theorem Pte550w.within_statusDeviceID (uri : String) (n : Nat) :
    (Pte550w.statusDeviceID uri).Within (fun _ => n) (n + 3) := by
  refine within_open (within_ret (Nat.le_add_right n 2)) (fun serial => ?_)
  exact within_bind within_call fun did => within_closeDevice _

theorem Pte550w.within_checkStatus (variant : Pte550w.ModelVariant) (device : Handle) (n : Nat) :
    (Pte550w.checkStatus variant device).Within (fun _ => n) (n + 3) := by
  rw [Pte550w.checkStatus]
  split
  · refine within_bind (within_writeToDevice (n := n + 1) _) (fun ok => ?_)
    cases ok with
    | false => exact within_ret (Nat.le_add_right n 1)
    | true =>
      refine within_bind (within_readStatusPacket (n := n)) (fun packet => ?_)
      cases packet <;> exact within_ret (Nat.le_refl n)
  · exact within_ret (Nat.le_add_right n 3)

namespace Driver

/-- The calls of the longest run of a callback. -/
def longest : Driver → Callback → Nat
  | td2000, .startJob _ => 9
  | pte550w, .startJob _ => 10
  | td2000, .startPage _ _ => 11
  | pte550w, .startPage _ _ => 17
  | _, .writeLine _ _ _ => 7229
  | _, .endPage _ _ => 3
  | _, .endJob _ => 205
  | td2000, .getStatus => 206
  | pte550w, .getStatus => 110

variable {d : Driver} {n : Nat}

theorem within_startJob (job : Job) (options : PrOptions) (device : Handle) :
    (d.callbacks.startJob (some job) (some options) (some device)).Within (fun _ => n)
      (n + d.longest (.startJob options)) := by
  have hmark : ∀ {model : d.Model}, (storePrinterStatusPolling job.printer true >>= fun _ =>
      papplJobSetData job (d.jobData model) >>= fun _ => (ret true : Code d.JobData Bool)).Within
        (fun _ => n) (n + 2) :=
    within_bind within_call fun _ => within_bind within_call fun _ => within_ret (Nat.le_refl n)
  rw [startJob_eq]
  cases d with
  | td2000 =>
    refine within_bind (within_call (b := n + 8)) (fun did => ?_)
    cases did with
    | none => exact within_ret (Nat.le_add_right n 8)
    | some did =>
      dsimp only
      split
      · exact within_ret (Nat.le_add_right n 8)
      · refine within_bind (within_writeCommands (n := n + 2) Td2000.startCommands) (fun ok => ?_)
        cases ok with
        | false => exact within_ret (Nat.le_add_right n 2)
        | true => exact hmark
  | pte550w =>
    refine within_bind (within_call (b := n + 9)) (fun did => ?_)
    cases did with
    | none => exact within_ret (Nat.le_add_right n 9)
    | some did =>
      dsimp only
      split
      · exact within_ret (Nat.le_add_right n 9)
      · refine within_bind (within_writeCommands (n := n + 5) Pte550w.startCommands) (fun ok => ?_)
        cases ok with
        | false => exact within_ret (Nat.le_add_right n 5)
        | true =>
          refine within_bind (Pte550w.within_checkStatus _ device (n + 2)) (fun ok => ?_)
          cases ok with
          | false => exact within_ret (Nat.le_add_right n 2)
          | true => exact hmark

theorem length_pageCommands {jobData : d.JobData} {options : PrOptions} {pageNumber : UInt32}
    {commands : List (List UInt8)}
    (h : d.pageCommands jobData options pageNumber = some commands) :
    1 + 2 * commands.length = d.longest (.startPage options pageNumber) := by
  cases d with
  | td2000 =>
    simp only [pageCommands] at h
    split at h
    · cases h
    · split at h
      · cases h
      · obtain rfl := Option.some.inj h
        rfl
  | pte550w =>
    simp only [pageCommands] at h
    split at h
    · cases h
    · obtain rfl := Option.some.inj h
      rfl

theorem within_startPage (job : Job) (options : PrOptions) (device : Handle)
    (pageNumber : UInt32) :
    (d.callbacks.startPage (some job) (some options) (some device) pageNumber).Within
      (fun _ => n) (n + d.longest (.startPage options pageNumber)) := by
  have hlongest : 1 ≤ d.longest (.startPage options pageNumber) := by
    cases d <;> exact Nat.le_add_left 1 _
  rw [startPage_eq]
  split
  · obtain ⟨m, hm⟩ := Nat.exists_eq_add_of_le hlongest
    rw [hm, Nat.add_comm 1, ← Nat.add_assoc]
    refine within_bind (within_call (b := n + m)) (fun jobData => ?_)
    cases jobData with
    | none => exact within_ret (Nat.le_add_right n m)
    | some jobData =>
      dsimp only
      split
      case h_1 => exact within_ret (Nat.le_add_right n m)
      case h_2 commands hcommands =>
        have hlength := length_pageCommands hcommands
        obtain rfl : m = 2 * commands.length := by omega
        exact within_writeCommands commands
  · exact within_ret (Nat.le_add_right n _)

theorem within_writeLine (job : Job) (options : PrOptions) (device : Handle) (y : UInt32)
    (pixels : List UInt8) :
    (d.callbacks.writeLine (some job) (some options) (some device) y (some pixels)).Within
      (fun _ => n) (n + 7229) := by
  rw [writeLine_eq]
  refine within_bind (within_call (b := n + (3605 + 3623 * 1))) (fun jobData => ?_)
  cases jobData with
  | none => exact within_ret (Nat.le_add_right n _)
  | some jobData => exact within_writeAttempts d.errorReasons _ 1

theorem within_getStatus (uri : String) :
    (d.callbacks.getStatus uri).Within (fun _ => n) (n + d.longest .getStatus) := by
  cases d with
  | td2000 =>
    refine within_bind (within_call (b := n + 205)) (fun polling => ?_)
    cases polling with
    | true => exact within_mono (within_pushedStatus Td2000.errorReasons) (by omega)
    | false => exact Td2000.within_pulledStatus uri n
  | pte550w =>
    refine within_bind (within_call (b := n + 109)) (fun polling => ?_)
    cases polling with
    | true => exact within_mono (within_pushedStatus Pte550w.errorReasons) (by omega)
    | false =>
      refine within_bind (Pte550w.within_statusDeviceID uri (n + 106)) (fun did => ?_)
      split
      · exact Pte550w.within_pulledStatus uri n
      · exact within_ret (Nat.le_add_right n 106)

theorem within_code (uri : String) (job device : Nat) (c : Callback) :
    (d.callbacks.code uri job device c).Within (fun _ => n) (n + d.longest c) := by
  cases c with
  | startJob options => exact within_startJob _ options _
  | startPage options pageNumber => exact within_startPage _ options _ pageNumber
  | writeLine options y pixels =>
    have hline := within_writeLine (d := d) (n := n) ⟨uri, job⟩ options ⟨uri, device⟩ y pixels
    cases d <;> exact hline
  | endPage options pageNumber =>
    show (d.callbacks.endPage _ _ _ _).Within _ _
    rw [endPage_eq]
    cases d <;> exact within_endPage _ options _ pageNumber
  | endJob options =>
    show (d.callbacks.endJob _ _ _).Within _ _
    rw [endJob_eq]
    cases d <;> exact within_endJob _ options _
  | getStatus => exact within_getStatus uri

end Driver

/-! ## Threads -/

section Threads

variable {d : Driver} {uri : String} {n : Nat}

theorem within_attemptCode (job device : Nat) (cs : List Callback) :
    (attemptCode d.callbacks uri job device cs).Within (fun _ => n)
      (n + (cs.map d.longest).sum) := by
  induction cs with
  | nil => exact within_ret (Nat.le_refl n)
  | cons c cs ih =>
    rw [List.map_cons, List.sum_cons, Nat.add_comm (d.longest c), ← Nat.add_assoc]
    refine within_bind (Driver.within_code uri job device c) (fun ok => ?_)
    cases ok with
    | true => exact ih
    | false => exact within_ret (Nat.le_add_right n _)

/-- The calls of the longest run of a job. -/
def Driver.longestJob (d : Driver) (options : PrOptions) (pages : List JobPage) : Nat :=
  ((jobCallbacks options pages).map d.longest).sum

theorem within_jobThread (job device : Nat) (options : PrOptions) (pages : List JobPage) :
    (jobThread d uri job device options pages).Within (fun _ => 0)
      (d.longestJob options pages) := by
  have hjob : (attemptCode d.callbacks uri job device (jobCallbacks options pages)).Within
      (fun _ => 0) (0 + d.longestJob options pages) :=
    within_attemptCode job device (jobCallbacks options pages)
  rw [Nat.zero_add] at hjob
  exact within_bind hjob fun ok => within_ret (Nat.le_refl 0)

variable {τ : Type} [DecidableEq τ] {owner : τ → String} {requests : τ → List Request}

theorem jobThread_done (job device : Nat) (options : PrOptions) (pages : List JobPage)
    (w : World d.JobData) {schedule : List (Option τ)}
    (hsteps : d.longestJob options pages ≤ schedule.countP (· = none)) :
    ∃ results, ((overlapPool d uri job device options pages owner requests w).run World.env
      schedule).prog none = .ret results :=
  Pool.done_of_count (l := fun _ => 0) schedule (within_jobThread job device options pages)
    hsteps

end Threads

end Drivers
end BrThermal
