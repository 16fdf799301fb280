/-
How often a raster line reaches the printer.

`writeLine` sends a command again when the first write fell short and the printer
then reports that cooling or a pause has ended.  The second write repeats the
whole command, so the printer gets it exactly once only where the first write
left nothing behind.  What the driver makes of the reads in between is a function
of the reads alone.
-/
import BrThermal.Drivers.Device
import BrThermal.Drivers.Footprint
import BrThermal.Pappl.View

namespace BrThermal
namespace Drivers

open Effect Effect.Prog Pappl

variable {δ : Type}

/-- What `writeLine` returns once the whole command is out, given the reads. -/
def lineAccepted (reads : List ReadReply) : Bool :=
  match (reads.headD .empty).packet with
  | none => true
  | some packet =>
    if packet.statusType = .errorOccurred then false
    else if packet.holds then (resumesWithin (120000 / 100) reads.tail).1
    else true

/-- The reads left when `writeLine` sends the command again, `none` where it gives
up after a failed write. -/
def retryReads (reads : List ReadReply) : Option (List ReadReply) :=
  match firstPacket 20 reads with
  | (none, _) => none
  | (some packet, reads) =>
    if packet.holds then
      match resumesWithin (120000 / 100) reads with
      | (true, reads) => some reads
      | (false, _) => none
    else none

/-- The device takes some but not all of the command, and the whole of it when it
comes again, after a pause that has ended and with no error to follow. -/
def TakenTwice (command : List UInt8) (script : DeviceScript) : Prop :=
  let taken := (script.writes.headD .complete).result command
  0 < taken ∧ taken < command.length ∧
    (script.writes.tail.headD .complete).result command = command.length ∧
    ∃ reads, retryReads script.reads = some reads ∧ lineAccepted reads = true

theorem result_le (data : List UInt8) (o : WriteOutcome) : o.result data ≤ data.length := by
  cases o with
  | complete => exact Int.le_refl _
  | short n =>
    rw [WriteOutcome.result]
    omega
  | error =>
    rw [WriteOutcome.result]
    omega

/-! ## Calls that write nothing -/

def WritesNothing : Call δ → Prop
  | .deviceWrite _ _ => False
  | _ => True

theorem statusStores_writesNothing (uri : String) :
    StatusStores (WritesNothing : Call δ → Prop) uri := ⟨fun _ => trivial, fun _ => trivial⟩

theorem accepted_of_asks {α : Type} {p : Code δ α} (hp : p.Asks WritesNothing) (w : World δ) :
    accepted (p.trace w) = [] := by
  rw [accepted, List.flatMap_eq_nil_iff]
  intro e he
  have h := events_of_asks hp w e he
  obtain ⟨c, r⟩ := e
  cases c with
  | deviceWrite => exact h.elim
  | _ => rfl

theorem writes_of_asks {α : Type} {p : Code δ α} (hp : p.Asks WritesNothing) (w : World δ)
    (uri : String) : ((p.final w).script uri).writes = (w.script uri).writes := by
  have hstep : ∀ (c : Call δ) (w : World δ), WritesNothing c →
      ((World.answer c w).2.script uri).writes = (w.script uri).writes := by
    intro c w hc
    by_cases hu : uri = c.printer
    · subst hu
      cases c with
      | deviceWrite => exact hc.elim
      | printerOpenDevice u =>
        simp only [World.answer, Call.printer]
        split <;> simp only [World.withScript, Function.update_self]
      | deviceGetID | deviceRead =>
        simp only [World.answer, World.withScript, Call.printer, Function.update_self]
      | _ => rfl
    · have h := congrArg PrinterView.script (World.view_answer_of_ne c w uri hu)
      exact congrArg DeviceScript.writes h
  exact run_of_asks (R := fun w w' : World δ => (w'.script uri).writes = (w.script uri).writes)
    (fun _ => rfl) (fun _ _ _ hab hbc => Eq.trans hbc hab) hstep hp w

/-! ## One attempt -/

section Attempt

variable (errorReasons : PrinterInfo → Reasons) (device : Handle) (uri : String)

theorem lineWritten_reads (w : World δ) :
    (lineWritten errorReasons device uri).wp World.env
      (fun ok _ _ => ok = lineAccepted (w.script device.uri).reads) w := by
  rw [lineWritten, call_bind, wp_ask, wp_bind, wp_readStatusPacket, lineAccepted, ← reads_answer]
  show Prog.wp _ (match ((w.script device.uri).reads.headD .empty).packet with
    | none => _ | some packet => _) _ (World.answer (.deviceRead device) w).2
  cases ((w.script device.uri).reads.headD .empty).packet with
  | none => rfl
  | some packet =>
    dsimp only
    rw [wp_bind, wp_applyPrinterStatus]
    split
    · rfl
    · split
      · exact congrArg Prod.fst (waitForPrinterResume_reads errorReasons uri)
      · rfl

/-- What `writeLine` does between a failed attempt and the next: it looks for the
reason and waits for its end. -/
def awaitRetry : Code δ Bool := do
  match ← Prog.poll 20 (readStatusPacket device) with
  | none => return false
  | some packet =>
    applyPrinterStatus errorReasons uri packet
    if packet.holds then waitForPrinterResume errorReasons device uri
    else return false

theorem writeAttempts_succ (command : List UInt8) (n : Nat) :
    (writeAttempts errorReasons device uri command (n + 1) : Code δ Bool) = (do
      if (← papplDeviceWrite device command) = command.length then
        lineWritten errorReasons device uri
      else if n = 0 then return false
      else if ← awaitRetry errorReasons device uri then
        writeAttempts errorReasons device uri command n
      else return false) := by
  rw [writeAttempts, call_bind, call_bind]
  refine congrArg (Prog.ask _) (funext fun written => ?_)
  split
  · rfl
  · split
    · rfl
    · rw [awaitRetry, bind_assoc]
      refine congrArg _ (funext fun packet => ?_)
      cases packet with
      | none => rfl
      | some packet =>
        dsimp only
        rw [bind_assoc]
        refine congrArg _ (funext fun _ => ?_)
        split <;> rfl

/-- A second attempt is made exactly where the reads allow it, and then from what
they leave. -/
theorem awaitRetry_reads (w : World δ) :
    (awaitRetry errorReasons device uri).wp World.env
      (fun ok _ w' => retryReads (w.script device.uri).reads =
        if ok then some (w'.script device.uri).reads else none) w := by
  refine wp_seq (poll_readStatusPacket 20) (fun packet es w' h => ?_)
  rw [retryReads, ← h]
  cases packet with
  | none => rfl
  | some packet =>
    dsimp only
    rw [wp_bind, wp_applyPrinterStatus]
    split
    · refine wp_mono (waitForPrinterResume_reads errorReasons uri) (fun ok _ w'' hwait => ?_)
      rw [show (w'.script device.uri).reads =
        ((recorded errorReasons uri packet w').script device.uri).reads from rfl, ← hwait]
      cases ok <;> rfl
    · rfl

theorem asks_awaitRetry :
    (awaitRetry errorReasons device uri : Code δ Bool).Asks WritesNothing := by
  refine asks_bind (asks_poll (asks_readStatusPacket trivial) _) (fun packet => ?_)
  cases packet with
  | none => exact asks_ret _
  | some packet =>
    refine asks_bind (asks_applyPrinterStatus errorReasons (statusStores_writesNothing uri) packet)
      (fun _ => ?_)
    split
    · exact asks_waitForPrinterResume errorReasons trivial (statusStores_writesNothing uri)
    · exact asks_ret _

/-- Waiting for a second attempt puts out nothing and costs no write. -/
theorem awaitRetry_spec (w : World δ) :
    (awaitRetry errorReasons device uri).wp World.env
      (fun ok es w' => retryReads (w.script device.uri).reads =
          (if ok then some (w'.script device.uri).reads else none) ∧
        accepted es = [] ∧ (w'.script device.uri).writes = (w.script device.uri).writes) w :=
  have hasks := asks_awaitRetry errorReasons device uri
  ⟨awaitRetry_reads errorReasons device uri w, accepted_of_asks hasks w,
    writes_of_asks hasks w device.uri⟩

variable (command : List UInt8)

/-! The three ways an attempt can go, as rules for its outcome. -/

section Rules

variable {n : Nat} {w : World δ} {Q : Bool → List (Event δ) → World δ → Prop}

theorem wp_attempt_taken (h : TakesFirst command (w.script device.uri)) :
    (writeAttempts errorReasons device uri command (n + 1)).wp World.env Q w ↔
      (lineWritten errorReasons device uri).wp World.env
        (fun ok es => Q ok (⟨.deviceWrite device command, (command.length : Int)⟩ :: es))
        (World.answer (.deviceWrite device command) w).2 := by
  have hanswer : (World.env (.deviceWrite device command) w).1 = (command.length : Int) := h
  rw [writeAttempts_succ, call_bind, wp_ask, hanswer, if_pos rfl]

theorem wp_attempt_refused (h : ¬TakesFirst command (w.script device.uri)) :
    (writeAttempts errorReasons device uri command (n + 2)).wp World.env Q w ↔
      (awaitRetry errorReasons device uri).wp World.env
        (fun retry es w' =>
          (if retry then writeAttempts errorReasons device uri command (n + 1)
            else return false : Code δ Bool).wp World.env
            (fun ok es' => Q ok (⟨.deviceWrite device command,
              (World.answer (.deviceWrite device command) w).1⟩ :: (es ++ es'))) w')
        (World.answer (.deviceWrite device command) w).2 := by
  have hanswer : (World.env (.deviceWrite device command) w).1 ≠ (command.length : Int) := h
  have hleft : n + 1 ≠ 0 := by omega
  rw [writeAttempts_succ, call_bind, wp_ask, if_neg hanswer, if_neg hleft, wp_bind]

theorem wp_lastAttempt_refused (h : ¬TakesFirst command (w.script device.uri)) :
    (writeAttempts errorReasons device uri command 1).wp World.env Q w ↔
      Q false [⟨.deviceWrite device command, (World.answer (.deviceWrite device command) w).1⟩]
        (World.answer (.deviceWrite device command) w).2 := by
  have hanswer : (World.env (.deviceWrite device command) w).1 ≠ (command.length : Int) := h
  rw [writeAttempts_succ, call_bind, wp_ask, if_neg hanswer, if_pos rfl]
  rfl

end Rules

/-- An attempt the device takes whole puts out the command and no more. -/
theorem attempt_taken (n : Nat) (w : World δ) (h : TakesFirst command (w.script device.uri)) :
    (writeAttempts errorReasons device uri command (n + 1)).wp World.env
      (fun ok es _ => ok = lineAccepted (w.script device.uri).reads ∧ accepted es = command) w := by
  have hvalue := lineWritten_reads errorReasons device uri
    (World.answer (.deviceWrite device command) w).2
  have hwritten := accepted_of_asks (asks_lineWritten errorReasons trivial trivial
    (statusStores_writesNothing uri)) (p := lineWritten errorReasons device uri)
    (World.answer (.deviceWrite device command) w).2
  rw [wp_attempt_taken errorReasons device uri command h]
  refine ⟨hvalue.trans ?_, ?_⟩
  · simp only [World.answer, World.withScript, Function.update_self]
  · rw [accepted_cons, Event.accepted, Int.toNat_natCast, List.take_length]
    exact (congrArg _ hwritten).trans (List.append_nil command)

theorem lastAttempt_refused (w : World δ) (h : ¬TakesFirst command (w.script device.uri)) :
    (writeAttempts errorReasons device uri command 1).wp World.env
      (fun ok _ _ => ok = false) w :=
  (wp_lastAttempt_refused errorReasons device uri command h).mpr rfl

/-- What was taken before the whole command disappears only if it is nothing. -/
theorem take_append_self {command : List UInt8} {taken : Int} (h : taken < command.length) :
    command.take taken.toNat ++ command = command ↔ taken ≤ 0 := by
  rw [List.append_left_eq_self, List.take_eq_nil_iff]
  constructor
  · rintro (hzero | rfl)
    · omega
    · rw [List.length_nil] at h
      omega
  · intro hle
    left
    omega

/-- Where `writeLine` returns true, the device got one copy of the command: this
fails for exactly the devices that take part of it and then the whole of it. -/
theorem attempts_exactlyOnce (w : World δ) :
    (writeAttempts errorReasons device uri command 2).wp World.env
      (fun ok es _ => (ok = true → accepted es = command) ↔
        ¬TakenTwice command (w.script device.uri)) w := by
  by_cases h : TakesFirst command (w.script device.uri)
  · refine wp_mono (attempt_taken errorReasons device uri command 1 w h) (fun ok es _ hes => ?_)
    obtain ⟨-, honce⟩ := hes
    refine ⟨fun _ htwice => ?_, fun _ _ => honce⟩
    obtain ⟨-, hpart, -⟩ := htwice
    rw [TakesFirst] at h
    omega
  · have hlt : (World.answer (.deviceWrite device command) w).1 < (command.length : Int) :=
      lt_of_le_of_ne (result_le command ((w.script device.uri).writes.headD .complete)) h
    rw [wp_attempt_refused errorReasons device uri command h]
    refine wp_mono (awaitRetry_spec errorReasons device uri _) (fun ok es w' hok => ?_)
    simp only [World.answer, World.withScript, Function.update_self] at hok
    obtain ⟨hreads, hes, hwrites⟩ := hok
    cases ok with
    | false =>
      refine ⟨fun _ htwice => ?_, fun _ h => absurd h Bool.false_ne_true⟩
      obtain ⟨-, -, -, reads, hretry, -⟩ := htwice
      rw [hreads] at hretry
      cases hretry
    | true =>
      by_cases hsecond : TakesFirst command (w'.script device.uri)
      · refine wp_mono (attempt_taken errorReasons device uri command 0 w' hsecond)
          (fun ok es' _ hes' => ?_)
        obtain ⟨hok, hcommand⟩ := hes'
        rw [TakesFirst, hwrites] at hsecond
        rw [accepted_cons, accepted_append, hes, hcommand, List.nil_append, Event.accepted,
          take_append_self hlt, hok]
        constructor
        · intro honce htwice
          obtain ⟨hpos, -, -, reads, hretry, haccepted⟩ := htwice
          rw [hreads] at hretry
          cases hretry
          have hnone := honce haccepted
          simp only [World.answer] at hnone
          omega
        · intro htwice haccepted
          by_contra hpos
          refine htwice ⟨?_, hlt, hsecond, _, hreads, haccepted⟩
          exact Int.not_le.mp hpos
      · refine wp_mono (lastAttempt_refused errorReasons device uri command w' hsecond)
          (fun ok _ _ hok => ?_)
        rw [hok]
        refine ⟨fun _ htwice => ?_, fun _ h => absurd h Bool.false_ne_true⟩
        obtain ⟨-, -, hwhole, -⟩ := htwice
        rw [TakesFirst, hwrites] at hsecond
        exact hsecond hwhole

end Attempt

/-- If `writeLine` returns true, the device accepted one copy of the line's command
during the call and nothing else. -/
def ExactlyOnce (d : Driver) (job : Job) (options : PrOptions) (device : Handle) (y : UInt32)
    (pixels : List UInt8) (w : World d.JobData) : Prop :=
  let code := d.callbacks.writeLine (some job) (some options) (some device) y (some pixels)
  code.value w = true → ∃ jobData, w.jobData job = some jobData ∧
    accepted (code.trace w) = d.rasterCommand jobData options.header pixels

/-- Over every line and every behaviour of the device, a line that `writeLine`
reports as written was written once, except to a device that takes part of the
command, reports the end of a pause and takes the whole of it again. -/
theorem writeLine_exactlyOnce (d : Driver) (job : Job) (options : PrOptions) (device : Handle)
    (y : UInt32) (pixels : List UInt8) (w : World d.JobData) :
    ExactlyOnce d job options device y pixels w ↔
      ∀ jobData, w.jobData job = some jobData →
        ¬TakenTwice (d.rasterCommand jobData options.header pixels) (w.script device.uri) := by
  have hanswer : (World.env (.jobGetData job) w).1 = w.jobData job := rfl
  show Prog.wp World.env _ (fun ok es _ => ok = true → ∃ jobData, w.jobData job = some jobData ∧
    accepted es = d.rasterCommand jobData options.header pixels) w ↔ _
  rw [Driver.writeLine_eq, call_bind, wp_ask, hanswer]
  cases w.jobData job with
  | none => exact ⟨fun _ _ h => (nomatch h), fun _ h => (nomatch h)⟩
  | some jobData =>
    simp only [Option.some.injEq, exists_eq_left', forall_eq']
    exact attempts_exactlyOnce d.errorReasons device job.printer _ w

def notificationPacket (number : UInt8) : PrinterInfo :=
  ⟨[0x80] ++ List.replicate 17 0 ++ [0x05, 0, 0, 0, number] ++ List.replicate 9 0, rfl⟩

/-- A TD-2020 in the middle of a job: it takes 10 bytes of the next command, reports that
cooling has started and then finished, and takes the next command whole. -/
def coolingWorld : World Td2000.JobData :=
  { (World.fresh fun _ => 1 : World Td2000.JobData) with
    jobData := fun _ => some ⟨.td2x2x, false, 56⟩
    script := fun _ =>
      { writes := [.short 10, .complete]
        reads := [⟨32, notificationPacket 0x03⟩, ⟨32, notificationPacket 0x04⟩] } }

/-- That device gets ten bytes of the line's command in front of the command. -/
theorem not_exactlyOnce_cooling :
    ¬∀ (d : Driver) (job : Job) (options : PrOptions) (device : Handle) (y : UInt32)
      (pixels : List UInt8) (w : World d.JobData),
      ExactlyOnce d job options device y pixels w := by
  intro h
  obtain ⟨jobData, hdata, haccepted⟩ := h .td2000 ⟨"usb://TD-2020", 0⟩ oneLinePage
    ⟨"usb://TD-2020", 0⟩ 0 (List.replicate 56 0) coolingWorld (by decide +kernel)
  cases hdata
  revert haccepted
  decide +kernel

end Drivers
end BrThermal
