/-
A printer error fails the line.

`writeLine` reads packets in three places: after the write, while it looks for the
reason of a failed write, and in the wait for a hold to end.  Each records the packet
before it looks at the type, and at an error each leaves its loop, the wait and the
line with false.
-/
import BrThermal.Drivers.Device
import BrThermal.Drivers.Footprint
import BrThermal.Drivers.LineOnce
import BrThermal.Effect.Stops

namespace BrThermal
namespace Drivers

open Effect Effect.Prog Pappl

variable {δ α : Type}

/-- The packet of a read that reports an error. -/
def errorRead : Event δ → Option PrinterInfo
  | ⟨.deviceRead _, reply⟩ =>
    ReadReply.packet reply |>.filter fun packet => packet.statusType = .errorOccurred
  | _ => none

/-- The calls that neither write nor read. -/
def NoTransfer : Call δ → Prop
  | .deviceWrite _ _ | .deviceRead _ => False
  | _ => True

/-- After an error nothing more goes to or comes from the device, and the packet is on
record. -/
def errorTrigger (uri : String) : Trigger (Call δ) Call.Reply (World δ) PrinterInfo where
  cause := errorRead
  quiet := NoTransfer
  ended packet w := w.printerStatus uri = some packet

theorem errorRead_eq_none {c : Call δ} (hc : ∀ device, c ≠ .deviceRead device) (r : c.Reply) :
    errorRead ⟨c, r⟩ = none := by
  cases c with
  | deviceRead device => exact absurd rfl (hc device)
  | _ => rfl

section Rules

variable {β : Type} {uri : String} {device : Handle}

/-- Code that returns false when it stops. -/
def StopsOnError (uri : String) (p : Code δ Bool) : Prop :=
  p.Stops World.env (errorTrigger uri) (· = false)

/-- Code that reads nothing does not stop, and what follows it may. -/
theorem stops_seq {fails : β → Prop} {p : Code δ α} {f : α → Code δ β}
    (hp : p.Asks fun c => ∀ device, c ≠ .deviceRead device)
    (hf : ∀ a, (f a).Stops World.env (errorTrigger uri) fails) :
    (p >>= f).Stops World.env (errorTrigger uri) fails := by
  have hnever : p.Stops World.env (errorTrigger uri) fun _ => False :=
    stops_of_asks hp fun _ r hc => errorRead_eq_none hc r
  exact stops_bind hnever (fun _ h => h.elim) hf

theorem stops_applyPrinterStatus {errorReasons : PrinterInfo → Reasons} {fails : β → Prop}
    (packet : PrinterInfo) {f : Unit → Code δ β}
    (hf : (f ()).Stops World.env (errorTrigger uri) fails) :
    (applyPrinterStatus errorReasons uri packet >>= f).Stops World.env (errorTrigger uri) fails :=
  stops_seq (asks_applyPrinterStatus errorReasons
    ⟨fun _ _ h => (nomatch h), fun _ _ h => (nomatch h)⟩ packet) fun _ => hf

theorem windsUp_apply {errorReasons : PrinterInfo → Reasons} {packet : PrinterInfo}
    {fails : β → Prop} {f : Unit → Code δ β} {b : β} (hf : f () = ret b) (hb : fails b) :
    (applyPrinterStatus errorReasons uri packet >>= f).WindsUp World.env (errorTrigger uri) fails
      packet := by
  intro w
  rw [wp_bind, wp_applyPrinterStatus, hf, wp_ret, List.append_nil]
  refine ⟨hb, fun x hx => ?_, Function.update_self _ _ _⟩
  rw [List.mem_cons, List.mem_singleton] at hx
  rcases hx with rfl | rfl <;> exact ⟨trivial, rfl⟩

theorem stops_read {fails : β → Prop} {f : Option PrinterInfo → Code δ β}
    (hnone : (f none).Stops World.env (errorTrigger uri) fails)
    (hsome : ∀ packet, packet.statusType ≠ .errorOccurred →
      (f (some packet)).Stops World.env (errorTrigger uri) fails)
    (herror : ∀ packet, packet.statusType = .errorOccurred →
      (f (some packet)).WindsUp World.env (errorTrigger uri) fails packet) :
    (readStatusPacket device >>= f).Stops World.env (errorTrigger uri) fails := by
  refine stops_ask (fun reply hreply => ?_) (fun reply packet hreply => ?_)
  · have hcause : (ReadReply.packet reply).filter
        (fun packet => packet.statusType = .errorOccurred) = none := hreply
    show (f (ReadReply.packet reply)).Stops World.env (errorTrigger uri) fails
    cases hpacket : ReadReply.packet reply with
    | none => exact hnone
    | some packet =>
      rw [hpacket, Option.filter_eq_none_iff] at hcause
      exact hsome packet fun h => hcause packet rfl (decide_eq_true h)
  · have hcause : (ReadReply.packet reply).filter
        (fun packet => packet.statusType = .errorOccurred) = some packet := hreply
    obtain ⟨hpacket, htype⟩ := Option.filter_eq_some_iff.mp hcause
    show (f (ReadReply.packet reply)).WindsUp World.env (errorTrigger uri) fails packet
    rw [hpacket]
    exact herror packet (of_decide_eq_true htype)

/-- A loop that reads until a packet comes. -/
theorem stops_poll_read {fails : β → Prop} {f : Option PrinterInfo → Code δ β}
    (hnone : (f none).Stops World.env (errorTrigger uri) fails)
    (hsome : ∀ packet, packet.statusType ≠ .errorOccurred →
      (f (some packet)).Stops World.env (errorTrigger uri) fails)
    (herror : ∀ packet, packet.statusType = .errorOccurred →
      (f (some packet)).WindsUp World.env (errorTrigger uri) fails packet) (n : Nat) :
    (Prog.poll n (readStatusPacket device) >>= f).Stops World.env (errorTrigger uri) fails := by
  induction n with
  | zero => exact hnone
  | succ n ih =>
    rw [Prog.poll, bind_assoc]
    exact stops_read ih hsome herror

end Rules

section Line

variable {uri : String} (errorReasons : PrinterInfo → Reasons) (device : Handle)

theorem stops_resumeAttempt : (resumeAttempt errorReasons device uri : Code δ (Option Bool)).Stops
    World.env (errorTrigger uri) fun r => ∃ ok, r = some ok ∧ ok = false := by
  refine stops_read (stops_ret none) (fun packet hother => ?_) (fun packet herror => ?_)
  · refine stops_applyPrinterStatus packet ?_
    rw [if_neg hother]
    split <;> exact stops_ret _
  · refine windsUp_apply (b := some false) ?_ ⟨false, rfl, rfl⟩
    rw [if_neg (PrinterInfo.not_resumes_of_error herror), if_pos herror]
    rfl

theorem stopsOnError_waitForPrinterResume :
    StopsOnError uri (waitForPrinterResume errorReasons device uri : Code δ Bool) := by
  refine stops_bind (stops_poll (stops_resumeAttempt errorReasons device) _) ?_
    (fun _ => stops_ret _)
  rintro _ ⟨_, rfl, rfl⟩
  exact ⟨false, rfl, rfl⟩

theorem stopsOnError_lineWritten :
    StopsOnError uri (lineWritten errorReasons device uri : Code δ Bool) := by
  refine stops_seq (asks_call fun _ h => by cases h) (fun _ => ?_)
  refine stops_read (stops_ret true) (fun packet hother => ?_) (fun packet herror => ?_)
  · refine stops_applyPrinterStatus packet ?_
    rw [if_neg hother]
    split
    · exact stopsOnError_waitForPrinterResume errorReasons device
    · exact stops_ret true
  · refine windsUp_apply (b := false) ?_ rfl
    rw [if_pos herror]
    rfl

theorem stopsOnError_awaitRetry :
    StopsOnError uri (awaitRetry errorReasons device uri : Code δ Bool) := by
  refine stops_poll_read (stops_ret false) (fun packet _ => ?_) (fun packet herror => ?_) 20
  · refine stops_applyPrinterStatus packet ?_
    split
    · exact stopsOnError_waitForPrinterResume errorReasons device
    · exact stops_ret false
  · refine windsUp_apply (b := false) ?_ rfl
    rw [if_neg (PrinterInfo.not_holds_of_error herror)]
    rfl

theorem stopsOnError_writeAttempts (command : List UInt8) (n : Nat) :
    StopsOnError uri (writeAttempts errorReasons device uri command n : Code δ Bool) := by
  induction n with
  | zero => exact stops_ret false
  | succ n ih =>
    rw [writeAttempts_succ]
    refine stops_seq (asks_call fun _ h => by cases h) (fun written => ?_)
    split
    · exact stopsOnError_lineWritten errorReasons device
    · split
      · exact stops_ret false
      · refine stops_bind (stopsOnError_awaitRetry errorReasons device) ?_ (fun resumed => ?_)
        · rintro _ rfl
          exact ⟨false, rfl, rfl⟩
        · cases resumed with
          | true => exact ih
          | false => exact stops_ret false

end Line

/-- After a read of an error packet a call makes no further transfer and returns false,
and the packet is the printer's status. -/
def FailsOnError (uri : String) (ok : Bool) (es : List (Event δ)) (w : World δ) : Prop :=
  ∀ earlier device reply later packet, es = earlier ++ ⟨.deviceRead device, reply⟩ :: later →
    ReadReply.packet reply = some packet → packet.statusType = .errorOccurred →
      ok = false ∧ (∀ e ∈ later, NoTransfer e.1) ∧ w.printerStatus uri = some packet

/-- Wherever a line reads an error, whatever the device did before, the line ends there
and fails. -/
theorem writeLine_failsOnError (d : Driver) (job : Job) (options : PrOptions) (device : Handle)
    (y : UInt32) (pixels : List UInt8) (w : World d.JobData) :
    (d.callbacks.writeLine (some job) (some options) (some device) y (some pixels)).wp World.env
      (FailsOnError job.printer) w := by
  have hstops : StopsOnError job.printer
      (d.callbacks.writeLine (some job) (some options) (some device) y (some pixels)) := by
    rw [Driver.writeLine_eq]
    refine stops_seq (asks_call fun _ h => by cases h) (fun jobData => ?_)
    cases jobData with
    | none => exact stops_ret false
    | some jobData => exact stopsOnError_writeAttempts d.errorReasons device _ 2
  intro earlier device reply later packet hes hpacket herror
  refine hstops w earlier ⟨.deviceRead device, reply⟩ later packet hes ?_
  show (ReadReply.packet reply).filter (fun packet => packet.statusType = .errorOccurred) = _
  rw [hpacket, Option.filter_some, if_pos (decide_eq_true herror)]

end Drivers
end BrThermal
