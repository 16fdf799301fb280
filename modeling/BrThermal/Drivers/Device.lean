/-
What the device helpers do, given the script of the device.
-/
import BrThermal.Pappl.Hearing

namespace BrThermal
namespace Drivers

open Effect Effect.Prog Pappl

variable {δ : Type}

/-- The device takes the whole of the next command. -/
def TakesFirst (command : List UInt8) (script : DeviceScript) : Prop :=
  (script.writes.headD .complete).result command = command.length

instance (command : List UInt8) (script : DeviceScript) : Decidable (TakesFirst command script) :=
  inferInstanceAs (Decidable (_ = _))

section WriteToDevice

variable {data : List UInt8} {device : Handle} {w : World δ}

theorem writeToDevice_taken (h : TakesFirst data (w.script device.uri)) :
    (writeToDevice data (some device)).wp World.env (fun ok es w' =>
      ok = true ∧ w' = (World.answer (.deviceWrite device data) w).2 ∧
      es = [⟨.deviceWrite device data, (data.length : Int)⟩, ⟨.deviceFlush device, ()⟩]) w := by
  have hanswer : (World.answer (.deviceWrite device data) w).1 = (data.length : Int) := h
  rw [writeToDevice, call_bind, wp_ask, hanswer, if_neg (fun hne => hne rfl)]
  exact ⟨rfl, rfl, rfl⟩

theorem value_writeToDevice (h : TakesFirst data (w.script device.uri)) :
    (writeToDevice data (some device)).value w = true := (writeToDevice_taken h).1

end WriteToDevice

/-- The world after `applyPrinterStatus`. -/
def recorded (errorReasons : PrinterInfo → Reasons) (uri : String) (info : PrinterInfo)
    (w : World δ) : World δ :=
  { w with
    printerStatus := Function.update w.printerStatus uri (some info)
    reasons := Function.update w.reasons uri (statusReasons errorReasons info) }

theorem wp_applyPrinterStatus {errorReasons : PrinterInfo → Reasons} {uri : String}
    {info : PrinterInfo} {w : World δ} {Q : Unit → List (Event δ) → World δ → Prop} :
    (applyPrinterStatus errorReasons uri info).wp World.env Q w ↔
      Q () [⟨.storeStatus uri info, ()⟩,
        ⟨.printerSetReasons uri (statusReasons errorReasons info), ()⟩]
        (recorded errorReasons uri info w) := Iff.rfl

/-! ## Reads -/

/-- The first complete packet of the next `n` reads, and the reads left. -/
def firstPacket : Nat → List ReadReply → Option PrinterInfo × List ReadReply
  | 0, reads => (none, reads)
  | n + 1, reads =>
    match (reads.headD .empty).packet with
    | some packet => (some packet, reads.tail)
    | none => firstPacket n reads.tail

/-- Whether a packet that ends a pause is the first to settle the wait within `n`
reads, and the reads left. -/
def resumesWithin : Nat → List ReadReply → Bool × List ReadReply
  | 0, reads => (false, reads)
  | n + 1, reads =>
    match (reads.headD .empty).packet with
    | none => resumesWithin n reads.tail
    | some packet =>
      if packet.resumes then (true, reads.tail)
      else if packet.statusType = .errorOccurred then (false, reads.tail)
      else resumesWithin n reads.tail

section Reads

variable {device : Handle} {w : World δ}

theorem wp_readStatusPacket {Q : Option PrinterInfo → List (Event δ) → World δ → Prop} :
    (readStatusPacket device).wp World.env Q w ↔
      Q ((w.script device.uri).reads.headD .empty).packet
        [⟨.deviceRead device, (w.script device.uri).reads.headD .empty⟩]
        (World.answer (.deviceRead device) w).2 := Iff.rfl

theorem reads_answer (device : Handle) (w : World δ) :
    ((World.answer (.deviceRead device) w).2.script device.uri).reads =
      (w.script device.uri).reads.tail := by
  simp only [World.answer, World.withScript, Function.update_self]

theorem poll_readStatusPacket (n : Nat) :
    (Prog.poll n (readStatusPacket device)).wp World.env
      (fun r _ w' => (r, (w'.script device.uri).reads) =
        firstPacket n (w.script device.uri).reads) w := by
  induction n generalizing w with
  | zero => rfl
  | succ n ih =>
    rw [Prog.poll, wp_bind, wp_readStatusPacket, firstPacket]
    cases ((w.script device.uri).reads.headD .empty).packet with
    | some packet =>
      rw [wp_ret, reads_answer]
    | none =>
      dsimp only
      rw [← reads_answer]
      exact ih

/-- Such a loop ends with the one packet that it has read. -/
theorem poll_readStatusPacket_packets (n : Nat) :
    (Prog.poll n (readStatusPacket device)).wp World.env
      (fun packet es _ => packets es = packet.toList) w := by
  induction n generalizing w with
  | zero => rfl
  | succ n ih =>
    rw [Prog.poll, wp_bind, wp_readStatusPacket]
    cases hpacket : ((w.script device.uri).reads.headD .empty).packet with
    | some packet =>
      rw [wp_ret, List.append_nil, packets_read, hpacket]
      rfl
    | none =>
      refine wp_mono ih (fun packet es _ hes => ?_)
      rw [List.singleton_append, packets_read, hpacket]
      exact hes

theorem waitForPrinterResume_reads (errorReasons : PrinterInfo → Reasons) (uri : String) :
    (waitForPrinterResume errorReasons device uri).wp World.env
      (fun ok _ w' => (ok, (w'.script device.uri).reads) =
        resumesWithin (120000 / 100) (w.script device.uri).reads) w := by
  have hpoll : ∀ n (w : World δ),
      (Prog.poll n (resumeAttempt errorReasons device uri)).wp World.env
        (fun r _ w' => (r.getD false, (w'.script device.uri).reads) =
          resumesWithin n (w.script device.uri).reads) w := by
    intro n
    induction n with
    | zero => exact fun _ => rfl
    | succ n ih =>
      intro w
      rw [Prog.poll, wp_bind, resumeAttempt, wp_bind, wp_readStatusPacket, resumesWithin,
        ← reads_answer]
      cases ((w.script device.uri).reads.headD .empty).packet with
      | none => exact ih (World.answer (.deviceRead device) w).2
      | some packet =>
        dsimp only
        rw [wp_bind, wp_applyPrinterStatus]
        split
        · rfl
        · split
          · rfl
          · exact ih (recorded errorReasons uri packet (World.answer (.deviceRead device) w).2)
  rw [waitForPrinterResume, wp_bind]
  exact hpoll (120000 / 100) w

end Reads

end Drivers
end BrThermal
