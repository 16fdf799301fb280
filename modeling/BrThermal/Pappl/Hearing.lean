/-
What a printer has told its driver.

A hearing is what a log of calls says about one printer's status: the last
complete packet that any call read from its device, and whether a later read
failed outright while a connection from `papplPrinterOpenDevice` was open, which
is how `getStatus` reads.  It is computed from the log alone, whatever the code
made of what it read.
-/
import BrThermal.Drivers.Common
import BrThermal.Pappl.World

namespace BrThermal
namespace Pappl

open Drivers Effect Effect.Prog

variable {δ : Type}

theorem ReadReply.packet_of_neg {reply : ReadReply} (h : reply.result < 0) :
    reply.packet = none := by
  rw [ReadReply.packet, if_neg]
  omega

/-- The replies to the reads of a log, in order. -/
def reads (es : List (Event δ)) : List ReadReply :=
  es.filterMap fun
    | ⟨.deviceRead _, reply⟩ => some reply
    | _ => none

theorem reads_append (es fs : List (Event δ)) : reads (es ++ fs) = reads es ++ reads fs :=
  List.filterMap_append

/-- The packets read, in order. -/
def packets (es : List (Event δ)) : List PrinterInfo := (reads es).filterMap ReadReply.packet

theorem packets_append (es fs : List (Event δ)) :
    packets (es ++ fs) = packets es ++ packets fs := by
  rw [packets, reads_append, List.filterMap_append]
  rfl

theorem packets_read (device : Handle) (reply : ReadReply) (es : List (Event δ)) :
    packets (⟨.deviceRead device, reply⟩ :: es) = reply.packet.toList ++ packets es := by
  show List.filterMap ReadReply.packet (reply :: reads es) = _
  rw [List.filterMap_cons]
  cases reply.packet <;> rfl

/-- `asking` tells that a connection from `papplPrinterOpenDevice` is open. -/
structure Hearing where
  packet : Option PrinterInfo := none
  failed : Bool := false
  asking : Bool := false

namespace Hearing

def read (h : Hearing) (reply : ReadReply) : Hearing :=
  match reply.packet with
  | some packet => { h with packet := some packet, failed := false }
  | none => if reply.result < 0 ∧ h.asking = true then { h with failed := true } else h

theorem read_of_packet (h : Hearing) (reply : ReadReply) {packet : PrinterInfo}
    (hp : reply.packet = some packet) :
    h.read reply = { h with packet := some packet, failed := false } := by
  rw [read, hp]

@[simp] theorem asking_read (h : Hearing) (reply : ReadReply) :
    (h.read reply).asking = h.asking := by
  rw [read]
  split
  · rfl
  · split <;> rfl

theorem failed_read {h : Hearing} {reply : ReadReply} (hneg : reply.result < 0)
    (hasking : h.asking = true) : (h.read reply).failed = true := by
  rw [read, ReadReply.packet_of_neg hneg]
  exact congrArg failed (if_pos ⟨hneg, hasking⟩)

def hear (uri : String) (h : Hearing) : Event δ → Hearing
  | ⟨.deviceRead device, reply⟩ => if device.uri = uri then h.read reply else h
  | ⟨.printerOpenDevice u, serial⟩ =>
    if u = uri then { h with asking := h.asking || serial.isSome } else h
  | ⟨.printerCloseDevice u, _⟩ => if u = uri then { h with asking := false } else h
  | _ => h

def hearAll (uri : String) (h : Hearing) (es : List (Event δ)) : Hearing := es.foldl (hear uri) h

variable {uri : String}

@[simp] theorem hearAll_cons (h : Hearing) (e : Event δ) (es : List (Event δ)) :
    h.hearAll uri (e :: es) = (h.hear uri e).hearAll uri es := rfl

theorem hearAll_append (h : Hearing) (es fs : List (Event δ)) :
    h.hearAll uri (es ++ fs) = (h.hearAll uri es).hearAll uri fs := List.foldl_append

/-- Calls that concern other printers are not heard. -/
theorem hearAll_of_forall (h : Hearing) {es : List (Event δ)}
    (hes : ∀ e ∈ es, e.1.printer ≠ uri) : h.hearAll uri es = h := by
  induction es with
  | nil => rfl
  | cons e es ih =>
    have he := hes e List.mem_cons_self
    obtain ⟨c, reply⟩ := e
    have hsame : h.hear uri ⟨c, reply⟩ = h := by
      cases c with
      | deviceRead | printerOpenDevice | printerCloseDevice => exact if_neg he
      | _ => rfl
    rw [hearAll_cons, hsame]
    exact ih fun e he => hes e (List.mem_cons_of_mem _ he)

/-- The two hearings agree in what they report of the status. -/
def SameStatus (h h' : Hearing) : Prop := h'.packet = h.packet ∧ h'.failed = h.failed

theorem sameStatus_hear (h : Hearing) {e : Event δ} (he : reads [e] = []) :
    h.SameStatus (h.hear uri e) := by
  obtain ⟨c, reply⟩ := e
  cases c with
  | deviceRead device => cases he
  | printerOpenDevice | printerCloseDevice =>
    rw [hear]
    split <;> exact ⟨rfl, rfl⟩
  | _ => exact ⟨rfl, rfl⟩

/-- Without a read there is no news. -/
theorem sameStatus_hearAll (h : Hearing) {es : List (Event δ)} (hes : reads es = []) :
    h.SameStatus (h.hearAll uri es) := by
  induction es generalizing h with
  | nil => exact ⟨rfl, rfl⟩
  | cons e es ih =>
    rw [← List.singleton_append, reads_append, List.append_eq_nil_iff] at hes
    obtain ⟨hpacket, hfailed⟩ : h.SameStatus (h.hear uri e) := sameStatus_hear h hes.1
    obtain ⟨hpacket', hfailed'⟩ := ih (h.hear uri e) hes.2
    exact ⟨hpacket'.trans hpacket, hfailed'.trans hfailed⟩

/-- A connection stays open until it is closed. -/
theorem asking_hearAll {h : Hearing} (hasking : h.asking = true) {es : List (Event δ)}
    (hes : ∀ e ∈ es, e.1 ≠ .printerCloseDevice uri) : (h.hearAll uri es).asking = true := by
  induction es generalizing h with
  | nil => exact hasking
  | cons e es ih =>
    have he := hes e List.mem_cons_self
    obtain ⟨c, reply⟩ := e
    refine ih ?_ fun e he => hes e (List.mem_cons_of_mem _ he)
    cases c with
    | deviceRead device =>
      rw [hear]
      split
      · exact (asking_read h _).trans hasking
      · exact hasking
    | printerOpenDevice u =>
      rw [hear]
      split
      · exact congrArg (· || _) hasking
      · exact hasking
    | printerCloseDevice u =>
      have hu : u ≠ uri := fun hu => he (congrArg Call.printerCloseDevice hu)
      rw [hear, if_neg hu]
      exact hasking
    | _ => exact hasking

/-- Where no read finds a packet, only a failure can be news. -/
theorem packet_hearAll (h : Hearing) {es : List (Event δ)}
    (hes : ∀ reply ∈ reads es, reply.packet = none) :
    (h.hearAll uri es).packet = h.packet ∧
      (h.failed = true → (h.hearAll uri es).failed = true) := by
  induction es generalizing h with
  | nil => exact ⟨rfl, id⟩
  | cons e es ih =>
    have hsame : (h.hear uri e).packet = h.packet ∧
        (h.failed = true → (h.hear uri e).failed = true) := by
      obtain ⟨c, reply⟩ := e
      cases c with
      | deviceRead device =>
        have hnone : ReadReply.packet reply = none := hes reply List.mem_cons_self
        simp only [hear, read, hnone]
        split
        · split
          · exact ⟨rfl, fun _ => rfl⟩
          · exact ⟨rfl, id⟩
        · exact ⟨rfl, id⟩
      | _ => exact (sameStatus_hear h rfl).imp_right fun hsame => hsame.trans
    obtain ⟨hpacket, hfailed⟩ := ih (h.hear uri e) fun reply hreply => by
      refine hes reply ?_
      rw [← List.singleton_append, reads_append]
      exact List.mem_append_right _ hreply
    rw [hearAll_cons]
    exact ⟨hpacket.trans hsame.1, fun hf => hfailed (hsame.2 hf)⟩

end Hearing

end Pappl
end BrThermal
