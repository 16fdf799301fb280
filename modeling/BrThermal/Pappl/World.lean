/-
The world the callbacks run in.

The shared maps of a driver, what PAPPL keeps for it, and one script per printer
that fixes how its device answers.  A script entry is consumed by the operation
it answers.  An exhausted script answers as an idle, healthy device does: writes
complete, reads find nothing, the device opens.  Any finite behaviour of a device
is some script, so a statement over all scripts is one over all behaviours.
-/
import Mathlib.Logic.Function.Basic
import BrThermal.Pappl.Call

namespace BrThermal
namespace Pappl

open Drivers

/-- How a device takes one write. -/
inductive WriteOutcome where
  /-- The whole command is accepted. -/
  | complete
  /-- Only the first `n` bytes are. -/
  | short (n : Nat)
  /-- The write returns -1 and no byte is accepted. -/
  | error
deriving DecidableEq

/-- What `papplDeviceWrite` returns for `data`. -/
def WriteOutcome.result (data : List UInt8) : WriteOutcome → Int
  | complete => data.length
  | short n => min n data.length
  | error => -1

/-- A read that finds nothing. -/
def ReadReply.empty : ReadReply := ⟨0, .zero 32⟩

structure DeviceScript where
  ids : List (Option DeviceId) := []
  opens : List Bool := []
  writes : List WriteOutcome := []
  reads : List ReadReply := []

structure World (δ : Type) where
  printerStatus : String → Option PrinterInfo
  printerStatusPolling : String → Option Bool
  reasons : String → Reasons
  jobData : Job → Option δ
  impressions : Job → Int32
  /-- The number of connections opened to each printer so far. -/
  handles : String → Nat
  script : String → DeviceScript

namespace World

variable {δ : Type}

/-- No callback has run yet. -/
def fresh (impressions : Job → Int32) : World δ where
  printerStatus := fun _ => none
  printerStatusPolling := fun _ => none
  reasons := fun _ => ∅
  jobData := fun _ => none
  impressions := impressions
  handles := fun _ => 0
  script := fun _ => {}

/-- Replace the script of the device at `uri`. -/
def withScript (w : World δ) (uri : String) (s : DeviceScript) : World δ :=
  { w with script := Function.update w.script uri s }

/-- The answer to a call and the world after it. -/
def answer : (c : Call δ) → World δ → c.Reply × World δ
  | .deviceGetID d, w =>
    let s := w.script d.uri
    (s.ids.headD none, w.withScript d.uri { s with ids := s.ids.tail })
  | .deviceWrite d data, w =>
    let s := w.script d.uri
    ((s.writes.headD .complete).result data,
      w.withScript d.uri { s with writes := s.writes.tail })
  | .deviceFlush _, w => ((), w)
  | .deviceRead d, w =>
    let s := w.script d.uri
    (s.reads.headD .empty, w.withScript d.uri { s with reads := s.reads.tail })
  | .deviceClose _, w => ((), w)
  | .printerOpenDevice uri, w =>
    let s := w.script uri
    let w := w.withScript uri { s with opens := s.opens.tail }
    if s.opens.headD true then
      (some (w.handles uri),
        { w with handles := Function.update w.handles uri (w.handles uri + 1) })
    else (none, w)
  | .printerCloseDevice _, w => ((), w)
  | .printerSetReasons uri reasons, w =>
    ((), { w with reasons := Function.update w.reasons uri reasons })
  | .jobGetImpressions job, w => (w.impressions job, w)
  | .jobGetData job, w => (w.jobData job, w)
  | .jobSetData job data, w => ((), { w with jobData := Function.update w.jobData job data })
  | .storeStatus uri info, w =>
    ((), { w with printerStatus := Function.update w.printerStatus uri (some info) })
  | .storePolling uri polling, w =>
    ((), { w with
      printerStatusPolling := Function.update w.printerStatusPolling uri (some polling) })
  | .loadPolling uri, w =>
    let polling := (w.printerStatusPolling uri).getD false
    (polling, { w with
      printerStatusPolling := Function.update w.printerStatusPolling uri (some polling) })

/-- The environment of every callback. -/
abbrev env : Effect.Handler (Call δ) Call.Reply (World δ) := answer

end World

/-- The value, the events and the final world of code run from `w`. -/
abbrev Code.value {δ α : Type} (p : Code δ α) (w : World δ) : α := (p.run World.env w).1

abbrev Code.final {δ α : Type} (p : Code δ α) (w : World δ) : World δ := (p.run World.env w).2

abbrev Code.trace {δ α : Type} (p : Code δ α) (w : World δ) : List (Event δ) :=
  p.events World.env w

theorem Code.value_bind {δ α β : Type} (p : Code δ α) (f : α → Code δ β) (w : World δ) :
    (p >>= f).value w = (f (p.value w)).value (p.final w) := by
  rw [Code.value, Effect.Prog.run_bind]

/-! ## What the trace shows -/

section Trace

variable {δ : Type}

/-- The bytes the device accepted in one event. -/
def Event.accepted : Event δ → List UInt8
  | ⟨.deviceWrite _ data, result⟩ => data.take (Int.toNat result)
  | _ => []

/-- The bytes the device accepted, in order. -/
def accepted (es : List (Event δ)) : List UInt8 := es.flatMap Event.accepted

@[simp] theorem accepted_cons (e : Event δ) (es : List (Event δ)) :
    accepted (e :: es) = e.accepted ++ accepted es := rfl

@[simp] theorem accepted_append (es fs : List (Event δ)) :
    accepted (es ++ fs) = accepted es ++ accepted fs := List.flatMap_append

end Trace

end Pappl
end BrThermal
