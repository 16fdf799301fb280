/-
Printers do not interfere.

Threads that call back into one driver share its two maps and PAPPL's state.
Each thread serves one printer, and its callbacks keep to that printer's keys, so
any schedule looks to a printer like the schedule of its own threads alone.
-/
import BrThermal.Drivers.Footprint
import BrThermal.Pappl.View

namespace BrThermal
namespace Drivers

open Effect Effect.Prog Pappl

/-- A callback with the job and the connection PAPPL makes it on. -/
structure Request where
  job : Nat
  device : Nat
  callback : Callback

/-- A thread that serves the printer at `uri`: it makes its requests in order and
returns what each returned. -/
def serve {δ : Type} (callbacks : Callbacks δ) (uri : String) :
    List Request → Code δ (List Bool)
  | [] => return []
  | r :: rs => do
    let result ← callbacks.code uri r.job r.device r.callback
    let results ← serve callbacks uri rs
    return result :: results

/-- The bytes written to the device of one printer, as the device accepted them. -/
def stream {τ δ : Type} (uri : String) (trace : List (τ × Event δ)) : List UInt8 :=
  accepted ((trace.map Prod.snd).filter fun e => e.1.printer = uri)

/-- Where every event concerns the printer of its thread, a printer's stream is
that of its threads. -/
theorem stream_of_owner {τ δ : Type} {owner : τ → String} {trace : List (τ × Event δ)}
    (htrace : ∀ e ∈ trace, e.2.1.printer = owner e.1) (uri : String) :
    stream uri trace = accepted ((trace.filter fun e => owner e.1 = uri).map Prod.snd) := by
  rw [stream, List.filter_map]
  refine congrArg (fun es => accepted (List.map Prod.snd es)) (List.filter_congr fun e he => ?_)
  rw [Function.comp_apply, htrace e he]

theorem asks_serve (d : Driver) (uri : String) (requests : List Request) :
    (serve d.callbacks uri requests).Asks fun c => c.printer = uri := by
  induction requests with
  | nil => exact asks_ret _
  | cons r rs ih =>
    exact asks_bind (Driver.asks_code_printer uri r.job r.device r.callback)
      (fun result => asks_bind ih (fun results => asks_ret _))

/-- For every schedule and every printer: the programs of its threads (and so
every value a callback returned), the bytes written to its device, its reasons
and its entries in both maps are what the steps of its own threads alone make of
them. -/
theorem printers_isolated {τ : Type} [DecidableEq τ] (d : Driver) (owner : τ → String)
    (requests : τ → List Request) (w : World d.JobData) (schedule : List τ) (uri : String) :
    let pool : Pool τ (Call d.JobData) Call.Reply (List Bool) (World d.JobData) :=
      { state := w, prog := fun t => serve d.callbacks (owner t) (requests t) }
    let own := schedule.filter fun t => owner t = uri
    let together := pool.run World.env schedule
    let alone := pool.run World.env own
    (∀ t, owner t = uri → together.prog t = alone.prog t) ∧
      stream uri (pool.trace World.env schedule) = stream uri (pool.trace World.env own) ∧
      together.state.reasons uri = alone.state.reasons uri ∧
      together.state.printerStatus uri = alone.state.printerStatus uri ∧
      together.state.printerStatusPolling uri = alone.state.printerStatusPolling uri := by
  intro pool own together alone
  have hasks : ∀ t, (pool.prog t).Asks fun c => c.printer = owner t :=
    fun t => asks_serve d (owner t) (requests t)
  have hstart : Pool.Agree World.view owner uri pool pool := ⟨rfl, fun _ _ => rfl⟩
  obtain ⟨hagree, htrace⟩ := Pool.run_isolated World.env_local schedule hasks hstart
  have hstate := hagree.state
  refine ⟨hagree.prog, ?_, congrArg PrinterView.reasons hstate,
    congrArg PrinterView.status hstate, congrArg PrinterView.polling hstate⟩
  rw [stream_of_owner (Pool.trace_of_asks schedule hasks),
    stream_of_owner (Pool.trace_of_asks own hasks), ← htrace, List.filter_filter]
  simp only [Bool.and_self]

end Drivers
end BrThermal
