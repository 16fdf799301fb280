/-
One printer's part of the world.

The shared maps are keyed by device URI and jobs belong to printers, so the world
splits into one `PrinterView` per printer.  A call changes the view of the printer
it concerns and no other, and that view alone decides its answer.
-/
import BrThermal.Effect.Threads
import BrThermal.Pappl.World

namespace BrThermal
namespace Pappl

open Drivers Effect

structure PrinterView (δ : Type) where
  status : Option PrinterInfo
  polling : Option Bool
  reasons : Reasons
  jobData : Nat → Option δ
  impressions : Nat → Int32
  handles : Nat
  script : DeviceScript

namespace World

variable {δ : Type}

def view (uri : String) (w : World δ) : PrinterView δ where
  status := w.printerStatus uri
  polling := w.printerStatusPolling uri
  reasons := w.reasons uri
  jobData := fun id => w.jobData ⟨uri, id⟩
  impressions := fun id => w.impressions ⟨uri, id⟩
  handles := w.handles uri
  script := w.script uri

/-- A call leaves the view of every other printer as it was. -/
theorem view_answer_of_ne (c : Call δ) (w : World δ) (uri : String) (hne : uri ≠ c.printer) :
    view uri (answer c w).2 = view uri w := by
  cases c with
  | printerOpenDevice u =>
    rw [Call.printer] at hne
    simp only [answer]
    split <;> simp only [view, withScript, Function.update_of_ne hne]
  | jobSetData job data =>
    have hjob : ∀ id, (⟨uri, id⟩ : Job) ≠ job := fun id h => hne (congrArg Job.printer h)
    simp only [answer, view, Function.update_of_ne (hjob _)]
  | deviceGetID | deviceWrite | deviceRead | printerSetReasons | storeStatus | storePolling
  | loadPolling =>
    rw [Call.printer] at hne
    simp only [answer, view, withScript, Function.update_of_ne hne]
  | _ => rfl

theorem view_final_of_ne {α : Type} {uri u : String} {p : Code δ α}
    (hp : p.Asks fun c => c.printer = uri) (hne : u ≠ uri) (w : World δ) :
    view u (p.final w) = view u w := by
  have hstep : ∀ (c : Call δ) (w : World δ), c.printer = uri → view u (env c w).2 = view u w :=
    fun c w hc => view_answer_of_ne c w u (by rwa [hc])
  exact Prog.run_of_asks (R := fun w w' : World δ => view u w' = view u w) (fun _ => rfl)
    (fun _ _ _ hab hbc => Eq.trans hbc hab) hstep hp w

/-- Two worlds with one view of a printer answer a call to it alike and still have
one view of it afterwards. -/
theorem answer_congr (c : Call δ) {w w' : World δ}
    (h : view c.printer w = view c.printer w') :
    (answer c w).1 = (answer c w').1 ∧
      view c.printer (answer c w).2 = view c.printer (answer c w').2 := by
  simp only [view, PrinterView.mk.injEq] at h
  obtain ⟨hstatus, hpolling, hreasons, hdata, himpressions, hhandles, hscript⟩ := h
  cases c with
  | printerOpenDevice uri =>
    simp only [Call.printer] at *
    simp only [answer, hscript]
    split <;> simp only [view, withScript, Function.update_self, *] <;> exact ⟨trivial, trivial⟩
  | jobSetData job data =>
    simp only [Call.printer] at *
    simp only [answer, view, *]
    refine ⟨trivial, ?_⟩
    congr 1
    funext id
    by_cases hid : (⟨job.printer, id⟩ : Job) = job
    · rw [hid, Function.update_self, Function.update_self]
    · rw [Function.update_of_ne hid, Function.update_of_ne hid]
      exact congrFun hdata id
  | jobGetImpressions job => exact ⟨congrFun himpressions job.id, by simp only [answer, view, *]⟩
  | jobGetData job => exact ⟨congrFun hdata job.id, by simp only [answer, view, *]⟩
  | _ =>
    simp only [Call.printer] at *
    simp only [answer, view, withScript, Function.update_self, *]
    trivial

theorem env_local : Pool.Local (env : Handler (Call δ) Call.Reply (World δ)) Call.printer view where
  frame c w uri hne := view_answer_of_ne c w uri hne.symm
  answer c _ _ h := (answer_congr c h).1
  change c _ _ h := (answer_congr c h).2

end World
end Pappl
end BrThermal
