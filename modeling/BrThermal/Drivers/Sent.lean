/-
What the callbacks send to a device that takes every write.

The bytes of a callback are then a function of its arguments, the job data and the
page count PAPPL reports.  Packets the printer sends meanwhile do not change them:
they only decide what `startJob` and `writeLine` return.
-/
import BrThermal.Drivers.LineOnce
import BrThermal.Drivers.Session

namespace BrThermal
namespace Pappl

open Effect Effect.Prog

namespace DeviceScript

/-- Every write completes. -/
def Completes (s : DeviceScript) : Prop := ∀ o ∈ s.writes, o = .complete

/-- No status packet is pending. -/
def NothingPending (s : DeviceScript) : Prop := ∀ r ∈ s.reads, r.packet = none

/-- What is left of a script after some operations. -/
structure Leaves (s s' : DeviceScript) : Prop where
  writes : s'.writes <:+ s.writes
  reads : s'.reads <:+ s.reads

variable {s s' : DeviceScript}

theorem Leaves.completes (h : s.Leaves s') (hs : s.Completes) : s'.Completes :=
  fun o ho => hs o (h.writes.mem ho)

theorem Leaves.nothingPending (h : s.Leaves s') (hs : s.NothingPending) : s'.NothingPending :=
  fun r hr => hs r (h.reads.mem hr)

theorem Completes.headD (hs : s.Completes) : s.writes.headD .complete = .complete := by
  cases hw : s.writes with
  | nil => rfl
  | cons o writes => exact hs o (hw ▸ List.mem_cons_self)

theorem NothingPending.headD (hs : s.NothingPending) :
    (s.reads.headD .empty).packet = none := by
  cases hr : s.reads with
  | nil => decide
  | cons r reads => exact hs r (hr ▸ List.mem_cons_self)

end DeviceScript

section Frames

variable {δ α : Type}

theorem leaves_answer (c : Call δ) (w : World δ) (uri : String) :
    (w.script uri).Leaves ((World.answer c w).2.script uri) := by
  by_cases hu : uri = c.printer
  · subst hu
    cases c with
    | printerOpenDevice u =>
      simp only [World.answer, Call.printer]
      split <;> simp only [World.withScript, Function.update_self] <;>
        exact ⟨List.suffix_refl _, List.suffix_refl _⟩
    | deviceGetID | deviceRead | deviceWrite =>
      simp only [World.answer, World.withScript, Call.printer, Function.update_self]
      exact ⟨by first | exact List.suffix_refl _ | exact List.tail_suffix _,
        by first | exact List.suffix_refl _ | exact List.tail_suffix _⟩
    | _ => exact ⟨List.suffix_refl _, List.suffix_refl _⟩
  · have hscript : (World.answer c w).2.script uri = w.script uri :=
      congrArg PrinterView.script (World.view_answer_of_ne c w uri hu)
    rw [hscript]
    exact ⟨List.suffix_refl _, List.suffix_refl _⟩

/-- Code uses up the script of a device from its front. -/
theorem leaves_final (p : Code δ α) (w : World δ) (uri : String) :
    (w.script uri).Leaves ((p.final w).script uri) :=
  run_of_asks (R := fun w w' : World δ => (w.script uri).Leaves (w'.script uri))
    (fun _ => ⟨List.suffix_refl _, List.suffix_refl _⟩)
    (fun _ _ _ hab hbc => ⟨hbc.writes.trans hab.writes, hbc.reads.trans hab.reads⟩)
    (fun c w _ => leaves_answer c w uri) (asks_true p) w

theorem impressions_final (p : Code δ α) (w : World δ) :
    (p.final w).impressions = w.impressions := by
  refine run_of_asks (R := fun w w' : World δ => w'.impressions = w.impressions)
    (fun _ => rfl) (fun _ _ _ hab hbc => Eq.trans hbc hab) (fun c w _ => ?_) (asks_true p) w
  cases c with
  | printerOpenDevice uri =>
    simp only [World.answer]
    split <;> rfl
  | _ => rfl

def KeepsJobData : Call δ → Prop
  | .jobSetData _ _ => False
  | _ => True

theorem jobData_final {p : Code δ α} (hp : p.Asks KeepsJobData) (w : World δ) :
    (p.final w).jobData = w.jobData := by
  refine run_of_asks (R := fun w w' : World δ => w'.jobData = w.jobData)
    (fun _ => rfl) (fun _ _ _ hab hbc => Eq.trans hbc hab) (fun c w hc => ?_) hp w
  cases c with
  | jobSetData => exact hc.elim
  | printerOpenDevice uri =>
    simp only [World.answer]
    split <;> rfl
  | _ => rfl

end Frames

end Pappl

namespace Drivers

open Effect Effect.Prog Pappl

variable {δ : Type} {device : Handle}

/-! ## The device helpers -/

theorem takesFirst_of_completes {s : DeviceScript} (hs : s.Completes) (command : List UInt8) :
    TakesFirst command s := by
  rw [TakesFirst, hs.headD, WriteOutcome.result]

theorem accepted_deviceWrite (device : Handle) (data : List UInt8) :
    Event.accepted (⟨.deviceWrite device data, (data.length : Int)⟩ : Event δ) = data := by
  rw [Event.accepted, Int.toNat_natCast, List.take_length]

theorem writeToDevice_sent (data : List UInt8) {w : World δ}
    (hs : (w.script device.uri).Completes) :
    (writeToDevice data (some device)).wp World.env
      (fun ok es _ => ok = true ∧ accepted es = data) w := by
  refine wp_mono (writeToDevice_taken (takesFirst_of_completes hs data)) (fun ok es _ h => ?_)
  obtain ⟨hok, -, rfl⟩ := h
  rw [accepted_cons, accepted_deviceWrite]
  exact ⟨hok, List.append_nil data⟩

theorem writeCommands_sent {commands : List (List UInt8)} {w : World δ}
    (hs : (w.script device.uri).Completes) :
    (writeCommands commands device).wp World.env
      (fun ok es _ => ok = true ∧ accepted es = commands.flatten) w := by
  induction commands generalizing w with
  | nil => exact ⟨rfl, rfl⟩
  | cons command commands ih =>
    have hfirst := writeToDevice_sent command hs
    have hleft : (writeToDevice command (some device)).wp World.env
        (fun _ _ w' => (w'.script device.uri).Completes) w :=
      (leaves_final _ w device.uri).completes hs
    rw [writeCommands]
    refine wp_seq (wp_and hfirst hleft) (fun ok es w' h => ?_)
    obtain ⟨⟨rfl, hes⟩, hs'⟩ := h
    rw [if_pos rfl]
    refine wp_mono (ih hs') (fun ok es' _ h => ?_)
    rw [accepted_append, hes, h.2, List.flatten_cons]
    exact ⟨h.1, rfl⟩

/-! ## What a driver sends, as data -/

namespace Driver

/-- What a callback of a running job sends, given the page count. -/
def sent (d : Driver) (jobData : d.JobData) (pageCount : UInt32) : Callback → List UInt8
  | .startPage options pageNumber =>
    ((d.pageCommands jobData options pageNumber).getD []).flatten
  | .writeLine options _ pixels => d.rasterCommand jobData options.header pixels
  | .endPage _ pageNumber => if pageNumber < pageCount - 1 then Commands.print else []
  | .endJob _ => Commands.printWithFeeding
  | .startJob _ | .getStatus => []

end Driver

/-! ## The callbacks -/

namespace Pte550w

theorem checkStatus_sent (variant : ModelVariant) {w : World JobData}
    (hs : (w.script device.uri).Completes) :
    (checkStatus variant device).wp World.env
      (fun ok es _ => accepted es =
          (if variant = .ptP710BT then [Commands.statusInformationRequest] else []).flatten ∧
        ((w.script device.uri).NothingPending → ok = true)) w := by
  rw [checkStatus]
  split
  case isTrue =>
    have hleft : (writeToDevice Commands.statusInformationRequest (some device)).wp World.env
        (fun _ _ w' => (w.script device.uri).Leaves (w'.script device.uri)) w :=
      leaves_final _ w device.uri
    refine wp_seq (wp_and (writeToDevice_sent _ hs) hleft) (fun ok es w' h => ?_)
    obtain ⟨⟨rfl, hes⟩, hleaves⟩ := h
    rw [if_pos rfl, wp_bind, wp_readStatusPacket]
    cases hpacket : ((w'.script device.uri).reads.headD .empty).packet with
    | none =>
      refine ⟨?_, fun _ => rfl⟩
      rw [accepted_append, hes]
      rfl
    | some packet =>
      refine ⟨?_, fun hquiet => ?_⟩
      · rw [accepted_append, hes]
        rfl
      · rw [(hleaves.nothingPending hquiet).headD] at hpacket
        cases hpacket
  case isFalse => exact ⟨rfl, fun _ => rfl⟩

end Pte550w

section Callbacks

variable {d : Driver} (job : Job) (device) (options : PrOptions)

theorem checkStatus_sent (model : d.Model) {w : World d.JobData}
    (hs : (w.script device.uri).Completes) :
    (d.checkStatus model device).wp World.env
      (fun ok es _ => d.openingCommands.flatten ++ accepted es = (d.startCommands model).flatten ∧
        ((w.script device.uri).NothingPending → ok = true)) w := by
  cases d with
  | td2000 => exact ⟨List.append_nil _, fun _ => rfl⟩
  | pte550w =>
    refine wp_mono (Pte550w.checkStatus_sent model hs) (fun ok es _ h => ⟨?_, h.2⟩)
    rw [h.1]
    exact List.flatten_append.symm

/-- What `startJob` sends.  Where it returns true the job has its data, and only a
packet can keep it from that. -/
theorem startJob_sent {name : String} {model : d.Model} {w : World d.JobData}
    (hs : (w.script device.uri).Completes)
    (hid : (w.script device.uri).ids.headD none = some ⟨some name⟩)
    (hmodel : d.modelMap.lookup name = some model) :
    (d.callbacks.startJob (some job) (some options) (some device)).wp World.env
      (fun ok es w' => accepted es = (d.startCommands model).flatten ∧
        (ok = true → w'.jobData job = some (d.jobData model)) ∧
        ((w.script device.uri).NothingPending → ok = true)) w := by
  have hanswer : (World.env (.deviceGetID device) w).1 = some ⟨some name⟩ := hid
  have hid' := leaves_answer (.deviceGetID device) w device.uri
  have hleft : (writeCommands d.openingCommands device).wp World.env
      (fun _ _ w' => (w.script device.uri).Leaves (w'.script device.uri))
      (World.env (.deviceGetID device) w).2 := by
    have hleaves := leaves_final (writeCommands d.openingCommands device : Code d.JobData Bool)
      (World.env (.deviceGetID device) w).2 device.uri
    exact ⟨hleaves.writes.trans hid'.writes, hleaves.reads.trans hid'.reads⟩
  rw [Driver.startJob_eq, call_bind, wp_ask, hanswer]
  simp only [Option.getD_some, hmodel]
  refine wp_seq (wp_and (writeCommands_sent (hid'.completes hs)) hleft) (fun ok es w' h => ?_)
  obtain ⟨⟨rfl, hes⟩, hleaves⟩ := h
  rw [if_pos rfl]
  refine wp_seq (checkStatus_sent device model (hleaves.completes hs)) (fun ok es' w'' h => ?_)
  obtain ⟨hes', hok⟩ := h
  have hsent : accepted (es ++ es') = (d.startCommands model).flatten := by
    rw [accepted_append, hes, hes']
  cases ok with
  | true =>
    refine ⟨?_, fun _ => Function.update_self _ _ _, fun _ => rfl⟩
    rw [accepted_cons, ← List.append_assoc, accepted_append, hsent]
    exact List.append_nil _
  | false =>
    refine ⟨?_, fun h => absurd h Bool.false_ne_true,
      fun hquiet => hok (hleaves.nothingPending hquiet)⟩
    rw [accepted_cons, ← List.append_assoc, accepted_append, hsent]
    exact List.append_nil _

/-- There are no commands for a page whose media type `startPage` rejects. -/
theorem pageCommands_of_takesMediaType {jobData : d.JobData} {pageNumber : UInt32}
    (h : d.takesMediaType options.media.type = false) :
    d.pageCommands jobData options pageNumber = none := by
  cases d with
  | td2000 =>
    rw [Driver.takesMediaType, Option.isSome_eq_false_iff, Option.isNone_iff_eq_none] at h
    rw [Driver.pageCommands, h]
  | pte550w =>
    rw [Driver.takesMediaType, Bool.or_eq_false_iff] at h
    exact if_pos ⟨of_decide_eq_false h.1, of_decide_eq_false h.2⟩

variable {jobData : d.JobData} {w : World d.JobData}

theorem startPage_sent (hs : (w.script device.uri).Completes)
    (hdata : w.jobData job = some jobData) (pageNumber : UInt32) :
    (d.callbacks.startPage (some job) (some options) (some device) pageNumber).wp World.env
      (fun ok es _ => accepted es =
          ((d.pageCommands jobData options pageNumber).getD []).flatten ∧
        ok = (d.pageCommands jobData options pageNumber).isSome) w := by
  have hanswer : (World.env (.jobGetData job) w).1 = some jobData := hdata
  rw [Driver.startPage_eq]
  split
  case isTrue =>
    rw [call_bind, wp_ask, hanswer]
    dsimp only
    cases d.pageCommands jobData options pageNumber with
    | none => exact ⟨rfl, rfl⟩
    | some commands => exact wp_mono (writeCommands_sent hs) (fun ok es _ h => ⟨h.2, h.1⟩)
  case isFalse htype =>
    rw [pageCommands_of_takesMediaType options (Bool.eq_false_iff.mpr htype)]
    exact ⟨rfl, rfl⟩

theorem writeLine_sent (hs : (w.script device.uri).Completes)
    (hdata : w.jobData job = some jobData) (y : UInt32) (pixels : List UInt8) :
    (d.callbacks.writeLine (some job) (some options) (some device) y (some pixels)).wp World.env
      (fun _ es _ => accepted es = d.rasterCommand jobData options.header pixels) w := by
  have hanswer : (World.env (.jobGetData job) w).1 = some jobData := hdata
  rw [Driver.writeLine_eq, call_bind, wp_ask, hanswer]
  exact wp_mono (attempt_taken d.errorReasons device job.printer _ 1 w
    (takesFirst_of_completes hs _)) (fun ok es _ h => h.2)

theorem endPage_sent (hs : (w.script device.uri).Completes) (pageNumber : UInt32) :
    (d.callbacks.endPage (some job) (some options) (some device) pageNumber).wp World.env
      (fun _ es _ => accepted es =
        if pageNumber < (w.impressions job).toUInt32 - 1 then Commands.print else []) w := by
  have hanswer : (World.env (.jobGetImpressions job) w).1 = w.impressions job := rfl
  rw [Driver.endPage_eq, endPage, call_bind, wp_ask, hanswer]
  dsimp only
  split
  · refine wp_seq (writeToDevice_sent _ hs) (fun ok es _ h => ?_)
    obtain ⟨rfl, hes⟩ := h
    rw [if_pos rfl]
    exact (congrArg accepted (List.append_nil es)).trans hes
  · rfl

theorem endJob_sent (hs : (w.script device.uri).Completes) :
    (d.callbacks.endJob (some job) (some options) (some device)).wp World.env
      (fun _ es _ => accepted es = Commands.printWithFeeding) w := by
  have hdrain : (Prog.poll 200 (drainAttempt device) : Code d.JobData _).Asks WritesNothing :=
    asks_poll (asks_drainAttempt trivial) _
  rw [Driver.endJob_eq, endJob]
  refine wp_seq (writeToDevice_sent _ hs) (fun ok es w' h => ?_)
  obtain ⟨rfl, hes⟩ := h
  rw [if_pos rfl]
  have hquiet : (Prog.poll 200 (drainAttempt device) : Code d.JobData _).wp World.env
      (fun _ es' _ => accepted es' = []) w' := accepted_of_asks hdrain w'
  refine wp_seq hquiet (fun _ es' _ hes' => ?_)
  show accepted (es ++ (es' ++ [_, _, _])) = _
  rw [accepted_append, accepted_append, hes, hes']
  rfl

end Callbacks

end Drivers
end BrThermal
