/-
What the device has when callbacks succeed, and when one fails.

Nothing is assumed of the device here: writes may fall short or fail and packets may
arrive at any time.  Code that writes its commands in order and stops at the first
refusal leaves a first part of its bytes at the device, and all of them where it
returns true.  A raster line is the one exception, because `writeLine` sends a
command again of which the device already has a part.
-/
import BrThermal.Codec.Truncation
import BrThermal.Drivers.PrintJob
import BrThermal.Drivers.StartJob

namespace BrThermal
namespace Drivers

open Effect Effect.Prog Pappl Codec

/-! ## Where a write breaks off -/

/-- A write that falls short does so at one of the lengths `K`. -/
def BreaksAt (K : Nat → Prop) (script : DeviceScript) : Prop := ∀ k, .short k ∈ script.writes → K k

theorem BreaksAt.of_suffix {K : Nat → Prop} {script script' : DeviceScript}
    (h : BreaksAt K script) (hwrites : script'.writes <:+ script.writes) : BreaksAt K script' :=
  fun k hk => h k (hwrites.mem hk)

/-- A write gives the device the whole command or breaks off. -/
theorem brokenOff_write {δ : Type} {K : Nat → Prop} {device : Handle} {data : List UInt8}
    {w : World δ} (hs : BreaksAt K (w.script device.uri)) :
    BrokenOff K [data] (data.take (World.answer (.deviceWrite device data) w).1.toNat) := by
  show BrokenOff K [data]
    (data.take (((w.script device.uri).writes.headD .complete).result data).toNat)
  have hall : BrokenOff K [data] data := by
    have hwhole := BrokenOff.whole (K := K) [data]
    rwa [List.flatten_singleton] at hwhole
  cases hw : (w.script device.uri).writes with
  | nil =>
    rw [List.headD_nil, WriteOutcome.result, Int.toNat_natCast, List.take_length]
    exact hall
  | cons outcome writes =>
    rw [List.headD_cons]
    cases outcome with
    | complete =>
      rw [WriteOutcome.result, Int.toNat_natCast, List.take_length]
      exact hall
    | short k =>
      have hk : K k := hs k (hw ▸ List.mem_cons_self)
      have htake : data.take (WriteOutcome.result data (.short k)).toNat = data.take k := by
        rw [WriteOutcome.result, List.take_eq_take_iff]
        omega
      have hbroken : BrokenOff K ([] ++ [data]) (List.flatten [] ++ data.take k) :=
        .within (List.prefix_refl _) hk
      rw [htake]
      exact hbroken
    | error => exact .nothing

/-! ## Code that may fail -/

section Delivers

variable {δ : Type} {device : Handle} {K : Nat → Prop}

/-- What code that is to send `commands`, and stops at the first refusal, leaves at the
device. -/
structure Delivers (K : Nat → Prop) (commands : List (List UInt8)) (ok : Bool)
    (es : List (Event δ)) : Prop where
  begun : BrokenOff K commands (accepted es)
  whole : ok = true → accepted es = commands.flatten

namespace Delivers

variable {commands commands' : List (List UInt8)} {ok : Bool} {es es' : List (Event δ)}

theorem of_eq (h : accepted es = commands.flatten) : Delivers K commands ok es :=
  ⟨h ▸ .whole commands, fun _ => h⟩

theorem append (h : Delivers K commands true es) (h' : Delivers K commands' ok es') :
    Delivers K (commands ++ commands') ok (es ++ es') := by
  have hwhole := h.whole rfl
  constructor
  · rw [accepted_append, hwhole]
    exact h'.begun.append_left commands
  · intro hok
    rw [accepted_append, hwhole, h'.whole hok, List.flatten_append]

theorem stop (h : Delivers K commands false es) (commands' : List (List UInt8)) :
    Delivers K (commands ++ commands') false es :=
  ⟨h.begun.append_right commands', fun hok => absurd hok Bool.false_ne_true⟩

end Delivers

theorem breaksAt_final {p : Code δ Bool} {w : World δ} (hs : BreaksAt K (w.script device.uri)) :
    BreaksAt K ((p.final w).script device.uri) := hs.of_suffix (leaves_final p w device.uri).writes

/-- `if (!p) return false;` in front of what sends the rest. -/
theorem delivers_guard {p q : Code δ Bool} {commands commands' : List (List UInt8)} {w : World δ}
    (hs : BreaksAt K (w.script device.uri))
    (hp : p.wp World.env (fun ok es _ => Delivers K commands ok es) w)
    (hq : ∀ w', BreaksAt K (w'.script device.uri) →
      q.wp World.env (fun ok es _ => Delivers K commands' ok es) w') :
    (do if ← p then q else return false).wp World.env
      (fun ok es _ => Delivers K (commands ++ commands') ok es) w := by
  have hleft : p.wp World.env (fun _ _ w' => BreaksAt K (w'.script device.uri)) w :=
    breaksAt_final hs
  refine wp_seq (wp_and hp hleft) (fun ok es w' h => ?_)
  obtain ⟨hes, hs'⟩ := h
  cases ok with
  | true =>
    rw [if_pos rfl]
    exact wp_mono (hq w' hs') (fun ok es' _ h' => hes.append h')
  | false =>
    rw [if_neg Bool.false_ne_true, pure_eq, wp_ret, List.append_nil]
    exact hes.stop commands'

theorem accepted_write (data : List UInt8) (result : Int) :
    Event.accepted (⟨.deviceWrite device data, result⟩ : Event δ) = data.take result.toNat := rfl

theorem writeToDevice_delivers (data : List UInt8) {w : World δ}
    (hs : BreaksAt K (w.script device.uri)) :
    (writeToDevice data (some device)).wp World.env
      (fun ok es _ => Delivers K [data] ok es) w := by
  rw [writeToDevice, call_bind, wp_ask]
  split
  case isTrue hshort =>
    refine ⟨?_, fun hok => absurd hok Bool.false_ne_true⟩
    rw [accepted_cons, accepted_write]
    exact (List.append_nil _).symm ▸ brokenOff_write hs
  case isFalse hwhole =>
    apply Delivers.of_eq
    rw [accepted_cons, not_not.mp hwhole, accepted_deviceWrite]
    rfl

theorem writeCommands_delivers (commands : List (List UInt8)) {w : World δ}
    (hs : BreaksAt K (w.script device.uri)) :
    (writeCommands commands device).wp World.env
      (fun ok es _ => Delivers K commands ok es) w := by
  induction commands generalizing w with
  | nil => exact Delivers.of_eq rfl
  | cons command commands ih =>
    exact delivers_guard hs (writeToDevice_delivers command hs) fun w' hs' => ih hs'

theorem delivers_writesNothing {p : Code δ Bool} (hp : p.Asks WritesNothing) (w : World δ) :
    p.wp World.env (fun ok es _ => Delivers K [] ok es) w :=
  Delivers.of_eq (accepted_of_asks hp w)

end Delivers

/-! ## One raster line -/

section Line

variable {δ : Type}

/-- The device takes some but not all of the command, and `writeLine` goes on to send
it again. -/
def Resends (command : List UInt8) (script : DeviceScript) : Prop :=
  let taken := (script.writes.headD .complete).result command
  0 < taken ∧ taken < command.length ∧ (retryReads script.reads).isSome

variable (errorReasons : PrinterInfo → Reasons) (device : Handle) (uri : String)
  (command : List UInt8)

/-- The last attempt gives the device the command as far as it gets. -/
theorem lastAttempt_delivers {K : Nat → Prop} {w : World δ}
    (hs : BreaksAt K (w.script device.uri)) :
    (writeAttempts errorReasons device uri command 1).wp World.env
      (fun ok es _ => Delivers K [command] ok es) w := by
  by_cases h : TakesFirst command (w.script device.uri)
  · refine wp_mono (attempt_taken errorReasons device uri command 0 w h) (fun ok es _ hes => ?_)
    exact Delivers.of_eq (hes.2.trans List.flatten_singleton.symm)
  · rw [wp_lastAttempt_refused errorReasons device uri command h]
    refine ⟨?_, fun hok => absurd hok Bool.false_ne_true⟩
    rw [accepted_cons, accepted_write]
    exact (List.append_nil _).symm ▸ brokenOff_write hs

/-- Unless part of the command is sent again, a line leaves the command at the device as
far as it got. -/
theorem attempts_delivers {K : Nat → Prop} {w : World δ} (hs : BreaksAt K (w.script device.uri))
    (hresends : ¬Resends command (w.script device.uri)) :
    (writeAttempts errorReasons device uri command 2).wp World.env
      (fun ok es _ => Delivers K [command] ok es) w := by
  by_cases h : TakesFirst command (w.script device.uri)
  · refine wp_mono (attempt_taken errorReasons device uri command 1 w h) (fun ok es _ hes => ?_)
    exact Delivers.of_eq (hes.2.trans List.flatten_singleton.symm)
  · have hlt : (World.answer (.deviceWrite device command) w).1 < (command.length : Int) :=
      lt_of_le_of_ne (result_le command ((w.script device.uri).writes.headD .complete)) h
    rw [wp_attempt_refused errorReasons device uri command h]
    refine wp_mono (awaitRetry_spec errorReasons device uri _) (fun ok es w' hok => ?_)
    simp only [World.answer, World.withScript, Function.update_self] at hok
    obtain ⟨hreads, hes, hwrites⟩ := hok
    cases ok with
    | false =>
      rw [if_neg Bool.false_ne_true, pure_eq, wp_ret, List.append_nil]
      refine ⟨?_, fun hok => absurd hok Bool.false_ne_true⟩
      rw [accepted_cons, accepted_write, hes]
      exact (List.append_nil _).symm ▸ brokenOff_write hs
    | true =>
      -- The command goes out again, so the device can have had nothing of it.
      have hnothing : (World.answer (.deviceWrite device command) w).1 ≤ 0 := by
        by_contra hpos
        refine hresends ⟨not_le.mp hpos, hlt, ?_⟩
        rw [hreads]
        rfl
      have hs' : BreaksAt K (w'.script device.uri) := by
        refine hs.of_suffix ?_
        rw [hwrites]
        exact List.tail_suffix _
      refine wp_mono (lastAttempt_delivers errorReasons device uri command hs')
        (fun ok es' _ h' => ?_)
      have hsame : accepted (⟨.deviceWrite device command,
          (World.answer (.deviceWrite device command) w).1⟩ :: (es ++ es')) = accepted es' := by
        rw [accepted_cons, accepted_write, Int.toNat_of_nonpos hnothing, List.take_zero,
          List.nil_append, accepted_append, hes, List.nil_append]
      exact ⟨hsame ▸ h'.begun, fun hok => hsame.trans (h'.whole hok)⟩

/-- Where a line goes through, what the device got ends with the command. -/
theorem attempts_suffix (w : World δ) :
    (writeAttempts errorReasons device uri command 2).wp World.env
      (fun ok es _ => ok = true → command <:+ accepted es) w := by
  by_cases h : TakesFirst command (w.script device.uri)
  · refine wp_mono (attempt_taken errorReasons device uri command 1 w h) (fun ok es _ hes _ => ?_)
    rw [hes.2]
  · rw [wp_attempt_refused errorReasons device uri command h]
    refine wp_mono (awaitRetry_spec errorReasons device uri _) (fun ok es w' hok => ?_)
    cases ok with
    | false => exact fun hok => absurd hok Bool.false_ne_true
    | true =>
      have hany : BreaksAt (fun _ => True) (w'.script device.uri) := fun _ _ => trivial
      refine wp_mono (lastAttempt_delivers errorReasons device uri command hany)
        (fun ok es' _ h' hok => ?_)
      rw [accepted_cons, accepted_append, h'.whole hok, List.flatten_singleton,
        ← List.append_assoc]
      exact List.suffix_append _ _

end Line

/-! ## The callbacks -/

section Callbacks

variable {d : Driver} {job : Job} {device : Handle} (options : PrOptions) {K : Nat → Prop}
  {w : World d.JobData}

theorem checkStatus_delivers (model : d.Model) {w : World d.JobData}
    (hs : BreaksAt K (w.script device.uri)) :
    (d.checkStatus model device).wp World.env
      (fun ok es _ => Delivers K (d.statusCommands model) ok es) w := by
  cases d with
  | td2000 => exact Delivers.of_eq rfl
  | pte550w =>
    rw [Driver.checkStatus, Driver.statusCommands, Pte550w.checkStatus]
    split
    case isTrue =>
      refine delivers_guard hs (writeToDevice_delivers _ hs) (fun w' _ => ?_)
      apply delivers_writesNothing
      refine asks_bind (asks_readStatusPacket trivial) (fun packet => ?_)
      cases packet <;> exact asks_ret _
    case isFalse => exact Delivers.of_eq rfl

theorem start_delivers (model : d.Model) {w : World d.JobData}
    (hs : BreaksAt K (w.script device.uri)) :
    (d.start model job device).wp World.env
      (fun ok es _ => Delivers K (d.startCommands model) ok es) w := by
  rw [startCommands_eq, ← List.append_nil (d.statusCommands model)]
  refine delivers_guard hs (writeCommands_delivers _ hs) (fun w' hs' => ?_)
  refine delivers_guard hs' (checkStatus_delivers model hs') (fun w'' _ => ?_)
  refine delivers_writesNothing (asks_bind (asks_call ?_) fun _ => ?_) w''
  · trivial
  · exact asks_bind (asks_call trivial) fun _ => asks_ret _

variable (job device) in
theorem startJob_delivers {name : String} {model : d.Model}
    (hs : BreaksAt K (w.script device.uri))
    (hid : (w.script device.uri).ids.headD none = some ⟨some name⟩)
    (hmodel : d.modelMap.lookup name = some model) :
    (d.callbacks.startJob (some job) (some options) (some device)).wp World.env
      (fun ok es w' => Delivers K (d.startCommands model) ok es ∧
        (ok = true → w'.jobData job = some (d.jobData model))) w := by
  have hanswer : (World.env (.deviceGetID device) w).1 = some ⟨some name⟩ := hid
  have hs' := hs.of_suffix (leaves_answer (.deviceGetID device) w device.uri).writes
  rw [Driver.startJob_eq, call_bind, wp_ask, hanswer]
  simp only [Option.getD_some, hmodel]
  refine wp_mono (wp_and (start_delivers model hs') (start_stores job device model _))
    (fun ok es w' h => ?_)
  obtain ⟨hdelivers, hstores⟩ := h
  refine ⟨⟨hdelivers.begun, hdelivers.whole⟩, fun hok => ?_⟩
  rw [(hstores.started hok).2.2]
  exact Function.update_self _ _ _

variable {jobData : d.JobData}

variable (device) in
theorem startPage_delivers (hs : BreaksAt K (w.script device.uri))
    (hdata : w.jobData job = some jobData) (pageNumber : UInt32) :
    (d.callbacks.startPage (some job) (some options) (some device) pageNumber).wp World.env
      (fun ok es _ => Delivers K ((d.pageCommands jobData options pageNumber).getD []) ok es ∧
        (ok = true → (d.pageCommands jobData options pageNumber).isSome)) w := by
  have hanswer : (World.env (.jobGetData job) w).1 = some jobData := hdata
  rw [Driver.startPage_eq]
  split
  case isTrue =>
    rw [call_bind, wp_ask, hanswer]
    dsimp only
    cases d.pageCommands jobData options pageNumber with
    | none => exact ⟨Delivers.of_eq rfl, fun hok => absurd hok Bool.false_ne_true⟩
    | some commands =>
      refine wp_mono (writeCommands_delivers commands hs) (fun ok es _ h => ?_)
      exact ⟨⟨h.begun, h.whole⟩, fun _ => rfl⟩
  case isFalse htype =>
    rw [pageCommands_of_takesMediaType options (Bool.eq_false_iff.mpr htype)]
    exact ⟨Delivers.of_eq rfl, fun hok => absurd hok Bool.false_ne_true⟩

/-- What is known of the attempts is known of the callback. -/
theorem writeLine_attempts (hdata : w.jobData job = some jobData) (y : UInt32)
    (pixels : List UInt8) {Q : Bool → List (Event d.JobData) → Prop}
    (h : (writeAttempts d.errorReasons device job.printer
      (d.rasterCommand jobData options.header pixels) 2).wp World.env
        (fun ok es _ => Q ok (⟨.jobGetData job, some jobData⟩ :: es)) w) :
    (d.callbacks.writeLine (some job) (some options) (some device) y (some pixels)).wp World.env
      (fun ok es _ => Q ok es) w := by
  have hanswer : (World.env (.jobGetData job) w).1 = some jobData := hdata
  rw [Driver.writeLine_eq, call_bind, wp_ask, hanswer]
  exact h

theorem writeLine_delivers (hs : BreaksAt K (w.script device.uri))
    (hdata : w.jobData job = some jobData) (y : UInt32) (pixels : List UInt8)
    (hresends : ¬Resends (d.rasterCommand jobData options.header pixels) (w.script device.uri)) :
    (d.callbacks.writeLine (some job) (some options) (some device) y (some pixels)).wp World.env
      (fun ok es _ => Delivers K [d.rasterCommand jobData options.header pixels] ok es) w := by
  apply writeLine_attempts options hdata y pixels
  refine wp_mono (attempts_delivers d.errorReasons device job.printer _ hs hresends)
    (fun ok es _ h => ?_)
  exact ⟨h.begun, h.whole⟩

variable (device) in
theorem endPage_delivers (hs : BreaksAt K (w.script device.uri)) (pageNumber : UInt32) :
    (d.callbacks.endPage (some job) (some options) (some device) pageNumber).wp World.env
      (fun ok es _ => Delivers K
        (if pageNumber < (w.impressions job).toUInt32 - 1 then [Commands.print] else []) ok es)
      w := by
  have hanswer : (World.env (.jobGetImpressions job) w).1 = w.impressions job := rfl
  have hs' := hs.of_suffix (leaves_answer (.jobGetImpressions job) w device.uri).writes
  rw [Driver.endPage_eq, endPage, call_bind, wp_ask, hanswer]
  dsimp only
  split
  · refine wp_mono (delivers_guard hs' (writeToDevice_delivers _ hs')
      (fun w' _ => delivers_writesNothing (asks_ret _) w')) (fun ok es _ h => ?_)
    exact ⟨h.begun, h.whole⟩
  · exact Delivers.of_eq rfl

theorem endJob_delivers (hs : BreaksAt K (w.script device.uri)) :
    (d.callbacks.endJob (some job) (some options) (some device)).wp World.env
      (fun ok es _ => Delivers K [Commands.printWithFeeding] ok es) w := by
  rw [Driver.endJob_eq, endJob]
  refine delivers_guard hs (writeToDevice_delivers _ hs) (fun w' _ => ?_)
  refine delivers_writesNothing (asks_bind (asks_poll (asks_drainAttempt trivial) _) fun _ => ?_) w'
  refine asks_bind (asks_call trivial) fun _ => ?_
  exact asks_bind (asks_call trivial) fun _ => asks_bind (asks_call trivial) fun _ => asks_ret _

end Callbacks

end Drivers
end BrThermal
