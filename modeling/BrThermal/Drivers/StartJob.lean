/-
`startJob`, all or nothing.

Everything that can fail comes before the two stores at the end: the device ID, the
model, each command and, on a PT-P710BT, the status exchange.  So a job that does
not start has left the shared maps and its data alone and has sent a first part of
the start sequence; one that starts has sent all of it.
-/
import BrThermal.Drivers.Footprint
import BrThermal.Drivers.Written

namespace BrThermal
namespace Drivers

open Effect Effect.Prog Pappl

/-! ## What does not change -/

section State

variable {δ : Type}

/-- The maps of the driver and the data of every job are the same. -/
structure SameState (w w' : World δ) : Prop where
  status : w'.printerStatus = w.printerStatus
  polling : w'.printerStatusPolling = w.printerStatusPolling
  jobData : w'.jobData = w.jobData

theorem SameState.refl (w : World δ) : SameState w w := ⟨rfl, rfl, rfl⟩

theorem SameState.trans {a b c : World δ} (hab : SameState a b) (hbc : SameState b c) :
    SameState a c :=
  ⟨hbc.status.trans hab.status, hbc.polling.trans hab.polling, hbc.jobData.trans hab.jobData⟩

/-- The calls that neither the maps nor the job data notice. -/
def Stateless : Call δ → Prop
  | .storeStatus _ _ | .storePolling _ _ | .loadPolling _ | .jobSetData _ _ => False
  | _ => True

theorem sameState_answer (c : Call δ) (w : World δ) (hc : Stateless c) :
    SameState w (World.answer c w).2 := by
  cases c with
  | storeStatus | storePolling | loadPolling | jobSetData => exact hc.elim
  | printerOpenDevice uri =>
    simp only [World.answer]
    split <;> exact ⟨rfl, rfl, rfl⟩
  | _ => exact ⟨rfl, rfl, rfl⟩

theorem sameState_of_asks {α : Type} {p : Code δ α} (hp : p.Asks Stateless) (w : World δ) :
    SameState w (p.final w) :=
  run_of_asks SameState.refl (fun _ _ _ => SameState.trans) sameState_answer hp w

theorem deviceCalls_stateless (device : Handle) :
    DeviceCalls (Stateless : Call δ → Prop) device :=
  ⟨⟨fun _ _ => trivial, trivial, trivial⟩, trivial, trivial⟩

end State

/-! ## What is sent -/

section Start

variable {d : Driver}

/-- The commands of the status exchange. -/
def Driver.statusCommands : (d : Driver) → d.Model → List (List UInt8)
  | td2000, _ => []
  | pte550w, variant =>
    if variant = .ptP710BT then [Pte550w.Commands.statusInformationRequest] else []

theorem startCommands_eq (model : d.Model) :
    d.startCommands model = d.openingCommands ++ d.statusCommands model := by
  cases d with
  | td2000 => exact (List.append_nil _).symm
  | pte550w => rfl

theorem checkStatus_writesUpTo (model : d.Model) (device : Handle) (w : World d.JobData) :
    (d.checkStatus model device).wp World.env
      (fun ok es _ => WritesUpTo (d.statusCommands model) ok es) w := by
  cases d with
  | td2000 => exact writesUpTo_nil rfl rfl
  | pte550w =>
    rw [Driver.checkStatus, Driver.statusCommands, Pte550w.checkStatus]
    split
    case isTrue =>
      refine writesUpTo_guard (writeToDevice_writesUpTo _ w) (fun w' => ?_)
      rw [wp_bind, wp_readStatusPacket]
      cases ((w'.script device.uri).reads.headD .empty).packet with
      | none => exact writesUpTo_nil rfl rfl
      | some packet => exact writesUpTo_nil rfl rfl
    case isFalse => exact writesUpTo_nil rfl rfl

/-! ## What is stored -/

variable (job : Job) (device : Handle)

/-- The stores at the end are made where the call returns true, and no others. -/
structure Stores (job : Job) (data : d.JobData) (w : World d.JobData) (ok : Bool)
    (w' : World d.JobData) : Prop where
  failed : ok = false → SameState w w'
  started : ok = true → w'.printerStatus = w.printerStatus ∧
    w'.printerStatusPolling = Function.update w.printerStatusPolling job.printer (some true) ∧
    w'.jobData = Function.update w.jobData job (some data)

theorem stores_guard {data : d.JobData} {p q : Code d.JobData Bool} (hp : p.Asks Stateless)
    (hq : ∀ w, q.wp World.env (fun ok _ w' => Stores job data w ok w') w) (w : World d.JobData) :
    (do if ← p then q else return false).wp World.env
      (fun ok _ w' => Stores job data w ok w') w := by
  have hsame : p.wp World.env (fun _ _ w' => SameState w w') w := sameState_of_asks hp w
  refine wp_seq hsame (fun ok es w' hsame => ?_)
  cases ok with
  | true =>
    rw [if_pos rfl]
    refine wp_mono (hq w') (fun ok _ w'' h => ?_)
    constructor
    · exact fun hok => hsame.trans (h.failed hok)
    · intro hok
      obtain ⟨hstatus, hpolling, hdata⟩ := h.started hok
      rw [hstatus, hpolling, hdata, hsame.status, hsame.polling, hsame.jobData]
      exact ⟨rfl, rfl, rfl⟩
  | false =>
    rw [if_neg Bool.false_ne_true]
    exact ⟨fun _ => hsame, fun hok => absurd hok Bool.false_ne_true⟩

theorem start_stores (model : d.Model) (w : World d.JobData) :
    (d.start model job device).wp World.env
      (fun ok _ w' => Stores job (d.jobData model) w ok w') w := by
  have hdevice := deviceCalls_stateless (δ := d.JobData) device
  refine stores_guard job (asks_writeCommands (fun _ _ => trivial) trivial trivial)
    (stores_guard job (Driver.asks_checkStatus hdevice model) (fun w => ?_)) w
  exact ⟨fun hok => absurd hok.symm Bool.false_ne_true, fun _ => ⟨rfl, rfl, rfl⟩⟩

theorem start_writesUpTo (model : d.Model) (w : World d.JobData) :
    (d.start model job device).wp World.env
      (fun ok es _ => WritesUpTo (d.startCommands model) ok es) w := by
  rw [startCommands_eq, ← List.append_nil (d.statusCommands model)]
  refine writesUpTo_guard (writeCommands_writesUpTo _ w) (fun w' => ?_)
  exact writesUpTo_guard (checkStatus_writesUpTo model device w')
    (fun w'' => writesUpTo_nil rfl rfl)

/-! ## The call -/

/-- The model that the device names, if the driver knows it. -/
def namedModel (d : Driver) (device : Handle) (w : World d.JobData) : Option d.Model :=
  ((w.script device.uri).ids.headD none).bind fun did => d.modelMap.lookup (did.mdl.getD "")

/-- The start sequence of that model. -/
def startSequence (d : Driver) (device : Handle) (w : World d.JobData) : List (List UInt8) :=
  ((namedModel d device w).map d.startCommands).getD []

/-- A call of `startJob` that returned `ok`, made the calls `es` and left `w'`. -/
structure AllOrNothing (d : Driver) (job : Job) (device : Handle) (w : World d.JobData) (ok : Bool)
    (es : List (Event d.JobData)) (w' : World d.JobData) : Prop where
  failed : ok = false → w'.printerStatus = w.printerStatus ∧
    w'.printerStatusPolling = w.printerStatusPolling ∧ w'.jobData = w.jobData ∧
      taken es <+: startSequence d device w
  started : ok = true → ∃ model, namedModel d device w = some model ∧
    written es = d.startCommands model ∧ taken es = d.startCommands model ∧
      w'.printerStatus = w.printerStatus ∧
      w'.printerStatusPolling =
        Function.update w.printerStatusPolling job.printer (some true) ∧
      w'.jobData = Function.update w.jobData job (some (d.jobData model))

/-- Whatever the device answers, takes and reports, a job starts in full or not at
all. -/
theorem startJob_allOrNothing (d : Driver) (job : Job) (options : PrOptions) (device : Handle)
    (w : World d.JobData) :
    (d.callbacks.startJob (some job) (some options) (some device)).wp World.env
      (AllOrNothing d job device w) w := by
  have hid : (World.env (.deviceGetID device) w).1 = (w.script device.uri).ids.headD none := rfl
  have hsame : SameState w (World.env (.deviceGetID device) w).2 :=
    sameState_answer (.deviceGetID device) w trivial
  have hfalse : ∀ did, AllOrNothing d job device w false [⟨.deviceGetID device, did⟩]
      (World.env (.deviceGetID device) w).2 := fun did =>
    ⟨fun _ => ⟨hsame.status, hsame.polling, hsame.jobData, List.nil_prefix⟩,
      fun hok => absurd hok Bool.false_ne_true⟩
  rw [Driver.startJob_eq, call_bind, wp_ask, hid]
  cases hdid : (w.script device.uri).ids.headD none with
  | none => exact hfalse none
  | some did =>
    have hnamed : namedModel d device w = d.modelMap.lookup (did.mdl.getD "") := by
      rw [namedModel, hdid]
      rfl
    dsimp only
    cases hmodel : d.modelMap.lookup (did.mdl.getD "") with
    | none => exact hfalse (some did)
    | some model =>
      rw [hmodel] at hnamed
      have hsequence : startSequence d device w = d.startCommands model := by
        rw [startSequence, hnamed]
        rfl
      refine wp_mono (wp_and (start_writesUpTo job device model _)
        (start_stores job device model _)) (fun ok es w' h => ?_)
      obtain ⟨hwrites, hstores⟩ := h
      constructor
      · intro hok
        have hkept := hsame.trans (hstores.failed hok)
        rw [hsequence]
        exact ⟨hkept.status, hkept.polling, hkept.jobData, hwrites.taken.trans hwrites.written⟩
      · intro hok
        obtain ⟨hstatus, hpolling, hdata⟩ := hstores.started hok
        rw [hsame.status] at hstatus
        rw [hsame.polling] at hpolling
        rw [hsame.jobData] at hdata
        subst hok
        exact ⟨model, hnamed, hwrites.written_eq, hwrites.whole rfl, hstatus, hpolling, hdata⟩

end Start

end Drivers
end BrThermal
