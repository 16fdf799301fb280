/-
What becomes of the packets a driver reads.

A read consumes the packet it returns, so a packet that is not recorded is gone.
`Kept` says that the printer's state is what its hearing calls for; code that
`Records` keeps it so.  Between the read of a packet and `applyPrinterStatus` the
two disagree, and `Owes` is the same notion for code that starts there.
-/
import BrThermal.Drivers.Device
import BrThermal.Drivers.Session
import BrThermal.Pappl.Hearing

namespace BrThermal
namespace Drivers

open Effect Effect.Prog Pappl

variable {δ : Type}

section Records

variable (errorReasons : PrinterInfo → Reasons) (uri : String)

/-- The reasons that the last packet heard calls for. -/
def heardReasons : Option PrinterInfo → Reasons
  | none => ∅
  | some packet => statusReasons errorReasons packet

structure Kept (h : Hearing) (w : World δ) : Prop where
  status : w.printerStatus uri = h.packet
  reasons : w.reasons uri = heardReasons errorReasons h.packet ∨
    h.failed = true ∧ w.reasons uri = {.other, .offline}

def Records {α : Type} (p : Code δ α) : Prop :=
  ∀ w h, Kept errorReasons uri h w →
    p.wp World.env (fun _ es w' => Kept errorReasons uri (h.hearAll uri es) w') w

def Owes {α : Type} (packet : PrinterInfo) (p : Code δ α) : Prop :=
  ∀ (w : World δ) (h : Hearing), h.packet = some packet → h.failed = false →
    p.wp World.env (fun _ es w' => Kept errorReasons uri (h.hearAll uri es) w') w

/-- The calls that neither read nor record. -/
def Silent : Call δ → Prop
  | .deviceRead _ | .storeStatus _ _ | .printerSetReasons _ _ => False
  | _ => True

variable {errorReasons uri}

theorem kept_answer_of_silent {h : Hearing} {c : Call δ} {w : World δ} (hc : Silent c)
    (hw : Kept errorReasons uri h w) : Kept errorReasons uri h (World.answer c w).2 := by
  cases c with
  | deviceRead | storeStatus | printerSetReasons => exact hc.elim
  | printerOpenDevice u =>
    simp only [World.answer]
    split <;> exact ⟨hw.status, hw.reasons⟩
  | _ => exact ⟨hw.status, hw.reasons⟩

theorem reads_of_silent {α : Type} {p : Code δ α} (hp : p.Asks Silent) (w : World δ) :
    reads (p.trace w) = [] := by
  rw [reads, List.filterMap_eq_nil_iff]
  intro e he
  have hsilent := events_of_asks hp w e he
  obtain ⟨c, reply⟩ := e
  cases c with
  | deviceRead => exact hsilent.elim
  | _ => rfl

theorem hearAll_of_silent {α : Type} {p : Code δ α} (hp : p.Asks Silent) (h : Hearing)
    (w : World δ) : h.SameStatus (h.hearAll uri (p.trace w)) :=
  Hearing.sameStatus_hearAll h (reads_of_silent hp w)

theorem Kept.congr {h h' : Hearing} {w : World δ} (hw : Kept errorReasons uri h w)
    (hsame : h.SameStatus h') : Kept errorReasons uri h' w := by
  obtain ⟨hpacket, hfailed⟩ := hsame
  constructor
  · rw [hpacket]
    exact hw.status
  · rw [hpacket, hfailed]
    exact hw.reasons

theorem kept_answer_read {h : Hearing} (device : Handle) {w : World δ}
    (hw : Kept errorReasons uri h w) :
    Kept errorReasons uri h (World.answer (.deviceRead device) w).2 := ⟨hw.status, hw.reasons⟩

/-- A read that finds no packet changes nothing that is kept. -/
theorem Kept.read_none {h : Hearing} {w : World δ} (hw : Kept errorReasons uri h w)
    {reply : ReadReply} (hreply : reply.packet = none) :
    Kept errorReasons uri (h.read reply) w := by
  simp only [Hearing.read, hreply]
  split
  · exact ⟨hw.status, hw.reasons.imp_right fun hr => ⟨rfl, hr.2⟩⟩
  · exact hw

section Rules

variable {α β : Type} {device : Handle}

theorem records_ret (a : α) : Records errorReasons uri (ret a : Code δ α) :=
  fun _ _ hw => hw

theorem records_of_silent {p : Code δ α} (hp : p.Asks Silent) : Records errorReasons uri p := by
  intro w h hw
  have hstep : ∀ (c : Call δ) w, Silent c → Kept errorReasons uri h w →
      Kept errorReasons uri h (World.env c w).2 := fun _ _ => kept_answer_of_silent
  have hkeep : Kept errorReasons uri h (p.final w) :=
    run_of_asks (R := fun w w' : World δ => Kept errorReasons uri h w → Kept errorReasons uri h w')
      (fun _ => id) (fun _ _ _ hab hbc => hbc ∘ hab) hstep hp w hw
  exact hkeep.congr (hearAll_of_silent hp h w)

theorem records_bind {p : Code δ α} {f : α → Code δ β} (hp : Records errorReasons uri p)
    (hf : ∀ a, Records errorReasons uri (f a)) : Records errorReasons uri (p >>= f) := by
  intro w h hw
  refine wp_seq (hp w h hw) (fun a es w' hw' => wp_mono (hf a w' _ hw') (fun _ es' w'' hw'' => ?_))
  rw [Hearing.hearAll_append]
  exact hw''

theorem owes_bind {packet : PrinterInfo} {p : Code δ α} {f : α → Code δ β} (hp : p.Asks Silent)
    (hf : ∀ a, Owes errorReasons uri packet (f a)) : Owes errorReasons uri packet (p >>= f) := by
  intro w h hpacket hfailed
  obtain ⟨hpacket', hfailed'⟩ : h.SameStatus (h.hearAll uri (p.trace w)) :=
    hearAll_of_silent hp h w
  refine wp_bind.mpr ?_
  show Kept errorReasons uri (h.hearAll uri (p.trace w ++ _)) _
  rw [Hearing.hearAll_append]
  exact hf (p.value w) (p.final w) _ (hpacket'.trans hpacket) (hfailed'.trans hfailed)

/-- `applyPrinterStatus` settles what is owed. -/
theorem owes_apply {packet : PrinterInfo} {f : Unit → Code δ β}
    (hf : Records errorReasons uri (f ())) :
    Owes errorReasons uri packet (applyPrinterStatus errorReasons uri packet >>= f) := by
  intro w h hpacket hfailed
  rw [wp_bind]
  refine hf (recorded errorReasons uri packet w) h ⟨?_, .inl ?_⟩
  · rw [hpacket]
    exact Function.update_self _ _ _
  · rw [hpacket]
    exact Function.update_self _ _ _

theorem records_read {f : Option PrinterInfo → Code δ β} (hdevice : device.uri = uri)
    (hnone : Records errorReasons uri (f none))
    (hsome : ∀ packet, Owes errorReasons uri packet (f (some packet))) :
    Records errorReasons uri (readStatusPacket device >>= f) := by
  intro w h hw
  rw [wp_bind, wp_readStatusPacket]
  have hread : ∀ reply, h.hear uri (⟨.deviceRead device, reply⟩ : Event δ) = h.read reply :=
    fun _ => if_pos hdevice
  simp only [List.singleton_append, Hearing.hearAll_cons, hread]
  cases hp : ((w.script device.uri).reads.headD .empty).packet with
  | none => exact hnone _ _ (kept_answer_read device (hw.read_none hp))
  | some packet =>
    rw [Hearing.read_of_packet h _ hp]
    exact hsome packet _ _ rfl rfl

/-- A loop that reads until a packet comes. -/
theorem records_poll_read {f : Option PrinterInfo → Code δ β} (hdevice : device.uri = uri)
    (hnone : Records errorReasons uri (f none))
    (hsome : ∀ packet, Owes errorReasons uri packet (f (some packet))) (n : Nat) :
    Records errorReasons uri (Prog.poll n (readStatusPacket device) >>= f) := by
  induction n with
  | zero => exact hnone
  | succ n ih =>
    rw [Prog.poll, bind_assoc]
    refine records_read hdevice ih (fun packet => ?_)
    exact hsome packet

theorem records_poll {body : Code δ (Option β)} (hbody : Records errorReasons uri body) (n : Nat) :
    Records errorReasons uri (Prog.poll n body) := by
  induction n with
  | zero => exact records_ret none
  | succ n ih =>
    refine records_bind hbody (fun r => ?_)
    cases r with
    | none => exact ih
    | some a => exact records_ret (some a)

/-- The connection that a call opens is one to its own printer. -/
theorem records_open {f : Option Handle → Code δ β} (hnone : Records errorReasons uri (f none))
    (hsome : ∀ serial, Records errorReasons uri (f (some ⟨uri, serial⟩))) :
    Records errorReasons uri (papplPrinterOpenDevice uri >>= f) := by
  have hopen : (Prog.call (Call.printerOpenDevice uri) : Code δ (Option Nat)).Asks Silent :=
    ⟨trivial, fun _ => trivial⟩
  refine records_bind (f := fun serial => f (Option.map (Handle.mk uri) serial))
    (records_of_silent hopen) (fun serial => ?_)
  cases serial with
  | none => exact hnone
  | some serial => exact hsome serial

end Rules

section Callbacks

variable {device : Handle}

theorem records_resumeAttempt (hdevice : device.uri = uri) :
    Records errorReasons uri (resumeAttempt errorReasons device uri : Code δ (Option Bool)) := by
  refine records_read hdevice (records_ret none) (fun packet => owes_apply ?_)
  split
  · exact records_ret _
  · split <;> exact records_ret _

theorem records_waitForPrinterResume (hdevice : device.uri = uri) :
    Records errorReasons uri (waitForPrinterResume errorReasons device uri : Code δ Bool) :=
  records_bind (records_poll (records_resumeAttempt hdevice) _) (fun _ => records_ret _)

theorem records_lineWritten (hdevice : device.uri = uri) :
    Records errorReasons uri (lineWritten errorReasons device uri : Code δ Bool) := by
  refine records_bind (records_of_silent (asks_call trivial)) (fun _ => ?_)
  refine records_read hdevice (records_ret true) (fun packet => owes_apply ?_)
  split
  · exact records_ret false
  · split
    · exact records_waitForPrinterResume hdevice
    · exact records_ret true

theorem records_writeAttempts (hdevice : device.uri = uri) (rasterCmd : List UInt8) (n : Nat) :
    Records errorReasons uri (writeAttempts errorReasons device uri rasterCmd n : Code δ Bool) := by
  induction n with
  | zero => exact records_ret false
  | succ n ih =>
    refine records_bind (records_of_silent (asks_call trivial)) (fun written => ?_)
    split
    · exact records_lineWritten hdevice
    · split
      · exact records_ret false
      · refine records_poll_read hdevice (records_ret false) (fun packet => owes_apply ?_) 20
        split
        · refine records_bind (records_waitForPrinterResume hdevice) (fun resumed => ?_)
          cases resumed with
          | true => exact ih
          | false => exact records_ret false
        · exact records_ret false

theorem records_pushedStatus :
    Records errorReasons uri (pushedStatus errorReasons uri : Code δ Bool) := by
  refine records_open (records_ret true) (fun serial => records_read rfl ?_ (fun packet => ?_))
  · exact records_of_silent ⟨trivial, fun _ => trivial⟩
  · exact owes_apply (records_of_silent ⟨trivial, fun _ => trivial⟩)

end Callbacks

end Records

theorem Pte550w.records_pulledStatus (uri : String) :
    Records Pte550w.errorReasons uri (Pte550w.pulledStatus uri) := by
  refine records_open (records_ret false) (fun serial => ?_)
  refine records_bind (records_of_silent (asks_writeToDevice trivial trivial trivial))
    (fun ok => ?_)
  cases ok with
  | false => exact records_of_silent ⟨trivial, fun _ => trivial⟩
  | true =>
    have hdevice : (⟨uri, serial⟩ : Handle).uri = uri := rfl
    rw [if_pos rfl]
    refine records_poll_read hdevice ?_ (fun packet => ?_) 100
    · exact records_of_silent ⟨trivial, fun _ => trivial⟩
    · exact owes_bind (asks_call trivial) (fun _ => owes_apply (records_ret true))

theorem Pte550w.records_getStatus (uri : String) :
    Records Pte550w.errorReasons uri (Pte550w.getStatus uri) := by
  refine records_bind (records_of_silent (asks_call trivial)) (fun polling => ?_)
  cases polling with
  | true => exact records_pushedStatus
  | false =>
    refine records_bind ?_ (fun did => ?_)
    · refine records_open (records_ret _) (fun serial => records_of_silent ?_)
      exact ⟨trivial, fun _ => ⟨trivial, fun _ => trivial⟩⟩
    · split
      · exact Pte550w.records_pulledStatus uri
      · exact records_ret true

/-! ## The probes of the td2000 driver -/

/-- No read at an odd position delivers a packet. -/
def ProbesSilent (replies : List ReadReply) : Prop :=
  ∀ i, ∀ reply ∈ replies[2 * i + 1]?, reply.packet = none

theorem ProbesSilent.drop {r₀ r₁ : ReadReply} {replies : List ReadReply}
    (h : ProbesSilent (r₀ :: r₁ :: replies)) : ProbesSilent replies :=
  fun i reply hreply => h (i + 1) reply hreply

namespace Td2000

variable {uri : String}

/-- `Records`, as long as no probe delivers a packet; `asking` where the code has opened
the device. -/
def RecordsUnprobed (uri : String) (asking : Bool) (p : Code JobData Bool) : Prop :=
  ∀ w h, (asking = true → h.asking = true) → Kept errorReasons uri h w →
    p.wp World.env (fun _ es w' =>
      ProbesSilent (reads es) → Kept errorReasons uri (h.hearAll uri es) w') w

variable {asking : Bool}

theorem recordsUnprobed_of_records {p : Code JobData Bool} (hp : Records errorReasons uri p) :
    RecordsUnprobed uri asking p := fun w h _ hw => wp_mono (hp w h hw) fun _ _ _ hk _ => hk

theorem recordsUnprobed_bind {α : Type} {p : Code JobData α} {f : α → Code JobData Bool}
    (hp : p.Asks Silent) (hopen : p.Asks fun c => c ≠ .printerCloseDevice uri)
    (hf : ∀ a, RecordsUnprobed uri asking (f a)) : RecordsUnprobed uri asking (p >>= f) := by
  intro w h hasking hw
  have hkept := records_of_silent hp w h hw
  have hstill : asking = true → (h.hearAll uri (p.trace w)).asking = true := fun ha =>
    Hearing.asking_hearAll (hasking ha) (events_of_asks hopen w)
  refine wp_bind.mpr ?_
  show ProbesSilent (reads (p.trace w ++ _)) →
    Kept errorReasons uri (h.hearAll uri (p.trace w ++ _)) _
  rw [reads_append, reads_of_silent hp, List.nil_append, Hearing.hearAll_append]
  exact hf (p.value w) (p.final w) _ hstill hkept

theorem recordsUnprobed_open {f : Option Handle → Code JobData Bool}
    (hnone : Records errorReasons uri (f none))
    (hsome : ∀ serial, RecordsUnprobed uri true (f (some ⟨uri, serial⟩))) :
    RecordsUnprobed uri asking (papplPrinterOpenDevice uri >>= f) := by
  intro w h hasking hw
  have hanswer := kept_answer_of_silent (c := Call.printerOpenDevice uri) trivial hw
  have hkept : ∀ serial : Option Nat, Kept errorReasons uri
      (h.hear uri (⟨.printerOpenDevice uri, serial⟩ : Event JobData)) _ := fun serial =>
    hanswer.congr (Hearing.sameStatus_hear h rfl)
  show ((Prog.call (Call.printerOpenDevice uri) : Code JobData (Option Nat)) >>=
    fun serial => f (Option.map (Handle.mk uri) serial)).wp World.env _ w
  rw [call_bind, wp_ask]
  cases (World.env (Call.printerOpenDevice (δ := JobData) uri) w).1 with
  | none => exact wp_mono (hnone _ _ (hkept none)) fun _ _ _ hk _ => hk
  | some serial =>
    refine hsome serial _ _ (fun _ => ?_) (hkept (some serial))
    rw [Hearing.hear, if_pos rfl]
    exact Bool.or_true _

/-- What an attempt that ends the polling loop leaves: a packet to record, or a
failure that was heard. -/
def Settles (uri : String) (h : Hearing) (es : List (Event JobData)) (w : World JobData) :
    Option PrinterInfo → Prop
  | some packet => (h.hearAll uri es).packet = some packet ∧ (h.hearAll uri es).failed = false
  | none => Kept errorReasons uri (h.hearAll uri es) w ∧ (h.hearAll uri es).failed = true

theorem Settles.append {h : Hearing} {es es' : List (Event JobData)} {w : World JobData}
    {a : Option PrinterInfo} (ha : Settles uri (h.hearAll uri es) es' w a) :
    Settles uri h (es ++ es') w a := by
  cases a with
  | none =>
    rw [Settles, Hearing.hearAll_append]
    exact ha
  | some packet =>
    rw [Settles, Hearing.hearAll_append]
    exact ha

theorem statusAttempt_settles {device : Handle} (hdevice : device.uri = uri) (w : World JobData)
    (h : Hearing) (hasking : h.asking = true) (hw : Kept errorReasons uri h w) :
    (statusAttempt device).wp World.env (fun r es w' =>
      (h.hearAll uri es).asking = true ∧ (∀ a ∈ r, Settles uri h es w' a) ∧
      (r = none → ∃ r₀ r₁, reads es = [r₀, r₁] ∧
        (r₁.packet = none → Kept errorReasons uri (h.hearAll uri es) w'))) w := by
  have hhear : ∀ (h : Hearing) reply, h.hear uri (⟨.deviceRead device, reply⟩ : Event JobData) =
      h.read reply := fun _ _ => if_pos hdevice
  have hasking₀ : ∀ reply, (h.read reply).asking = true := fun reply =>
    (Hearing.asking_read h reply).trans hasking
  have hasking₁ : ∀ reply reply', ((h.read reply).read reply').asking = true := fun reply reply' =>
    (Hearing.asking_read _ reply').trans (hasking₀ reply)
  rw [statusAttempt, wp_bind, wp_readStatusPacket]
  cases hp : ((w.script device.uri).reads.headD .empty).packet with
  | some packet =>
    refine ⟨?_, fun a ha => ?_, fun hnone => by cases hnone⟩
    · exact (congrArg Hearing.asking (hhear h _)).trans (hasking₀ _)
    · cases ha
      have hread := (hhear h _).trans (Hearing.read_of_packet h _ hp)
      exact ⟨congrArg Hearing.packet hread, congrArg Hearing.failed hread⟩
  | none =>
    have hw₀ := kept_answer_read device (hw.read_none hp)
    dsimp only
    rw [call_bind, wp_ask]
    split
    case isTrue hneg =>
      have hprobe := ReadReply.packet_of_neg hneg
      have hw₁ := kept_answer_read device (hw₀.read_none hprobe)
      simp only [Settles, List.singleton_append, Hearing.hearAll_cons, hhear]
      refine ⟨hasking₁ _ _, fun a ha => ?_, fun hnone => by cases hnone⟩
      cases ha
      exact ⟨hw₁, Hearing.failed_read hneg (hasking₀ _)⟩
    case isFalse =>
      simp only [List.singleton_append, Hearing.hearAll_cons, hhear]
      refine ⟨hasking₁ _ _, fun a ha => (by cases ha), fun _ => ⟨_, _, rfl, fun hnone => ?_⟩⟩
      exact kept_answer_read device (hw₀.read_none hnone)

theorem poll_settles {device : Handle} (hdevice : device.uri = uri) (n : Nat) :
    ∀ w h, h.asking = true → Kept errorReasons uri h w →
      (Prog.poll n (statusAttempt device)).wp World.env
        (fun r es w' => ProbesSilent (reads es) → (∀ a ∈ r, Settles uri h es w' a) ∧
          (r = none → Kept errorReasons uri (h.hearAll uri es) w')) w := by
  induction n with
  | zero => exact fun w h _ hw _ => ⟨fun a ha => (by cases ha), fun _ => hw⟩
  | succ n ih =>
    intro w h hasking hw
    refine wp_seq (statusAttempt_settles hdevice w h hasking hw) (fun r es w' hattempt => ?_)
    obtain ⟨hstill, hsettles, hgoes⟩ := hattempt
    cases r with
    | some a =>
      rw [wp_ret, List.append_nil]
      exact fun _ => ⟨hsettles, fun hnone => by cases hnone⟩
    | none =>
      obtain ⟨r₀, r₁, hreads, hkept⟩ := hgoes rfl
      by_cases hprobe : r₁.packet = none
      · refine wp_mono (ih w' _ hstill (hkept hprobe)) (fun r es' w'' hrest hsilent => ?_)
        rw [reads_append, hreads] at hsilent
        obtain ⟨hsettles', hkept'⟩ := hrest hsilent.drop
        refine ⟨fun a ha => (hsettles' a ha).append, fun hnone => ?_⟩
        rw [Hearing.hearAll_append]
        exact hkept' hnone
      · intro hsilent
        rw [reads_append, hreads] at hsilent
        exact absurd (hsilent 0 r₁ rfl) hprobe

theorem recordsUnprobed_getStatus : RecordsUnprobed uri false (getStatus uri) := by
  refine recordsUnprobed_bind (asks_call trivial) (asks_call fun h => nomatch h) (fun polling => ?_)
  cases polling with
  | true => exact recordsUnprobed_of_records records_pushedStatus
  | false =>
    refine recordsUnprobed_open (records_ret false) (fun serial => ?_)
    have hopen : (writeToDevice Commands.statusInformationRequest (some ⟨uri, serial⟩) :
        Code JobData Bool).Asks fun c => c ≠ .printerCloseDevice uri :=
      asks_writeToDevice (fun h => nomatch h) (fun h => nomatch h) (fun h => nomatch h)
    refine recordsUnprobed_bind (asks_writeToDevice trivial trivial trivial) hopen (fun ok => ?_)
    cases ok with
    | false => exact recordsUnprobed_of_records (records_of_silent ⟨trivial, fun _ => trivial⟩)
    | true =>
      intro w h hasking hw
      rw [if_pos rfl]
      have hdevice : (⟨uri, serial⟩ : Handle).uri = uri := rfl
      refine wp_seq (poll_settles hdevice 100 w h (hasking rfl) hw) (fun r es w' hpoll => ?_)
      -- what follows the loop reads nothing, so the condition is one on the loop
      have hloop : ∀ es', reads es' = [] → ProbesSilent (reads (es ++ es')) → _ :=
        fun es' hes' hsilent => hpoll (by rwa [reads_append, hes', List.append_nil] at hsilent)
      rcases r with _ | _ | received
      · intro hsilent
        obtain ⟨-, hkept⟩ := hloop _ rfl hsilent
        rw [Hearing.hearAll_append]
        have hclosed : Kept errorReasons uri (h.hearAll uri es) _ := kept_answer_of_silent
          (c := Call.printerCloseDevice uri) trivial (hkept rfl)
        exact hclosed.congr (Hearing.sameStatus_hearAll _ rfl)
      · intro hsilent
        obtain ⟨hkept, hfailed⟩ := (hloop _ rfl hsilent).1 none rfl
        have hfiled : Kept errorReasons uri (h.hearAll uri es)
            (World.answer (.printerSetReasons uri {.other, .offline}) w').2 :=
          ⟨hkept.status, .inr ⟨hfailed, Function.update_self _ _ _⟩⟩
        rw [Hearing.hearAll_append]
        exact hfiled.congr (Hearing.sameStatus_hearAll _ rfl)
      · intro hsilent
        obtain ⟨hpacket, hanswered⟩ := (hloop _ rfl hsilent).1 (some received) rfl
        rw [Hearing.hearAll_append]
        exact owes_bind (p := papplPrinterCloseDevice uri) (asks_call trivial)
          (fun _ => owes_apply (records_ret true)) w' _ hpacket hanswered

end Td2000

/-! ## Over a session -/

/-- The calls of a job that store no status. -/
def StoresNothing : Call δ → Prop
  | .storeStatus _ _ | .printerSetReasons _ _ => False
  | _ => True

/-- Code that stores nothing keeps the status if no read of it finds a packet. -/
theorem kept_of_storesNothing {α : Type} {errorReasons : PrinterInfo → Reasons} {uri : String}
    {p : Code δ α} (hp : p.Asks StoresNothing) {w : World δ} {h : Hearing}
    (hw : Kept errorReasons uri h w) (hreads : ∀ reply ∈ reads (p.trace w), reply.packet = none) :
    Kept errorReasons uri (h.hearAll uri (p.trace w)) (p.final w) := by
  have hstep : ∀ (c : Call δ) (w : World δ), StoresNothing c →
      (World.env c w).2.printerStatus = w.printerStatus ∧
        (World.env c w).2.reasons = w.reasons := by
    intro c w hc
    cases c with
    | storeStatus | printerSetReasons => exact hc.elim
    | printerOpenDevice u =>
      simp only [World.answer]
      split <;> exact ⟨rfl, rfl⟩
    | _ => exact ⟨rfl, rfl⟩
  obtain ⟨hstatus, hreasons⟩ := run_of_asks
    (R := fun w w' : World δ => w'.printerStatus = w.printerStatus ∧ w'.reasons = w.reasons)
    (fun _ => ⟨rfl, rfl⟩)
    (fun _ _ _ hab hbc => ⟨hbc.1.trans hab.1, hbc.2.trans hab.2⟩) hstep hp w
  obtain ⟨hpacket, hfailed⟩ := Hearing.packet_hearAll h hreads
  constructor
  · rw [Code.final, hstatus, hpacket]
    exact hw.status
  · rw [Code.final, hreasons, hpacket]
    exact hw.reasons.imp_right fun hr => ⟨hfailed hr.1, hr.2⟩

/-- No packet goes to a read that records none: a read of `startJob` or of the drain
of `endJob`, or a probe of the td2000 driver. -/
def NoneSwallowed (d : Driver) (s : Session d.JobData) (x : Step) : Prop :=
  ∀ r ∈ s.target x,
    let replies := reads ((d.callbacks.code x.uri r.job r.device x.callback).trace (s.before x))
    match x.callback with
    | .startJob _ | .endJob _ => ∀ reply ∈ replies, reply.packet = none
    | .getStatus => d = .td2000 → ProbesSilent replies
    | _ => True

/-- Each printer's status is the last packet heard of it, and its reasons are those
of that packet or of a read of `getStatus` that failed since. -/
def StatusKept (d : Driver) (s : Session d.JobData) : Prop :=
  ∀ uri, Kept d.errorReasons uri (Hearing.hearAll uri {} s.log) s.world

theorem Driver.records_writeLine (d : Driver) (uri : String) (job device : Nat)
    (options : PrOptions) (y : UInt32) (pixels : List UInt8) :
    Records d.errorReasons uri
      (d.callbacks.code uri job device (.writeLine options y pixels)) := by
  rw [Callbacks.code, Driver.writeLine_eq]
  refine records_bind (records_of_silent (asks_call trivial)) (fun jobData => ?_)
  cases jobData with
  | none => exact records_ret false
  | some jobData =>
    have hdevice : (⟨uri, device⟩ : Handle).uri = uri := rfl
    exact records_writeAttempts hdevice _ 2

theorem pageCalls_silent (job : Job) (device : Handle) :
    PageCalls (Silent : Call δ → Prop) job device :=
  ⟨fun _ _ => trivial, trivial, trivial, trivial, trivial⟩

theorem jobCalls_storesNothing (job : Job) (device : Handle) :
    JobCalls (StoresNothing : Call δ → Prop) job device :=
  ⟨⟨⟨fun _ _ => trivial, trivial, trivial, trivial, trivial⟩, trivial, fun _ => trivial,
    fun _ => trivial⟩, trivial, trivial⟩

section Step

variable {d : Driver} {s : Session d.JobData} {x : Step} {r : Running}

theorem Kept.before {uri : String} {h : Hearing} (hs : Kept d.errorReasons uri h s.world) :
    Kept d.errorReasons uri h (s.before x) := by
  rw [Session.before_eq]
  exact ⟨hs.status, hs.reasons⟩

/-- A callback keeps the status of its own printer. -/
theorem kept_own {h : Hearing} (ht : s.target x = some r) (hx : NoneSwallowed d s x)
    (hs : Kept d.errorReasons x.uri h s.world) :
    let code := d.callbacks.code x.uri r.job r.device x.callback
    Kept d.errorReasons x.uri (h.hearAll x.uri (code.trace (s.before x)))
      (code.final (s.before x)) := by
  have hw : Kept d.errorReasons x.uri h (s.before x) := hs.before
  have hheard := hx r ht
  obtain ⟨uri, callback, script⟩ := x
  cases callback with
  | startJob options =>
    exact kept_of_storesNothing (Driver.asks_startJob options (jobCalls_storesNothing _ _)) hw
      hheard
  | startPage options pageNumber =>
    exact records_of_silent (Driver.asks_startPage options (pageCalls_silent _ _) pageNumber) _ _ hw
  | writeLine options y pixels =>
    exact Driver.records_writeLine d uri r.job r.device options y pixels _ _ hw
  | endPage options pageNumber =>
    exact records_of_silent (Driver.asks_endPage options (pageCalls_silent _ _) pageNumber) _ _ hw
  | endJob options =>
    exact kept_of_storesNothing
      (Driver.asks_endJob options (jobCalls_storesNothing _ _).toEndCalls) hw hheard
  | getStatus =>
    cases d with
    | td2000 => exact Td2000.recordsUnprobed_getStatus _ _ (fun h => nomatch h) hw (hheard rfl)
    | pte550w => exact Pte550w.records_getStatus uri _ _ hw

/-- A callback is not heard of at another printer, and leaves its status alone. -/
theorem kept_elsewhere {uri : String} {h : Hearing} (hu : uri ≠ x.uri)
    (hs : Kept d.errorReasons uri h s.world) :
    let code := d.callbacks.code x.uri r.job r.device x.callback
    Kept d.errorReasons uri (h.hearAll uri (code.trace (s.before x)))
      (code.final (s.before x)) := by
  have hasks := Driver.asks_code_printer (d := d) x.uri r.job r.device x.callback
  have hview := (World.view_final_of_ne hasks hu (s.before x)).trans (s.view_before_of_ne x hu)
  have hdeaf : ∀ e ∈ (d.callbacks.code x.uri r.job r.device x.callback).trace (s.before x),
      e.1.printer ≠ uri := fun e he hprinter =>
    hu (hprinter.symm.trans (events_of_asks hasks (s.before x) e he))
  dsimp only
  rw [Hearing.hearAll_of_forall _ hdeaf]
  constructor
  · exact (congrArg PrinterView.status hview).trans hs.status
  · have hreasons : _ = s.world.reasons uri := congrArg PrinterView.reasons hview
    exact hs.reasons.imp (hreasons.trans ·) (And.imp_right (hreasons.trans ·))

theorem next_statusKept (hs : StatusKept d s) (hx : NoneSwallowed d s x) :
    StatusKept d (s.next d.callbacks x) := by
  refine Session.next_rule hs (fun r ht => fun u => ?_)
  simp only [Session.after, Hearing.hearAll_append]
  by_cases hu : u = x.uri
  · subst hu
    exact kept_own ht hx (hs x.uri)
  · exact kept_elsewhere hu (hs u)

end Step

/-- In every run in which no packet goes to a read that records none, each printer's
state is the one its last packet calls for whenever no callback is executing. -/
theorem reachable_statusKept {d : Driver} {impressions : Job → Int32} {s : Session d.JobData}
    (h : s.Reachable d.callbacks impressions (NoneSwallowed d)) : StatusKept d s := by
  induction h with
  | init => exact fun _ => ⟨rfl, .inl rfl⟩
  | next x h hx ih => exact next_statusKept ih hx

/-- An error packet: the cover is open. -/
def coverOpenPacket : PrinterInfo :=
  ⟨[0x80] ++ List.replicate 8 0 ++ [0x10] ++ List.replicate 8 0 ++ [0x02] ++
    List.replicate 13 0, rfl⟩

/-- A PT-E550W starts a job and reports an open cover to `getStatus` during it. -/
theorem reachable_statusKept_pushed :
    StatusKept .pte550w (((Session.init fun _ => 1).next Driver.pte550w.callbacks
      ⟨"usb://PT-E550W", .startJob oneLinePage, { ids := [some ⟨some "PT-E550W"⟩] }⟩).next
      Driver.pte550w.callbacks
      ⟨"usb://PT-E550W", .getStatus, { reads := [⟨32, coverOpenPacket⟩] }⟩) := by
  have hstart : NoneSwallowed .pte550w (Session.init fun _ => 1)
      ⟨"usb://PT-E550W", .startJob oneLinePage, { ids := [some ⟨some "PT-E550W"⟩] }⟩ := by
    rw [NoneSwallowed]
    dsimp only
    decide +kernel
  exact reachable_statusKept
    (.next _ (.next _ .init hstart) fun _ _ (h : Driver.pte550w = .td2000) => nomatch h)

/-- A TD-2020 reports an open cover after the print command, and `endJob` drops it. -/
theorem not_statusKept_drained :
    ¬∀ (d : Driver) (impressions : Job → Int32) (s : Session d.JobData),
      s.Reachable d.callbacks impressions Session.anyStep → StatusKept d s := by
  intro h
  have hend := h .td2000 _ _ (Session.reachable_run Driver.td2000.callbacks (fun _ => 1)
    (fun x (_ : x ∈ [
      ⟨"usb://TD-2020", .startJob oneLinePage, { ids := [some ⟨some "TD-2020"⟩] }⟩,
      ⟨"usb://TD-2020", .endJob oneLinePage, { reads := [⟨32, coverOpenPacket⟩] }⟩]) _ => trivial))
  have hstatus := (hend "usb://TD-2020").status
  revert hstatus
  decide +kernel

end Drivers
end BrThermal
