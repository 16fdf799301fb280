/-
Which reply answers a status request.

In pull mode `getStatus` sends ESC i S and reads until a packet comes.  The td2000
driver reads twice in each attempt: the second read, the probe, only tells a failure
from silence, and what it reads is dropped.  So the packet that answers the request
is the first at a first read, which is the first of all unless a probe had one before.
-/
import BrThermal.Drivers.Footprint
import BrThermal.Drivers.Written

namespace BrThermal
namespace Drivers

open Effect Effect.Prog Pappl

variable {δ : Type}

/-- The first packet at a first read within `n` attempts of two reads each. -/
def answeredPacket : Nat → List ReadReply → Option PrinterInfo
  | 0, _ => none
  | n + 1, reads =>
    match (reads.headD .empty).packet with
    | some packet => some packet
    | none => answeredPacket n reads.tail.tail

/-- An attempt that is answered has read a packet. -/
theorem firstPacket_of_answered {n : Nat} {reads : List ReadReply}
    (h : (firstPacket (2 * n) reads).1 = none) : answeredPacket n reads = none := by
  induction n generalizing reads with
  | zero => rfl
  | succ n ih =>
    rw [show 2 * (n + 1) = 2 * n + 1 + 1 by omega, firstPacket] at h
    rw [answeredPacket]
    cases hpacket : (reads.headD .empty).packet with
    | some packet =>
      rw [hpacket] at h
      cases h
    | none =>
      rw [hpacket, firstPacket] at h
      dsimp only at h
      cases hprobe : (reads.tail.headD .empty).packet with
      | some probe =>
        rw [hprobe] at h
        cases h
      | none =>
        rw [hprobe] at h
        exact ih h

namespace Driver

/-- The packet that answers a request to the device. -/
def answer : Driver → List ReadReply → Option PrinterInfo
  | td2000, reads => answeredPacket 100 reads
  | pte550w, reads => (firstPacket 100 reads).1

/-- The first packet that any read finds. -/
def firstRead : Driver → List ReadReply → Option PrinterInfo
  | td2000, reads => (firstPacket 200 reads).1
  | pte550w, reads => (firstPacket 100 reads).1

theorem answer_eq_none {d : Driver} {reads : List ReadReply} (h : d.firstRead reads = none) :
    d.answer reads = none := by
  cases d with
  | td2000 => exact firstPacket_of_answered h
  | pte550w => exact h

end Driver

/-! ## What a log shows of a request -/

/-- ESC i S was written whole. -/
def Requested (es : List (Event δ)) : Prop := Commands.statusInformationRequest ∈ taken es

/-- No read failed outright. -/
def NoReadFails (es : List (Event δ)) : Prop := ∀ reply ∈ reads es, 0 ≤ reply.result

theorem noReadFails_append {es fs : List (Event δ)} :
    NoReadFails (es ++ fs) ↔ NoReadFails es ∧ NoReadFails fs := by
  rw [NoReadFails, reads_append, List.forall_mem_append]
  rfl

/-- Whether a call changes the status of a printer. -/
def isStore : Call δ → Bool
  | .storeStatus _ _ | .printerSetReasons _ _ => true
  | _ => false

/-- The changes made to the status of printers, in order. -/
def stores (es : List (Event δ)) : List (Call δ) := (es.map Sigma.fst).filter isStore

theorem stores_append (es fs : List (Event δ)) : stores (es ++ fs) = stores es ++ stores fs := by
  rw [stores, List.map_append, List.filter_append]
  rfl

/-- What `applyPrinterStatus` does. -/
def applied (errorReasons : PrinterInfo → Reasons) (uri : String) (packet : PrinterInfo) :
    List (Call δ) :=
  [.storeStatus uri packet, .printerSetReasons uri (statusReasons errorReasons packet)]

/-- The first packet read is applied, and nothing else is, and the call returns true. -/
def AnswersFirst (errorReasons : PrinterInfo → Reasons) (uri : String) (ok : Bool)
    (es : List (Event δ)) : Prop :=
  ∀ packet, (packets es).head? = some packet →
    ok = true ∧ stores es = applied errorReasons uri packet

/-- What comes of a request, given the replies of the device. -/
structure Answered (d : Driver) (uri : String) (replies : List ReadReply) (ok : Bool)
    (es : List (Event d.JobData)) : Prop where
  first : (packets es).head? = d.firstRead replies
  value : ok = (d.answer replies).isSome
  stores : Drivers.stores es = ((d.answer replies).map (applied d.errorReasons uri)).getD []

theorem Answered.answersFirst_iff {d : Driver} {uri : String} {replies : List ReadReply} {ok : Bool}
    {es : List (Event d.JobData)} (h : Answered d uri replies ok es) :
    AnswersFirst d.errorReasons uri ok es ↔ d.answer replies = d.firstRead replies := by
  obtain ⟨hfirst, hvalue, hstores⟩ := h
  rw [AnswersFirst, hfirst, hvalue, hstores]
  constructor
  · intro hanswers
    cases hread : d.firstRead replies with
    | none => exact Driver.answer_eq_none hread
    | some packet =>
      obtain ⟨hsome, hsame⟩ := hanswers packet hread
      obtain ⟨answered, hanswer⟩ := Option.isSome_iff_exists.mp hsome
      rw [hanswer] at hsame ⊢
      exact congrArg some (Call.storeStatus.inj (List.cons.inj hsame).1).2
  · intro hsame packet hpacket
    rw [hsame, hpacket]
    exact ⟨rfl, rfl⟩

/-! ## Code that answers a request -/

/-- The call is not ESC i S. -/
def NotRequest (c : Call δ) : Prop :=
  ∀ device, c ≠ .deviceWrite device Commands.statusInformationRequest

/-- The calls that neither write, read nor store. -/
def Aside : Call δ → Prop
  | .deviceWrite _ _ | .deviceRead _ | .storeStatus _ _ | .printerSetReasons _ _ => False
  | _ => True

section Rules

variable {d : Driver} {uri : String}

/-- If the code writes a request and no read of it fails, what comes of it is what the
replies of the device make of it. -/
def AnswersRequest (d : Driver) (uri : String) (p : Code d.JobData Bool) : Prop :=
  ∀ w, p.wp World.env (fun ok es _ =>
    Requested es → NoReadFails es → Answered d uri (w.script uri).reads ok es) w

theorem not_requested {α : Type} {p : Code δ α} (hp : p.Asks NotRequest) (w : World δ) :
    ¬Requested (p.trace w) := by
  intro hrequested
  obtain ⟨⟨c, r⟩, he, htaken⟩ := List.mem_filterMap.mp hrequested
  have hc := events_of_asks hp w _ he
  cases c with
  | deviceWrite device data =>
    rw [Event.taken, Option.ite_none_right_eq_some] at htaken
    exact hc device (congrArg _ (Option.some.inj htaken.2))
  | _ => cases htaken

theorem answersRequest_of_asks {p : Code d.JobData Bool} (hp : p.Asks NotRequest) :
    AnswersRequest d uri p := fun w hrequested => absurd hrequested (not_requested hp w)

theorem answersRequest_ask {c : Call d.JobData} {k : c.Reply → Code d.JobData Bool} (hc : Aside c)
    (hk : ∀ r, AnswersRequest d uri (k r)) : AnswersRequest d uri (ask c k) := by
  intro w
  have hreads : ((World.env c w).2.script uri).reads = (w.script uri).reads := by
    cases c with
    | deviceWrite | deviceRead | storeStatus | printerSetReasons => exact hc.elim
    | deviceGetID device =>
      by_cases hu : uri = device.uri
      · subst hu
        simp only [World.answer, World.withScript, Function.update_self]
      · simp only [World.answer, World.withScript, Function.update_of_ne hu]
    | printerOpenDevice u =>
      by_cases hu : uri = u
      · subst hu
        simp only [World.answer]
        split <;> simp only [World.withScript, Function.update_self]
      · simp only [World.answer]
        split <;> simp only [World.withScript, Function.update_of_ne hu]
    | _ => rfl
  rw [wp_ask]
  refine wp_mono (hk _ _) (fun ok es _ h hrequested hnofail => ?_)
  rw [hreads] at h
  cases c with
  | deviceWrite | deviceRead | storeStatus | printerSetReasons => exact hc.elim
  | _ =>
    obtain ⟨hfirst, hvalue, hstores⟩ := h hrequested hnofail
    exact ⟨hfirst, hvalue, hstores⟩

/-- `if (!util::writeToDevice(request)) ...` in front of a loop that reads. -/
theorem answersRequest_write {p q : Code d.JobData Bool} {device : Handle}
    (hdevice : device.uri = uri)
    (hp : ∀ w, p.wp World.env (fun ok es _ =>
      NoReadFails es → Answered d uri (w.script uri).reads ok es) w)
    (hq : q.Asks NotRequest) :
    AnswersRequest d uri (do
      if ← writeToDevice Commands.statusInformationRequest (some device) then p else q) := by
  subst hdevice
  intro w
  by_cases h : TakesFirst Commands.statusInformationRequest (w.script device.uri)
  · refine wp_seq (writeToDevice_taken h) (fun ok es w' hok => ?_)
    obtain ⟨rfl, rfl, rfl⟩ := hok
    rw [if_pos rfl]
    refine wp_mono (hp _) (fun ok es _ hes _ hnofail => ?_)
    simp only [World.answer, World.withScript, Function.update_self] at hes
    obtain ⟨hfirst, hvalue, hstores⟩ := hes hnofail
    exact ⟨hfirst, hvalue, hstores⟩
  · have hanswer : (World.env (.deviceWrite device Commands.statusInformationRequest) w).1 ≠
        (Commands.statusInformationRequest.length : Int) := h
    have hrest : (papplDeviceClose device >>= fun _ => q).Asks NotRequest :=
      ⟨fun _ h => (by cases h), fun _ => hq⟩
    rw [writeToDevice, call_bind, ask_bind, wp_ask, if_pos hanswer]
    intro hrequested
    rw [Requested, taken_write, if_neg hanswer] at hrequested
    exact absurd hrequested (not_requested hrest _)

end Rules

/-! ## The loops -/

section Loops

variable {uri : String} {device : Handle}

/-- An attempt of the td2000 driver, when no read fails. -/
theorem Td2000.statusAttempt_reads (w : World JobData) :
    (statusAttempt device).wp World.env (fun r es w' => NoReadFails es →
      match ((w.script device.uri).reads.headD .empty).packet with
      | some packet => r = some (some packet) ∧ packets es = [packet]
      | none => r = none ∧
          packets es = ((w.script device.uri).reads.tail.headD .empty).packet.toList ∧
          (w'.script device.uri).reads = (w.script device.uri).reads.tail.tail) w := by
  rw [statusAttempt, wp_bind, wp_readStatusPacket, ← reads_answer, ← reads_answer]
  cases hpacket : ((w.script device.uri).reads.headD .empty).packet with
  | some packet =>
    refine fun _ => ⟨rfl, (packets_read _ _ []).trans ?_⟩
    rw [hpacket]
    rfl
  | none =>
    dsimp only
    rw [call_bind, wp_ask]
    by_cases hneg : (World.env (.deviceRead device)
      (World.answer (.deviceRead device) w).2).1.result < 0
    · rw [if_pos hneg]
      intro hnofail
      have hprobe := hnofail _ (List.mem_cons_of_mem _ List.mem_cons_self)
      exact absurd hneg (not_lt_of_ge hprobe)
    · rw [if_neg hneg]
      refine fun _ => ⟨rfl, ?_, rfl⟩
      rw [List.singleton_append, packets_read, packets_read, hpacket]
      exact List.append_nil _

theorem Td2000.poll_statusAttempt (n : Nat) (w : World JobData) :
    (Prog.poll n (statusAttempt device)).wp World.env (fun r es _ => NoReadFails es →
      r = (answeredPacket n (w.script device.uri).reads).map some ∧
      (packets es).head? = (firstPacket (2 * n) (w.script device.uri).reads).1) w := by
  induction n generalizing w with
  | zero => exact fun _ => ⟨rfl, rfl⟩
  | succ n ih =>
    refine wp_seq (statusAttempt_reads w) (fun r es w' hattempt => ?_)
    rw [answeredPacket, show 2 * (n + 1) = 2 * n + 1 + 1 by omega, firstPacket]
    cases hpacket : ((w.script device.uri).reads.headD .empty).packet with
    | some packet =>
      rw [hpacket] at hattempt
      cases r with
      | none =>
        intro hnofail
        cases (hattempt (noReadFails_append.mp hnofail).1).1
      | some a =>
        rw [wp_ret, List.append_nil]
        intro hnofail
        obtain ⟨hr, hes⟩ := hattempt hnofail
        rw [hes]
        exact ⟨hr, rfl⟩
    | none =>
      rw [hpacket] at hattempt
      cases r with
      | some a =>
        rw [wp_ret, List.append_nil]
        exact fun hnofail => by cases (hattempt hnofail).1
      | none =>
        refine wp_mono (ih w') (fun r es' _ hrest hnofail => ?_)
        obtain ⟨hfirst, hlater⟩ := noReadFails_append.mp hnofail
        obtain ⟨-, hes, hreads⟩ := hattempt hfirst
        obtain ⟨hr, hhead⟩ := hrest hlater
        rw [hreads] at hr hhead
        refine ⟨hr, ?_⟩
        dsimp only
        rw [firstPacket, packets_append, hes]
        cases ((w.script device.uri).reads.tail.headD .empty).packet with
        | some probe => rfl
        | none => exact hhead

theorem stores_of_asks {α : Type} {p : Code δ α} (hp : p.Asks fun c => isStore c = false)
    (w : World δ) : stores (p.trace w) = [] := by
  rw [stores, List.filter_eq_nil_iff, List.forall_mem_map]
  exact fun e he => Bool.eq_false_iff.mp (events_of_asks hp w e he)

variable {d : Driver} {replies : List ReadReply} {es : List (Event d.JobData)}

/-- The end of a request that was answered. -/
theorem answered_some {packet : PrinterInfo} (hanswer : d.answer replies = some packet)
    (hfirst : (packets es).head? = d.firstRead replies) (hstores : stores es = []) :
    Answered d uri replies true (es ++ [⟨.printerCloseDevice uri, ()⟩,
      ⟨.storeStatus uri packet, ()⟩,
      ⟨.printerSetReasons uri (statusReasons d.errorReasons packet), ()⟩]) := by
  constructor
  · rw [packets_append, ← hfirst]
    exact congrArg List.head? (List.append_nil _)
  · rw [hanswer]
    rfl
  · rw [stores_append, hstores, hanswer]
    rfl

/-- The end of a request that was not. -/
theorem answered_none (hanswer : d.answer replies = none)
    (hfirst : (packets es).head? = d.firstRead replies) (hstores : stores es = []) :
    Answered d uri replies false (es ++ [⟨.printerCloseDevice uri, ()⟩]) := by
  constructor
  · rw [packets_append, ← hfirst]
    exact congrArg List.head? (List.append_nil _)
  · rw [hanswer]
    rfl
  · rw [stores_append, hstores, hanswer]
    rfl

end Loops

theorem statusStores_notRequest (uri : String) :
    StatusStores (NotRequest : Call δ → Prop) uri :=
  ⟨fun _ _ h => (nomatch h), fun _ _ h => (nomatch h)⟩

theorem pushedStatus_notRequest (errorReasons : PrinterInfo → Reasons) (uri : String) :
    (pushedStatus errorReasons uri : Code δ Bool).Asks NotRequest :=
  asks_pushedStatus errorReasons (fun _ h => (nomatch h)) (fun _ _ h => (nomatch h))
    (fun _ h => (nomatch h)) (statusStores_notRequest uri)

theorem readStatusPacket_isStore (device : Handle) :
    (readStatusPacket device : Code δ (Option PrinterInfo)).Asks fun c => isStore c = false :=
  ⟨rfl, fun _ => trivial⟩

theorem Td2000.statusAttempt_isStore (device : Handle) :
    (statusAttempt device).Asks fun c => isStore c = false := by
  refine asks_bind (readStatusPacket_isStore device) (fun packet => ?_)
  cases packet with
  | some packet => exact asks_ret _
  | none =>
    refine asks_bind (asks_call rfl) (fun probe => ?_)
    split <;> exact asks_ret _

/-- In push mode no request is written, so only the pull branch has to answer one. -/
theorem answersRequest_unlessPushed {d : Driver} {uri : String} {pulled : Code d.JobData Bool}
    (hpulled : AnswersRequest d uri pulled) :
    AnswersRequest d uri (do
      if ← loadPrinterStatusPolling uri then pushedStatus d.errorReasons uri else pulled) := by
  rw [call_bind]
  refine answersRequest_ask trivial (fun polling => ?_)
  cases polling with
  | true => exact answersRequest_of_asks (pushedStatus_notRequest d.errorReasons uri)
  | false => exact hpulled

theorem Td2000.answersRequest_pulledStatus (uri : String) :
    AnswersRequest .td2000 uri (pulledStatus uri) := by
  rw [pulledStatus, ask_bind]
  refine answersRequest_ask trivial (fun serial => ?_)
  cases serial with
  | none => exact answersRequest_of_asks (asks_ret false)
  | some serial =>
    refine answersRequest_write rfl (fun w => ?_) ⟨fun _ h => (nomatch h), fun _ => trivial⟩
    have hstores : (Prog.poll 100 (statusAttempt ⟨uri, serial⟩)).wp World.env
        (fun _ es _ => stores es = []) w :=
      stores_of_asks (asks_poll (statusAttempt_isStore _) 100) w
    refine wp_seq (wp_and hstores (poll_statusAttempt 100 w)) (fun r es w' h => ?_)
    obtain ⟨hes, hpoll⟩ := h
    -- what follows the loop reads nothing
    rcases r with _ | _ | received
    · intro hnofail
      obtain ⟨hanswer, hfirst⟩ := hpoll (noReadFails_append.mp hnofail).1
      exact answered_none (Option.map_eq_none_iff.mp hanswer.symm) hfirst hes
    · intro hnofail
      obtain ⟨hanswer, -⟩ := hpoll (noReadFails_append.mp hnofail).1
      obtain ⟨_, -, hnone⟩ := Option.map_eq_some_iff.mp hanswer.symm
      cases hnone
    · intro hnofail
      obtain ⟨hanswer, hfirst⟩ := hpoll (noReadFails_append.mp hnofail).1
      obtain ⟨packet, hpacket, hsome⟩ := Option.map_eq_some_iff.mp hanswer.symm
      cases hsome
      exact answered_some hpacket hfirst hes

theorem Td2000.answersRequest_getStatus (uri : String) :
    AnswersRequest .td2000 uri (getStatus uri) :=
  answersRequest_unlessPushed (answersRequest_pulledStatus uri)

theorem Pte550w.answersRequest_pulledStatus (uri : String) :
    AnswersRequest .pte550w uri (pulledStatus uri) := by
  rw [pulledStatus, ask_bind]
  refine answersRequest_ask trivial (fun serial => ?_)
  cases serial with
  | none => exact answersRequest_of_asks (asks_ret false)
  | some serial =>
    refine answersRequest_write rfl (fun w => ?_) ⟨fun _ h => (nomatch h), fun _ => trivial⟩
    have hstores : (Prog.poll 100 (readStatusPacket ⟨uri, serial⟩)).wp World.env
        (fun _ es _ => stores es = []) w :=
      stores_of_asks (asks_poll (readStatusPacket_isStore _) 100) w
    refine wp_seq (wp_and hstores (wp_and (poll_readStatusPacket 100)
      (poll_readStatusPacket_packets 100))) (fun r es w' h _ => ?_)
    obtain ⟨hes, hpoll, hpackets⟩ := h
    have hanswer : Driver.answer .pte550w (w.script uri).reads = r :=
      (congrArg Prod.fst hpoll).symm
    cases r with
    | none =>
      have hhead : (packets es).head? = none := congrArg List.head? hpackets
      exact answered_none hanswer (hhead.trans hanswer.symm) hes
    | some received =>
      have hhead : (packets es).head? = some received := congrArg List.head? hpackets
      exact answered_some hanswer (hhead.trans hanswer.symm) hes

theorem Pte550w.answersRequest_getStatus (uri : String) :
    AnswersRequest .pte550w uri (getStatus uri) := by
  have hmodel : ∀ did : DeviceId, AnswersRequest .pte550w uri
      (if modelVariantMap.lookup (did.mdl.getD "") = some .ptP710BT then pulledStatus uri
        else return true) := by
    intro did
    split
    · exact answersRequest_pulledStatus uri
    · exact answersRequest_of_asks (asks_ret true)
  refine answersRequest_unlessPushed ?_
  rw [statusDeviceID, ask_bind, ask_bind]
  refine answersRequest_ask trivial (fun serial => ?_)
  cases serial with
  | none => exact hmodel ⟨none⟩
  | some serial =>
    exact answersRequest_ask trivial fun did => answersRequest_ask trivial fun _ =>
      hmodel (did.getD ⟨none⟩)

theorem Driver.answersRequest_getStatus (d : Driver) (uri : String) :
    AnswersRequest d uri (d.callbacks.getStatus uri) := by
  cases d with
  | td2000 => exact Td2000.answersRequest_getStatus uri
  | pte550w => exact Pte550w.answersRequest_getStatus uri

/-- A status request that is written, and no read of which fails, is answered with the
first packet that any read finds: always by the pte550w driver, and by the td2000 driver
unless a probe is the first to find one. -/
theorem getStatus_answersFirst_iff (d : Driver) (uri : String) (w : World d.JobData)
    (hrequested : Requested ((d.callbacks.getStatus uri).trace w))
    (hnofail : NoReadFails ((d.callbacks.getStatus uri).trace w)) :
    AnswersFirst d.errorReasons uri ((d.callbacks.getStatus uri).value w)
        ((d.callbacks.getStatus uri).trace w) ↔
      (d = .td2000 → answeredPacket 100 (w.script uri).reads =
        (firstPacket 200 (w.script uri).reads).1) := by
  have hanswered := d.answersRequest_getStatus uri w hrequested hnofail
  rw [hanswered.answersFirst_iff]
  cases d with
  | td2000 => exact ⟨fun h _ => h, fun h => h rfl⟩
  | pte550w => exact iff_of_true rfl fun h => nomatch h

def idlePacket : PrinterInfo := ⟨[0x80] ++ List.replicate 31 0, rfl⟩

/-- A TD-2020 that answers a request with these replies. -/
def repliesWorld (replies : List ReadReply) : World Td2000.JobData :=
  (World.fresh fun _ => 1).withScript "usb://TD-2020" { reads := replies }

/-- It answers at once that nothing is wrong. -/
theorem getStatus_answersFirst_iff_atOnce :
    AnswersFirst Td2000.errorReasons "usb://TD-2020"
        ((Td2000.getStatus "usb://TD-2020").value (repliesWorld [⟨32, idlePacket⟩]))
        ((Td2000.getStatus "usb://TD-2020").trace (repliesWorld [⟨32, idlePacket⟩])) ↔
      (Driver.td2000 = .td2000 → answeredPacket 100 [⟨32, idlePacket⟩] =
        (firstPacket 200 [⟨32, idlePacket⟩]).1) :=
  getStatus_answersFirst_iff .td2000 "usb://TD-2020" (repliesWorld [⟨32, idlePacket⟩])
    (by rw [Requested]; decide +kernel) (by rw [NoReadFails]; decide +kernel)

/-- It has nothing to say at the first read and answers at the probe after it. -/
theorem not_answersFirst_probe :
    ¬∀ (d : Driver) (uri : String) (w : World d.JobData),
      Requested ((d.callbacks.getStatus uri).trace w) →
      NoReadFails ((d.callbacks.getStatus uri).trace w) →
        AnswersFirst d.errorReasons uri ((d.callbacks.getStatus uri).value w)
          ((d.callbacks.getStatus uri).trace w) := by
  intro h
  have hanswers := h .td2000 "usb://TD-2020" (repliesWorld [.empty, ⟨32, idlePacket⟩])
    (by rw [Requested]; decide +kernel) (by rw [NoReadFails]; decide +kernel) idlePacket
    (by decide +kernel)
  exact absurd hanswers.1 (by decide +kernel)

end Drivers
end BrThermal
