/-
Holds, and what a line does while one is open.

The printer announces that it cools or pauses, and later that it no longer does; in
between it takes no data.  Either hold can begin while the other lasts.  A wait of
`writeLine` ends with the first notification that some hold is over, so it is over
with every hold exactly where all that it heard of were of that one kind.
-/
import BrThermal.Drivers.LineOnce
import BrThermal.Effect.Holds
import BrThermal.Pappl.Hearing

namespace BrThermal
namespace Drivers

open Effect Effect.Prog Pappl

/-! ## Holds -/

inductive Hold where
  | cooling
  | pause
deriving DecidableEq

namespace PrinterInfo

/-- The hold whose beginning a packet notifies. -/
def opens (info : PrinterInfo) : Option Hold :=
  if info.statusType = .notification then
    match info.notificationNumber with
    | .coolingStarted => some .cooling
    | .printerPaused => some .pause
    | _ => none
  else none

/-- The hold whose end a packet notifies. -/
def closes (info : PrinterInfo) : Option Hold :=
  if info.statusType = .notification then
    match info.notificationNumber with
    | .coolingFinished => some .cooling
    | .finishedPrinterPaused => some .pause
    | _ => none
  else none

variable {info : PrinterInfo}

theorem closes_of_resumes (h : info.resumes) : ∃ k, info.closes = some k := by
  obtain ⟨htype, hnumber | hnumber⟩ := h
  · rw [closes, if_pos htype, hnumber]
    exact ⟨_, rfl⟩
  · rw [closes, if_pos htype, hnumber]
    exact ⟨_, rfl⟩

theorem opens_eq_none (h : ¬info.holds) : info.opens = none := by
  rw [opens]
  split
  · split
    · exact absurd ⟨‹_›, .inl ‹_›⟩ h
    · exact absurd ⟨‹_›, .inr ‹_›⟩ h
    · rfl
  · rfl

theorem closes_eq_none (h : ¬info.resumes) : info.closes = none := by
  rw [closes]
  split
  · split
    · exact absurd ⟨‹_›, .inl ‹_›⟩ h
    · exact absurd ⟨‹_›, .inr ‹_›⟩ h
    · rfl
  · rfl

end PrinterInfo

/-- What the packets of a printer say about its holds. -/
def holdSignals : HoldSignals PrinterInfo Hold where
  opens := PrinterInfo.opens
  closes := PrinterInfo.closes
  exclusive info := by
    by_cases h : info.holds
    · exact .inr (PrinterInfo.closes_eq_none (PrinterInfo.not_resumes_of_holds h))
    · exact .inl (PrinterInfo.opens_eq_none h)

/-! ## A wait -/

/-- The packets of a wait of `n` reads, up to the one that settles it. -/
def waitPackets : Nat → List ReadReply → List PrinterInfo
  | 0, _ => []
  | n + 1, reads =>
    match (reads.headD .empty).packet with
    | none => waitPackets n reads.tail
    | some packet =>
      packet :: if packet.resumes ∨ packet.statusType = .errorOccurred then []
        else waitPackets n reads.tail

/-- A wait ends with the packet that closes a hold, if it resumes, and closes none if it
does not. -/
theorem closesLast_waitPackets (n : Nat) (reads : List ReadReply) :
    holdSignals.ClosesLast (resumesWithin n reads).1 (waitPackets n reads) := by
  induction n generalizing reads with
  | zero => rfl
  | succ n ih =>
    rw [resumesWithin, waitPackets]
    cases (reads.headD .empty).packet with
    | none => exact ih reads.tail
    | some packet =>
      dsimp only
      by_cases hresumes : packet.resumes
      · obtain ⟨k, hcloses⟩ := PrinterInfo.closes_of_resumes hresumes
        rw [if_pos hresumes, if_pos (.inl hresumes)]
        exact HoldSignals.closesLast_singleton hcloses
      · have hcloses : holdSignals.closes packet = none := PrinterInfo.closes_eq_none hresumes
        rw [if_neg hresumes]
        by_cases herror : packet.statusType = .errorOccurred
        · rw [if_pos herror, if_pos (.inr herror)]
          exact HoldSignals.closesLast_cons hcloses rfl
        · rw [if_neg herror, if_neg (not_or.mpr ⟨hresumes, herror⟩)]
          exact HoldSignals.closesLast_cons hcloses (ih reads.tail)

/-- Nothing is held after a wait for the end of a hold, if it resumes, exactly where
all the holds it heard of were of one kind. -/
theorem held_wait_iff {packet : PrinterInfo} (hholds : packet.holds) (n : Nat)
    (reads : List ReadReply) :
    ((resumesWithin n reads).1 = true →
        holdSignals.heldAfter ∅ (packet :: waitPackets n reads) = ∅) ↔
      holdSignals.OneKind (packet :: waitPackets n reads) :=
  HoldSignals.held_eq_empty_iff (HoldSignals.closesLast_cons
    (PrinterInfo.closes_eq_none (PrinterInfo.not_resumes_of_holds hholds))
    (closesLast_waitPackets n reads))

/-! ## The waits of a line -/

/-- The packets read after a write of the whole command. -/
def linePackets (reads : List ReadReply) : List PrinterInfo :=
  match (reads.headD .empty).packet with
  | none => []
  | some packet => packet :: if packet.holds then waitPackets (120000 / 100) reads.tail else []

/-- The packets of the wait that follows such a write, the one that calls for it first,
if there is one. -/
def lineWaits (reads : List ReadReply) : List (List PrinterInfo) :=
  match (reads.headD .empty).packet with
  | none => []
  | some packet =>
    if packet.holds then [packet :: waitPackets (120000 / 100) reads.tail] else []

/-- The packets read after a failed write. -/
def retryPackets (reads : List ReadReply) : List PrinterInfo :=
  match firstPacket 20 reads with
  | (none, _) => []
  | (some packet, reads) =>
    packet :: if packet.holds then waitPackets (120000 / 100) reads else []

def retryWaits (reads : List ReadReply) : List (List PrinterInfo) :=
  match firstPacket 20 reads with
  | (none, _) => []
  | (some packet, reads) =>
    if packet.holds then [packet :: waitPackets (120000 / 100) reads] else []

/-- The waits of a call: after the write, or before the command is sent again and after
that. -/
def waits (command : List UInt8) (script : DeviceScript) : List (List PrinterInfo) :=
  if TakesFirst command script then lineWaits script.reads
  else
    retryWaits script.reads ++
      match retryReads script.reads with
      | none => []
      | some reads =>
        if TakesFirst command { script with writes := script.writes.tail } then lineWaits reads
        else []

theorem held_line_iff (reads : List ReadReply) :
    (lineAccepted reads = true → holdSignals.heldAfter ∅ (linePackets reads) = ∅) ↔
      ∀ ps ∈ lineWaits reads, holdSignals.OneKind ps := by
  rw [lineAccepted, linePackets, lineWaits]
  cases (reads.headD .empty).packet with
  | none => exact iff_of_true (fun _ => rfl) fun _ h => absurd h List.not_mem_nil
  | some packet =>
    dsimp only
    by_cases hholds : packet.holds
    · have herror : packet.statusType ≠ .errorOccurred := fun h =>
        PrinterInfo.not_holds_of_error h hholds
      rw [if_neg herror, if_pos hholds, if_pos hholds, if_pos hholds, List.forall_mem_singleton]
      exact held_wait_iff hholds _ _
    · rw [if_neg hholds, if_neg hholds, if_neg hholds]
      exact iff_of_true
        (fun _ => HoldSignals.heldAfter_of_not_opens (PrinterInfo.opens_eq_none hholds))
        fun _ h => absurd h List.not_mem_nil

theorem held_retry_iff (reads : List ReadReply) :
    ((retryReads reads).isSome = true → holdSignals.heldAfter ∅ (retryPackets reads) = ∅) ↔
      ∀ ps ∈ retryWaits reads, holdSignals.OneKind ps := by
  rw [retryReads, retryPackets, retryWaits]
  obtain ⟨_ | packet, reads⟩ := firstPacket 20 reads
  · exact iff_of_true (fun h => absurd h Bool.false_ne_true) fun _ h => absurd h List.not_mem_nil
  · dsimp only
    by_cases hholds : packet.holds
    · rw [if_pos hholds, if_pos hholds, if_pos hholds, List.forall_mem_singleton,
        ← held_wait_iff hholds]
      obtain ⟨_ | _, reads'⟩ := resumesWithin (120000 / 100) reads
      · exact Iff.rfl
      · exact Iff.rfl
    · rw [if_neg hholds, if_neg hholds, if_neg hholds]
      exact iff_of_true (fun h => absurd h Bool.false_ne_true)
        fun _ h => absurd h List.not_mem_nil

/-! ## A call -/

section Call

variable {δ : Type}

/-- Nothing is written while a hold is open. -/
def Unheld : Finset Hold → List (Event δ) → Prop
  | _, [] => True
  | held, e :: es =>
    (¬WritesNothing e.1 → held = ∅) ∧ Unheld (holdSignals.heldAfter held (packets [e])) es

theorem unheld_append {held : Finset Hold} {es fs : List (Event δ)} :
    Unheld held (es ++ fs) ↔
      Unheld held es ∧ Unheld (holdSignals.heldAfter held (packets es)) fs := by
  induction es generalizing held with
  | nil => exact (and_iff_right trivial).symm
  | cons e es ih =>
    rw [List.cons_append, Unheld, Unheld, ih, and_assoc, ← HoldSignals.heldAfter_append,
      ← packets_append, List.singleton_append]

theorem unheld_of_writesNothing {es : List (Event δ)} (h : ∀ e ∈ es, WritesNothing e.1)
    (held : Finset Hold) : Unheld held es := by
  induction es generalizing held with
  | nil => trivial
  | cons e es ih =>
    exact ⟨fun hwrites => absurd (h e List.mem_cons_self) hwrites,
      ih (fun e he => h e (List.mem_cons_of_mem _ he)) _⟩

variable (errorReasons : PrinterInfo → Reasons) (device : Handle) (uri : String)

/-- One turn of a wait reads one reply, and leaves the wait at a packet that settles it. -/
theorem resumeAttempt_packets (w : World δ) :
    (resumeAttempt errorReasons device uri).wp World.env (fun r es w' =>
      packets es = ((w.script device.uri).reads.headD .empty).packet.toList ∧
      (w'.script device.uri).reads = (w.script device.uri).reads.tail ∧
      (r = none ↔ ∀ packet ∈ ((w.script device.uri).reads.headD .empty).packet,
        ¬(packet.resumes ∨ packet.statusType = .errorOccurred))) w := by
  rw [resumeAttempt, wp_bind, wp_readStatusPacket, ← reads_answer]
  cases hpacket : ((w.script device.uri).reads.headD .empty).packet with
  | none =>
    refine ⟨(packets_read _ _ []).trans ?_, rfl, iff_of_true rfl fun _ h => by cases h⟩
    rw [hpacket]
    rfl
  | some packet =>
    have hes : ∀ es : List (Event δ), packets es = [] →
        packets ([⟨.deviceRead device, (w.script device.uri).reads.headD .empty⟩] ++ es) =
          (some packet).toList := fun es hes => by
      rw [List.singleton_append, packets_read, hpacket, hes, List.append_nil]
    simp only [Option.mem_def, Option.some.injEq, forall_eq']
    rw [wp_bind, wp_applyPrinterStatus]
    by_cases hresumes : packet.resumes
    · rw [if_pos hresumes]
      exact ⟨hes _ rfl, rfl, iff_of_false (Option.some_ne_none _) (not_not.mpr (.inl hresumes))⟩
    · rw [if_neg hresumes]
      by_cases herror : packet.statusType = .errorOccurred
      · rw [if_pos herror]
        exact ⟨hes _ rfl, rfl, iff_of_false (Option.some_ne_none _) (not_not.mpr (.inr herror))⟩
      · rw [if_neg herror]
        exact ⟨hes _ rfl, rfl, iff_of_true rfl (not_or.mpr ⟨hresumes, herror⟩)⟩

theorem poll_resumeAttempt_packets (n : Nat) (w : World δ) :
    (Prog.poll n (resumeAttempt errorReasons device uri)).wp World.env
      (fun _ es _ => packets es = waitPackets n (w.script device.uri).reads) w := by
  induction n generalizing w with
  | zero => rfl
  | succ n ih =>
    refine wp_seq (resumeAttempt_packets errorReasons device uri w) (fun r es w' hr => ?_)
    obtain ⟨hes, hreads, hnone⟩ := hr
    rw [waitPackets]
    cases r with
    | none =>
      refine wp_mono (ih w') (fun _ es' _ hes' => ?_)
      have hgoes := hnone.mp rfl
      rw [packets_append, hes, hes', hreads]
      cases hpacket : ((w.script device.uri).reads.headD .empty).packet with
      | none => rfl
      | some packet =>
        dsimp only
        rw [if_neg (hgoes packet hpacket)]
        rfl
    | some ok =>
      rw [wp_ret, List.append_nil, hes]
      cases hpacket : ((w.script device.uri).reads.headD .empty).packet with
      | none =>
        rw [hpacket] at hnone
        cases hnone.mpr fun _ h => nomatch h
      | some packet =>
        have hsettles : packet.resumes ∨ packet.statusType = .errorOccurred := by
          by_contra hgoes
          rw [hpacket] at hnone
          cases hnone.mpr fun _ h => Option.some.inj h ▸ hgoes
        dsimp only
        rw [if_pos hsettles]
        rfl

theorem waitForPrinterResume_packets (w : World δ) :
    (waitForPrinterResume errorReasons device uri).wp World.env
      (fun _ es _ => packets es = waitPackets (120000 / 100) (w.script device.uri).reads) w := by
  refine wp_seq (poll_resumeAttempt_packets errorReasons device uri _ w) (fun _ es _ hes => ?_)
  rw [pure_eq, wp_ret, List.append_nil]
  exact hes

theorem lineWritten_packets (w : World δ) :
    (lineWritten errorReasons device uri).wp World.env
      (fun _ es _ => packets es = linePackets (w.script device.uri).reads) w := by
  have hread : ∀ es : List (Event δ), packets (⟨.deviceFlush device, ()⟩ ::
      ([⟨.deviceRead device, (w.script device.uri).reads.headD .empty⟩] ++ es)) =
        ((w.script device.uri).reads.headD .empty).packet.toList ++ packets es :=
    packets_read device _
  rw [lineWritten, call_bind, wp_ask, wp_bind, wp_readStatusPacket, linePackets]
  show Prog.wp _ (match ((w.script device.uri).reads.headD .empty).packet with
    | none => _ | some packet => _) _ (World.answer (.deviceRead device) w).2
  cases hpacket : ((w.script device.uri).reads.headD .empty).packet with
  | none =>
    rw [hpacket] at hread
    exact hread []
  | some packet =>
    rw [hpacket] at hread
    dsimp only
    rw [wp_bind, wp_applyPrinterStatus]
    by_cases herror : packet.statusType = .errorOccurred
    · rw [if_pos herror, if_neg (PrinterInfo.not_holds_of_error herror)]
      exact hread _
    · rw [if_neg herror]
      by_cases hholds : packet.holds
      · rw [if_pos hholds, if_pos hholds]
        refine wp_mono (waitForPrinterResume_packets errorReasons device uri _)
          (fun _ es _ hes => (hread _).trans ?_)
        exact congrArg (packet :: ·) (hes.trans (congrArg _ (reads_answer device w)))
      · rw [if_neg hholds, if_neg hholds]
        exact hread _

theorem awaitRetry_packets (w : World δ) :
    (awaitRetry errorReasons device uri).wp World.env
      (fun _ es _ => packets es = retryPackets (w.script device.uri).reads) w := by
  refine wp_seq (wp_and (poll_readStatusPacket 20) (poll_readStatusPacket_packets 20))
    (fun packet es w' h => ?_)
  obtain ⟨hreads, hes⟩ := h
  rw [retryPackets, ← hreads]
  cases packet with
  | none => exact (congrArg packets (List.append_nil es)).trans hes
  | some packet =>
    dsimp only
    rw [wp_bind, wp_applyPrinterStatus]
    by_cases hholds : packet.holds
    · rw [if_pos hholds, if_pos hholds]
      refine wp_mono (waitForPrinterResume_packets errorReasons device uri _)
        (fun _ es' _ hes' => ?_)
      rw [packets_append, hes]
      exact congrArg (packet :: ·) hes'
    · rw [if_neg hholds, if_neg hholds]
      exact (packets_append _ _).trans (congrArg (· ++ []) hes)

/-- Nothing is written while a hold is open, and none is left open by a call that returns
true. -/
def HoldsOver (ok : Bool) (es : List (Event δ)) : Prop :=
  Unheld ∅ es ∧ (ok = true → holdSignals.heldAfter ∅ (packets es) = ∅)

variable (command : List UInt8)

theorem unheld_write (written : Int) (es : List (Event δ)) (held : Finset Hold) :
    Unheld held (⟨.deviceWrite device command, written⟩ :: es) ↔ held = ∅ ∧ Unheld held es :=
  and_congr_left fun _ => ⟨fun h => h id, fun h _ => h⟩

theorem unheld_lastWrite {es : List (Event δ)} (h : ∀ e ∈ es, WritesNothing e.1) (written : Int)
    (held : Finset Hold) : Unheld held (⟨.deviceWrite device command, written⟩ :: es) ↔ held = ∅ :=
  (unheld_write device command written es held).trans
    (and_iff_left (unheld_of_writesNothing h held))

/-- A call that writes, reads and writes again must be free of holds when it does, and at
its end counts only what it has read since. -/
theorem holdsOver_retry {es es' : List (Event δ)} (h : ∀ e ∈ es, WritesNothing e.1)
    (h' : ∀ held, Unheld held es' ↔ held = ∅) (written : Int) (ok : Bool) :
    HoldsOver ok (⟨.deviceWrite device command, written⟩ :: (es ++ es')) ↔
      holdSignals.heldAfter ∅ (packets es) = ∅ ∧
        (ok = true → holdSignals.heldAfter ∅ (packets es') = ∅) := by
  have hunheld : Unheld ∅ (⟨.deviceWrite device command, written⟩ :: (es ++ es')) ↔
      holdSignals.heldAfter ∅ (packets es) = ∅ := by
    rw [unheld_write, and_iff_right rfl, unheld_append, h']
    exact and_iff_right (unheld_of_writesNothing h _)
  have hpackets : packets (⟨.deviceWrite device command, written⟩ :: (es ++ es')) =
      packets es ++ packets es' := packets_append es es'
  rw [HoldsOver, hunheld, hpackets, HoldSignals.heldAfter_append]
  refine and_congr_right fun hheld => ?_
  rw [hheld]

theorem attempt_taken_packets (n : Nat) (w : World δ)
    (h : TakesFirst command (w.script device.uri)) :
    (writeAttempts errorReasons device uri command (n + 1)).wp World.env
      (fun ok es _ => ok = lineAccepted (w.script device.uri).reads ∧
        packets es = linePackets (w.script device.uri).reads ∧
        ∀ held, Unheld held es ↔ held = ∅) w := by
  have hreads : ((World.answer (.deviceWrite device command) w).2.script device.uri).reads =
      (w.script device.uri).reads := by
    simp only [World.answer, World.withScript, Function.update_self]
  have hquiet : (lineWritten errorReasons device uri).wp World.env
      (fun _ es _ => ∀ e ∈ es, WritesNothing e.1)
      (World.answer (.deviceWrite device command) w).2 :=
    events_of_asks (asks_lineWritten errorReasons trivial trivial
      (statusStores_writesNothing uri)) _
  rw [wp_attempt_taken errorReasons device uri command h, ← hreads]
  exact ⟨lineWritten_reads errorReasons device uri _, lineWritten_packets errorReasons device uri _,
    unheld_lastWrite device command hquiet _⟩

theorem lastAttempt_refused_unheld (w : World δ)
    (h : ¬TakesFirst command (w.script device.uri)) :
    (writeAttempts errorReasons device uri command 1).wp World.env
      (fun ok es _ => ok = false ∧ ∀ held, Unheld held es ↔ held = ∅) w := by
  rw [wp_lastAttempt_refused errorReasons device uri command h]
  exact ⟨rfl, unheld_lastWrite device command (fun _ he => absurd he List.not_mem_nil) _⟩

/-- Over the writes and reads of a line, every hold is over when it should be exactly
where each wait hears of one kind alone. -/
theorem attempts_holdsOver (w : World δ) :
    (writeAttempts errorReasons device uri command 2).wp World.env
      (fun ok es _ => HoldsOver ok es ↔
        ∀ ps ∈ waits command (w.script device.uri), holdSignals.OneKind ps) w := by
  rw [waits]
  by_cases h : TakesFirst command (w.script device.uri)
  · rw [if_pos h]
    refine wp_mono (attempt_taken_packets errorReasons device uri command 1 w h)
      (fun ok es _ hes => ?_)
    obtain ⟨rfl, hpackets, hunheld⟩ := hes
    rw [HoldsOver, hunheld, and_iff_right rfl, hpackets]
    exact held_line_iff _
  · have hquiet : (awaitRetry errorReasons device uri).wp World.env
        (fun _ es _ => ∀ e ∈ es, WritesNothing e.1)
        (World.answer (.deviceWrite device command) w).2 :=
      events_of_asks (asks_awaitRetry errorReasons device uri) _
    rw [if_neg h, List.forall_mem_append, ← held_retry_iff,
      wp_attempt_refused errorReasons device uri command h]
    refine wp_mono (wp_and hquiet (wp_and (awaitRetry_spec errorReasons device uri _)
      (awaitRetry_packets errorReasons device uri _))) (fun ok es w' hok => ?_)
    simp only [World.answer, World.withScript, Function.update_self] at hok
    obtain ⟨hes, ⟨hreads, -, hwrites⟩, hpackets⟩ := hok
    rw [hreads]
    cases ok with
    | false =>
      refine iff_of_true ⟨?_, fun h => absurd h Bool.false_ne_true⟩
        ⟨fun h => absurd h Bool.false_ne_true, fun _ h => absurd h List.not_mem_nil⟩
      rw [if_neg Bool.false_ne_true, pure_eq, events, List.append_nil]
      exact (unheld_lastWrite device command hes _ _).mpr rfl
    | true =>
      have hsame : TakesFirst command { w.script device.uri with
          writes := (w.script device.uri).writes.tail } ↔
            TakesFirst command (w'.script device.uri) := by
        rw [TakesFirst, TakesFirst, hwrites]
      rw [if_pos rfl, if_pos rfl, hpackets.symm]
      dsimp only
      by_cases hsecond : TakesFirst command (w'.script device.uri)
      · refine wp_mono (attempt_taken_packets errorReasons device uri command 0 w' hsecond)
          (fun ok es' _ hes' => ?_)
        obtain ⟨rfl, hpackets', hunheld⟩ := hes'
        rw [if_pos (hsame.mpr hsecond), ← held_line_iff, ← hpackets',
          holdsOver_retry device command hes hunheld, Option.isSome_some, forall_prop_of_true rfl]
      · refine wp_mono (lastAttempt_refused_unheld errorReasons device uri command w' hsecond)
          (fun ok es' _ hes' => ?_)
        obtain ⟨rfl, hunheld⟩ := hes'
        rw [if_neg (mt hsame.mp hsecond), holdsOver_retry device command hes hunheld,
          Option.isSome_some, forall_prop_of_true rfl]
        exact and_congr_right fun _ => iff_of_true (fun h => absurd h Bool.false_ne_true)
          fun _ h => absurd h List.not_mem_nil

end Call

/-- For every line and every behaviour of the device, no hold is open at a write or at
the end of a call that succeeds, unless some wait hears of both kinds: it opens a hold
of one and closes one of the other. -/
theorem writeLine_holdsOver_iff (d : Driver) (job : Job) (options : PrOptions) (device : Handle)
    (y : UInt32) (pixels : List UInt8) (w : World d.JobData) :
    (d.callbacks.writeLine (some job) (some options) (some device) y (some pixels)).wp World.env
      (fun ok es _ => HoldsOver ok es ↔ ∀ jobData, w.jobData job = some jobData →
        ∀ ps ∈ waits (d.rasterCommand jobData options.header pixels) (w.script device.uri),
          holdSignals.OneKind ps) w := by
  have hanswer : (World.env (.jobGetData job) w).1 = w.jobData job := rfl
  rw [Driver.writeLine_eq, call_bind, wp_ask, hanswer]
  cases w.jobData job with
  | none =>
    have hover : HoldsOver false [(⟨.jobGetData job, none⟩ : Event d.JobData)] :=
      ⟨⟨fun h => absurd trivial h, trivial⟩, fun h => absurd h Bool.false_ne_true⟩
    exact iff_of_true hover fun _ h => nomatch h
  | some jobData =>
    refine wp_mono (attempts_holdsOver d.errorReasons device job.printer _ _)
      (fun ok es _ hes => ?_)
    simp only [Option.some.injEq, forall_eq']
    refine Iff.trans (and_congr_left fun _ => ?_) hes
    exact and_iff_right fun h => absurd trivial h

/-- A TD-2020 that takes the command and then reports that it cools, and that a pause has
ended. -/
def overlappingWorld : World Td2000.JobData :=
  { (World.fresh fun _ => 1 : World Td2000.JobData) with
    jobData := fun _ => some ⟨.td2x2x, false, 56⟩
    script := fun _ =>
      { reads := [⟨32, notificationPacket 0x03⟩, ⟨32, notificationPacket 0x08⟩] } }

/-- It still cools when the line has been written. -/
theorem not_holdsOver_overlapping :
    ¬∀ (d : Driver) (job : Job) (options : PrOptions) (device : Handle) (y : UInt32)
      (pixels : List UInt8) (w : World d.JobData),
      (d.callbacks.writeLine (some job) (some options) (some device) y (some pixels)).wp World.env
        (fun ok es _ => HoldsOver ok es) w := by
  intro h
  have hover := (h .td2000 ⟨"usb://TD-2020", 0⟩ oneLinePage ⟨"usb://TD-2020", 0⟩ 0
    (List.replicate 56 0) overlappingWorld).2 (by decide +kernel)
  revert hover
  decide +kernel

end Drivers
end BrThermal
