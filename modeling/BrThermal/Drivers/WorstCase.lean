/-
How long the server takes.

No thread of the server waits for ever: it ends after a bounded number of its own calls,
whatever the devices answer, and with no connection left open.  The bounds are those of
the callbacks, and each of them is reached by some device: one that cools down in the
middle of a line and again after it, one that stays silent until the last read.  What
is counted are the calls that `Pappl.Call` has a constructor for.
-/
import BrThermal.Drivers.Connections
import BrThermal.Drivers.Service
import Mathlib.Order.Bounds.Defs

namespace BrThermal
namespace Drivers

open Effect Effect.Prog Pappl

/-! ## What code costs on a device -/

section Spends

variable {δ α β : Type} {uri : String} {s s' s'' : DeviceScript} {n m : Nat} {a : α} {b : β}

/-- Wherever the device has the script `s`, the code makes `n` calls, returns `a` and
leaves `s'` of the script. -/
def Spends (uri : String) (s : DeviceScript) (p : Code δ α) (n : Nat) (a : α)
    (s' : DeviceScript) : Prop :=
  ∀ w : World δ, w.script uri = s →
    p.wp World.env (fun b es w' => b = a ∧ es.length = n ∧ w'.script uri = s') w

theorem spends_ret (a : α) : Spends uri s (ret a : Code δ α) 0 a s :=
  fun _ hw => ⟨rfl, rfl, hw⟩

theorem spends_bind {p : Code δ α} {f : α → Code δ β} (hp : Spends uri s p n a s')
    (hf : Spends uri s' (f a) m b s'') : Spends uri s (p >>= f) (n + m) b s'' := by
  intro w hw
  refine wp_seq (hp w hw) ?_
  rintro _ es w' ⟨rfl, rfl, hw'⟩
  refine wp_mono (hf w' hw') ?_
  rintro _ es' w'' ⟨rfl, rfl, hw''⟩
  exact ⟨rfl, List.length_append, hw''⟩

/-- A call that leaves the device alone, when nothing depends on its answer. -/
theorem spends_ask {c : Call δ} {k : c.Reply → Code δ α}
    (hc : ∀ w : World δ, (World.answer c w).2.script = w.script)
    (hk : ∀ r, Spends uri s (k r) n a s') : Spends uri s (.ask c k) (n + 1) a s' := by
  intro w hw
  rw [wp_ask]
  refine wp_mono (hk (World.env c w).1 (World.env c w).2 ((congrFun (hc w) uri).trans hw)) ?_
  rintro _ es w' ⟨rfl, rfl, hw'⟩
  exact ⟨rfl, rfl, hw'⟩

theorem length_trace {p : Code δ α} {w : World δ} (hp : Spends uri (w.script uri) p n a s') :
    (p.trace w).length = n := (hp w rfl).2.1

/-- The first answer is PAPPL's. -/
theorem length_trace_ask {c : Call δ} {k : c.Reply → Code δ α} {w : World δ}
    (hc : (World.answer c w).2.script = w.script)
    (hk : Spends uri (w.script uri) (k (World.answer c w).1) n a s') :
    (Code.trace (.ask c k) w).length = n + 1 := by
  rw [← hc] at hk
  rw [Code.trace, events_ask, List.length_cons]
  exact congrArg (· + 1) (length_trace hk)

/-- The device opens. -/
theorem spends_open {f : Option Handle → Code δ α} (hs : s.opens = [])
    (hf : ∀ serial, Spends uri s (f (some ⟨uri, serial⟩)) n a s') :
    Spends uri s (papplPrinterOpenDevice uri >>= f) (n + 1) a s' := by
  intro w hw
  have hanswer : World.answer (.printerOpenDevice uri) w = (some (w.handles uri),
      { w.withScript uri s with
        handles := Function.update w.handles uri (w.handles uri + 1) }) := by
    simp only [World.answer, hw, hs, List.headD_nil, if_true, List.tail_nil]
    rw [← hs]
    rfl
  show Prog.wp World.env (.ask (.printerOpenDevice uri) fun serial => f (serial.map _)) _ w
  rw [wp_ask]
  show Prog.wp _ (f ((World.answer (.printerOpenDevice uri) w).1.map _)) _
    (World.answer (.printerOpenDevice uri) w).2
  rw [hanswer]
  refine wp_mono (hf (w.handles uri) _ (Function.update_self _ _ _)) ?_
  rintro _ es w' ⟨rfl, rfl, hw'⟩
  exact ⟨rfl, rfl, hw'⟩

section Device

variable (device : Handle)

theorem spends_deviceWrite (data : List UInt8) :
    Spends device.uri s (papplDeviceWrite device data : Code δ Int) 1
      ((s.writes.headD .complete).result data) { s with writes := s.writes.tail } := by
  rintro w rfl
  exact ⟨rfl, rfl, Function.update_self _ _ _⟩

theorem spends_deviceGetID :
    Spends device.uri s (papplDeviceGetID device : Code δ (Option DeviceId)) 1 (s.ids.headD none)
      { s with ids := s.ids.tail } := by
  rintro w rfl
  exact ⟨rfl, rfl, Function.update_self _ _ _⟩

theorem spends_deviceRead :
    Spends device.uri s (papplDeviceRead device : Code δ ReadReply) 1 (s.reads.headD .empty)
      { s with reads := s.reads.tail } := by
  rintro w rfl
  exact ⟨rfl, rfl, Function.update_self _ _ _⟩

theorem spends_readStatusPacket :
    Spends device.uri s (readStatusPacket device : Code δ (Option PrinterInfo)) 1
      (s.reads.headD .empty).packet { s with reads := s.reads.tail } :=
  spends_bind (f := fun reply => ret reply.packet) (spends_deviceRead device) (spends_ret _)

theorem spends_silent (hs : s.reads = []) :
    Spends device.uri s (readStatusPacket device : Code δ (Option PrinterInfo)) 1 none s := by
  obtain ⟨ids, opens, writes, reads⟩ := s
  obtain rfl : reads = [] := hs
  exact spends_readStatusPacket device

theorem spends_deviceFlush : Spends device.uri s (papplDeviceFlush device : Code δ Unit) 1 () s :=
  fun _ hw => ⟨rfl, rfl, hw⟩

theorem spends_printerCloseDevice :
    Spends uri s (papplPrinterCloseDevice uri : Code δ Unit) 1 () s :=
  fun _ hw => ⟨rfl, rfl, hw⟩

theorem spends_applyPrinterStatus (errorReasons : PrinterInfo → Reasons) (packet : PrinterInfo) :
    Spends uri s (applyPrinterStatus errorReasons uri packet : Code δ Unit) 2 () s :=
  fun _ hw => ⟨rfl, rfl, hw⟩

/-- A device without outcomes to come takes the whole command. -/
theorem spends_wholeWrite (hs : s.writes = []) (data : List UInt8) :
    Spends device.uri s (papplDeviceWrite device data : Code δ Int) 1 data.length s := by
  obtain ⟨ids, opens, writes, reads⟩ := s
  obtain rfl : writes = [] := hs
  exact spends_deviceWrite device data

theorem spends_writeToDevice (hs : s.writes = []) (data : List UInt8) :
    Spends device.uri s (writeToDevice data (some device) : Code δ Bool) 2 true s := by
  refine spends_bind (spends_wholeWrite device hs data) (m := 1) ?_
  rw [if_neg (fun hne => hne rfl)]
  refine spends_bind (spends_deviceFlush device) (m := 0) ?_
  exact spends_ret true

theorem spends_writeCommands (hs : s.writes = []) (commands : List (List UInt8)) :
    Spends device.uri s (writeCommands commands device : Code δ Bool) (2 * commands.length)
      true s := by
  induction commands with
  | nil => exact spends_ret true
  | cons command commands ih =>
    rw [List.length_cons, Nat.mul_succ, Nat.add_comm]
    exact spends_bind (spends_writeToDevice device hs command) ih

end Device

/-- Turns that settle nothing, and then what is left of the loop. -/
theorem spends_poll (scripts : Nat → DeviceScript) {body : Code δ (Option α)} {r : Option α}
    {turn : Nat} (hbody : ∀ k, Spends uri (scripts (k + 1)) body turn none (scripts k))
    (hrest : Spends uri (scripts 0) (poll m body) n r s') (k : Nat) :
    Spends uri (scripts k) (poll (m + k) body) (turn * k + n) r s' := by
  induction k with
  | zero =>
    rw [Nat.mul_zero, Nat.zero_add]
    exact hrest
  | succ k ih =>
    rw [Nat.mul_succ, Nat.add_comm (turn * k), Nat.add_assoc]
    exact spends_bind (hbody k) ih

theorem spends_lastTurn {body : Code δ (Option α)} (hbody : Spends uri s body n (some a) s') :
    Spends uri s (poll 1 body) n (some a) s' := by
  refine spends_bind hbody (m := 0) ?_
  exact spends_ret (some a)

end Spends

/-! ## The devices that take longest -/

/-- Cooling has started. -/
def cooling : ReadReply := ⟨32, notificationPacket 0x03⟩

/-- Cooling has finished. -/
def cooled : ReadReply := ⟨32, notificationPacket 0x04⟩

/-- The answer to a status request. -/
def answered : ReadReply := ⟨32, idlePacket⟩

section Slowest

variable {δ : Type} (device : Handle) {uri : String} {s : DeviceScript} {rest : List ReadReply}
  (errorReasons : PrinterInfo → Reasons)

theorem spends_cooling (rest : List ReadReply) :
    Spends device.uri { s with reads := cooling :: rest }
      (readStatusPacket device : Code δ (Option PrinterInfo)) 1 (some (notificationPacket 0x03))
      { s with reads := rest } := spends_readStatusPacket device

/-- A turn of the wait: the packet is read, recorded and shown. -/
theorem spends_turn (rest : List ReadReply) :
    Spends device.uri { s with reads := cooling :: rest }
      (resumeAttempt errorReasons device uri : Code δ (Option Bool)) 3 none
      { s with reads := rest } := by
  refine spends_bind (spends_cooling device rest) (m := 2) ?_
  refine spends_bind (spends_applyPrinterStatus errorReasons (notificationPacket 0x03)) (m := 0) ?_
  exact spends_ret none

theorem spends_turns (k : Nat) {m n : Nat} {r : Option Bool} {s' : DeviceScript}
    (hrest : Spends device.uri { s with reads := rest }
      (poll m (resumeAttempt errorReasons device uri) : Code δ (Option Bool)) n r s') :
    Spends device.uri { s with reads := List.replicate k cooling ++ rest }
      (poll (m + k) (resumeAttempt errorReasons device uri) : Code δ (Option Bool)) (3 * k + n)
      r s' :=
  spends_poll (fun k => { s with reads := List.replicate k cooling ++ rest })
    (fun k => spends_turn device errorReasons (List.replicate k cooling ++ rest)) hrest k

/-- Reads that find nothing. -/
theorem spends_silentTurns (k : Nat) {m n : Nat} {r : Option PrinterInfo} {s' : DeviceScript}
    (hrest : Spends device.uri { s with reads := rest }
      (poll m (readStatusPacket device) : Code δ (Option PrinterInfo)) n r s') :
    Spends device.uri { s with reads := List.replicate k .empty ++ rest }
      (poll (m + k) (readStatusPacket device) : Code δ (Option PrinterInfo)) (1 * k + n) r s' :=
  spends_poll (fun k => { s with reads := List.replicate k .empty ++ rest })
    (fun _ => spends_readStatusPacket device) hrest k

/-- The printer has cooled down just before the wait would give up. -/
theorem spends_resumed : Spends device.uri
    { s with reads := List.replicate 1199 cooling ++ cooled :: rest }
    (waitForPrinterResume errorReasons device uri : Code δ Bool) 3600 true
    { s with reads := rest } := by
  have hlast : Spends device.uri { s with reads := cooled :: rest }
      (resumeAttempt errorReasons device uri : Code δ (Option Bool)) 3 (some true)
      { s with reads := rest } := by
    refine spends_bind (spends_readStatusPacket device) (m := 2) ?_
    refine spends_bind (spends_applyPrinterStatus errorReasons (notificationPacket 0x04)) (m := 0)
      ?_
    exact spends_ret (some true)
  refine spends_bind (spends_turns device errorReasons 1199 (spends_lastTurn hlast)) (m := 0) ?_
  exact spends_ret true

/-- The printer does not cool down in time. -/
theorem spends_gaveUp : Spends device.uri
    { s with reads := List.replicate 1200 cooling ++ rest }
    (waitForPrinterResume errorReasons device uri : Code δ Bool) 3600 false
    { s with reads := rest } := by
  have hnone : Spends device.uri { s with reads := rest }
      (poll 0 (resumeAttempt errorReasons device uri) : Code δ (Option Bool)) 0 none
      { s with reads := rest } := spends_ret none
  refine spends_bind (spends_turns device errorReasons 1200 hnone) (m := 0) ?_
  exact spends_ret false

theorem spends_lineWritten : Spends device.uri
    { s with reads := cooling :: (List.replicate 1200 cooling ++ rest) }
    (lineWritten errorReasons device uri : Code δ Bool) 3604 false { s with reads := rest } := by
  refine spends_bind (spends_deviceFlush device) (m := 3603) ?_
  refine spends_bind (spends_cooling device _) (m := 3602) ?_
  refine spends_bind (spends_applyPrinterStatus errorReasons (notificationPacket 0x03))
    (m := 3600) ?_
  exact spends_gaveUp device errorReasons

def coolingTwice : List ReadReply :=
  List.replicate 1199 cooling ++ cooled :: cooling :: (List.replicate 1200 cooling ++ [])

/-- The line is refused, the printer cools down, and after the retry it does so again. -/
def overheated : DeviceScript where
  writes := [.error]
  reads := List.replicate 19 .empty ++ cooling :: coolingTwice

theorem spends_writeAttempts (rasterCmd : List UInt8) : Spends device.uri overheated
    (writeAttempts errorReasons device uri rasterCmd 2 : Code δ Bool) 7228 false {} := by
  have hrefused : (overheated.writes.headD .complete).result rasterCmd ≠ rasterCmd.length := by
    show (-1 : Int) ≠ rasterCmd.length
    omega
  refine spends_bind (spends_deviceWrite device rasterCmd) (m := 7227) ?_
  rw [if_neg hrefused, if_neg (Nat.succ_ne_zero 0)]
  -- The packet that puts the line on hold comes with the last of the 20 reads.
  have hprobe : Spends device.uri { reads := List.replicate 19 .empty ++ cooling :: coolingTwice }
      (poll (1 + 19) (readStatusPacket device) : Code δ (Option PrinterInfo)) 20
      (some (notificationPacket 0x03)) { reads := coolingTwice } :=
    spends_silentTurns device (n := 1) (s := {}) 19
      (spends_lastTurn (spends_cooling device coolingTwice))
  refine spends_bind hprobe (m := 7207) ?_
  refine spends_bind (spends_applyPrinterStatus errorReasons (notificationPacket 0x03))
    (m := 7205) ?_
  have hwait : Spends device.uri { reads := coolingTwice }
      (waitForPrinterResume errorReasons device uri : Code δ Bool) 3600 true
      { reads := cooling :: (List.replicate 1200 cooling ++ []) } :=
    spends_resumed device (s := {}) errorReasons
  refine spends_bind hwait (m := 3605) ?_
  refine spends_bind (spends_wholeWrite device rfl rasterCmd) (m := 3604) ?_
  rw [if_pos rfl]
  exact spends_lineWritten device (s := {}) errorReasons

/-- The job ends on a printer that says nothing. -/
theorem spends_endJob (printWithFeeding : List UInt8) (job : Job) (options : PrOptions) :
    Spends device.uri {}
      (endJob printWithFeeding (some job) (some options) (some device) : Code δ Bool) 205 true
      {} := by
  have hturn : Spends device.uri {} (drainAttempt device : Code δ (Option Unit)) 1 none {} := by
    refine spends_bind (spends_silent device rfl) (m := 0) ?_
    exact spends_ret none
  have hdrain : Spends device.uri {}
      (poll 200 (drainAttempt device) : Code δ (Option Unit)) 200 none {} :=
    spends_poll (fun _ => {}) (fun _ => hturn) (m := 0) (spends_ret none) 200
  refine spends_bind (spends_writeToDevice device rfl printWithFeeding) (m := 203) ?_
  refine spends_bind hdrain (m := 3) ?_
  refine spends_ask (fun _ => rfl) (fun _ => ?_)
  refine spends_ask (fun _ => rfl) (fun _ => ?_)
  exact spends_ask (fun _ => rfl) fun _ => spends_ret true

end Slowest

/-! ## The start of a job -/

theorem Td2000.spends_startJob (job : Job) (options : PrOptions) (device : Handle) :
    Spends device.uri { ids := [some ⟨some "TD-2020"⟩] }
      (Td2000.startJob (some job) (some options) (some device)) 9 true {} := by
  refine spends_bind (spends_deviceGetID device) (m := 8) ?_
  refine spends_bind (spends_writeCommands device rfl Td2000.startCommands) (m := 2) ?_
  refine spends_ask (fun _ => rfl) (fun _ => ?_)
  exact spends_ask (fun _ => rfl) fun _ => spends_ret true

/-- The one model that is asked for its status. -/
theorem Pte550w.spends_startJob (job : Job) (options : PrOptions) (device : Handle) :
    Spends device.uri { ids := [some ⟨some "PT-P710BT"⟩] }
      (Pte550w.startJob (some job) (some options) (some device)) 10 true {} := by
  have hstatus : Spends device.uri {} (Pte550w.checkStatus .ptP710BT device) 3 true {} := by
    refine spends_bind (spends_writeToDevice device rfl _) (m := 1) ?_
    refine spends_bind (spends_silent device rfl) (m := 0) ?_
    exact spends_ret true
  refine spends_bind (spends_deviceGetID device) (m := 9) ?_
  refine spends_bind (spends_writeCommands device rfl Pte550w.startCommands) (m := 5) ?_
  refine spends_bind hstatus (m := 2) ?_
  refine spends_ask (fun _ => rfl) (fun _ => ?_)
  exact spends_ask (fun _ => rfl) fun _ => spends_ret true

/-! ## The status requests -/

/-- Two reads of each turn find nothing, and the last turn reads the answer. -/
theorem Td2000.spends_statusTurns (device : Handle) :
    Spends device.uri { reads := List.replicate 198 .empty ++ [answered] }
      (poll 100 (Td2000.statusAttempt device)) 199 (some (some idlePacket)) {} := by
  let scripts (k : Nat) : DeviceScript := { reads := List.replicate (2 * k) .empty ++ [answered] }
  have hturn : ∀ k, Spends device.uri (scripts (k + 1)) (Td2000.statusAttempt device) 2 none
      (scripts k) := by
    intro k
    refine spends_bind (spends_readStatusPacket device) (m := 1) ?_
    refine spends_bind (spends_deviceRead device) (m := 0) ?_
    exact spends_ret none
  have hlast : Spends device.uri (scripts 0) (Td2000.statusAttempt device) 1
      (some (some idlePacket)) {} := by
    refine spends_bind (spends_readStatusPacket device) (m := 0) ?_
    exact spends_ret (some (some idlePacket))
  exact spends_poll (n := 1) (m := 1) scripts hturn (spends_lastTurn hlast) 99

theorem Td2000.spends_pulledStatus (uri : String) :
    Spends uri { reads := List.replicate 198 .empty ++ [answered] } (Td2000.pulledStatus uri) 205
      true {} := by
  refine spends_open rfl (fun serial => ?_)
  refine spends_bind (spends_writeToDevice ⟨uri, serial⟩ rfl _) (m := 202) ?_
  refine spends_bind (Td2000.spends_statusTurns ⟨uri, serial⟩) (m := 3) ?_
  refine spends_bind spends_printerCloseDevice (m := 2) ?_
  refine spends_bind (spends_applyPrinterStatus Td2000.errorReasons idlePacket) (m := 0) ?_
  exact spends_ret true

theorem Pte550w.spends_pulledStatus (uri : String) :
    Spends uri { reads := List.replicate 99 .empty ++ [answered] } (Pte550w.pulledStatus uri) 106
      true {} := by
  refine spends_open rfl (fun serial => ?_)
  have hlast : Spends uri { reads := [answered] }
      (readStatusPacket ⟨uri, serial⟩ : Code Pte550w.JobData (Option PrinterInfo)) 1
      (some idlePacket) {} := spends_readStatusPacket ⟨uri, serial⟩
  have hturns := spends_silentTurns ⟨uri, serial⟩ (s := {}) 99 (spends_lastTurn hlast)
  refine spends_bind (spends_writeToDevice ⟨uri, serial⟩ rfl _) (m := 103) ?_
  refine spends_bind hturns (m := 3) ?_
  refine spends_bind spends_printerCloseDevice (m := 2) ?_
  refine spends_bind (spends_applyPrinterStatus Pte550w.errorReasons idlePacket) (m := 0) ?_
  exact spends_ret true

/-- The driver asks for the model over a connection of its own first. -/
theorem Pte550w.spends_statusDeviceID (uri : String) (reads : List ReadReply) (did : DeviceId) :
    Spends uri { ids := [some did], reads } (Pte550w.statusDeviceID uri) 3 did { reads } := by
  refine spends_open rfl (fun serial => ?_)
  refine spends_bind (spends_deviceGetID ⟨uri, serial⟩) (m := 1) ?_
  refine spends_bind spends_printerCloseDevice (m := 0) ?_
  exact spends_ret did

/-! ## The bounds are reached -/

/-- The callbacks for which the bound is reached: the media of a page has to be one that
some model takes, and a page number one that can have a successor. -/
def Driver.Demands (d : Driver) : Callback → Prop
  | .startPage options _ => ∃ model, d.AcceptsMedia model options.media
  | .endPage _ pageNumber => pageNumber < 0xFFFFFFFF
  | _ => True

/-- A printer with the script `s` for which PAPPL holds the job data given. -/
def worldOf {δ : Type} (jobData : Option δ) (s : DeviceScript) : World δ :=
  { (World.fresh fun _ => 0 : World δ) with jobData := fun _ => jobData, script := fun _ => s }

section Reached

variable {d : Driver} {uri : String} {job device : Nat}

theorem startJob_slowest (options : PrOptions) : ∃ w : World d.JobData,
    ((d.callbacks.code uri job device (.startJob options)).trace w).length =
      d.longest (.startJob options) := by
  cases d with
  | td2000 => exact ⟨worldOf none _, length_trace (Td2000.spends_startJob ⟨uri, job⟩ options _)⟩
  | pte550w => exact ⟨worldOf none _, length_trace (Pte550w.spends_startJob ⟨uri, job⟩ options _)⟩

theorem startPage_slowest {options : PrOptions} {model : d.Model}
    (hmedia : d.AcceptsMedia model options.media) (pageNumber : UInt32) :
    ∃ w : World d.JobData,
      ((d.callbacks.code uri job device (.startPage options pageNumber)).trace w).length =
        d.longest (.startPage options pageNumber) := by
  obtain ⟨commands, hcommands⟩ := pageCommands_of_acceptsMedia hmedia pageNumber
  have htakes : d.takesMediaType options.media.type = true := by
    by_contra htype
    rw [pageCommands_of_takesMediaType options (Bool.eq_false_iff.mpr htype)] at hcommands
    cases hcommands
  refine ⟨worldOf (some (d.jobData model)) {}, ?_⟩
  show ((d.callbacks.startPage (some ⟨uri, job⟩) (some options) (some ⟨uri, device⟩)
    pageNumber).trace _).length = _
  rw [Driver.startPage_eq, if_pos htakes, ← Driver.length_pageCommands hcommands, Nat.add_comm]
  have hsent : Spends uri {} (writeCommands commands ⟨uri, device⟩ : Code d.JobData Bool)
      (2 * commands.length) true {} := spends_writeCommands ⟨uri, device⟩ rfl commands
  refine length_trace_ask rfl (?_ : Spends uri {} _ _ true {})
  simp only [World.answer, worldOf, Prog.bind, hcommands]
  exact hsent

theorem writeLine_slowest (options : PrOptions) (y : UInt32) (pixels : List UInt8) :
    ∃ w : World d.JobData,
      ((d.callbacks.code uri job device (.writeLine options y pixels)).trace w).length = 7229 := by
  obtain ⟨model⟩ : Nonempty d.Model := by
    cases d with
    | td2000 => exact ⟨.td2x2x⟩
    | pte550w => exact ⟨.ptP710BT⟩
  refine ⟨worldOf (some (d.jobData model)) overheated, ?_⟩
  show ((d.callbacks.writeLine (some ⟨uri, job⟩) (some options) (some ⟨uri, device⟩) y
    (some pixels)).trace _).length = _
  rw [Driver.writeLine_eq]
  exact length_trace_ask rfl
    (spends_writeAttempts ⟨uri, device⟩ d.errorReasons _)

theorem endPage_slowest (options : PrOptions) {pageNumber : UInt32}
    (hnumber : pageNumber < 0xFFFFFFFF) : ∃ w : World d.JobData,
      ((d.callbacks.code uri job device (.endPage options pageNumber)).trace w).length = 3 := by
  -- A page count of 0 wraps around, and no page is the last one.
  refine ⟨worldOf none {}, ?_⟩
  show ((d.callbacks.endPage (some ⟨uri, job⟩) (some options) (some ⟨uri, device⟩)
    pageNumber).trace _).length = _
  rw [Driver.endPage_eq]
  have hsent : Spends uri {} (if pageNumber < 0xFFFFFFFF then do
        if ← writeToDevice Commands.print (some ⟨uri, device⟩) then return true else return false
      else return true : Code d.JobData Bool) 2 true {} := by
    rw [if_pos hnumber]
    refine spends_bind (spends_writeToDevice ⟨uri, device⟩ rfl Commands.print) (m := 0) ?_
    exact spends_ret true
  exact length_trace_ask rfl hsent

theorem endJob_slowest (options : PrOptions) : ∃ w : World d.JobData,
    ((d.callbacks.code uri job device (.endJob options)).trace w).length = 205 := by
  refine ⟨worldOf none {}, ?_⟩
  show ((d.callbacks.endJob (some ⟨uri, job⟩) (some options) (some ⟨uri, device⟩)).trace _).length
    = _
  rw [Driver.endJob_eq]
  exact length_trace (spends_endJob ⟨uri, device⟩ Commands.printWithFeeding _ _)

theorem getStatus_slowest : ∃ w : World d.JobData,
    ((d.callbacks.code uri job device .getStatus).trace w).length = d.longest .getStatus := by
  cases d with
  | td2000 =>
    exact ⟨worldOf none _, length_trace_ask rfl (Td2000.spends_pulledStatus uri)⟩
  | pte550w =>
    have hpulled : Spends uri { ids := [some ⟨some "PT-P710BT"⟩],
                                reads := List.replicate 99 .empty ++ [answered] }
        (Pte550w.statusDeviceID uri >>= fun did =>
          if Pte550w.modelVariantMap.lookup (did.mdl.getD "") = some .ptP710BT then
            Pte550w.pulledStatus uri else return true) 109 true {} := by
      refine spends_bind (Pte550w.spends_statusDeviceID uri _ ⟨some "PT-P710BT"⟩) (m := 106) ?_
      exact Pte550w.spends_pulledStatus uri
    exact ⟨worldOf none _, length_trace_ask rfl hpulled⟩

/-- Whatever the device and PAPPL answer, a callback makes no more calls than its bound
says, and some answers make it need them all. -/
theorem isGreatest_longest {c : Callback} (hc : d.Demands c) :
    IsGreatest (Set.range fun w : World d.JobData =>
      ((d.callbacks.code uri job device c).trace w).length) (d.longest c) := by
  constructor
  · cases c with
    | startJob options => exact startJob_slowest options
    | startPage options pageNumber =>
      obtain ⟨model, hmedia⟩ := hc
      exact startPage_slowest hmedia pageNumber
    | writeLine options y pixels =>
      cases d <;> exact writeLine_slowest options y pixels
    | endPage options pageNumber =>
      cases d <;> exact endPage_slowest options hc
    | endJob options =>
      cases d <;> exact endJob_slowest options
    | getStatus => exact getStatus_slowest
  · rintro _ ⟨w, rfl⟩
    have hwithin : (d.callbacks.code uri job device c).Within (fun _ => 0) (0 + d.longest c) :=
      Driver.within_code uri job device c
    rw [Nat.zero_add] at hwithin
    exact length_events_le World.env hwithin w

theorem isGreatest_longest_oneLine : IsGreatest (Set.range fun w : World Td2000.JobData =>
    ((Driver.td2000.callbacks.code "usb://TD-2020" 0 0 (.startPage oneLinePage 0)).trace w).length)
      11 :=
  isGreatest_longest (d := .td2000) ⟨.td2x2x, acceptsMedia_oneRow⟩

end Reached

/-! ## Every thread of the server ends -/

section Ends

variable {δ : Type} {callbacks : Callbacks δ} {uri : String}

theorem client_attemptCode (job device : Nat) (cs : List Callback) :
    Client callbacks (attemptCode callbacks uri job device cs) := by
  induction cs with
  | nil => exact .ret true
  | cons c cs ih =>
    refine .call uri job device c (fun ok => ?_)
    cases ok with
    | true => exact ih
    | false => exact .ret false

theorem client_queued (q : Queued) : Client callbacks (q.code callbacks uri) := by
  refine .call uri q.job q.device (.startJob q.options) (fun ok => ?_)
  cases ok with
  | false => exact .ret false
  | true =>
    refine client_bind (client_attemptCode q.job q.device _) (fun ok => ?_)
    cases ok with
    | true => exact .ret true
    | false =>
      show Client callbacks (if q.ended then _ else _)
      split
      · exact .call uri q.job q.device (.endJob q.options) fun _ => .ret false
      · exact .ret false

theorem client_queueThread (queue : List Queued) :
    Client callbacks (queueThread callbacks uri queue) := by
  induction queue with
  | nil => exact .ret []
  | cons q queue ih =>
    exact client_bind (client_queued q) fun ok => client_bind ih fun results => .ret _

theorem client_pollThread (uris : List String) :
    Client callbacks (pollThread callbacks uris) := by
  induction uris with
  | nil => exact .ret []
  | cons uri uris ih =>
    exact .call uri 0 0 .getStatus fun ok => client_bind ih fun results => .ret _

variable {d : Driver}

theorem within_pollThread {n : Nat} (uris : List String) :
    (pollThread d.callbacks uris).Within (fun _ => n)
      (n + d.longest .getStatus * uris.length) := by
  induction uris with
  | nil => exact within_ret (Nat.le_refl n)
  | cons uri uris ih =>
    rw [List.length_cons, Nat.mul_succ, ← Nat.add_assoc]
    refine within_bind (Driver.within_getStatus uri) (fun ok => ?_)
    exact within_bind ih fun results => within_ret (Nat.le_refl n)

variable {τ : Type} (queues : String → List Queued) (polls : τ → List String)

/-- The calls of the longest run of each thread. -/
def Driver.longestThread (d : Driver) : String ⊕ τ → Nat
  | .inl uri => d.longestQueue (queues uri)
  | .inr t => d.longest .getStatus * (polls t).length

theorem within_servicePool (w : World d.JobData) (t : String ⊕ τ) :
    ((servicePool d queues polls w).prog t).Within (fun _ => 0)
      (d.longestThread queues polls t) := by
  rw [← Nat.zero_add (d.longestThread queues polls t)]
  cases t with
  | inl uri => exact within_queueThread (queues uri)
  | inr t => exact within_pollThread (polls t)

theorem client_servicePool (w : World d.JobData) (t : String ⊕ τ) :
    Client d.callbacks ((servicePool d queues polls w).prog t) := by
  cases t with
  | inl uri => exact client_queueThread (queues uri)
  | inr t => exact client_pollThread (polls t)

/-- No device and no schedule keeps a thread of the server busy for longer than its bound,
and a thread that has had that many steps is done and holds no connection. -/
theorem service_ends [DecidableEq τ] (w : World d.JobData) (schedule : List (String ⊕ τ))
    (t : String ⊕ τ) :
    let pool := servicePool d queues polls w
    let own := Pool.eventsOf t (pool.trace World.env schedule)
    own.length ≤ d.longestThread queues polls t ∧
      (d.longestThread queues polls t ≤ schedule.countP (· = t) →
        (∃ results, (pool.run World.env schedule).prog t = .ret results) ∧
          held own = noConnection) := by
  intro pool own
  have hwithin := within_servicePool queues polls w t
  obtain ⟨left, -, hspent⟩ := Pool.within_run (h := World.env) schedule hwithin
  refine ⟨hspent ▸ Nat.le_add_right own.length left, fun hsteps => ?_⟩
  obtain ⟨results, hdone⟩ := Pool.done_of_count (h := World.env) schedule hwithin hsteps
  have hholds : ∀ t, (pool.prog t).Warranted Orderly (fun past _ => held past = noConnection) [] :=
    fun t => holds_client (client_servicePool queues polls w t) [] rfl
  have hlast := Pool.warranted_run (h := World.env) schedule hholds t
  rw [hdone] at hlast
  exact ⟨⟨results, hdone⟩, hlast⟩

/-- Two jobs on a printer that overheats, and clients in between. -/
theorem service_ends_overheated :
    let schedule := deskSchedule 0 ++ List.replicate
      (Driver.td2000.longestQueue (twoJobs "usb://TD-2020")) (.inl "usb://TD-2020")
    let pool := servicePool .td2000 twoJobs deskPolls (worldOf none overheated)
    (∃ results, (pool.run World.env schedule).prog (.inl "usb://TD-2020") = .ret results) ∧
      held (Pool.eventsOf (.inl "usb://TD-2020") (pool.trace World.env schedule)) =
        noConnection :=
  (service_ends twoJobs deskPolls (worldOf none overheated) _ (.inl "usb://TD-2020")).2
    (le_countP_desk _ _)

end Ends

end Drivers
end BrThermal
