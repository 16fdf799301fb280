/-
All the printers of a server at once.

Each printer has a thread that prints its queue, and client threads ask printers for their
status whenever they like.  What happens at the other printers, and what their devices do,
reaches none of a printer's paper.  On a device that takes every write each job prints the
first of its pages, jobs and pages in order; on one that in addition reports neither an
error nor a hold, every page of every job.
-/
import BrThermal.Drivers.Queue

namespace BrThermal
namespace Drivers

open Effect Effect.Prog Pappl Codec Raster

/-- A client, which asks printers for their status. -/
def pollThread {δ : Type} (callbacks : Callbacks δ) : List String → Code δ (List Bool)
  | [] => return []
  | uri :: uris => do
    let ok ← callbacks.getStatus uri
    let results ← pollThread callbacks uris
    return ok :: results

/-- The queues of all printers, and clients. -/
def servicePool {τ : Type} (d : Driver) (queues : String → List Queued) (polls : τ → List String)
    (w : World d.JobData) :
    Pool (String ⊕ τ) (Call d.JobData) Call.Reply (List Bool) (World d.JobData) where
  state := w
  prog
    | .inl uri => queueThread d.callbacks uri (queues uri)
    | .inr t => pollThread d.callbacks (polls t)

/-! ## Which calls the threads make -/

section Calls

variable {d : Driver} {uri u : String}

theorem asks_queueThread {P : Call d.JobData → Prop}
    (hcode : ∀ c : Callback, c ≠ .getStatus → ∀ job device,
      (d.callbacks.code u job device c).Asks P) (queue : List Queued) :
    (queueThread d.callbacks u queue).Asks P := by
  have hqueued : ∀ q : Queued, (q.code d.callbacks u).Asks P := by
    intro q
    refine asks_bind (hcode _ Callback.noConfusion q.job q.device) (fun ok => ?_)
    cases ok with
    | false => exact asks_ret _
    | true =>
      refine asks_bind (asks_attemptCode fun c hc => hcode c (ne_getStatus_of_mem hc) _ _)
        (fun ok => ?_)
      cases ok with
      | true => exact asks_ret _
      | false =>
        show (if q.ended then _ else _ : Code d.JobData Bool).Asks P
        split
        · exact asks_bind (hcode _ Callback.noConfusion q.job q.device) fun ok => asks_ret _
        · exact asks_ret _
  induction queue with
  | nil => exact asks_ret _
  | cons q queue ih =>
    exact asks_bind (hqueued q) fun ok => asks_bind ih fun results => asks_ret _

theorem asks_pollThread (uri : String) (uris : List String) :
    (pollThread d.callbacks uris).Asks (Bystands uri) := by
  induction uris with
  | nil => exact asks_ret _
  | cons u uris ih =>
    have hstatus : (d.callbacks.code u 0 0 .getStatus).Asks (Bystands uri) :=
      asks_code_bystands (fun _ => rfl) 0 0
    exact asks_bind hstatus fun ok => asks_bind ih fun results => asks_ret _

/-- The thread of a queue, beside the queues of other printers and the clients. -/
theorem beside_servicePool {τ : Type} (uri : String) (queues : String → List Queued)
    (polls : τ → List String) (w : World d.JobData) :
    Beside uri (.inl uri) (servicePool d queues polls w) where
  own := asks_queueThread (fun _ hc _ _ => asks_code_own hc _ _) (queues uri)
  others t ht := by
    cases t with
    | inl u =>
      have hu : u ≠ uri := fun hu => ht (congrArg Sum.inl hu)
      exact asks_queueThread (fun _ _ _ _ => asks_code_bystands (fun h => absurd h hu) _ _)
        (queues u)
    | inr t => exact asks_pollThread uri (polls t)

end Calls

/-! ## Every schedule -/

section Schedule

variable {d : Driver} {τ : Type} [DecidableEq τ] {uri name : String} {model : d.Model}
  {queues : String → List Queued} {w : World d.JobData}

theorem takeAll_work (r : Reader) (cs : List Command) :
    r.takeAll (cs.filter isWork) = r.takeAll cs := by
  induction cs generalizing r with
  | nil => rfl
  | cons c cs ih =>
    by_cases hwork : isWork c
    · rw [List.filter_cons_of_pos hwork, Reader.takeAll_cons, Reader.takeAll_cons, ih]
    · rw [List.filter_cons_of_neg hwork, Reader.takeAll_cons, ih]
      obtain ⟨opcode, data, fits⟩ := c
      obtain rfl : opcode = .statusInformationRequest := by
        by_contra hne
        exact hwork (decide_eq_true hne)
      show r.takeAll cs = ((if r.betweenPages then some r else none).getD r).takeAll cs
      split <;> rfl

/-- How far a queue has come in a schedule, by what its thread sent. -/
theorem queue_sent (polls : τ → List String) (hmodel : d.modelMap.lookup name = some model)
    (hs : Agreeable name (w.script uri)) (schedule : List (String ⊕ τ)) :
    let pool := servicePool d queues polls w
    ∃ results sent, Through (SentBy d uri model w) (queues uri) results sent ∧
      written (Pool.eventsOf (.inl uri) (pool.trace World.env schedule)) = sent.flatten ∧
      ∀ returned, (pool.run World.env schedule).prog (.inl uri) = .ret returned →
        results = returned ∧ returned.length = (queues uri).length := by
  intro pool
  have hbeside : Beside uri (.inl uri) pool := beside_servicePool uri queues polls w
  let own := Pool.eventsOf (.inl uri) (pool.trace World.env schedule)
  have hseen : Agreeable name ((w.withScript uri (seen own)).script uri) := by
    rw [show (w.withScript uri (seen own)).script uri = seen own from Function.update_self _ _ _]
    exact hbeside.agreeable hs schedule
  obtain ⟨w', hevents, hrun⟩ := hbeside.alone schedule
  obtain ⟨hlength, sent, hthrough, hsent⟩ := queueThread_sent (queues uri) hseen hmodel
  have hevents' : (queueThread d.callbacks uri (queues uri)).events World.env
      (w.withScript uri (seen own)) =
        own ++ ((pool.run World.env schedule).prog (.inl uri)).events World.env w' := hevents
  have hrun' : (queueThread d.callbacks uri (queues uri)).run World.env
      (w.withScript uri (seen own)) =
        ((pool.run World.env schedule).prog (.inl uri)).run World.env w' := hrun
  rw [hevents'] at hsent
  rw [hrun'] at hthrough hlength
  by_cases hdone : ∃ returned, (pool.run World.env schedule).prog (.inl uri) = .ret returned
  · obtain ⟨returned, hdone⟩ := hdone
    rw [hdone] at hthrough hlength hsent
    refine ⟨returned, sent, hthrough, ?_, fun results hresults => ?_⟩
    · rw [← hsent]
      exact congrArg written (List.append_nil own).symm
    · obtain rfl := Prog.ret.inj (hdone.symm.trans hresults)
      exact ⟨rfl, hlength⟩
  · rw [written_append] at hsent
    obtain ⟨results, sent', hthrough', hown⟩ :=
      hthrough.earlier (hsent ▸ List.prefix_append (written own) _)
    exact ⟨results, sent', hthrough', hown, fun returned h => absurd ⟨returned, h⟩ hdone⟩

/-- What was sent tells what the printer prints of its stream. -/
theorem pages_of_sent (polls : τ → List String) (hs : Agreeable name (w.script uri))
    (hfits : ∀ q ∈ queues uri, q.Fits d model (w.impressions ⟨uri, q.job⟩))
    {schedule : List (String ⊕ τ)} {results : List Bool} {sent : List (List (List UInt8))}
    (hthrough : Through (SentBy d uri model w) (queues uri) results sent)
    (hsent : written (Pool.eventsOf (.inl uri)
      ((servicePool d queues polls w).trace World.env schedule)) = sent.flatten) :
    ∃ (cs : List Command) (printed : List (List Raster.Page)),
      commandSet.decodeAll (stream uri ((servicePool d queues polls w).trace World.env schedule)) =
        some cs ∧
      (Reader.takeAll {} cs).pages = printed.flatten ∧
      Through (PrintedBy d model) (queues uri) results printed := by
  obtain ⟨cs, js, hstream, hjs, hfilter⟩ := (beside_servicePool uri queues polls w).stream_eq hs
    fun block hblock => hthrough.encodes block (hsent ▸ hblock)
  obtain ⟨printed, hprinted, hsettles⟩ :=
    settles_queue (settles_nil d.nulCount) hfits hthrough
  rw [List.nil_append, List.nil_append, ← hsent, ← hjs] at hsettles
  refine ⟨cs, printed, CommandSet.decodeAll_eq_some_iff.mpr hstream, ?_, hprinted⟩
  rw [← takeAll_work, hfilter, takeAll_work]
  exact pages_of_settles hsettles

/-- In every schedule, whatever happens at other printers and to their devices, each job
of a printer whose device takes every write, if it fits, prints the first of its own pages,
perhaps the beginning of one more, and all of them where its callbacks returned true.
Nothing else is printed, and the pages come out job by job in the order of the queue. -/
theorem queues_print (polls : τ → List String) (hmodel : d.modelMap.lookup name = some model)
    (hs : Agreeable name (w.script uri))
    (hfits : ∀ q ∈ queues uri, q.Fits d model (w.impressions ⟨uri, q.job⟩))
    (schedule : List (String ⊕ τ)) :
    let pool := servicePool d queues polls w
    ∃ (cs : List Command) (results : List Bool) (printed : List (List Raster.Page)),
      commandSet.decodeAll (stream uri (pool.trace World.env schedule)) = some cs ∧
      (Reader.takeAll {} cs).pages = printed.flatten ∧
      Through (PrintedBy d model) (queues uri) results printed ∧
      ∀ returned, (pool.run World.env schedule).prog (.inl uri) = .ret returned →
        results = returned ∧ returned.length = (queues uri).length := by
  intro pool
  obtain ⟨results, sent, hthrough, hsent, hdone⟩ := queue_sent polls hmodel hs schedule
  obtain ⟨cs, printed, hstream, hpages, hprinted⟩ := pages_of_sent polls hs hfits hthrough hsent
  exact ⟨cs, results, printed, hstream, hpages, hprinted, hdone⟩

def oneJob (job : Nat) : Queued := ⟨job, job, oneLinePage, [oneRow], true⟩

def twoJobs (uri : String) : List Queued :=
  if uri = "usb://TD-2020" then [oneJob 0, oneJob 1] else []

/-- The device gives its ID twice. -/
def twiceNamed : World Td2000.JobData :=
  { (World.fresh fun _ => 1 : World Td2000.JobData) with
    script := fun _ => { ids := List.replicate 2 (some ⟨some "TD-2020"⟩) } }

def deskPolls (_ : Nat) : List String := ["usb://TD-2020", "usb://TD-2130N"]

/-- A client looks at the flag before the first job sets it, and asks after. -/
def deskSchedule (n : Nat) : List (String ⊕ Nat) :=
  [.inr 0] ++ List.replicate 12 (.inl "usb://TD-2020") ++ [.inr 0, .inr 0] ++
    List.replicate n (.inl "usb://TD-2020")

theorem agreeable_twiceNamed : Agreeable "TD-2020" (twiceNamed.script "usb://TD-2020") :=
  ⟨fun _ ho => absurd ho List.not_mem_nil, fun _ hdid => .inr (List.eq_of_mem_replicate hdid)⟩

theorem fits_twoJobs : ∀ q ∈ twoJobs "usb://TD-2020",
    q.Fits .td2000 .td2x2x (twiceNamed.impressions ⟨"usb://TD-2020", q.job⟩) := by
  intro q hq
  have hone : ∃ job, q = oneJob job := by
    rw [twoJobs, if_pos rfl, List.mem_cons, List.mem_singleton] at hq
    rcases hq with rfl | rfl <;> exact ⟨_, rfl⟩
  obtain ⟨job, rfl⟩ := hone
  exact ⟨List.cons_ne_nil _ _, rfl, acceptsMedia_singleton⟩

theorem queues_print_desk :
    let pool := servicePool .td2000 twoJobs deskPolls twiceNamed
    ∃ (cs : List Command) (results : List Bool) (printed : List (List Raster.Page)),
      commandSet.decodeAll
        (stream "usb://TD-2020" (pool.trace World.env (deskSchedule 300))) = some cs ∧
      (Reader.takeAll {} cs).pages = printed.flatten ∧
      Through (PrintedBy .td2000 .td2x2x) (twoJobs "usb://TD-2020") results printed ∧
      ∀ returned, (pool.run World.env (deskSchedule 300)).prog (.inl "usb://TD-2020") =
          .ret returned →
        results = returned ∧ returned.length = (twoJobs "usb://TD-2020").length :=
  queues_print deskPolls (show Driver.td2000.modelMap.lookup "TD-2020" = some .td2x2x by decide)
    agreeable_twiceNamed fits_twoJobs (deskSchedule 300)

/-- Where nothing goes wrong, every job of the queue goes through. -/
theorem queue_through (polls : τ → List String) (hmodel : d.modelMap.lookup name = some model)
    (hs : Agreeable name (w.script uri)) (hcalm : (w.script uri).Calm)
    (hmedia : ∀ q ∈ queues uri, ∀ page ∈ q.pages, d.AcceptsMedia model page.options.media)
    {schedule : List (String ⊕ τ)}
    (hnames : ∀ e ∈ Pool.eventsOf (.inl uri)
      ((servicePool d queues polls w).trace World.env schedule), Names name e)
    (hsteps : d.longestQueue (queues uri) ≤ schedule.countP (· = .inl uri)) :
    ((servicePool d queues polls w).run World.env schedule).prog (.inl uri) =
      .ret (List.replicate (queues uri).length true) := by
  let pool := servicePool d queues polls w
  have hbeside : Beside uri (.inl uri) pool := beside_servicePool uri queues polls w
  let own := Pool.eventsOf (.inl uri) (pool.trace World.env schedule)
  have hwithin : (queueThread d.callbacks uri (queues uri)).Within (fun _ => 0)
      (0 + d.longestQueue (queues uri)) := within_queueThread (queues uri)
  rw [Nat.zero_add] at hwithin
  obtain ⟨returned, hdone⟩ : ∃ returned,
      (pool.run World.env schedule).prog (.inl uri) = .ret returned :=
    Pool.done_of_count schedule hwithin hsteps
  have hscript : (w.withScript uri (seen own)).script uri = seen own := Function.update_self _ _ _
  have heasy : Easy ((w.withScript uri (seen own)).script uri) := by
    rw [hscript]
    exact hbeside.easy hs hcalm schedule
  -- Alone on the device it saw, the thread did the same.
  obtain ⟨w', hevents, hrun⟩ := hbeside.alone schedule
  rw [hdone] at hevents hrun
  have htrace : (queueThread d.callbacks uri (queues uri)).trace (w.withScript uri (seen own)) =
      own := hevents.trans (List.append_nil own)
  have hvalue : (queueThread d.callbacks uri (queues uri)).value (w.withScript uri (seen own)) =
      returned := congrArg Prod.fst hrun
  have hall : returned = List.replicate (queues uri).length true := by
    rw [← hvalue]
    refine queueThread_easy heasy hmodel hmedia ?_
    rw [htrace]
    exact hnames
  exact hdone.trans (congrArg Prog.ret hall)

/-- Where the device also reports neither an error nor a hold and names its model whenever
a job asks, a queue of jobs that fit is through after a bounded number of its own steps,
wherever the steps of other threads fall, and every page of every job is printed. -/
theorem queues_finish (polls : τ → List String) (hmodel : d.modelMap.lookup name = some model)
    (hs : Agreeable name (w.script uri)) (hcalm : (w.script uri).Calm)
    (hfits : ∀ q ∈ queues uri, q.Fits d model (w.impressions ⟨uri, q.job⟩))
    {schedule : List (String ⊕ τ)}
    (hnames : ∀ e ∈ Pool.eventsOf (.inl uri)
      ((servicePool d queues polls w).trace World.env schedule), Names name e)
    (hsteps : d.longestQueue (queues uri) ≤ schedule.countP (· = .inl uri)) :
    let pool := servicePool d queues polls w
    ∃ (cs : List Command) (printed : List (List Raster.Page)),
      (pool.run World.env schedule).prog (.inl uri) =
        .ret (List.replicate (queues uri).length true) ∧
      commandSet.decodeAll (stream uri (pool.trace World.env schedule)) = some cs ∧
      (Reader.takeAll {} cs).pages = printed.flatten ∧
      List.Forall₂ (fun q pages => List.Forall₂ (Shows d model q.pages.length) q.pages.zipIdx pages)
        (queues uri) printed := by
  intro pool
  have hdone := queue_through polls hmodel hs hcalm (fun q hq => (hfits q hq).media) hnames hsteps
  obtain ⟨results, sent, hthrough, hsent, hresults⟩ := queue_sent polls hmodel hs schedule
  obtain ⟨rfl, -⟩ := hresults _ hdone
  obtain ⟨cs, printed, hstream, hpages, hprinted⟩ := pages_of_sent polls hs hfits hthrough hsent
  exact ⟨cs, printed, hdone, hstream, hpages,
    (hprinted.forall_true rfl).imp fun q pages h => h.whole rfl⟩

theorem names_deskSchedule (n : Nat) : ∀ e ∈ Pool.eventsOf (.inl "usb://TD-2020")
    ((servicePool .td2000 twoJobs deskPolls twiceNamed).trace World.env
      (deskSchedule 600 ++ List.replicate n (.inl "usb://TD-2020"))), Names "TD-2020" e := by
  rw [Pool.eventsOf_of_done (deskSchedule 600) _ (by decide +kernel)]
  decide +kernel

theorem le_countP_desk (n : Nat) (schedule : List (String ⊕ Nat)) :
    n ≤ (schedule ++ List.replicate n (Sum.inl "usb://TD-2020")).countP
      fun t => t = Sum.inl "usb://TD-2020" := by
  rw [List.countP_append, List.countP_replicate, if_pos (decide_eq_true rfl)]
  exact Nat.le_add_left _ _

theorem queues_finish_desk :
    let schedule := deskSchedule 600 ++ List.replicate
      (Driver.td2000.longestQueue (twoJobs "usb://TD-2020")) (.inl "usb://TD-2020")
    let pool := servicePool .td2000 twoJobs deskPolls twiceNamed
    ∃ (cs : List Command) (printed : List (List Raster.Page)),
      (pool.run World.env schedule).prog (.inl "usb://TD-2020") = .ret (List.replicate 2 true) ∧
      commandSet.decodeAll (stream "usb://TD-2020" (pool.trace World.env schedule)) = some cs ∧
      (Reader.takeAll {} cs).pages = printed.flatten ∧
      List.Forall₂ (fun q pages =>
          List.Forall₂ (Shows .td2000 .td2x2x q.pages.length) q.pages.zipIdx pages)
        (twoJobs "usb://TD-2020") printed :=
  queues_finish deskPolls (show Driver.td2000.modelMap.lookup "TD-2020" = some .td2x2x by decide)
    agreeable_twiceNamed (fun _ hreply => absurd hreply List.not_mem_nil) fits_twoJobs
    (names_deskSchedule _) (le_countP_desk _ _)

end Schedule

end Drivers
end BrThermal
