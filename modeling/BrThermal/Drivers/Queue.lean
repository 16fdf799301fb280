/-
The queue of a printer.

PAPPL prints the jobs of a printer one after another.  A job goes on to the next when all
its callbacks returned true, and breaks off at the first that did not; then PAPPL may end
it with `endJob`, and goes on to the next as well.  What the thread sends on a device that
takes every write is told job by job, at any moment of its run.
-/
import BrThermal.Drivers.Success

namespace BrThermal
namespace Drivers

open Effect Effect.Prog Pappl Codec Raster

/-! ## The thread of a queue -/

/-- A job that waits, and whether it is ended should it break off. -/
structure Queued where
  job : Nat
  device : Nat
  options : PrOptions
  pages : List JobPage
  ended : Bool

/-- A job that has started. -/
def Queued.startedCode {δ : Type} (q : Queued) (callbacks : Callbacks δ) (uri : String) :
    Code δ Bool := do
  if ← attemptCode callbacks uri q.job q.device
      (pageCallbacks 0 q.pages ++ [.endJob q.options]) then
    return true
  else if q.ended then
    let _ ← callbacks.code uri q.job q.device (.endJob q.options)
    return false
  else return false

def Queued.code {δ : Type} (q : Queued) (callbacks : Callbacks δ) (uri : String) :
    Code δ Bool := do
  if ← callbacks.code uri q.job q.device (.startJob q.options) then q.startedCode callbacks uri
  else return false

/-- The thread returns which of its jobs went through. -/
def queueThread {δ : Type} (callbacks : Callbacks δ) (uri : String) :
    List Queued → Code δ (List Bool)
  | [] => return []
  | q :: queue => do
    let ok ← q.code callbacks uri
    let results ← queueThread callbacks uri queue
    return ok :: results

/-- How far a queue has come: its first jobs are through, with what each left, and one more
may be underway. -/
inductive Through {α : Type} (Left : Queued → Bool → α → Prop) :
    List Queued → List Bool → List α → Prop
  | waits {queue : List Queued} : Through Left queue [] []
  | underway {q : Queued} {queue : List Queued} {a : α} (h : Left q false a) :
      Through Left (q :: queue) [] [a]
  | done {q : Queued} {queue : List Queued} {ok : Bool} {results : List Bool} {a : α} {as : List α}
      (h : Left q ok a) (hrest : Through Left queue results as) :
      Through Left (q :: queue) (ok :: results) (a :: as)

theorem Through.forall_true {α : Type} {Left : Queued → Bool → α → Prop} {queue : List Queued}
    {results : List Bool} {as : List α} (h : Through Left queue results as)
    (hresults : results = List.replicate queue.length true) :
    List.Forall₂ (fun q a => Left q true a) queue as := by
  induction h with
  | @waits queue =>
    cases queue with
    | nil => exact .nil
    | cons q queue => exact absurd hresults (List.cons_ne_nil _ _).symm
  | underway h => exact absurd hresults (List.cons_ne_nil _ _).symm
  | done h hrest ih =>
    rw [List.length_cons, List.replicate_succ] at hresults
    obtain ⟨hok, hothers⟩ := List.cons.inj hresults
    subst hok
    exact .cons h (ih hothers)

/-! ## What a job sends -/

section Sent

variable {d : Driver} {model : d.Model} {pageCount : UInt32} {q : Queued} {ok : Bool}
  {blocks blocks' : List (List UInt8)}

/-- The commands of a job behind those of `startJob`. -/
def Queued.pageWrites (q : Queued) (d : Driver) (model : d.Model) (pageCount : UInt32) :
    List (List UInt8) :=
  (pageCallbacks 0 q.pages).flatMap (d.writes model pageCount) ++ [Commands.printWithFeeding]

theorem jobWrites_eq_pageWrites (d : Driver) (model : d.Model) (pageCount : UInt32) (q : Queued) :
    d.jobWrites model pageCount q.options q.pages =
      d.startCommands model ++ q.pageWrites d model pageCount := by
  rw [Driver.jobWrites, jobCallbacks, List.flatMap_cons, List.flatMap_append,
    List.flatMap_singleton]
  rfl

/-- What a job sent: its first commands, all of them where it went through, and a second
Ctrl-Z perhaps where it broke off. -/
inductive Queued.Sent (d : Driver) (model : d.Model) (pageCount : UInt32) (q : Queued) :
    Bool → List (List UInt8) → Prop
  | begun {ok : Bool} {blocks : List (List UInt8)}
      (h : blocks <+: d.jobWrites model pageCount q.options q.pages)
      (hwhole : ok = true → blocks = d.jobWrites model pageCount q.options q.pages) :
      Sent d model pageCount q ok blocks
  | ended {blocks : List (List UInt8)} (h : blocks <+: q.pageWrites d model pageCount) :
      Sent d model pageCount q false
        (d.startCommands model ++ blocks ++ [Commands.printWithFeeding])

/-- At an earlier moment. -/
theorem Queued.Sent.earlier (h : q.Sent d model pageCount ok blocks)
    (hblocks : blocks' <+: blocks) :
    q.Sent d model pageCount false blocks' := by
  cases h with
  | begun h hwhole => exact .begun (hblocks.trans h) fun hok => absurd hok Bool.false_ne_true
  | ended h =>
    rcases List.prefix_concat_iff.mp hblocks with rfl | hbegun
    · exact .ended h
    · refine .begun (hbegun.trans ?_) fun hok => absurd hok Bool.false_ne_true
      rw [jobWrites_eq_pageWrites]
      exact (List.prefix_append_right_inj _).mpr h

theorem Queued.Sent.encodes (h : q.Sent d model pageCount ok blocks) :
    ∀ block ∈ blocks, ∃ cs, commandSet.encodeAll cs = block := by
  intro block hblock
  cases h with
  | begun h hwhole =>
    exact encodes_jobWrites model pageCount q.options q.pages block (h.subset hblock)
  | ended h =>
    rcases List.mem_append.mp hblock with hbegun | hfeed
    · refine encodes_jobWrites model pageCount q.options q.pages block ?_
      rw [jobWrites_eq_pageWrites]
      exact ((List.prefix_append_right_inj _).mpr h).subset hbegun
    · rw [List.mem_singleton.mp hfeed]
      exact ⟨[⟨.printWithFeeding, [], rfl⟩], rfl⟩

variable {uri name : String} {w : World d.JobData}

theorem startedCode_sent (hs : (w.script uri).Completes)
    (hdata : w.jobData ⟨uri, q.job⟩ = some (d.jobData model))
    (hcount : (w.impressions ⟨uri, q.job⟩).toUInt32 = pageCount) {es : List (Event d.JobData)}
    (hes : written es = d.startCommands model) :
    (q.startedCode d.callbacks uri).wp World.env (fun ok es' _ =>
      q.Sent d model pageCount ok (written (es ++ es'))) w := by
  have hpages : (attemptCode d.callbacks uri q.job q.device
      (pageCallbacks 0 q.pages ++ [.endJob q.options])).wp World.env
        (fun ok es' _ => WritesUpTo (q.pageWrites d model pageCount) ok es') w := by
    rw [← hcount]
    exact attemptCode_pages (fun c hc => ofPage_of_mem hc) q.options hs hdata
  rw [Queued.startedCode]
  refine wp_seq hpages (fun ok es' w' hes' => ?_)
  have hbegun : written (es ++ es') <+: d.jobWrites model pageCount q.options q.pages := by
    rw [written_append, hes, jobWrites_eq_pageWrites]
    exact (List.prefix_append_right_inj _).mpr hes'.written
  cases ok with
  | true =>
    rw [if_pos rfl, pure_eq, wp_ret, List.append_nil]
    refine .begun hbegun fun _ => ?_
    rw [written_append, hes, hes'.written_eq, jobWrites_eq_pageWrites]
  | false =>
    rw [if_neg Bool.false_ne_true]
    split
    · refine wp_seq (endJob_writesUpTo ⟨uri, q.job⟩ ⟨uri, q.device⟩ q.options w')
        (fun ok es'' _ hes'' => ?_)
      rw [pure_eq, wp_ret, List.append_nil, ← List.append_assoc, written_append (es ++ es')]
      rcases List.prefix_cons_iff.mp hes''.written with hnone | ⟨_, hfeed, hnil⟩
      · rw [hnone, List.append_nil]
        exact .begun hbegun fun hok => absurd hok Bool.false_ne_true
      · obtain rfl := List.prefix_nil.mp hnil
        rw [hfeed, written_append, hes]
        exact .ended hes'.written
    · rw [pure_eq, wp_ret, List.append_nil]
      exact .begun hbegun fun hok => absurd hok Bool.false_ne_true

theorem queued_sent (hs : Agreeable name (w.script uri))
    (hmodel : d.modelMap.lookup name = some model) :
    (q.code d.callbacks uri).wp World.env (fun ok es _ =>
      q.Sent d model (w.impressions ⟨uri, q.job⟩).toUInt32 ok (written es)) w := by
  have hid : ∀ did, (w.script uri).ids.headD none = some did → did = ⟨some name⟩ := by
    intro did hdid
    rcases hs.headD with hnone | hsome
    · cases hnone.symm.trans hdid
    · exact Option.some.inj (hdid.symm.trans hsome)
  have hleft : (d.callbacks.code uri q.job q.device (.startJob q.options)).wp World.env
      (fun _ _ w' => (w'.script uri).Completes ∧ w'.impressions = w.impressions) w :=
    ⟨(leaves_final _ w uri).completes hs.completes, impressions_final _ w⟩
  rw [Queued.code]
  refine wp_seq (wp_and (startJob_writesUpTo ⟨uri, q.job⟩ ⟨uri, q.device⟩ q.options hid hmodel)
    hleft) (fun ok es w' h => ?_)
  obtain ⟨⟨hes, hdata⟩, hs', himp⟩ := h
  cases ok with
  | true =>
    rw [if_pos rfl]
    exact startedCode_sent hs' (hdata rfl) (by rw [himp]) hes.written_eq
  | false =>
    rw [if_neg Bool.false_ne_true, pure_eq, wp_ret, List.append_nil]
    refine .begun (hes.written.trans ?_) fun hok => absurd hok Bool.false_ne_true
    rw [jobWrites_eq_pageWrites]
    exact List.prefix_append _ _

end Sent

/-! ## What a queue sends -/

section Queue

variable {d : Driver} {uri name : String} {model : d.Model} {w : World d.JobData}

/-- What each job of a queue sent. -/
def SentBy (d : Driver) (uri : String) (model : d.Model) (w : World d.JobData) (q : Queued)
    (ok : Bool) (blocks : List (List UInt8)) : Prop :=
  q.Sent d model (w.impressions ⟨uri, q.job⟩).toUInt32 ok blocks

/-- The device stays as agreeable as it is. -/
theorem agreeable_final {δ α : Type} (p : Code δ α) {w : World δ}
    (hs : Agreeable name (w.script uri)) : Agreeable name ((p.final w).script uri) :=
  run_of_asks (R := fun w w' : World δ => Agreeable name (w.script uri) →
      Agreeable name (w'.script uri)) (fun _ h => h) (fun _ _ _ hab hbc h => hbc (hab h))
    (fun c w _ h => (agreeable_answer c w h).2) (asks_true p) w hs

theorem queueThread_sent (queue : List Queued) (hs : Agreeable name (w.script uri))
    (hmodel : d.modelMap.lookup name = some model) :
    (queueThread d.callbacks uri queue).wp World.env (fun results es _ =>
      results.length = queue.length ∧
        ∃ sent, Through (SentBy d uri model w) queue results sent ∧ written es = sent.flatten) w := by
  induction queue generalizing w with
  | nil => exact ⟨rfl, [], .waits, rfl⟩
  | cons q queue ih =>
    have hleft : (q.code d.callbacks uri).wp World.env
        (fun _ _ w' => Agreeable name (w'.script uri) ∧ w'.impressions = w.impressions) w :=
      ⟨agreeable_final _ hs, impressions_final _ w⟩
    refine wp_seq (wp_and (queued_sent hs hmodel) hleft) (fun ok es w' h => ?_)
    obtain ⟨hes, hs', himp⟩ := h
    refine wp_seq (ih hs') (fun results es' _ h' => ?_)
    obtain ⟨hlength, sent, hthrough, hes'⟩ := h'
    rw [pure_eq, wp_ret, List.append_nil]
    refine ⟨congrArg (· + 1) hlength, written es :: sent, .done hes ?_, ?_⟩
    · have hsame : SentBy d uri model w' = SentBy d uri model w := by
        funext q ok blocks
        rw [SentBy, SentBy, himp]
      rwa [hsame] at hthrough
    · rw [written_append, hes', List.flatten_cons]

theorem Through.earlier {queue : List Queued} {results : List Bool}
    {sent : List (List (List UInt8))}
    {blocks : List (List UInt8)} (h : Through (SentBy d uri model w) queue results sent)
    (hblocks : blocks <+: sent.flatten) :
    ∃ results' sent', Through (SentBy d uri model w) queue results' sent' ∧
      blocks = sent'.flatten := by
  induction h generalizing blocks with
  | waits => exact ⟨[], [], .waits, List.prefix_nil.mp hblocks⟩
  | underway h =>
    rw [List.flatten_singleton] at hblocks
    exact ⟨[], [blocks], .underway (Queued.Sent.earlier h hblocks), (List.flatten_singleton).symm⟩
  | @done q queue ok results a as h hrest ih =>
    rw [List.flatten_cons] at hblocks
    rcases Nat.le_total blocks.length a.length with hle | hle
    · have hfirst := List.prefix_of_prefix_length_le hblocks (List.prefix_append _ _) hle
      exact ⟨[], [blocks], .underway (Queued.Sent.earlier h hfirst), (List.flatten_singleton).symm⟩
    · obtain ⟨more, rfl⟩ := List.prefix_of_prefix_length_le (List.prefix_append _ _) hblocks hle
      obtain ⟨results', sent', hthrough, rfl⟩ := ih ((List.prefix_append_right_inj _).mp hblocks)
      exact ⟨ok :: results', a :: sent', .done h hthrough, rfl⟩

/-! ## What a queue prints -/

/-- A job that the driver can print on a printer of the model, with as many impressions
as PAPPL counted. -/
structure Queued.Fits (q : Queued) (d : Driver) (model : d.Model) (impressions : Int32) : Prop where
  nonempty : q.pages ≠ []
  count : impressions.toInt = q.pages.length
  media : ∀ page ∈ q.pages, d.AcceptsMedia model page.options.media

/-- What each job of a queue prints. -/
def PrintedBy (d : Driver) (model : d.Model) (q : Queued) (ok : Bool)
    (printed : List Raster.Page) : Prop :=
  Prints d model q.pages (ok = true) printed

theorem settles_queued {q : Queued} {impressions : Int32} {ok : Bool} {blocks : List (List UInt8)}
    {bs : List UInt8} {ps : List Raster.Page} (h : Settles d.nulCount bs ps)
    (hfits : q.Fits d model impressions) (hsent : q.Sent d model impressions.toUInt32 ok blocks) :
    ∃ printed, PrintedBy d model q ok printed ∧
      Settles d.nulCount (bs ++ blocks.flatten) (ps ++ printed) := by
  obtain ⟨hne, hcount, hmedia⟩ := hfits
  have hpageCount := toNat_toUInt32 hcount
  cases hsent with
  | begun hbegun hwhole =>
    cases ok with
    | false =>
      obtain ⟨printed, hprints, hsettles⟩ :=
        settles_jobWrites h hne hpageCount hmedia (.between hbegun)
      exact ⟨printed, ⟨hprints.begun, fun hok => absurd hok Bool.false_ne_true⟩, hsettles⟩
    | true =>
      obtain ⟨printed, hprints, hsettles⟩ :=
        settles_jobRest h hne hpageCount hmedia (.whole _) List.nil_prefix
      refine ⟨printed, ⟨hprints.begun, fun _ => hprints.whole rfl⟩, ?_⟩
      rw [List.append_nil] at hsettles
      rw [hwhole rfl, Driver.jobWrites_eq_nuls, List.flatten_cons, List.flatten_cons]
      exact hsettles
  | @ended blocks hbegun =>
    have hbroken : BrokenOff BehindHeader
        (d.jobRest model impressions.toUInt32 q.pages) (d.startRest model ++ blocks).flatten :=
      .between ((List.prefix_append_right_inj _).mpr hbegun)
    obtain ⟨printed, hprints, hsettles⟩ :=
      settles_jobRest h hne hpageCount hmedia hbroken (List.prefix_refl _)
    refine ⟨printed, ⟨hprints.begun, fun hok => absurd hok Bool.false_ne_true⟩, ?_⟩
    rw [Driver.startCommands_eq_nuls, List.flatten_append, List.flatten_singleton, List.cons_append,
      List.cons_append, List.flatten_cons, List.flatten_cons]
    simp only [List.append_assoc] at hsettles ⊢
    exact hsettles

theorem settles_queue {queue : List Queued} {results : List Bool}
    {sent : List (List (List UInt8))} {bs : List UInt8} {ps : List Raster.Page}
    (h : Settles d.nulCount bs ps)
    (hfits : ∀ q ∈ queue, q.Fits d model (w.impressions ⟨uri, q.job⟩))
    (hsent : Through (SentBy d uri model w) queue results sent) :
    ∃ printed, Through (PrintedBy d model) queue results printed ∧
      Settles d.nulCount (bs ++ sent.flatten.flatten) (ps ++ printed.flatten) := by
  induction hsent generalizing bs ps with
  | waits => exact ⟨[], .waits, by rwa [List.flatten_nil, List.flatten_nil, List.flatten_nil,
      List.append_nil, List.append_nil]⟩
  | underway hsent =>
    obtain ⟨printed, hprinted, hsettles⟩ := settles_queued h (hfits _ List.mem_cons_self) hsent
    refine ⟨[printed], .underway hprinted, ?_⟩
    rwa [List.flatten_singleton, List.flatten_singleton]
  | done hsent hrest ih =>
    obtain ⟨printed, hprinted, hsettles⟩ := settles_queued h (hfits _ List.mem_cons_self) hsent
    obtain ⟨more, hmore, hsettles'⟩ := ih hsettles fun q hq => hfits q (List.mem_cons_of_mem _ hq)
    refine ⟨printed :: more, .done hprinted hmore, ?_⟩
    rwa [List.flatten_cons, List.flatten_cons, List.flatten_append, ← List.append_assoc,
      ← List.append_assoc]

theorem Through.encodes {queue : List Queued} {results : List Bool}
    {sent : List (List (List UInt8))} (h : Through (SentBy d uri model w) queue results sent) :
    ∀ block ∈ sent.flatten, ∃ cs, commandSet.encodeAll cs = block := by
  induction h with
  | waits => exact fun block hblock => absurd hblock List.not_mem_nil
  | underway h =>
    rw [List.flatten_singleton]
    exact Queued.Sent.encodes h
  | done h hrest ih =>
    intro block hblock
    rw [List.flatten_cons, List.mem_append] at hblock
    rcases hblock with hblock | hblock
    · exact Queued.Sent.encodes h block hblock
    · exact ih block hblock

end Queue

/-! ## Where nothing goes wrong -/

section Easy

variable {d : Driver} {uri name : String} {model : d.Model} {w : World d.JobData} {q : Queued}

/-- An answer that gives the model where it is asked for. -/
def Names {δ : Type} (name : String) : Event δ → Bool
  | ⟨.deviceGetID _, did⟩ => did = some ⟨some name⟩
  | _ => true

theorem queued_easy (hs : Easy (w.script uri)) (hmodel : d.modelMap.lookup name = some model)
    (hmedia : ∀ page ∈ q.pages, d.AcceptsMedia model page.options.media)
    (hnames : ∀ e ∈ (q.code d.callbacks uri).trace w, Names name e) :
    (q.code d.callbacks uri).value w = true := by
  have hasks : ∃ k, q.code d.callbacks uri = .ask (.deviceGetID ⟨uri, q.device⟩) k := by
    cases d <;> exact ⟨_, rfl⟩
  have hid : (w.script uri).ids.headD none = some ⟨some name⟩ := by
    obtain ⟨k, hk⟩ := hasks
    rw [Code.trace, hk, events_ask] at hnames
    exact of_decide_eq_true (hnames _ List.mem_cons_self)
  have hstart : (d.callbacks.code uri q.job q.device (.startJob q.options)).value w = true := by
    show (d.callbacks.startJob _ _ (some ⟨uri, q.device⟩)).value w = true
    exact startJob_easy q.options hs hid hmodel
  have hdata : ((d.callbacks.code uri q.job q.device (.startJob q.options)).final w).jobData
      ⟨uri, q.job⟩ = some (d.jobData model) :=
    (startJob_sent ⟨uri, q.device⟩ ⟨uri, q.job⟩ q.options hs.completes hid hmodel).2.1 hstart
  rw [Queued.code, Code.value_bind, hstart, if_pos rfl, Queued.startedCode, Code.value_bind,
    attemptCode_easy q.options (printable_of_mem hmedia) (easy_final _ hs) hdata, if_pos rfl]
  rfl

theorem queueThread_easy {queue : List Queued} (hs : Easy (w.script uri))
    (hmodel : d.modelMap.lookup name = some model)
    (hmedia : ∀ q ∈ queue, ∀ page ∈ q.pages, d.AcceptsMedia model page.options.media)
    (hnames : ∀ e ∈ (queueThread d.callbacks uri queue).trace w, Names name e) :
    (queueThread d.callbacks uri queue).value w = List.replicate queue.length true := by
  induction queue generalizing w with
  | nil => rfl
  | cons q queue ih =>
    have hsplit : (queueThread d.callbacks uri (q :: queue)).trace w =
        (q.code d.callbacks uri).trace w ++ (queueThread d.callbacks uri queue >>= fun results =>
          pure ((q.code d.callbacks uri).value w :: results)).trace
            ((q.code d.callbacks uri).final w) := events_bind _ _ w
    have hrest : (queueThread d.callbacks uri queue >>= fun results =>
        (pure ((q.code d.callbacks uri).value w :: results) : Code d.JobData (List Bool))).trace
          ((q.code d.callbacks uri).final w) =
            (queueThread d.callbacks uri queue).trace ((q.code d.callbacks uri).final w) ++ [] :=
      events_bind _ _ _
    rw [hsplit, hrest, List.append_nil] at hnames
    have hq := queued_easy hs hmodel (hmedia q List.mem_cons_self)
      fun e he => hnames e (List.mem_append_left _ he)
    have hqueue := ih (easy_final _ hs) (fun q hq => hmedia q (List.mem_cons_of_mem _ hq))
      fun e he => hnames e (List.mem_append_right _ he)
    rw [queueThread, Code.value_bind, Code.value_bind, hq, hqueue]
    rfl

/-- The calls of the longest run of a queue. -/
def Driver.longestQueue (d : Driver) (queue : List Queued) : Nat :=
  (queue.map fun q => d.longestJob q.options q.pages + d.longest (.endJob q.options)).sum

theorem within_queued {n : Nat} (q : Queued) :
    (q.code d.callbacks uri).Within (fun _ => n)
      (n + (d.longestJob q.options q.pages + d.longest (.endJob q.options))) := by
  let rest := pageCallbacks 0 q.pages ++ [.endJob q.options]
  have hlength : d.longestJob q.options q.pages =
      d.longest (.startJob q.options) + (rest.map d.longest).sum := rfl
  have hstarted : (q.startedCode d.callbacks uri).Within (fun _ => n)
      (n + d.longest (.endJob q.options) + (rest.map d.longest).sum) := by
    refine within_bind (within_attemptCode q.job q.device rest) (fun ok => ?_)
    cases ok with
    | true => exact within_ret (Nat.le_add_right n _)
    | false =>
      rw [if_neg Bool.false_ne_true]
      split
      · refine within_bind (Driver.within_code uri q.job q.device _) (fun ok => ?_)
        exact within_ret (Nat.le_refl n)
      · exact within_ret (Nat.le_add_right n _)
  refine within_mono (b := n + d.longest (.endJob q.options) + (rest.map d.longest).sum +
    d.longest (.startJob q.options)) ?_ (by omega)
  refine within_bind (Driver.within_code uri q.job q.device _) (fun ok => ?_)
  cases ok with
  | true => exact hstarted
  | false => exact within_ret (by omega)

theorem within_queueThread {n : Nat} (queue : List Queued) :
    (queueThread d.callbacks uri queue).Within (fun _ => n) (n + d.longestQueue queue) := by
  induction queue with
  | nil => exact within_ret (Nat.le_refl n)
  | cons q queue ih =>
    rw [Driver.longestQueue, List.map_cons, List.sum_cons, Nat.add_comm (_ + _), ← Nat.add_assoc]
    refine within_bind (within_queued q) (fun ok => ?_)
    exact within_bind ih fun results => within_ret (Nat.le_refl n)

end Easy

end Drivers
end BrThermal
