/-
What a printer prints over many jobs, where any of them may break off.

A job may stop at any callback, with any write cut short, and PAPPL may then end it
or go on to the next.  The next job opens with NULs and ESC @: whatever command was
cut takes some of the NULs in as data, and then the printer is where it was before
the first job.  So every job prints its own pages: the first of them, perhaps the
beginning of one more, and all of them where its callbacks returned true.  A write
that is cut inside the header of a command is left out here, because what the next
NUL is then taken for is the printer's affair.
-/
import BrThermal.Drivers.JobDelivery
import BrThermal.Raster.Cancel

namespace BrThermal
namespace Drivers

open Effect Effect.Prog Pappl Codec Raster

/-! ## The commands of a job, each in a write of its own -/

/-- The lengths at which a write breaks off behind the header of its command. -/
def BehindHeader (k : Nat) : Prop := k = 0 ∨ 5 ≤ k

namespace Driver

/-- The NULs a job opens with. -/
def nulCount : Driver → Nat
  | td2000 => 200
  | pte550w => 100

/-- What `startJob` sends after the NULs and ESC @. -/
def startRest : (d : Driver) → d.Model → List (List UInt8)
  | td2000, _ => [Commands.switchDynamicCommandMode .raster]
  | pte550w, variant =>
    if variant = .ptP710BT then [Commands.statusInformationRequest] else []

/-- What a job sends after the NULs and ESC @. -/
def jobRest (d : Driver) (model : d.Model) (pageCount : UInt32) (pages : List JobPage) :
    List (List UInt8) :=
  d.startRest model ++ ((pageCallbacks 0 pages).flatMap (d.writes model pageCount) ++
    [Commands.printWithFeeding])

theorem startCommands_eq_nuls (d : Driver) (model : d.Model) :
    d.startCommands model =
      List.replicate d.nulCount 0 :: Commands.initializeCommand :: d.startRest model := by
  cases d <;> rfl

theorem jobWrites_eq_nuls (d : Driver) (model : d.Model) (pageCount : UInt32)
    (options : PrOptions) (pages : List JobPage) :
    d.jobWrites model pageCount options pages =
      List.replicate d.nulCount 0 :: Commands.initializeCommand ::
        d.jobRest model pageCount pages := by
  rw [jobWrites, jobCallbacks, List.flatMap_cons, List.flatMap_append, writes,
    startCommands_eq_nuls]
  rfl

end Driver

/-- Every header and its count are five bytes at most. -/
theorem length_header_le (k : Opcode) :
    (commandSet.header k).length + (commandSet.operand k).width ≤ 5 := by
  cases k <;> decide

/-- A write of one command. -/
theorem cuttable_command {n : Nat} {c : Command} {bs : List UInt8} (h : commandSet.encode c = bs)
    (hdata : c.data.length ≤ n) : commandSet.Cuttable BehindHeader n bs := by
  rw [← h]
  exact CommandSet.cuttable_encode hdata (length_header_le c.opcode)

/-- A write of one command that has no count. -/
theorem cuttable_fixed (k : Opcode) {m n : Nat} {data : List UInt8} (hk : k.operand = .fixed m)
    (hdata : data.length = m) (hm : m ≤ n) :
    commandSet.Cuttable BehindHeader n (k.header ++ data) := by
  have hcount : (commandSet.operand k).count data = [] := by
    show k.operand.count data = []
    rw [hk]
    rfl
  have hfits : (commandSet.operand k).Fits data := by
    show k.operand.Fits data
    rw [hk]
    exact hdata
  refine cuttable_command (c := ⟨k, data, hfits⟩) ?_ (hdata.trans_le hm)
  rw [CommandSet.encode, hcount]
  rfl

theorem cuttable_startRest (d : Driver) (model : d.Model) {block : List UInt8}
    (hblock : block ∈ d.startRest model) : commandSet.Cuttable BehindHeader d.nulCount block := by
  cases d with
  | td2000 =>
    rw [List.mem_singleton.mp hblock]
    exact cuttable_fixed .switchDynamicCommandMode rfl rfl (by decide)
  | pte550w =>
    rw [Driver.startRest] at hblock
    split at hblock
    case isTrue =>
      rw [List.mem_singleton.mp hblock]
      exact cuttable_fixed .statusInformationRequest rfl rfl (by decide)
    case isFalse => exact absurd hblock List.not_mem_nil

theorem cuttable_pageCommands {d : Driver} {jobData : d.JobData} {options : PrOptions}
    {pageNumber : UInt32} {commands : List (List UInt8)}
    (h : d.pageCommands jobData options pageNumber = some commands) {block : List UInt8}
    (hblock : block ∈ commands) : commandSet.Cuttable BehindHeader d.nulCount block := by
  cases d with
  | td2000 =>
    rw [Driver.pageCommands] at h
    split at h
    case h_1 => cases h
    case h_2 mediaType htype =>
      dsimp only at h
      split at h
      case isTrue => cases h
      case isFalse =>
        rw [← Option.some.inj h] at hblock
        simp only [Td2000.pageCommands, List.mem_cons, List.not_mem_nil, or_false] at hblock
        rcases hblock with rfl | rfl | rfl | rfl | rfl
        · exact cuttable_fixed .additionalMediaInformation rfl (PackedProtocolBlock.size_eq _)
            (by decide)
        · exact cuttable_fixed .printInformation rfl rfl (by decide)
        · exact cuttable_fixed .variousModeSettings rfl rfl (by decide)
        · exact cuttable_fixed .specifyMarginAmount rfl rfl (by decide)
        · exact cuttable_fixed .selectCompressionMode rfl rfl (by decide)
  | pte550w =>
    rw [Driver.pageCommands] at h
    split at h
    case isTrue => cases h
    case isFalse =>
      rw [← Option.some.inj h] at hblock
      simp only [Pte550w.pageCommands, List.mem_cons, List.not_mem_nil, or_false] at hblock
      rcases hblock with rfl | rfl | rfl | rfl | rfl | rfl | rfl | rfl
      · exact cuttable_fixed .switchDynamicCommandMode rfl rfl (by decide)
      · exact cuttable_fixed .switchAutoStatusNotify rfl rfl (by decide)
      · exact cuttable_fixed .printInformation rfl rfl (by decide)
      · exact cuttable_fixed .variousModeSettings rfl rfl (by decide)
      · exact cuttable_fixed .specifyPageNumber rfl rfl (by decide)
      · exact cuttable_fixed .advancedModeSettings rfl rfl (by decide)
      · exact cuttable_fixed .specifyMarginAmount rfl rfl (by decide)
      · exact cuttable_fixed .selectCompressionMode rfl rfl (by decide)

/-- A raster line is shorter than the NULs of a job. -/
theorem length_rasterCommand_le (d : Driver) (model : d.Model) (header : Header)
    (row : List UInt8) : (d.rasterCommand (d.jobData model) header row).length ≤ d.nulCount := by
  cases d with
  | td2000 =>
    show (Td2000.rasterCommand ⟨model, false, (Td2000.lineWidth model).toNat⟩ header row).length ≤ 200
    rw [Td2000.rasterCommand_plain, Td2000.rasterGraphicsTransfer_eq, List.length_append,
      List.length_append, length_littleEndian, Td2000.length_headLine]
    cases model <;> decide
  | pte550w =>
    have hlength : (Pte550w.mirroredLine header row).length = 16 := by
      rw [Pte550w.mirroredLine, Util.length_buildHeadLine]
      rfl
    have hle := Util.length_compressLine_le (Pte550w.mirroredLine header row)
    show (Pte550w.rasterCommand header row).length ≤ 100
    rw [Pte550w.rasterCommand, Pte550w.rasterGraphicsTransfer_eq, List.length_append,
      List.length_append, length_littleEndian, List.length_singleton]
    omega

theorem cuttable_rasterCommand (d : Driver) (model : d.Model) (header : Header)
    (row : List UInt8) :
    commandSet.Cuttable BehindHeader d.nulCount
      (d.rasterCommand (d.jobData model) header row) := by
  obtain ⟨c, hc, -, -⟩ := isLine_rasterCommand d model header row
  have hdata := CommandSet.length_data_le c
  rw [hc] at hdata
  exact cuttable_command hc (hdata.trans (length_rasterCommand_le d model header row))

theorem cuttable_writes {d : Driver} (model : d.Model) (pageCount : UInt32) {c : Callback}
    (hc : c.OfPage) {block : List UInt8} (hblock : block ∈ d.writes model pageCount c) :
    commandSet.Cuttable BehindHeader d.nulCount block := by
  cases c with
  | startPage options pageNumber =>
    rw [Driver.writes] at hblock
    cases hcommands : d.pageCommands (d.jobData model) options pageNumber with
    | none =>
      rw [hcommands] at hblock
      exact absurd hblock List.not_mem_nil
    | some commands =>
      rw [hcommands] at hblock
      exact cuttable_pageCommands hcommands hblock
  | writeLine options y pixels =>
    rw [List.mem_singleton.mp hblock]
    exact cuttable_rasterCommand d model options.header pixels
  | endPage options pageNumber =>
    rw [Driver.writes] at hblock
    split at hblock
    case isTrue =>
      rw [List.mem_singleton.mp hblock]
      exact cuttable_fixed .print rfl rfl (Nat.zero_le _)
    case isFalse => exact absurd hblock List.not_mem_nil
  | startJob | endJob | getStatus => exact hc.elim

theorem cuttable_jobRest (d : Driver) (model : d.Model) (pageCount : UInt32)
    (pages : List JobPage) :
    ∀ block ∈ d.jobRest model pageCount pages,
      commandSet.Cuttable BehindHeader d.nulCount block := by
  intro block hblock
  simp only [Driver.jobRest, List.mem_append, List.mem_flatMap, List.mem_singleton] at hblock
  rcases hblock with hstart | ⟨c, hc, hblock⟩ | rfl
  · exact cuttable_startRest d model hstart
  · exact cuttable_writes model pageCount (ofPage_of_mem hc) hblock
  · exact cuttable_fixed .printWithFeeding rfl rfl (Nat.zero_le _)

theorem preamble_startRest (d : Driver) (model : d.Model) :
    Preamble (d.startRest model).flatten := by
  cases d with
  | td2000 =>
    exact preamble_append (preamble_switchDynamicCommandMode .raster) (preamble_invalidate 0)
  | pte550w =>
    rw [Driver.startRest]
    split
    · exact preamble_append preamble_statusInformationRequest (preamble_invalidate 0)
    · exact preamble_invalidate 0

theorem flatten_jobRest (d : Driver) (model : d.Model) (pageCount : UInt32)
    (pages : List JobPage) :
    (d.jobRest model pageCount pages).flatten = (d.startRest model).flatten ++
      ((pageCallbacks 0 pages).flatMap (d.sent (d.jobData model) pageCount) ++
        Commands.printWithFeeding) := by
  rw [Driver.jobRest, List.flatten_append, List.flatten_append, List.flatten_singleton,
    flatten_flatMap_writes model pageCount fun c hc => ofPage_of_mem hc]

/-! ## What one job adds -/

section Stream

variable {d : Driver} {model : d.Model} {pageCount : UInt32} {pages : List JobPage}

/-- The commands of a job behind ESC @: they print its pages, and wherever the job
breaks off they are cut between two of them or inside the data of one. -/
theorem jobRest_read (hne : pages ≠ []) (hcount : pageCount.toNat = pages.length)
    (hmedia : ∀ page ∈ pages, d.AcceptsMedia model page.options.media) :
    ∃ (cs : List Command) (qs : List Raster.Page),
      commandSet.encodeAll cs = (d.jobRest model pageCount pages).flatten ∧
      (∀ c ∈ cs, c.data.length ≤ d.nulCount) ∧
      (∀ bs, BrokenOff BehindHeader (d.jobRest model pageCount pages) bs →
        CommandSet.CutsCleanly cs bs) ∧
      Reads cs qs ∧ List.Forall₂ (Shows d model pages.length) pages.zipIdx qs := by
  obtain ⟨cs, hcs, hdata, hcuts⟩ :=
    CommandSet.cutsCleanly_of_brokenOff (cuttable_jobRest d model pageCount pages)
  obtain ⟨start, hstart, -, hbetween⟩ := preamble_startRest d model
  obtain ⟨body, qs, hbody, hshows, hread⟩ := pages_read (k := 0) (d := d) hne
    (hcount.trans (Nat.zero_add _).symm) hmedia
  have hsame : start ++ body = cs := by
    apply CommandSet.encodeAll_injective
    rw [CommandSet.encodeAll_append, hstart, hbody, hcs, flatten_jobRest]
  have hopening : Reads start [] := fun r hr =>
    ⟨r, hbetween r hr, hr, (List.append_nil _).symm⟩
  refine ⟨cs, qs, hcs, hdata, hcuts, ?_, hcount ▸ hshows⟩
  rw [← hsame]
  exact hopening.append hread

/-- How much of a job is printed. -/
structure Prints (d : Driver) (model : d.Model) (pages : List JobPage) (finished : Prop)
    (printed : List Raster.Page) : Prop where
  begun : ∃ whole, List.Forall₂ (Shows d model pages.length) pages.zipIdx whole ∧
    BreaksOff whole printed
  whole : finished → List.Forall₂ (Shows d model pages.length) pages.zipIdx printed

variable {bs bs' more : List UInt8} {ps : List Raster.Page}

/-- What a job sent that got past ESC @ and may have been ended early. -/
theorem settles_jobRest (h : Settles d.nulCount bs ps) (hne : pages ≠ [])
    (hcount : pageCount.toNat = pages.length)
    (hmedia : ∀ page ∈ pages, d.AcceptsMedia model page.options.media)
    (hbs' : BrokenOff BehindHeader (d.jobRest model pageCount pages) bs')
    (hmore : more <+: Commands.printWithFeeding) :
    ∃ printed, Prints d model pages (bs' = (d.jobRest model pageCount pages).flatten) printed ∧
      Settles d.nulCount (bs ++ (List.replicate d.nulCount 0 ++
        (Commands.initializeCommand ++ (bs' ++ more)))) (ps ++ printed) := by
  obtain ⟨cs, qs, hcs, hdata, hcuts, hreads, hshows⟩ := jobRest_read hne hcount hmedia
  obtain ⟨feed, rfl, hfeed⟩ : ∃ feed, commandSet.encodeAll feed = more ∧
      (feed = [] ∨ feed = [⟨.printWithFeeding, [], rfl⟩]) := by
    rcases List.prefix_cons_iff.mp hmore with rfl | ⟨_, rfl, hnil⟩
    · exact ⟨[], rfl, .inl rfl⟩
    · obtain rfl := List.prefix_nil.mp hnil
      exact ⟨_, rfl, .inr rfl⟩
  by_cases hwhole : bs' = (d.jobRest model pageCount pages).flatten
  · have hsettles := settles_whole h hreads hfeed
    rw [hcs, ← hwhole] at hsettles
    refine ⟨qs, ⟨⟨qs, hshows, .between (List.prefix_refl _)⟩, fun _ => hshows⟩, hsettles⟩
  · obtain ⟨whole, part, hcut, rfl⟩ := hcuts bs' hbs'
    obtain ⟨printed, hbreaks, hsettles⟩ := settles_cut h hcut hdata hreads hfeed
    exact ⟨printed, ⟨⟨qs, hshows, hbreaks⟩, fun heq => absurd heq hwhole⟩, hsettles⟩

/-- What a job sent as far as it got. -/
theorem settles_jobWrites (h : Settles d.nulCount bs ps) (hne : pages ≠ [])
    (hcount : pageCount.toNat = pages.length)
    (hmedia : ∀ page ∈ pages, d.AcceptsMedia model page.options.media) {options : PrOptions}
    (hbs' : BrokenOff BehindHeader (d.jobWrites model pageCount options pages) bs') :
    ∃ printed, Prints d model pages False printed ∧
      Settles d.nulCount (bs ++ bs') (ps ++ printed) := by
  obtain ⟨_, qs, -, -, -, -, hshows⟩ := jobRest_read hne hcount hmedia
  have hnothing : Prints d model pages False [] :=
    ⟨⟨qs, hshows, .between List.nil_prefix⟩, False.elim⟩
  rw [Driver.jobWrites_eq_nuls] at hbs'
  rcases hbs'.cons_cases with rfl | ⟨k, -, rfl⟩ | ⟨opening, rfl, hopening⟩
  · exact ⟨[], hnothing, by rwa [List.append_nil, List.append_nil]⟩
  · refine ⟨[], hnothing, ?_⟩
    rw [List.append_nil, List.take_replicate]
    exact settles_nuls h _
  · have hrest : ∀ rest, BrokenOff BehindHeader (d.jobRest model pageCount pages) rest →
        ∃ printed, Prints d model pages False printed ∧
          Settles d.nulCount (bs ++ (List.replicate d.nulCount 0 ++
            (Commands.initializeCommand ++ rest))) (ps ++ printed) := by
      intro rest hrest
      obtain ⟨printed, hprints, hsettles⟩ :=
        settles_jobRest h hne hcount hmedia hrest List.nil_prefix
      rw [List.append_nil] at hsettles
      exact ⟨printed, ⟨hprints.begun, False.elim⟩, hsettles⟩
    rcases hopening.cons_cases with rfl | ⟨k, hk, rfl⟩ | ⟨rest, rfl, hbroken⟩
    · refine ⟨[], hnothing, ?_⟩
      rw [List.append_nil, List.append_nil]
      exact settles_nuls h _
    · rcases hk with rfl | hk
      · refine ⟨[], hnothing, ?_⟩
        rw [List.take_zero, List.append_nil, List.append_nil]
        exact settles_nuls h _
      · rw [List.take_of_length_le (Nat.le_trans (by decide) hk)]
        have hdone := hrest [] .nothing
        rwa [List.append_nil] at hdone
    · exact hrest rest hbroken

end Stream

/-! ## Many jobs -/

section History

variable {d : Driver} {uri : String}

/-- A job of the past, and whether all its callbacks returned true. -/
structure PastJob (d : Driver) where
  model : d.Model
  pages : List JobPage
  finished : Prop

def PastJob.Prints (job : PastJob d) (printed : List Raster.Page) : Prop :=
  Drivers.Prints d job.model job.pages job.finished printed

/-- A session that printed some jobs on the printer one after another.  Each was run up
to its first failure and then, where PAPPL ended it, ended by the step `closing`. -/
inductive History (d : Driver) (uri : String) (s : Session d.JobData) :
    List (PastJob d) → Session d.JobData → Prop
  | start : History d uri s [] s
  | job {jobs : List (PastJob d)} {s' : Session d.JobData} {options : PrOptions}
      {pages : List JobPage} {name : String} {model : d.Model} {steps : List Step} {closing : Step}
      (h : History d uri s jobs s') (hsteps : JobSteps d s' uri options pages name model steps)
      (hbreaks : ∀ x ∈ steps, BreaksAt BehindHeader x.script)
      (hresends : ∀ x ∈ steps, ¬x.Resends d (d.jobData model))
      (hne : pages ≠ [])
      (hcount : (s'.world.impressions ⟨uri, s'.jobs uri⟩).toInt = pages.length)
      (hmedia : ∀ page ∈ pages, d.AcceptsMedia model page.options.media)
      (hclosing : closing.uri = uri ∧ closing.callback = .endJob options) :
    History d uri s (jobs ++ [⟨model, pages, (s'.attempt d.callbacks steps).2 = true⟩])
      ((s'.attempt d.callbacks steps).1.next d.callbacks closing)

variable {s : Session d.JobData} {options : PrOptions} {pages : List JobPage} {name : String}
  {model : d.Model} {steps : List Step} {closing : Step}

/-- Ending a job sends Ctrl-Z or nothing. -/
theorem closing_accepted (s : Session d.JobData)
    (hclosing : closing.uri = uri ∧ closing.callback = .endJob options) :
    ∃ es, (s.next d.callbacks closing).log = s.log ++ es ∧
      accepted es <+: Commands.printWithFeeding := by
  obtain ⟨u, callback, script⟩ := closing
  obtain ⟨rfl, rfl⟩ := hclosing
  refine Session.next_rule (Q := fun s' => ∃ es, s'.log = s.log ++ es ∧
    accepted es <+: Commands.printWithFeeding) ?_ (fun r _ => ?_)
  · exact ⟨[], (List.append_nil _).symm, List.nil_prefix⟩
  · have hany : BreaksAt (fun _ => True)
        ((s.before ⟨u, .endJob options, script⟩).script u) := fun _ _ => trivial
    refine wp_mono (endJob_delivers options hany)
      (fun ok es _ hes => ⟨es, rfl, ?_⟩)
    have hprefix := hes.begun.prefix_flatten
    rwa [List.flatten_singleton] at hprefix

/-- A job that did not start is not ended. -/
theorem next_closing_of_failed {first : Step} (hidle : s.active uri = none)
    (hfirst : first.uri = uri ∧ first.callback = .startJob options)
    (hfailed : s.returned d.callbacks first = false)
    (hclosing : closing.uri = uri ∧ closing.callback = .endJob options) :
    (s.next d.callbacks first).next d.callbacks closing = s.next d.callbacks first := by
  obtain ⟨u, callback, script⟩ := first
  obtain ⟨rfl, rfl⟩ := hfirst
  have htarget : s.target ⟨u, .startJob options, script⟩ = some ⟨s.jobs u, s.world.handles u⟩ :=
    if_pos hidle
  obtain ⟨es, w, -, hnext⟩ : ∃ es w, True ∧ s.next d.callbacks ⟨u, .startJob options, script⟩ =
      s.after _ _ (s.returned d.callbacks ⟨u, .startJob options, script⟩) es w :=
    Session.next_of_target htarget (Q := fun _ _ _ => True) trivial
  have hnone : (s.next d.callbacks ⟨u, .startJob options, script⟩).target closing = none := by
    rw [hnext, hfailed]
    simp only [Session.target, Session.after, hclosing.1, hclosing.2]
    exact hidle
  rw [Session.next, hnone]

/-- What a job leaves that did start. -/
theorem attempt_started {K : Nat → Prop} {first : Step} {rest : List Step}
    (hsteps : JobSteps d s uri options pages name model (first :: rest))
    (hs : ∀ x ∈ first :: rest, BreaksAt K x.script)
    (hresends : ∀ x ∈ first :: rest, ¬x.Resends d (d.jobData model))
    (hstarted : s.returned d.callbacks first = true) :
    ∃ es es', (s.attempt d.callbacks (first :: rest)).1.log = s.log ++ es ++ es' ∧
      accepted es = (d.startCommands model).flatten ∧
      Delivers K ((pageCallbacks 0 pages).flatMap
          (d.writes model (s.world.impressions ⟨uri, s.jobs uri⟩).toUInt32) ++
            [Commands.printWithFeeding])
        (s.attempt d.callbacks (first :: rest)).2 es' := by
  obtain ⟨hfirst, hrest⟩ := List.cons.inj hsteps.callbacks
  have hmem : first ∈ first :: rest := List.mem_cons_self
  let f : Step → List (List UInt8) :=
    fun x => d.writes model (s.world.impressions ⟨uri, s.jobs uri⟩).toUInt32 x.callback
  have hstart := attempts_start (P := fun xs ok es => Delivers K (xs.flatMap f) ok es)
    (hs first hmem) hsteps.idle (hsteps.uri first hmem) hfirst hsteps.model
    (hsteps.identified first rfl) (fun ok es hes => by
      rw [List.flatMap_singleton]
      simp only [f, hfirst]
      exact hes)
  rw [Attempts, Session.attempt_cons_of_true hstarted, Session.attempt] at hstart
  obtain ⟨es, hlog, hes, hjob⟩ := hstart
  have hpages := attempts_rest (addsUp_delivers K f) hrest
    (fun x hx => hsteps.uri x (List.mem_cons_of_mem _ hx))
    (fun x hx => hs x (List.mem_cons_of_mem _ hx))
    (fun x hx hend ok es' hes' => by
      rw [List.flatMap_singleton]
      simp only [f, hend]
      exact hes')
    (fun x hx hpage w hscript hdata himp => by
      simp only [List.flatMap_singleton, f]
      rw [← himp]
      exact code_delivers (r := ⟨_, _⟩) hpage (hs x (List.mem_cons_of_mem _ hx)) hscript hdata
        (hresends x (List.mem_cons_of_mem _ hx))) (hjob rfl)
  obtain ⟨es', hlog', hes', -⟩ := hpages
  rw [Session.attempt_cons_of_true hstarted]
  refine ⟨es, es', ?_, ?_, ?_⟩
  · rw [hlog']
    exact congrArg (· ++ es') hlog
  · have hwhole := hes.whole rfl
    rw [List.flatMap_singleton] at hwhole
    simp only [f, hfirst] at hwhole
    exact hwhole
  · rw [show rest.flatMap f = (rest.map Step.callback).flatMap (d.writes model _) from
      (List.flatMap_map _ _ _).symm, hrest, List.flatMap_append, List.flatMap_singleton] at hes'
    exact hes'

/-- What a job leaves, ended or not, settles to the first of its pages. -/
theorem settles_job (hsteps : JobSteps d s uri options pages name model steps)
    (hbreaks : ∀ x ∈ steps, BreaksAt BehindHeader x.script)
    (hresends : ∀ x ∈ steps, ¬x.Resends d (d.jobData model)) (hne : pages ≠ [])
    (hcount : (s.world.impressions ⟨uri, s.jobs uri⟩).toInt = pages.length)
    (hmedia : ∀ page ∈ pages, d.AcceptsMedia model page.options.media)
    (hclosing : closing.uri = uri ∧ closing.callback = .endJob options)
    {bs : List UInt8} {ps : List Raster.Page} (h : Settles d.nulCount bs ps) :
    ∃ es, ((s.attempt d.callbacks steps).1.next d.callbacks closing).log = s.log ++ es ∧
      ∃ printed, Prints d model pages ((s.attempt d.callbacks steps).2 = true) printed ∧
        Settles d.nulCount (bs ++ accepted es) (ps ++ printed) := by
  have hpageCount := toNat_toUInt32 hcount
  obtain ⟨first, rest, rfl, hfirst, -⟩ := List.map_eq_cons_iff.mp hsteps.callbacks
  cases hok : s.returned d.callbacks first with
  | false =>
    obtain ⟨es, hlog, hes⟩ := attempt_delivers hsteps hbreaks hresends
    rw [Session.attempt_cons_of_false hok] at hlog hes ⊢
    rw [next_closing_of_failed hsteps.idle ⟨hsteps.uri first List.mem_cons_self, hfirst⟩ hok
      hclosing]
    obtain ⟨printed, hprints, hsettles⟩ := settles_jobWrites h hne hpageCount hmedia hes.begun
    exact ⟨es, hlog, printed, ⟨hprints.begun, fun h => absurd h Bool.false_ne_true⟩, hsettles⟩
  | true =>
    obtain ⟨es, es', hlog, hes, hes'⟩ := attempt_started hsteps hbreaks hresends hok
    obtain ⟨fs, hlog', hfs⟩ := closing_accepted (s.attempt d.callbacks (first :: rest)).1 hclosing
    obtain ⟨printed, hprints, hsettles⟩ := settles_jobRest h hne hpageCount hmedia
      (hes'.begun.append_left (d.startRest model)) hfs
    refine ⟨es ++ es' ++ fs, ?_, printed, ⟨hprints.begun, fun hdone => ?_⟩, ?_⟩
    · rw [hlog', hlog]
      simp only [List.append_assoc]
    · apply hprints.whole
      rw [hes'.whole hdone, Driver.jobRest]
      exact List.flatten_append.symm
    · rw [accepted_append, accepted_append, hes, Driver.startCommands_eq_nuls, List.flatten_cons,
        List.flatten_cons]
      simp only [List.append_assoc] at hsettles ⊢
      exact hsettles

/-- Whatever jobs broke off and wherever, each job prints the first of its own pages,
perhaps the beginning of one more, and all of them where its callbacks returned true;
nothing else is printed, and the printer is ready for the next job. -/
theorem history_prints {s' : Session d.JobData} {jobs : List (PastJob d)}
    (h : History d uri s jobs s') :
    ∃ es, s'.log = s.log ++ es ∧ ∃ printed,
      List.Forall₂ PastJob.Prints jobs printed ∧
      Settles d.nulCount (accepted es) printed.flatten := by
  induction h with
  | start => exact ⟨[], (List.append_nil _).symm, [], .nil, settles_nil _⟩
  | job _ hsteps hbreaks hresends hne hcount hmedia hclosing ih =>
    obtain ⟨es, hlog, printed, hprinted, hsettles⟩ := ih
    obtain ⟨es', hlog', ps, hprints, hsettles'⟩ :=
      settles_job hsteps hbreaks hresends hne hcount hmedia hclosing hsettles
    refine ⟨es ++ es', ?_, printed ++ [ps], ?_, ?_⟩
    · rw [hlog', hlog, List.append_assoc]
    · exact List.rel_append hprinted (.cons hprints .nil)
    · rw [accepted_append, List.flatten_append, List.flatten_singleton]
      exact hsettles'

/-- The one-row job on a device that takes fifty bytes of the line. -/
def brokenSteps : List Step :=
  (jobCallbacks oneLinePage [oneRow]).map fun c =>
    ⟨"usb://TD-2020", c,
      { ids := [some ⟨some "TD-2020"⟩]
        writes := match c with
          | .writeLine _ _ _ => [.short 50]
          | _ => [] }⟩

def endStep : Step := ⟨"usb://TD-2020", .endJob oneLinePage, {}⟩

def brokenJob : Session Td2000.JobData :=
  ((quietJob 1).attempt Driver.td2000.callbacks brokenSteps).1.next Driver.td2000.callbacks endStep

theorem jobSteps_brokenSteps :
    JobSteps .td2000 (quietJob 1) "usb://TD-2020" oneLinePage [oneRow] "TD-2020" .td2x2x
      brokenSteps where
  idle := rfl
  callbacks := by
    rw [brokenSteps, List.map_map]
    exact List.map_id _
  uri x hx := by
    obtain ⟨c, -, rfl⟩ := List.mem_map.mp hx
    rfl
  model := by decide
  identified := by
    intro x hx
    obtain rfl := Option.some.inj hx
    rfl

theorem acceptsMedia_singleton :
    ∀ page ∈ [oneRow], Driver.td2000.AcceptsMedia .td2x2x page.options.media := by
  intro page hpage
  rw [List.mem_singleton.mp hpage]
  exact acceptsMedia_oneRow

/-- A job that broke off in a line and was ended. -/
theorem history_brokenJob :
    History .td2000 "usb://TD-2020" (quietJob 1)
      [⟨.td2x2x, [oneRow],
        ((quietJob 1).attempt Driver.td2000.callbacks brokenSteps).2 = true⟩] brokenJob := by
  refine .job .start jobSteps_brokenSteps (fun x hx => ?_) (fun x hx => ?_) (List.cons_ne_nil _ _)
    (by decide) acceptsMedia_singleton ⟨rfl, rfl⟩
  · obtain ⟨c, -, rfl⟩ := List.mem_map.mp hx
    intro k hk
    cases c with
    | writeLine options y pixels =>
      obtain rfl : k = 50 := by simpa using hk
      exact .inr (by decide)
    | _ => exact absurd hk List.not_mem_nil
  · obtain ⟨c, -, rfl⟩ := List.mem_map.mp hx
    cases c with
    | writeLine options y pixels =>
      rintro ⟨-, -, hretry⟩
      exact absurd hretry Bool.false_ne_true
    | _ => exact id

theorem history_prints_broken :
    ∃ es, ((brokenJob.attempt Driver.td2000.callbacks (quietSteps oneLinePage [oneRow])).1.next
        Driver.td2000.callbacks endStep).log = [] ++ es ∧ ∃ printed,
      List.Forall₂ (PastJob.Prints (d := .td2000))
        [⟨.td2x2x, [oneRow],
          ((quietJob 1).attempt Driver.td2000.callbacks brokenSteps).2 = true⟩,
        ⟨.td2x2x, [oneRow],
          (brokenJob.attempt Driver.td2000.callbacks (quietSteps oneLinePage [oneRow])).2 = true⟩]
        printed ∧
      Settles 200 (accepted es) printed.flatten := by
  have hquiet := jobRun_quietSteps 1 oneLinePage [oneRow]
  have hsteps : JobSteps .td2000 brokenJob "usb://TD-2020" oneLinePage [oneRow] "TD-2020" .td2x2x
      (quietSteps oneLinePage [oneRow]) :=
    { idle := by decide +kernel
      callbacks := hquiet.callbacks
      uri := fun x hx => (hquiet.completing x hx).uri
      model := hquiet.model
      identified := hquiet.identified }
  refine history_prints (History.job history_brokenJob hsteps (fun x hx k hk => ?_)
    (fun x hx => not_resends_of_completes (hquiet.completing x hx).completes)
    (List.cons_ne_nil _ _) (by decide +kernel) acceptsMedia_singleton ⟨rfl, rfl⟩)
  obtain ⟨c, -, rfl⟩ := List.mem_map.mp hx
  exact absurd hk List.not_mem_nil

end History

end Drivers
end BrThermal
