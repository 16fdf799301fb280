/-
Where the pages of a job end.

`endPage` sends FF while the page number is below the page count less one, taken
modulo `2 ^ 32`, and `endJob` sends Ctrl-Z.  So the stream is paginated as it should
be exactly where PAPPL's count, as an unsigned number, is the number of pages: a
count of zero wraps, every page gets its FF, and Ctrl-Z feeds another label.
-/
import BrThermal.Drivers.JobStream

namespace BrThermal
namespace Drivers

open Codec Raster Pappl

/-- FF after every page but the last, and one Ctrl-Z after that. -/
def jobOutline : List JobPage → List Mark
  | [] => []
  | [page] => .page :: (List.replicate page.rows.length .line ++ [.printWithFeeding])
  | page :: page' :: pages =>
    .page :: (List.replicate page.rows.length .line ++ .print :: jobOutline (page' :: pages))

/-- The stream has that outline. -/
def Paginated (pages : List JobPage) (bs : List UInt8) : Prop :=
  ∃ cs, commandSet.decodeAll bs = some cs ∧ outline cs = jobOutline pages

/-- The outline of the pages from number `k` on, given the page count. -/
def pagesOutline (pageCount : UInt32) (k : Nat) : List JobPage → List Mark
  | [] => []
  | page :: pages =>
    .page :: (List.replicate page.rows.length .line ++
      ((if UInt32.ofNat k < pageCount - 1 then [.print] else []) ++
        pagesOutline pageCount (k + 1) pages))

section Outline

variable {d : Driver} {model : d.Model} {pageCount : UInt32} {pages : List JobPage} {k : Nat}

variable (pageCount k) in
theorem pages_outline (hmedia : ∀ page ∈ pages, d.AcceptsMedia model page.options.media) :
    ∃ cs, commandSet.encodeAll cs =
        (pageCallbacks k pages).flatMap (d.sent (d.jobData model) pageCount) ∧
      outline cs = pagesOutline pageCount k pages := by
  induction pages generalizing k with
  | nil => exact ⟨[], rfl, rfl⟩
  | cons page pages ih =>
    obtain ⟨cs, -, hcs, houtline, -⟩ := body_read (hmedia page List.mem_cons_self) k
    obtain ⟨ds, hds, hrest⟩ := ih (k + 1) fun p hp => hmedia p (List.mem_cons_of_mem _ hp)
    rw [pageCallbacks_cons, List.flatMap_append, flatMap_callbacks, pagesOutline]
    split
    · refine ⟨cs ++ ([endingCommand .print] ++ ds), ?_, ?_⟩
      · rw [CommandSet.encodeAll_append, CommandSet.encodeAll_append, hcs, hds, List.append_assoc]
        rfl
      · rw [outline_append, outline_append, houtline, hrest]
        rfl
    · refine ⟨cs ++ ds, ?_, ?_⟩
      · rw [CommandSet.encodeAll_append, hcs, hds, List.append_nil]
      · rw [outline_append, houtline, hrest]
        rfl

variable (pageCount) in
theorem job_outline (hmedia : ∀ page ∈ pages, d.AcceptsMedia model page.options.media) :
    ∃ cs, commandSet.decodeAll (d.jobBytes model pageCount pages) = some cs ∧
      outline cs = pagesOutline pageCount 0 pages ++ [.printWithFeeding] := by
  obtain ⟨cs, hcs, hstart, -⟩ := preamble_startCommands d model
  obtain ⟨ds, hds, hpages⟩ := pages_outline pageCount 0 hmedia
  refine ⟨cs ++ (ds ++ [endingCommand .printWithFeeding]), ?_, ?_⟩
  · rw [CommandSet.decodeAll_eq_some_iff, CommandSet.encodeAll_append, CommandSet.encodeAll_append,
      hcs, hds]
    rfl
  · rw [outline_append, outline_append, hstart, hpages]
    rfl

theorem ofNat_lt_iff (hk : k < 2 ^ 32) :
    UInt32.ofNat k < pageCount - 1 ↔ k < (pageCount - 1).toNat := by
  rw [UInt32.lt_iff_toNat_lt, UInt32.toNat_ofNat_of_lt' hk]

/-- The FFs of the pages from number `k` on. -/
theorem count_pagesOutline (hk : k + pages.length ≤ 2 ^ 32) :
    (pagesOutline pageCount k pages).count .print =
      min ((pageCount - 1).toNat - k) pages.length := by
  induction pages generalizing k with
  | nil => exact (Nat.min_zero _).symm
  | cons page pages ih =>
    rw [List.length_cons] at hk
    have hrest := ih (k := k + 1) (by omega)
    rw [pagesOutline, List.count_cons_of_ne (by decide), List.count_append, List.count_append,
      List.count_replicate, hrest, List.length_cons]
    by_cases h : k < (pageCount - 1).toNat
    · rw [if_pos ((ofNat_lt_iff (by omega)).mpr h)]
      show 0 + (1 + _) = _
      omega
    · rw [if_neg (fun hlt => h ((ofNat_lt_iff (by omega)).mp hlt))]
      show 0 + (0 + _) = _
      omega

theorem count_jobOutline (hne : pages ≠ []) :
    (jobOutline pages).count .print = pages.length - 1 := by
  induction pages with
  | nil => exact absurd rfl hne
  | cons page pages ih =>
    cases pages with
    | nil =>
      rw [jobOutline, List.count_cons_of_ne (by decide), List.count_append, List.count_replicate]
      rfl
    | cons page' pages =>
      have hrest := ih (List.cons_ne_nil _ _)
      rw [jobOutline, List.count_cons_of_ne (by decide), List.count_append, List.count_replicate,
        List.count_cons_self, hrest]
      simp only [List.length_cons]
      show 0 + (_ + 1) = _
      omega

/-- With the right count the outline is the one it should be. -/
theorem pagesOutline_eq (hne : pages ≠ []) (hk : k + pages.length ≤ 2 ^ 32)
    (hcount : (pageCount - 1).toNat + 1 = k + pages.length) :
    pagesOutline pageCount k pages ++ [.printWithFeeding] = jobOutline pages := by
  induction pages generalizing k with
  | nil => exact absurd rfl hne
  | cons page pages ih =>
    rw [List.length_cons] at hk hcount
    cases pages with
    | nil =>
      have hlast : ¬k < (pageCount - 1).toNat := by
        change _ = k + (0 + 1) at hcount
        omega
      rw [pagesOutline, if_neg (fun hlt => hlast ((ofNat_lt_iff (by omega)).mp hlt)), jobOutline]
      simp only [pagesOutline, List.append_nil, List.cons_append]
    | cons page' pages =>
      have hmore : k < (pageCount - 1).toNat := by
        rw [List.length_cons] at hcount
        omega
      have hrest := ih (k := k + 1) (List.cons_ne_nil _ _) (by omega) (by omega)
      rw [pagesOutline, if_pos ((ofNat_lt_iff (by omega)).mpr hmore), jobOutline, ← hrest]
      simp only [List.append_assoc, List.cons_append, List.nil_append]

theorem toNat_sub_one_iff (hne : pages ≠ []) (hlen : pages.length ≤ 2 ^ 32) :
    (pageCount - 1).toNat + 1 = pages.length ↔ pageCount = UInt32.ofNat pages.length := by
  have hlt := pageCount.toNat_lt
  have hpos := List.length_pos_iff.mpr hne
  rw [← UInt32.toNat_inj, UInt32.toNat_ofNat', UInt32.toNat_sub, UInt32.toNat_one]
  omega

theorem paginated_jobBytes (hne : pages ≠ []) (hlen : pages.length ≤ 2 ^ 32)
    (hmedia : ∀ page ∈ pages, d.AcceptsMedia model page.options.media) :
    Paginated pages (d.jobBytes model pageCount pages) ↔
      pageCount = UInt32.ofNat pages.length := by
  obtain ⟨cs, hcs, houtline⟩ := job_outline pageCount hmedia
  have hpos := List.length_pos_iff.mpr hne
  rw [← toNat_sub_one_iff hne hlen, Paginated, hcs]
  simp only [Option.some.injEq, exists_eq_left', houtline]
  constructor
  · intro h
    have hcount := congrArg (List.count .print) h
    rw [List.count_append, count_pagesOutline (by omega), count_jobOutline hne] at hcount
    change min _ _ + 0 = _ at hcount
    omega
  · exact fun h => pagesOutline_eq hne (by omega) (by omega)

end Outline

/-- Whatever the device reports meanwhile, a job whose `startJob` succeeds is
paginated as it should be exactly where PAPPL's count is the number of its pages. -/
theorem job_paginated (d : Driver) {s : Session d.JobData} {uri : String} {options : PrOptions}
    {pages : List JobPage} {name : String} {model : d.Model} {steps : List Step}
    (h : JobRun d s uri options pages name model steps) (hstart : Starts d s uri steps)
    (hne : pages ≠ []) (hlen : pages.length ≤ 2 ^ 32)
    (hmedia : ∀ page ∈ pages, d.AcceptsMedia model page.options.media) :
    Paginated pages (received d s steps) ↔
      (s.world.impressions ⟨uri, s.jobs uri⟩).toUInt32 = UInt32.ofNat pages.length := by
  rw [received_job h hstart]
  exact paginated_jobBytes hne hlen hmedia

theorem job_paginated_twoPages :
    Paginated [oneRow, oneRow]
        (received .td2000 (quietJob 2) (quietSteps oneLinePage [oneRow, oneRow])) ↔
      Int32.toUInt32 2 = UInt32.ofNat 2 :=
  job_paginated .td2000 (jobRun_quietSteps 2 oneLinePage [oneRow, oneRow])
    (starts_of_nothingPending (jobRun_quietSteps 2 oneLinePage [oneRow, oneRow])
      (quietSteps_nothingPending _ _))
    (List.cons_ne_nil _ _) (by decide) (by
      intro page hpage
      simp only [List.mem_cons, List.not_mem_nil, or_false, or_self] at hpage
      rw [hpage]
      exact acceptsMedia_oneRow)

/-- A job of one page with a count of zero: FF and Ctrl-Z. -/
theorem not_paginated_unknownCount :
    ¬∀ (d : Driver) (s : Session d.JobData) (uri : String) (options : PrOptions)
      (pages : List JobPage) (name : String) (model : d.Model) (steps : List Step),
      JobRun d s uri options pages name model steps → Starts d s uri steps →
      pages ≠ [] → pages.length ≤ 2 ^ 32 →
      (∀ page ∈ pages, d.AcceptsMedia model page.options.media) →
      ((s.world.impressions ⟨uri, s.jobs uri⟩).toInt = pages.length ∨
        s.world.impressions ⟨uri, s.jobs uri⟩ = 0) →
      Paginated pages (received d s steps) := by
  intro h
  have hrun := jobRun_quietSteps 0 oneLinePage [oneRow]
  have hstart := starts_of_nothingPending hrun (quietSteps_nothingPending _ _)
  have hmedia : ∀ page ∈ [oneRow], Driver.td2000.AcceptsMedia .td2x2x page.options.media := by
    intro page hpage
    rw [List.mem_singleton.mp hpage]
    exact acceptsMedia_oneRow
  have hpaginated := h _ _ _ _ _ _ _ _ hrun hstart (List.cons_ne_nil _ _) (by decide) hmedia
    (.inr rfl)
  rw [received_job hrun hstart, paginated_jobBytes (List.cons_ne_nil _ _) (by decide) hmedia]
    at hpaginated
  exact absurd hpaginated (by decide)

end Drivers
end BrThermal
