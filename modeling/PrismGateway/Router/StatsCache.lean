import Mathlib.Tactic.FieldSimp
import PrismGateway.Storage.ModelStats

namespace PrismGateway.Router.StatsCache

open Lib Storage

variable {K : Type}

inductive Event (K : Type) where
  | get (tenantID : String) (now later : ℤ) (fetched : Option (List (ModelStatDaily K)))
  | invalidate (tenantID : String)
  | clear

def Answered (events : List (Event K)) (tenantID : String) (dbStats : List (ModelStatDaily K)) : Prop :=
  ∃ now later, .get tenantID now later (some dbStats) ∈ events

theorem Answered.mono {events events' : List (Event K)} {tenantID : String}
    {dbStats : List (ModelStatDaily K)} (h : Answered events tenantID dbStats)
    (hsub : events ⊆ events') : Answered events' tenantID dbStats := by
  obtain ⟨now,later,hmem⟩ := h
  exact ⟨now,later,hsub hmem⟩

variable [Field K]

structure AggregatedStats (K : Type) where
  errorRate : K
  avgLatencyMs : K
  requestCount : ℕ
  deriving DecidableEq

namespace AggregatedStats

def empty : AggregatedStats K := ⟨0,0,0⟩

def add (agg : AggregatedStats K) (stat : ModelStatDaily K) : AggregatedStats K :=
  let requestCount := agg.requestCount + stat.requestCount
  { agg with
    requestCount := requestCount
    avgLatencyMs :=
      if 0 < stat.successCount then
        (agg.avgLatencyMs * (requestCount - stat.requestCount : ℕ) +
          stat.avgLatencyMs * stat.successCount) / requestCount
      else agg.avgLatencyMs }

def withErrors (errorCount : ℕ) (agg : AggregatedStats K) : AggregatedStats K :=
  if 0 < agg.requestCount then { agg with errorRate := errorCount / agg.requestCount } else agg

end AggregatedStats

def aggregated (dbStats : List (ModelStatDaily K)) : String → Option (AggregatedStats K) :=
  foldGrouped (·.model) (fun agg stat => some ((agg.getD .empty).add stat)) (fun _ => none) dbStats

def errorCounts (dbStats : List (ModelStatDaily K)) : String → ℕ :=
  foldGrouped (·.model) (fun count stat => count + stat.errorCount) (fun _ => 0) dbStats

def statistics (dbStats : List (ModelStatDaily K)) (model : String) : Option (AggregatedStats K) :=
  (aggregated dbStats model).map (.withErrors (errorCounts dbStats model))

abbrev Stats (K : Type) := String → Option (AggregatedStats K)

structure ModelStatsCache (K : Type) where
  cache : String → Option (Stats K × ℤ)
  ttl : ℤ

def ModelStatsCache.cached (c : ModelStatsCache K) (tenantID : String) (now : ℤ) :
    Option (Stats K) :=
  (c.cache tenantID).bind (fun entry => if now < entry.2 then some entry.1 else none)

def GetStats (c : ModelStatsCache K) (tenantID : String) (now later : ℤ)
    (fetched : Option (List (ModelStatDaily K))) : Option (Stats K) × ModelStatsCache K :=
  match c.cached tenantID now with
  | some stats => (some stats,c)
  | none =>
    match fetched with
    | none => (none,c)
    | some dbStats =>
      (some (statistics dbStats),
        { c with
          cache := Function.update c.cache tenantID (some (statistics dbStats,later + c.ttl)) })

def Invalidate (c : ModelStatsCache K) (tenantID : String) : ModelStatsCache K :=
  { c with cache := Function.update c.cache tenantID none }

def Clear (c : ModelStatsCache K) : ModelStatsCache K :=
  { c with cache := fun _ => none }

section Cached

def Event.apply (c : ModelStatsCache K) : Event K → ModelStatsCache K
  | .get tenantID now later fetched => (GetStats c tenantID now later fetched).2
  | .invalidate tenantID => Invalidate c tenantID
  | .clear => Clear c

def Computed (events : List (Event K)) (c : ModelStatsCache K) : Prop :=
  ∀ tenantID entry, c.cache tenantID = some entry →
    ∃ dbStats, Answered events tenantID dbStats ∧ entry.1 = statistics dbStats

variable {c : ModelStatsCache K} {events : List (Event K)}

theorem getStats_computed {tenantID : String} {now later : ℤ}
    {fetched : Option (List (ModelStatDaily K))} (h : Computed events c) {stats : Stats K}
    (hstats : (GetStats c tenantID now later fetched).1 = some stats) :
    ∃ dbStats, Answered (events ++ [.get tenantID now later fetched]) tenantID dbStats ∧
      stats = statistics dbStats := by
  unfold GetStats at hstats
  cases hcached : c.cached tenantID now with
  | some kept =>
    rw [hcached] at hstats
    cases hstats
    obtain ⟨entry,hentry,hvalid⟩ := Option.bind_eq_some_iff.mp hcached
    split_ifs at hvalid
    cases hvalid
    obtain ⟨dbStats,hans,heq⟩ := h tenantID entry hentry
    exact ⟨dbStats,hans.mono (List.subset_append_left _ _),heq⟩
  | none =>
    rw [hcached] at hstats
    cases fetched with
    | none => cases hstats
    | some dbStats =>
      cases hstats
      exact ⟨dbStats,⟨now,later,List.mem_append_right _ (List.mem_singleton_self _)⟩,rfl⟩

theorem computed_apply (h : Computed events c) (e : Event K) :
    Computed (events ++ [e]) (e.apply c) := by
  have hkept : Computed (events ++ [e]) c := fun tenantID entry hentry => by
    obtain ⟨dbStats,hans,heq⟩ := h tenantID entry hentry
    exact ⟨dbStats,hans.mono (List.subset_append_left _ _),heq⟩
  cases e with
  | clear =>
    intro tenantID entry hentry
    cases hentry
  | invalidate gone =>
    intro tenantID entry hentry
    change Function.update c.cache gone none tenantID = some entry at hentry
    by_cases heq : tenantID = gone
    · rw [heq,Function.update_self] at hentry
      cases hentry
    · rw [Function.update_of_ne heq] at hentry
      exact hkept tenantID entry hentry
  | get asked now later fetched =>
    change Computed _ (GetStats c asked now later fetched).2
    unfold GetStats
    cases c.cached asked now with
    | some stats => exact hkept
    | none =>
      cases fetched with
      | none => exact hkept
      | some dbStats =>
        intro tenantID entry hentry
        change Function.update c.cache asked (some (statistics dbStats,later + c.ttl)) tenantID =
          some entry at hentry
        by_cases heq : tenantID = asked
        · rw [heq,Function.update_self] at hentry
          cases hentry
          rw [heq]
          exact ⟨dbStats,⟨now,later,List.mem_append_right _ (List.mem_singleton_self _)⟩,rfl⟩
        · rw [Function.update_of_ne heq] at hentry
          exact hkept tenantID entry hentry

theorem returned_computed (ttl : ℤ) (events : List (Event K)) {tenantID : String} {now later : ℤ}
    {fetched : Option (List (ModelStatDaily K))} {stats : Stats K}
    (h : (GetStats (events.foldl Event.apply ⟨fun _ => none,ttl⟩) tenantID now later fetched).1 =
      some stats) :
    ∃ dbStats, Answered (events ++ [.get tenantID now later fetched]) tenantID dbStats ∧
      stats = statistics dbStats := by
  refine getStats_computed ?_ h
  clear h
  induction events using List.reverseRecOn with
  | nil =>
    intro tenantID entry hentry
    cases hentry
  | append_singleton events e ih =>
    rw [List.foldl_append]
    exact computed_apply ih e

end Cached

def ofModel (model : String) (dbStats : List (ModelStatDaily K)) : List (ModelStatDaily K) :=
  dbStats.filter (fun stat => stat.model = model)

def gathered (rows : List (ModelStatDaily K)) : AggregatedStats K :=
  rows.foldl .add .empty

section Gathered

theorem foldl_some (rows : List (ModelStatDaily K)) : ∀ agg : AggregatedStats K,
    rows.foldl (fun agg stat => some ((agg.getD .empty).add stat)) (some agg) =
      some (rows.foldl .add agg) := by
  induction rows with
  | nil =>
    intro agg
    rfl
  | cons row rest ih => exact fun agg => ih (agg.add row)

omit [Field K] in
theorem foldl_count (rows : List (ModelStatDaily K)) : ∀ count,
    rows.foldl (fun count stat => count + stat.errorCount) count = count + total (·.errorCount) rows := by
  induction rows with
  | nil => exact fun count => (Nat.add_zero count).symm
  | cons row rest ih =>
    intro count
    rw [List.foldl_cons,ih,total_cons,Nat.add_assoc]

theorem foldl_requestCount (rows : List (ModelStatDaily K)) : ∀ agg : AggregatedStats K,
    (rows.foldl .add agg).requestCount = agg.requestCount + total (·.requestCount) rows := by
  induction rows with
  | nil => exact fun agg => (Nat.add_zero _).symm
  | cons row rest ih =>
    intro agg
    rw [List.foldl_cons,ih,total_cons,← Nat.add_assoc]
    rfl

theorem statistics_eq {model : String} {dbStats : List (ModelStatDaily K)}
    (h : ofModel model dbStats ≠ []) : statistics dbStats model =
      some ((gathered (ofModel model dbStats)).withErrors
        (total (·.errorCount) (ofModel model dbStats))) := by
  have hcounts : errorCounts dbStats model = total (·.errorCount) (ofModel model dbStats) := by
    rw [errorCounts,foldGrouped_apply]
    exact (foldl_count _ 0).trans (Nat.zero_add _)
  have haggregated : aggregated dbStats model = some (gathered (ofModel model dbStats)) := by
    rw [aggregated,foldGrouped_apply]
    change (ofModel model dbStats).foldl _ none = _
    obtain ⟨row,rest,hrows⟩ := List.exists_cons_of_ne_nil h
    rw [hrows]
    exact foldl_some rest _
  rw [statistics,haggregated,hcounts]
  rfl

variable [CharZero K] {agg : AggregatedStats K} {row : ModelStatDaily K}
    {rows : List (ModelStatDaily K)}

theorem add_of_success (hrow : row.Recorded) (h : 0 < row.successCount) :
    (agg.add row).avgLatencyMs * (agg.add row).requestCount =
      agg.avgLatencyMs * agg.requestCount + row.avgLatencyMs * row.successCount := by
  have hpos : ((agg.requestCount + row.requestCount : ℕ) : K) ≠ 0 :=
    Nat.cast_ne_zero.mpr (Nat.add_pos_right _ hrow.requested).ne'
  change (if 0 < row.successCount then _ else _) * ((agg.requestCount + row.requestCount : ℕ) : K) = _
  rw [if_pos h,Nat.add_sub_cancel,div_mul_cancel₀ _ hpos]

omit [CharZero K] in
theorem add_of_failure (h : row.successCount = 0) :
    (agg.add row).avgLatencyMs = agg.avgLatencyMs :=
  if_neg (by rw [h]; exact lt_irrefl 0)

theorem foldl_of_success (rows : List (ModelStatDaily K)) : ∀ agg : AggregatedStats K,
    (∀ row ∈ rows, row.Recorded ∧ 0 < row.successCount) →
      (rows.foldl .add agg).avgLatencyMs * (rows.foldl .add agg).requestCount =
        agg.avgLatencyMs * agg.requestCount + weightedSum (·.successCount) (·.avgLatencyMs) rows := by
  induction rows with
  | nil =>
    intro agg _
    exact (add_zero _).symm
  | cons row rest ih =>
    intro agg h
    obtain ⟨hrow,hsuccess⟩ := h row List.mem_cons_self
    rw [List.foldl_cons,ih _ fun r hr => h r (List.mem_cons_of_mem _ hr),add_of_success hrow hsuccess,
      weightedSum_cons,add_assoc]

theorem foldl_of_zero (rows : List (ModelStatDaily K)) : ∀ agg : AggregatedStats K,
    agg.avgLatencyMs = 0 →
      (∀ row ∈ rows, row.Recorded ∧ (0 < row.successCount → row.avgLatencyMs = 0)) →
        (rows.foldl .add agg).avgLatencyMs = 0 := by
  induction rows with
  | nil => exact fun agg hagg _ => hagg
  | cons row rest ih =>
    intro agg hagg h
    obtain ⟨hrow,hzero⟩ := h row List.mem_cons_self
    refine ih (agg.add row) ?_ fun r hr => h r (List.mem_cons_of_mem _ hr)
    rcases Nat.eq_zero_or_pos row.successCount with hnone | hsuccess
    · rw [add_of_failure hnone,hagg]
    · have hsum := @add_of_success K _ _ agg row hrow hsuccess
      rw [hagg,hzero hsuccess,zero_mul,zero_mul,add_zero,mul_eq_zero] at hsum
      refine hsum.resolve_right (Nat.cast_ne_zero.mpr ?_)
      exact (Nat.add_pos_right _ hrow.requested).ne'

theorem add_injective {agg' : AggregatedStats K} (hrow : row.Recorded)
    (hcount : agg.requestCount = agg'.requestCount) (hpos : 0 < agg.requestCount)
    (h : (agg.add row).avgLatencyMs = (agg'.add row).avgLatencyMs) :
    agg.avgLatencyMs = agg'.avgLatencyMs := by
  rcases Nat.eq_zero_or_pos row.successCount with hnone | hsuccess
  · rwa [add_of_failure hnone,add_of_failure hnone] at h
  · have hsum := @add_of_success K _ _ agg row hrow hsuccess
    have hsum' := @add_of_success K _ _ agg' row hrow hsuccess
    have hsame : (agg.add row).requestCount = (agg'.add row).requestCount :=
      congrArg (· + row.requestCount) hcount
    rw [h,hsame,hsum',add_left_inj,← hcount] at hsum
    exact (mul_right_cancel₀ (Nat.cast_ne_zero.mpr hpos.ne') hsum).symm

theorem foldl_injective (rows : List (ModelStatDaily K)) (hrows : ∀ row ∈ rows, row.Recorded) :
    ∀ agg agg' : AggregatedStats K, agg.requestCount = agg'.requestCount → 0 < agg.requestCount →
      (rows.foldl .add agg).avgLatencyMs = (rows.foldl .add agg').avgLatencyMs →
        agg.avgLatencyMs = agg'.avgLatencyMs := by
  induction rows with
  | nil => exact fun _ _ _ _ h => h
  | cons row rest ih =>
    intro agg agg' hcount hpos h
    have hrow : row.Recorded := hrows row List.mem_cons_self
    refine add_injective hrow hcount hpos ?_
    exact ih (fun r hr => hrows r (List.mem_cons_of_mem _ hr)) _ _
      (congrArg (· + row.requestCount) hcount) (Nat.add_pos_left hpos _) h

theorem average_of_swapped {failed : ModelStatDaily K} {rest : List (ModelStatDaily K)}
    (hrows : ∀ r ∈ failed :: row :: rest, r.Recorded) (hnone : failed.successCount = 0)
    (hsuccess : 0 < row.successCount)
    (h : (gathered (failed :: row :: rest)).avgLatencyMs =
      (gathered (row :: failed :: rest)).avgLatencyMs) : row.avgLatencyMs = 0 := by
  obtain ⟨hfailed,hrow,hrest⟩ : failed.Recorded ∧ row.Recorded ∧ ∀ r ∈ rest, r.Recorded := by
    simpa only [List.forall_mem_cons] using hrows
  have hcount : (((AggregatedStats.empty : AggregatedStats K).add failed).add row).requestCount =
      ((AggregatedStats.empty.add row).add failed).requestCount := by
    change 0 + failed.requestCount + row.requestCount = 0 + row.requestCount + failed.requestCount
    omega
  have hswap : (((AggregatedStats.empty : AggregatedStats K).add failed).add row).avgLatencyMs =
      ((AggregatedStats.empty.add row).add failed).avgLatencyMs :=
    foldl_injective rest hrest _ _ hcount (Nat.add_pos_right _ hrow.requested) h
  have hfirst := @add_of_success K _ _ (AggregatedStats.empty.add failed) row hrow hsuccess
  have hsecond := @add_of_success K _ _ AggregatedStats.empty row hrow hsuccess
  rw [add_of_failure hnone] at hswap hfirst
  have hzero : (AggregatedStats.empty : AggregatedStats K).avgLatencyMs = 0 := rfl
  have hlonger : (((AggregatedStats.empty : AggregatedStats K).add failed).add row).requestCount =
      (AggregatedStats.empty.add row : AggregatedStats K).requestCount + failed.requestCount := hcount
  rw [hzero,zero_mul,zero_add] at hfirst hsecond
  rw [hswap,hlonger,Nat.cast_add,mul_add,hsecond,add_eq_left,mul_eq_zero] at hfirst
  have hgone : (AggregatedStats.empty.add row : AggregatedStats K).avgLatencyMs = 0 :=
    hfirst.resolve_right (Nat.cast_ne_zero.mpr hfailed.requested.ne')
  rw [hgone,zero_mul,eq_comm,mul_eq_zero] at hsecond
  exact hsecond.resolve_right (Nat.cast_ne_zero.mpr hsuccess.ne')

omit [CharZero K] in
theorem weightedSum_requests (h : ∀ row ∈ rows, row.Recorded) :
    weightedSum (·.requestCount) (·.avgLatencyMs) rows =
      weightedSum (·.successCount) (·.avgLatencyMs) rows +
        weightedSum (·.errorCount) (·.avgLatencyMs) rows := by
  rw [← weightedSum_add,weightedSum,weightedSum]
  refine congrArg List.sum (List.map_congr_left fun row hrow => ?_)
  rw [(h row hrow).counted]

/-- The latencies of failed requests sum to nothing, and where a day has no success at all, no other
day's requests have taken time. -/
structure Undistorted (rows : List (ModelStatDaily K)) : Prop where
  errors : weightedSum (·.errorCount) (·.avgLatencyMs) rows = 0
  failures : (∃ row ∈ rows, row.successCount = 0) →
    ∀ row ∈ rows, 0 < row.successCount → row.avgLatencyMs = 0

omit [CharZero K] in
theorem weightedSum_of_zero (h : ∀ row ∈ rows, 0 < row.successCount → row.avgLatencyMs = 0) :
    weightedSum (·.successCount) (·.avgLatencyMs) rows = 0 :=
  weightedSum_eq_zero fun row hrow => by
    rcases Nat.eq_zero_or_pos row.successCount with hnone | hsuccess
    · rw [hnone,Nat.cast_zero,mul_zero]
    · rw [h row hrow hsuccess,zero_mul]

theorem gathered_mul_total (h : ∀ row ∈ rows, row.Recorded ∧ 0 < row.successCount) :
    (gathered rows).avgLatencyMs * total (·.requestCount) rows =
      weightedSum (·.successCount) (·.avgLatencyMs) rows := by
  have hsum := foldl_of_success rows AggregatedStats.empty h
  have hcount : (rows.foldl AggregatedStats.add AggregatedStats.empty).requestCount =
      total (·.requestCount) rows := (foldl_requestCount rows _).trans (Nat.zero_add _)
  rw [hcount] at hsum
  exact hsum.trans (by rw [show (AggregatedStats.empty : AggregatedStats K).avgLatencyMs = 0 from rfl,
    zero_mul,zero_add])

end Gathered

section Average

variable [LinearOrder K] [IsStrictOrderedRing K] {rows rows' : List (ModelStatDaily K)}

theorem gathered_eq_mean (hne : rows ≠ []) (hrows : ∀ row ∈ rows, row.Recorded)
    (h : Undistorted rows) (hperm : rows'.Perm rows) : (gathered rows').avgLatencyMs =
      weightedMean (·.requestCount) (·.avgLatencyMs) rows := by
  have hpos : (total (·.requestCount) rows : K) ≠ 0 :=
    Nat.cast_ne_zero.mpr (total_pos hne fun row hrow => (hrows row hrow).requested).ne'
  have hsum := weightedSum_requests hrows
  rw [h.errors,add_zero] at hsum
  rw [weightedMean,hsum,eq_div_iff hpos]
  by_cases hfailed : ∃ row ∈ rows, row.successCount = 0
  · have hzero : (gathered rows').avgLatencyMs = 0 :=
      foldl_of_zero rows' _ rfl fun row hrow =>
        ⟨hrows row (hperm.mem_iff.mp hrow),h.failures hfailed row (hperm.mem_iff.mp hrow)⟩
    rw [hzero,zero_mul,weightedSum_of_zero (h.failures hfailed)]
  · push Not at hfailed
    rw [← total_perm hperm,← weightedSum_perm hperm]
    exact gathered_mul_total fun row hrow => ⟨hrows row (hperm.mem_iff.mp hrow),
      Nat.pos_of_ne_zero (hfailed row (hperm.mem_iff.mp hrow))⟩

theorem undistorted_of_mean (hne : rows ≠ []) (hrows : ∀ row ∈ rows, row.Recorded)
    (h : ∀ rows', rows'.Perm rows → (gathered rows').avgLatencyMs =
      weightedMean (·.requestCount) (·.avgLatencyMs) rows) : Undistorted rows := by
  have hfailures : (∃ row ∈ rows, row.successCount = 0) →
      ∀ row ∈ rows, 0 < row.successCount → row.avgLatencyMs = 0 := by
    rintro ⟨failed,hfailed,hnone⟩ row hrow hsuccess
    have hdiffer : row ≠ failed := by
      rintro rfl
      exact absurd hnone hsuccess.ne'
    obtain ⟨before,after,rfl⟩ := List.append_of_mem hfailed
    have hother : row ∈ before ++ after := by
      rcases List.mem_cons.mp ((List.perm_middle.mem_iff).mp hrow) with heq | hmem
      · exact absurd heq hdiffer
      · exact hmem
    obtain ⟨before',after',hsplit⟩ := List.append_of_mem hother
    have hfirst : (failed :: row :: (before' ++ after')).Perm (before ++ failed :: after) := by
      refine (List.Perm.cons failed ?_).trans List.perm_middle.symm
      rw [hsplit]
      exact List.perm_middle.symm
    have hsecond : (row :: failed :: (before' ++ after')).Perm (before ++ failed :: after) :=
      (List.Perm.swap failed row _).trans hfirst
    refine average_of_swapped (fun r hr => hrows r (hfirst.mem_iff.mp hr)) hnone hsuccess ?_
    rw [h _ hfirst,h _ hsecond]
  refine ⟨?_,hfailures⟩
  have hmean := h rows (List.Perm.refl rows)
  have hsum := weightedSum_requests hrows
  rw [← weightedMean_mul_total hne fun row hrow => (hrows row hrow).requested,← hmean] at hsum
  by_cases hfailed : ∃ row ∈ rows, row.successCount = 0
  · have hzero : (gathered rows).avgLatencyMs = 0 :=
      foldl_of_zero rows _ rfl fun row hrow => ⟨hrows row hrow,hfailures hfailed row hrow⟩
    rw [hzero,zero_mul,weightedSum_of_zero (hfailures hfailed),zero_add] at hsum
    exact hsum.symm
  · push Not at hfailed
    rw [gathered_mul_total fun row hrow => ⟨hrows row hrow,Nat.pos_of_ne_zero (hfailed row hrow)⟩,
      left_eq_add] at hsum
    exact hsum

/-- The statistics of one model's rows: the latency is the mean over the requests, between the smallest
and the largest of the rows' averages, and the error rate is the share of errors. -/
structure TrueAverage (rows : List (ModelStatDaily K)) (agg : AggregatedStats K) : Prop where
  latency : agg.avgLatencyMs = weightedMean (·.requestCount) (·.avgLatencyMs) rows
  atLeast : ∃ row ∈ rows, row.avgLatencyMs ≤ agg.avgLatencyMs
  atMost : ∃ row ∈ rows, agg.avgLatencyMs ≤ row.avgLatencyMs
  errors : agg.errorRate = total (·.errorCount) rows / total (·.requestCount) rows

def TrueAverages (dbStats : List (ModelStatDaily K)) : Prop :=
  ∀ (c : ModelStatsCache K) (tenantID : String) (now later : ℤ) (dbStats' : List (ModelStatDaily K)),
    c.cached tenantID now = none → dbStats'.Perm dbStats →
      ∃ stats, (GetStats c tenantID now later (some dbStats')).1 = some stats ∧
        ∀ model, ofModel model dbStats ≠ [] →
          ∃ agg, stats model = some agg ∧ TrueAverage (ofModel model dbStats) agg

omit [IsStrictOrderedRing K] [LinearOrder K] in
theorem withErrors_latency (errors : ℕ) (agg : AggregatedStats K) :
    (agg.withErrors errors).avgLatencyMs = agg.avgLatencyMs := by
  rw [AggregatedStats.withErrors]
  split_ifs <;> rfl

omit [IsStrictOrderedRing K] [LinearOrder K] in
theorem withErrors_rate {agg : AggregatedStats K} (h : 0 < agg.requestCount) (errors : ℕ) :
    (agg.withErrors errors).errorRate = errors / agg.requestCount := by
  rw [AggregatedStats.withErrors,if_pos h]

omit [Field K] [IsStrictOrderedRing K] [LinearOrder K] in
theorem exists_order {model : String} {dbStats : List (ModelStatDaily K)}
    (h : rows.Perm (ofModel model dbStats)) :
    ∃ dbStats', dbStats'.Perm dbStats ∧ ofModel model dbStats' = rows := by
  refine ⟨rows ++ dbStats.filter (fun stat => !decide (stat.model = model)),?_,?_⟩
  · exact (h.append_right _).trans (List.filter_append_perm _ _)
  · have hown : rows.filter (fun stat => stat.model = model) = rows :=
      List.filter_eq_self.mpr fun stat hstat => (List.mem_filter.mp (h.mem_iff.mp hstat)).2
    have hothers : (dbStats.filter (fun stat => !decide (stat.model = model))).filter
        (fun stat => stat.model = model) = [] :=
      List.filter_eq_nil_iff.mpr fun stat hstat => by
        have hother := (List.mem_filter.mp hstat).2
        rw [Bool.not_eq_true'] at hother
        rw [hother]
        exact Bool.false_ne_true
    rw [ofModel,List.filter_append,hown,hothers,List.append_nil]

omit [IsStrictOrderedRing K] [LinearOrder K] in
theorem getStats_of_miss {c : ModelStatsCache K} {tenantID : String} {now : ℤ}
    (h : c.cached tenantID now = none) (later : ℤ) (dbStats : List (ModelStatDaily K)) :
    (GetStats c tenantID now later (some dbStats)).1 = some (statistics dbStats) := by
  unfold GetStats
  rw [h]

omit [IsStrictOrderedRing K] in
theorem TrueAverages.statistics {dbStats dbStats' : List (ModelStatDaily K)}
    (h : TrueAverages dbStats) (horder : dbStats'.Perm dbStats) {model : String}
    (hne : ofModel model dbStats ≠ []) :
    ∃ agg, statistics dbStats' model = some agg ∧ TrueAverage (ofModel model dbStats) agg := by
  obtain ⟨stats,hstats,hall⟩ := h ⟨fun _ => none,0⟩ "" 0 0 dbStats' rfl horder
  rw [getStats_of_miss rfl,Option.some.injEq] at hstats
  rw [hstats]
  exact hall model hne

theorem true_averages_iff (dbStats : List (ModelStatDaily K))
    (hrecorded : ∀ stat ∈ dbStats, stat.Recorded) :
    TrueAverages dbStats ↔ ∀ model, Undistorted (ofModel model dbStats) := by
  have hown (model : String) : ∀ row ∈ ofModel model dbStats, row.Recorded := fun row hrow =>
    hrecorded row (List.mem_filter.mp hrow).1
  constructor
  · intro h model
    by_cases hne : ofModel model dbStats = []
    · rw [hne]
      exact ⟨rfl,fun hfailed => absurd hfailed.choose_spec.1 List.not_mem_nil⟩
    · refine undistorted_of_mean hne (hown model) fun rows' hperm => ?_
      obtain ⟨dbStats',horder,hrows⟩ := exists_order hperm
      obtain ⟨agg,hagg,haverage⟩ := h.statistics horder hne
      have hne' : ofModel model dbStats' ≠ [] := by
        rw [hrows]
        rintro rfl
        exact hne (List.nil_perm.mp hperm)
      rw [statistics_eq hne',hrows,Option.some.injEq] at hagg
      rw [← haverage.latency,← hagg,withErrors_latency]
  · intro h c tenantID now later dbStats' hmiss horder
    refine ⟨_,getStats_of_miss hmiss later dbStats',fun model hne => ?_⟩
    have hperm : (ofModel model dbStats').Perm (ofModel model dbStats) := horder.filter _
    have hne' : ofModel model dbStats' ≠ [] := fun hnil => hne (List.nil_perm.mp (hnil ▸ hperm))
    have hrequested : ∀ row ∈ ofModel model dbStats, 0 < row.requestCount := fun row hrow =>
      (hown model row hrow).requested
    have hcount : (gathered (ofModel model dbStats')).requestCount =
        total (·.requestCount) (ofModel model dbStats) := by
      rw [gathered,foldl_requestCount,total_perm hperm]
      exact Nat.zero_add _
    have hmean := gathered_eq_mean hne (hown model) (h model) hperm
    refine ⟨_,statistics_eq hne',?_,?_,?_,?_⟩
    · rw [withErrors_latency,hmean]
    · rw [withErrors_latency,hmean]
      exact exists_le_weightedMean hne hrequested
    · rw [withErrors_latency,hmean]
      exact exists_weightedMean_le hne hrequested
    · rw [withErrors_rate (hcount ▸ total_pos hne hrequested),hcount,total_perm hperm]

omit [IsStrictOrderedRing K] [LinearOrder K] in
theorem undistorted_of_no_errors (h : ∀ row ∈ rows, row.errorCount = 0 ∧ 0 < row.successCount) :
    Undistorted rows := by
  constructor
  · refine weightedSum_eq_zero fun row hrow => ?_
    rw [(h row hrow).1,Nat.cast_zero,mul_zero]
  · rintro ⟨row,hrow,hnone⟩
    exact absurd hnone (h row hrow).2.ne'

end Average

def quietDays : List (ModelStatDaily ℚ) :=
  [⟨"mini",2,2,0,100⟩,⟨"mini",1,1,0,400⟩]

theorem quietDays_averaged : TrueAverages quietDays := by
  refine (true_averages_iff quietDays ?_).mpr fun model => undistorted_of_no_errors fun row hrow => ?_
  · intro stat hstat
    rcases List.mem_cons.mp hstat with rfl | hstat
    · exact ⟨rfl,Nat.two_pos⟩
    · obtain rfl := List.mem_singleton.mp hstat
      exact ⟨rfl,Nat.one_pos⟩
  · have hday : row ∈ quietDays := (List.mem_filter.mp hrow).1
    rcases List.mem_cons.mp hday with rfl | hday
    · exact ⟨rfl,Nat.two_pos⟩
    · obtain rfl := List.mem_singleton.mp hday
      exact ⟨rfl,Nat.one_pos⟩

def mixedDay : List (ModelStatDaily ℚ) :=
  [⟨"mini",2,1,1,100⟩]

def successThenFailure : List (ModelStatDaily ℚ) :=
  [⟨"mini",1,1,0,100⟩,⟨"mini",1,0,1,60⟩]

def latencyOf (dbStats : List (ModelStatDaily ℚ)) : Option ℚ :=
  (statistics dbStats "mini").map (·.avgLatencyMs)

theorem latencyOf_of_true {dbStats : List (ModelStatDaily ℚ)} (h : TrueAverages dbStats)
    (hne : ofModel "mini" dbStats ≠ []) : latencyOf dbStats =
      some (weightedMean (·.requestCount) (·.avgLatencyMs) (ofModel "mini" dbStats)) := by
  obtain ⟨agg,hagg,haverage⟩ := h.statistics (List.Perm.refl dbStats) hne
  rw [latencyOf,hagg,Option.map_some,haverage.latency]

theorem averages_distorted :
    latencyOf mixedDay = some 50 ∧ ¬TrueAverages mixedDay ∧
      latencyOf successThenFailure = some 100 ∧ latencyOf successThenFailure.reverse = some 50 ∧
        ¬TrueAverages successThenFailure := by
  have hmixed : latencyOf mixedDay = some 50 := by decide +kernel
  have hordered : latencyOf successThenFailure = some 100 := by decide +kernel
  refine ⟨hmixed,fun h => ?_,hordered,by decide +kernel,fun h => ?_⟩
  · rw [latencyOf_of_true h (by decide)] at hmixed
    revert hmixed
    decide +kernel
  · rw [latencyOf_of_true h (by decide)] at hordered
    revert hordered
    decide +kernel

end PrismGateway.Router.StatsCache
