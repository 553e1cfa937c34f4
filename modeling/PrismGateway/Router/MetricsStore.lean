import Mathlib.Data.String.Basic
import Mathlib.Tactic.Linarith
import PrismGateway.Lib.Averages
import PrismGateway.Lib.MinMax

namespace PrismGateway.Router.Metrics

open Lib

structure ErrorStats (K : Type) where
  requestCount : ℤ
  errorCount : ℤ
  errorRate : K
  deriving DecidableEq

structure CounterStats where
  req : ℤ := 0
  err : ℤ := 0
  deriving DecidableEq

/-- A writing call of the `MetricsStore` interface. -/
inductive Call (K : Type) where
  | updateLatencyEWMA (tenantID model : String) (latencyMs : K)
  | incRequest (tenantID model : String) (isError : Bool)

def Call.pair {K : Type} : Call K → String × String
  | .updateLatencyEWMA tenantID model _ => (tenantID,model)
  | .incRequest tenantID model _ => (tenantID,model)

section Readings

variable {K : Type}

def latencyOf (tenantID model : String) : Call K → Option K
  | .updateLatencyEWMA t m latencyMs => if (t,m) = (tenantID,model) then some latencyMs else none
  | .incRequest _ _ _ => none

def outcomeOf (tenantID model : String) : Call K → Option Bool
  | .updateLatencyEWMA _ _ _ => none
  | .incRequest t m isError => if (t,m) = (tenantID,model) then some isError else none

def latencies (tenantID model : String) (calls : List (Call K)) : List K :=
  calls.filterMap (latencyOf tenantID model)

def outcomes (tenantID model : String) (calls : List (Call K)) : List Bool :=
  calls.filterMap (outcomeOf tenantID model)

theorem readings_of_others {calls : List (Call K)} {tenantID model : String}
    (h : ∀ c ∈ calls, c.pair ≠ (tenantID,model)) :
    latencies tenantID model calls = [] ∧ outcomes tenantID model calls = [] := by
  constructor
  · refine List.filterMap_eq_nil_iff.mpr fun c hc => ?_
    cases c with
    | updateLatencyEWMA t m l => exact if_neg (h _ hc)
    | incRequest t m e => rfl
  · refine List.filterMap_eq_nil_iff.mpr fun c hc => ?_
    cases c with
    | updateLatencyEWMA t m l => rfl
    | incRequest t m e => exact if_neg (h _ hc)

theorem latencies_append {tenantID model : String} {c : Call K} {l : K}
    (h : latencyOf tenantID model c = some l) (calls : List (Call K)) :
    latencies tenantID model (calls ++ [c]) = latencies tenantID model calls ++ [l] := by
  rw [latencies,latencies,List.filterMap_append,List.filterMap_cons_some h,List.filterMap_nil]

def collect {α : Type} (models : List String) (found : String → Option α) : String → Option α :=
  models.foldl (fun result model => match found model with
    | some v => Function.update result model (some v)
    | none => result) (fun _ => none)

theorem collect_apply {α : Type} (models : List String) (found : String → Option α) (model : String) :
    collect models found model = if model ∈ models then found model else none := by
  induction models using List.reverseRecOn with
  | nil => rfl
  | append_singleton models m ih =>
    rw [collect,List.foldl_append,List.foldl_cons,List.foldl_nil,← collect]
    cases hm : found m with
    | none =>
      by_cases heq : model = m
      · subst heq
        simp [ih,hm]
      · simp [ih,heq]
    | some v =>
      by_cases heq : model = m
      · simp [heq,hm]
      · simp [ih,heq]

end Readings

structure InMemoryMetricsStore (K : Type) where
  ewma : String → String → Option K
  stats : String → String → Option CounterStats
  alpha : K

section Store

variable {K : Type} [Field K]

def ewmaAlpha : K := (3 : ℕ) / (10 : ℕ)

def NewInMemoryMetricsStore : InMemoryMetricsStore K :=
  { ewma := fun _ _ => none,stats := fun _ _ => none,alpha := ewmaAlpha }

def averaged (alpha : K) (prev : Option K) (latencyMs : K) : K :=
  match prev with
  | none => latencyMs
  | some prev => alpha * latencyMs + (1 - alpha) * prev

def counted (cs : Option CounterStats) (isError : Bool) : CounterStats :=
  let cs := cs.getD {}
  let req := cs.req + 1
  let err := if isError then cs.err + 1 else cs.err
  if req > 100 then { req := 50,err := err.tdiv 2 } else { req := req,err := err }

namespace InMemoryMetricsStore

def UpdateLatencyEWMA (s : InMemoryMetricsStore K) (tenantID model : String) (latencyMs : K) :
    InMemoryMetricsStore K :=
  { s with
    ewma := Function.update s.ewma tenantID (Function.update (s.ewma tenantID) model
      (some (averaged s.alpha (s.ewma tenantID model) latencyMs))) }

def IncRequest (s : InMemoryMetricsStore K) (tenantID model : String) (isError : Bool) :
    InMemoryMetricsStore K :=
  { s with
    stats := Function.update s.stats tenantID (Function.update (s.stats tenantID) model
      (some (counted (s.stats tenantID model) isError))) }

def GetLatencyEWMA (s : InMemoryMetricsStore K) (tenantID : String) (models : List String) :
    String → Option K :=
  collect models (s.ewma tenantID)

def errorStats (cs : CounterStats) : ErrorStats K :=
  { requestCount := cs.req,errorCount := cs.err,errorRate := if cs.req > 0 then cs.err / cs.req else 0 }

def GetErrorStats (s : InMemoryMetricsStore K) (tenantID : String) (models : List String) :
    String → Option (ErrorStats K) :=
  collect models (fun model => (s.stats tenantID model).map errorStats)

def call (s : InMemoryMetricsStore K) : Call K → InMemoryMetricsStore K
  | .updateLatencyEWMA tenantID model latencyMs => s.UpdateLatencyEWMA tenantID model latencyMs
  | .incRequest tenantID model isError => s.IncRequest tenantID model isError

variable {s : InMemoryMetricsStore K} {tenantID model : String}

theorem call_ewma_of_none {c : Call K} (h : latencyOf tenantID model c = none) :
    (s.call c).ewma tenantID model = s.ewma tenantID model := by
  cases c with
  | incRequest t m isError => rfl
  | updateLatencyEWMA t m latencyMs =>
    simp only [latencyOf,ite_eq_right_iff,reduceCtorEq,imp_false,Prod.mk.injEq,not_and] at h
    by_cases ht : tenantID = t
    · subst ht
      have hm : model ≠ m := fun heq => h rfl heq.symm
      simp only [call,UpdateLatencyEWMA,Function.update_self,Function.update_of_ne hm]
    · simp only [call,UpdateLatencyEWMA,Function.update_of_ne ht]

theorem call_ewma_of_some {c : Call K} {latencyMs : K} (h : latencyOf tenantID model c = some latencyMs) :
    (s.call c).ewma tenantID model = some (averaged s.alpha (s.ewma tenantID model) latencyMs) := by
  cases c with
  | incRequest t m isError => cases h
  | updateLatencyEWMA t m l =>
    simp only [latencyOf,Option.ite_none_right_eq_some,Prod.mk.injEq,Option.some.injEq] at h
    obtain ⟨⟨rfl,rfl⟩,rfl⟩ := h
    simp only [call,UpdateLatencyEWMA,Function.update_self]

theorem call_stats_of_none {c : Call K} (h : outcomeOf tenantID model c = none) :
    (s.call c).stats tenantID model = s.stats tenantID model := by
  cases c with
  | updateLatencyEWMA t m latencyMs => rfl
  | incRequest t m isError =>
    simp only [outcomeOf,ite_eq_right_iff,reduceCtorEq,imp_false,Prod.mk.injEq,not_and] at h
    by_cases ht : tenantID = t
    · subst ht
      have hm : model ≠ m := fun heq => h rfl heq.symm
      simp only [call,IncRequest,Function.update_self,Function.update_of_ne hm]
    · simp only [call,IncRequest,Function.update_of_ne ht]

theorem call_stats_of_some {c : Call K} {isError : Bool} (h : outcomeOf tenantID model c = some isError) :
    (s.call c).stats tenantID model = some (counted (s.stats tenantID model) isError) := by
  cases c with
  | updateLatencyEWMA t m l => cases h
  | incRequest t m e =>
    simp only [outcomeOf,Option.ite_none_right_eq_some,Prod.mk.injEq,Option.some.injEq] at h
    obtain ⟨⟨rfl,rfl⟩,rfl⟩ := h
    simp only [call,IncRequest,Function.update_self]

theorem call_alpha (s : InMemoryMetricsStore K) (c : Call K) : (s.call c).alpha = s.alpha := by
  cases c <;> rfl

theorem run_ewma (calls : List (Call K)) (s : InMemoryMetricsStore K) (tenantID model : String) :
    (calls.foldl call s).ewma tenantID model =
      (latencies tenantID model calls).foldl (fun prev l => some (averaged s.alpha prev l))
        (s.ewma tenantID model) := by
  refine @read_foldl _ _ K _ (fun s' => s'.alpha = s.alpha) _ (fun s => s.ewma tenantID model) _
    (latencyOf tenantID model) ?_ ?_ ?_ calls s rfl
  · intro s' c hs
    rw [call_alpha,hs]
  · exact fun _ c _ hc => call_ewma_of_none hc
  · intro s' c l hs hc
    rw [call_ewma_of_some hc,hs]

theorem run_stats (calls : List (Call K)) (s : InMemoryMetricsStore K) (tenantID model : String) :
    (calls.foldl call s).stats tenantID model =
      (outcomes tenantID model calls).foldl (fun cs e => some (counted cs e)) (s.stats tenantID model) :=
  @read_foldl _ _ Bool _ (fun _ => True) _ (fun s => s.stats tenantID model) _ (outcomeOf tenantID model)
    (fun _ _ _ => trivial) (fun _ _ _ hc => call_stats_of_none hc) (fun _ _ _ _ hc => call_stats_of_some hc)
    calls s trivial

end InMemoryMetricsStore

def reached (calls : List (Call K)) : InMemoryMetricsStore K :=
  calls.foldl .call NewInMemoryMetricsStore

end Store

structure CounterStats.Valid (cs : CounterStats) : Prop where
  errors_nonneg : 0 ≤ cs.err
  errors_le : cs.err ≤ cs.req
  requests_pos : 0 < cs.req
  requests_le : cs.req ≤ 100

theorem counted_valid {cs : Option CounterStats} (h : ∀ c, cs = some c → c.Valid) (isError : Bool) :
    (counted cs isError).Valid := by
  have hcounts : 0 ≤ (cs.getD {}).err ∧ (cs.getD {}).err ≤ (cs.getD {}).req ∧ (cs.getD {}).req ≤ 100 := by
    cases cs with
    | none => exact ⟨le_refl 0,le_refl 0,by decide⟩
    | some c => exact ⟨(h c rfl).errors_nonneg,(h c rfl).errors_le,(h c rfl).requests_le⟩
  obtain ⟨hnonneg,hle,hhundred⟩ := hcounts
  have herr : 0 ≤ (if isError then (cs.getD {}).err + 1 else (cs.getD {}).err) ∧
      (if isError then (cs.getD {}).err + 1 else (cs.getD {}).err) ≤ (cs.getD {}).req + 1 := by
    cases isError <;> constructor <;> simp only [if_true,Bool.false_eq_true,if_false] <;> omega
  simp only [counted]
  generalize (if isError then (cs.getD {}).err + 1 else (cs.getD {}).err) = err at herr
  by_cases hpassed : (cs.getD {}).req + 1 > 100
  · -- 101 requests have at most 101 errors, half of which, rounded down, is at most 50
    rw [if_pos hpassed,Int.tdiv_eq_ediv_of_nonneg herr.1]
    exact ⟨by simp only; omega,by simp only; omega,by simp only; omega,by simp only; omega⟩
  · rw [if_neg hpassed]
    exact ⟨herr.1,herr.2,by simp only; omega,by simp only; omega⟩

theorem outcomes_valid (flags : List Bool) : ∀ cs : Option CounterStats, (∀ c, cs = some c → c.Valid) →
    ∀ c, flags.foldl (fun cs e => some (counted cs e)) cs = some c → c.Valid := by
  induction flags with
  | nil => exact fun _ h => h
  | cons e rest ih =>
    intro cs h
    refine ih (some (counted cs e)) fun c hc => ?_
    rw [← Option.some.inj hc]
    exact counted_valid h e

theorem reached_valid {K : Type} [Field K] (calls : List (Call K)) (tenantID model : String) :
    ∀ cs, (reached calls).stats tenantID model = some cs → cs.Valid := by
  rw [reached,InMemoryMetricsStore.run_stats]
  exact outcomes_valid _ none fun _ h => by cases h

section Bounds

variable {K : Type} [Field K] [LinearOrder K] [IsStrictOrderedRing K]

theorem averaged_between {alpha low high latencyMs : K} {prev : Option K} (halpha : 0 ≤ alpha ∧ alpha ≤ 1)
    (hprev : ∀ p, prev = some p → low ≤ p ∧ p ≤ high) (hlatency : low ≤ latencyMs ∧ latencyMs ≤ high) :
    low ≤ averaged alpha prev latencyMs ∧ averaged alpha prev latencyMs ≤ high := by
  cases prev with
  | none => exact hlatency
  | some p =>
    obtain ⟨hlow,hhigh⟩ := hprev p rfl
    have hrest : 0 ≤ 1 - alpha := sub_nonneg.mpr halpha.2
    have hsplit : ∀ x : K, alpha * x + (1 - alpha) * x = x := fun x => by ring
    constructor
    · calc low = alpha * low + (1 - alpha) * low := (hsplit low).symm
        _ ≤ alpha * latencyMs + (1 - alpha) * p :=
          add_le_add (mul_le_mul_of_nonneg_left hlatency.1 halpha.1) (mul_le_mul_of_nonneg_left hlow hrest)
    · calc alpha * latencyMs + (1 - alpha) * p ≤ alpha * high + (1 - alpha) * high :=
          add_le_add (mul_le_mul_of_nonneg_left hlatency.2 halpha.1) (mul_le_mul_of_nonneg_left hhigh hrest)
        _ = high := hsplit high

theorem averages_between {alpha low high : K} (halpha : 0 ≤ alpha ∧ alpha ≤ 1) (samples : List K) :
    ∀ prev : Option K, (∀ p, prev = some p → low ≤ p ∧ p ≤ high) →
      (∀ x ∈ samples, low ≤ x ∧ x ≤ high) →
      ∀ v, samples.foldl (fun prev l => some (averaged alpha prev l)) prev = some v →
        low ≤ v ∧ v ≤ high := by
  induction samples with
  | nil => exact fun _ h _ => h
  | cons x rest ih =>
    intro prev hprev hsamples
    obtain ⟨hx,hrest⟩ := List.forall_mem_cons.mp hsamples
    refine ih _ (fun p hp => ?_) hrest
    rw [← Option.some.inj hp]
    exact averaged_between halpha hprev hx

theorem ewmaAlpha_mem : (0 : K) ≤ ewmaAlpha ∧ (ewmaAlpha : K) ≤ 1 := by
  constructor <;> norm_num [ewmaAlpha]

theorem errorRate_mem {cs : CounterStats} (h : cs.Valid) :
    0 ≤ (InMemoryMetricsStore.errorStats cs : ErrorStats K).errorRate ∧
      (InMemoryMetricsStore.errorStats cs : ErrorStats K).errorRate ≤ 1 := by
  have hpos : (0 : K) < cs.req := Int.cast_pos.mpr h.requests_pos
  have hle : (cs.err : K) ≤ cs.req := Int.cast_le.mpr h.errors_le
  simp only [InMemoryMetricsStore.errorStats]
  rw [if_pos h.requests_pos]
  exact ⟨div_nonneg (Int.cast_nonneg h.errors_nonneg) hpos.le,(div_le_one hpos).mpr hle⟩

theorem metrics_invariant (calls : List (Call K)) (tenantID model : String) :
    (∀ cs, (reached calls).stats tenantID model = some cs → cs.Valid) ∧
      (∀ models m stats, (reached calls).GetErrorStats tenantID models m = some stats →
        0 ≤ stats.errorRate ∧ stats.errorRate ≤ 1) ∧
      (∀ average, (reached calls).ewma tenantID model = some average →
        ∃ first rest, latencies tenantID model calls = first :: rest ∧
          smallestOf first rest ≤ average ∧ average ≤ largestOf first rest) ∧
      ∀ others : List (Call K), (∀ c ∈ others, c.pair ≠ (tenantID,model)) →
        (reached (calls ++ others)).ewma tenantID model = (reached calls).ewma tenantID model ∧
          (reached (calls ++ others)).stats tenantID model = (reached calls).stats tenantID model := by
  refine ⟨reached_valid calls tenantID model,fun models m stats h => ?_,fun average h => ?_,
    fun others hothers => ?_⟩
  · rw [InMemoryMetricsStore.GetErrorStats,collect_apply] at h
    split at h
    · obtain ⟨cs,hcs,rfl⟩ := Option.map_eq_some_iff.mp h
      exact errorRate_mem (reached_valid calls tenantID m cs hcs)
    · cases h
  · rw [reached,InMemoryMetricsStore.run_ewma] at h
    cases hcons : latencies tenantID model calls with
    | nil =>
      rw [hcons] at h
      cases h
    | cons first rest =>
      rw [hcons] at h
      refine ⟨first,rest,rfl,averages_between ewmaAlpha_mem (first :: rest) none (fun _ hp => by cases hp)
        (List.forall_mem_cons.mpr ⟨⟨(smallestOf_le rest first).1,(le_largestOf rest first).1⟩,
          fun x hx => ⟨(smallestOf_le rest first).2 x hx,(le_largestOf rest first).2 x hx⟩⟩) average h⟩
  · obtain ⟨hlatencies,houtcomes⟩ := readings_of_others hothers
    simp only [reached]
    rw [List.foldl_append,InMemoryMetricsStore.run_ewma,InMemoryMetricsStore.run_stats,hlatencies,houtcomes]
    exact ⟨rfl,rfl⟩

end Bounds

def slowThenQuick : List (Call ℚ) :=
  [.updateLatencyEWMA "acme" "mini" 100,.updateLatencyEWMA "acme" "mini" 40,.incRequest "acme" "mini" true]

theorem slowThenQuick_reached : (reached slowThenQuick).stats "acme" "mini" = some { req := 1,err := 1 } ∧
    (reached slowThenQuick).ewma "acme" "mini" = some 82 := by
  decide +kernel

theorem slowThenQuick_invariant : ({ req := 1,err := 1 } : CounterStats).Valid ∧
    ∃ first rest, latencies "acme" "mini" slowThenQuick = first :: rest ∧
      smallestOf first rest ≤ 82 ∧ 82 ≤ largestOf first rest := by
  obtain ⟨hvalid,-,haverage,-⟩ := metrics_invariant slowThenQuick "acme" "mini"
  exact ⟨hvalid _ slowThenQuick_reached.1,haverage 82 slowThenQuick_reached.2⟩

end PrismGateway.Router.Metrics
