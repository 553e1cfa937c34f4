import Mathlib.Data.List.Infix
import Mathlib.Data.Rat.Floor
import PrismGateway.Lib.Decimals
import PrismGateway.Lib.Redis
import PrismGateway.Router.MetricsStore

namespace PrismGateway.Router.Metrics

open Lib

abbrev Db (K : Type) := Redis.Db String String K String

structure RedisMetricsStore (K : Type) where
  client : Db K
  keyPrefix : String

def metricsTTL : ℤ := 7 * 24 * 60 * 60

section Scripts

variable {K : Type} [Field K]

def luaEWMA (db : Db K) (now : ℤ) (key field : String) (latency alpha : K) (ttl : ℤ) : K × Db K :=
  let prev := Redis.hget db now key field
  let ewma := match prev with
    | some prev => alpha * latency + (1 - alpha) * prev
    | none => latency
  let db := Redis.hmset db now key [(field,ewma)] []
  (ewma,Redis.expire db now key ttl)

def luaIncRequest (db : Db K) (now : ℤ) (key model : String) (isErr ttl : ℤ) : ℤ × Db K :=
  let db := Redis.hincrby db now key (model ++ ":req") 1
  let db := if isErr = 1 then Redis.hincrby db now key (model ++ ":err") 1 else db
  (1,Redis.expire db now key ttl)

theorem hget_luaEWMA (db : Db K) (now : ℤ) (key field f : String) (latency alpha : K) :
    Redis.hget (luaEWMA db now key field latency alpha metricsTTL).2 now key f =
      if f = field then some (averaged alpha (Redis.hget db now key field) latency)
      else Redis.hget db now key f := by
  rw [luaEWMA,Redis.hget_expire_hmset _ _ _ (le_refl now) (by rw [metricsTTL]; omega)]
  cases Redis.hget db now key field <;> rfl

theorem luaEWMA_of_ne {db : Db K} {now : ℤ} {key field k : String} {latency alpha : K} {ttl : ℤ}
    (h : k ≠ key) : (luaEWMA db now key field latency alpha ttl).2 k = db k :=
  (Redis.expire_of_ne h).trans (Redis.hmset_of_ne h)

end Scripts

section Counters

variable {K : Type}

theorem req_ne_err (m m' : String) : m ++ ":req" ≠ m' ++ ":err" := by
  intro h
  have hlast := congrArg (fun k : String => k.toList.getLast?) h
  simp [String.toList_append] at hlast

theorem hgetNum_luaIncRequest (db : Db K) (now : ℤ) (key model f : String) (isError : Bool) :
    Redis.hgetNum (luaIncRequest db now key model (if isError then 1 else 0) metricsTTL).2 now key f =
      if f = model ++ ":req" ∨ isError ∧ f = model ++ ":err" then
        some ((Redis.hgetNum db now key f).getD 0 + 1)
      else Redis.hgetNum db now key f := by
  have httl : now < now + metricsTTL := by
    rw [metricsTTL]
    omega
  cases isError with
  | false =>
    refine (Redis.hgetNum_expire_hincrby _ f 1 (le_refl now) httl).trans ?_
    by_cases hf : f = model ++ ":req"
    · simp [hf]
    · simp [hf]
  | true =>
    refine (Redis.hgetNum_expire_hincrby _ f 1 (le_refl now) httl).trans ?_
    rw [Redis.hgetNum_hincrby,Redis.hgetNum_hincrby,if_neg (req_ne_err model model).symm]
    by_cases hf : f = model ++ ":err"
    · simp [hf]
    · by_cases hr : f = model ++ ":req"
      · simp [hr]
      · simp [hf,hr]

theorem luaIncRequest_of_ne {db : Db K} {now : ℤ} {key model k : String} {isErr ttl : ℤ} (h : k ≠ key) :
    (luaIncRequest db now key model isErr ttl).2 k = db k := by
  refine (Redis.expire_of_ne h).trans ?_
  split
  · rw [Redis.hincrby_of_ne h,Redis.hincrby_of_ne h]
  · exact Redis.hincrby_of_ne h

end Counters

namespace RedisMetricsStore

def ewmaKey {K : Type} (s : RedisMetricsStore K) (tenantID : String) : String :=
  s.keyPrefix ++ "ewma:" ++ tenantID

def cntKey {K : Type} (s : RedisMetricsStore K) (tenantID : String) : String :=
  s.keyPrefix ++ "cnt:" ++ tenantID

section Calls

variable {K : Type} [Field K] [LinearOrder K] [FloorRing K]

def NewRedisMetricsStore (keyPrefix : String) : RedisMetricsStore K :=
  { client := Redis.Db.empty,keyPrefix := if keyPrefix = "" then "sr:" else keyPrefix }

-- FormatFloat leaves six decimals of what the script receives
def UpdateLatencyEWMA (now : ℤ) (s : RedisMetricsStore K) (tenantID model : String) (latencyMs : K) :
    RedisMetricsStore K :=
  { s with
    client := (luaEWMA s.client now (s.ewmaKey tenantID) model (fixedPoint 6 latencyMs)
      (fixedPoint 6 ewmaAlpha) metricsTTL).2 }

def IncRequest (now : ℤ) (s : RedisMetricsStore K) (tenantID model : String) (isError : Bool) :
    RedisMetricsStore K :=
  let isErrVal := if isError then 1 else 0
  { s with client := (luaIncRequest s.client now (s.cntKey tenantID) model isErrVal metricsTTL).2 }

def GetLatencyEWMA (now : ℤ) (s : RedisMetricsStore K) (tenantID : String) (models : List String) :
    String → Option K :=
  if models.isEmpty then fun _ => none
  else collect models (fun model => Redis.hget s.client now (s.ewmaKey tenantID) model)

def errorStats (req err : Option ℤ) : Option (ErrorStats K) :=
  match req with
  | none => none
  | some req =>
    if req = 0 then none
    else some { requestCount := req,errorCount := err.getD 0,errorRate := (err.getD 0 : ℤ) / (req : K) }

def GetErrorStats (now : ℤ) (s : RedisMetricsStore K) (tenantID : String) (models : List String) :
    String → Option (ErrorStats K) :=
  if models.isEmpty then fun _ => none
  else collect models (fun model =>
    errorStats (Redis.hgetNum s.client now (s.cntKey tenantID) (model ++ ":req"))
      (Redis.hgetNum s.client now (s.cntKey tenantID) (model ++ ":err")))

def call (now : ℤ) (s : RedisMetricsStore K) : Call K → RedisMetricsStore K
  | .updateLatencyEWMA tenantID model latencyMs => s.UpdateLatencyEWMA now tenantID model latencyMs
  | .incRequest tenantID model isError => s.IncRequest now tenantID model isError

end Calls

section Keys

variable {K : Type} {s : RedisMetricsStore K} {t t' : String}

theorem ewmaKey_inj : s.ewmaKey t = s.ewmaKey t' ↔ t = t' := by
  rw [ewmaKey,ewmaKey,String.append_right_inj]

theorem cntKey_inj : s.cntKey t = s.cntKey t' ↔ t = t' := by
  rw [cntKey,cntKey,String.append_right_inj]

theorem ewmaKey_ne_cntKey : s.ewmaKey t ≠ s.cntKey t' := by
  rw [ewmaKey,cntKey,String.append_assoc,String.append_assoc,Ne,String.append_right_inj]
  intro h
  have hhead := congrArg (fun k : String => k.toList.head?) h
  simp [String.toList_append] at hhead

end Keys

section Readings

variable {K : Type} [Field K] [LinearOrder K] [FloorRing K] {now : ℤ} {s : RedisMetricsStore K}
  {tenantID model : String}

def average (now : ℤ) (tenantID model : String) (s : RedisMetricsStore K) : Option K :=
  Redis.hget s.client now (s.ewmaKey tenantID) model

def counts (now : ℤ) (tenantID model : String) (s : RedisMetricsStore K) : Option ℤ × Option ℤ :=
  (Redis.hgetNum s.client now (s.cntKey tenantID) (model ++ ":req"),
    Redis.hgetNum s.client now (s.cntKey tenantID) (model ++ ":err"))

theorem average_of_none {c : Call K} (h : latencyOf tenantID model c = none) :
    average now tenantID model (s.call now c) = average now tenantID model s := by
  cases c with
  | incRequest t m isError =>
    exact Redis.hget_congr (luaIncRequest_of_ne ewmaKey_ne_cntKey) model
  | updateLatencyEWMA t m latencyMs =>
    simp only [latencyOf,ite_eq_right_iff,reduceCtorEq,imp_false,Prod.mk.injEq,not_and] at h
    by_cases ht : t = tenantID
    · subst ht
      have hm : model ≠ m := fun heq => h rfl heq.symm
      exact (hget_luaEWMA _ _ _ _ _ _ _).trans (if_neg hm)
    · have hkey : s.ewmaKey tenantID ≠ s.ewmaKey t := fun heq => ht (ewmaKey_inj.mp heq).symm
      exact Redis.hget_congr (luaEWMA_of_ne hkey) model

theorem average_of_some {c : Call K} {l : K} (h : latencyOf tenantID model c = some l) :
    average now tenantID model (s.call now c) =
      some (averaged (fixedPoint 6 ewmaAlpha) (average now tenantID model s) (fixedPoint 6 l)) := by
  cases c with
  | incRequest t m isError => cases h
  | updateLatencyEWMA t m latencyMs =>
    simp only [latencyOf,Option.ite_none_right_eq_some,Prod.mk.injEq,Option.some.injEq] at h
    obtain ⟨⟨rfl,rfl⟩,rfl⟩ := h
    exact (hget_luaEWMA _ _ _ _ _ _ _).trans (if_pos rfl)

def tallied (counts : Option ℤ × Option ℤ) (isError : Bool) : Option ℤ × Option ℤ :=
  (some (counts.1.getD 0 + 1),if isError then some (counts.2.getD 0 + 1) else counts.2)

theorem counts_of_none {c : Call K} (h : outcomeOf tenantID model c = none) :
    counts now tenantID model (s.call now c) = counts now tenantID model s := by
  cases c with
  | updateLatencyEWMA t m latencyMs =>
    have hkey : s.cntKey tenantID ≠ s.ewmaKey t := ewmaKey_ne_cntKey.symm
    exact Prod.ext (Redis.hgetNum_congr (luaEWMA_of_ne hkey) _)
      (Redis.hgetNum_congr (luaEWMA_of_ne hkey) _)
  | incRequest t m isError =>
    simp only [outcomeOf,ite_eq_right_iff,reduceCtorEq,imp_false,Prod.mk.injEq,not_and] at h
    by_cases ht : t = tenantID
    · subst ht
      have hm : model ≠ m := fun heq => h rfl heq.symm
      refine Prod.ext ((hgetNum_luaIncRequest _ _ _ _ _ _).trans (if_neg ?_))
        ((hgetNum_luaIncRequest _ _ _ _ _ _).trans (if_neg ?_))
      · rintro (heq | ⟨-,heq⟩)
        · exact hm ((String.append_left_inj _).mp heq)
        · exact req_ne_err _ _ heq
      · rintro (heq | ⟨-,heq⟩)
        · exact req_ne_err _ _ heq.symm
        · exact hm ((String.append_left_inj _).mp heq)
    · have hkey : s.cntKey tenantID ≠ s.cntKey t := fun heq => ht (cntKey_inj.mp heq).symm
      exact Prod.ext (Redis.hgetNum_congr (luaIncRequest_of_ne hkey) _)
        (Redis.hgetNum_congr (luaIncRequest_of_ne hkey) _)

theorem counts_of_some {c : Call K} {isError : Bool} (h : outcomeOf tenantID model c = some isError) :
    counts now tenantID model (s.call now c) = tallied (counts now tenantID model s) isError := by
  cases c with
  | updateLatencyEWMA t m latencyMs => cases h
  | incRequest t m e =>
    simp only [outcomeOf,Option.ite_none_right_eq_some,Prod.mk.injEq,Option.some.injEq] at h
    obtain ⟨⟨rfl,rfl⟩,rfl⟩ := h
    refine Prod.ext ((hgetNum_luaIncRequest _ _ _ _ _ _).trans (if_pos (.inl rfl)))
      ((hgetNum_luaIncRequest _ _ _ _ _ _).trans ?_)
    cases e with
    | false => exact if_neg (by simp [(req_ne_err m m).symm])
    | true => exact if_pos (.inr ⟨rfl,rfl⟩)

theorem run_average (calls : List (Call K)) (s : RedisMetricsStore K) :
    average now tenantID model (calls.foldl (call now) s) =
      (latencies tenantID model calls).foldl
        (fun prev l => some (averaged (fixedPoint 6 ewmaAlpha) prev (fixedPoint 6 l)))
        (average now tenantID model s) :=
  @read_foldl _ _ K _ (fun _ => True) _ (average now tenantID model) _ (latencyOf tenantID model)
    (fun _ _ _ => trivial) (fun _ _ _ hc => average_of_none hc) (fun _ _ _ _ hc => average_of_some hc)
    calls s trivial

theorem run_counts (calls : List (Call K)) (s : RedisMetricsStore K) :
    counts now tenantID model (calls.foldl (call now) s) =
      (outcomes tenantID model calls).foldl tallied (counts now tenantID model s) :=
  @read_foldl _ _ Bool _ (fun _ => True) _ (counts now tenantID model) _ (outcomeOf tenantID model)
    (fun _ _ _ => trivial) (fun _ _ _ hc => counts_of_none hc) (fun _ _ _ _ hc => counts_of_some hc)
    calls s trivial

end Readings

end RedisMetricsStore

section Counts

theorem foldl_tallied (flags : List Bool) :
    ((flags.foldl RedisMetricsStore.tallied (none,none)).1.getD 0,
      (flags.foldl RedisMetricsStore.tallied (none,none)).2.getD 0) =
        ((flags.length : ℤ),(flags.count true : ℤ)) ∧
      (flags ≠ [] → (flags.foldl RedisMetricsStore.tallied (none,none)).1 = some (flags.length : ℤ)) := by
  induction flags using List.reverseRecOn with
  | nil => exact ⟨rfl,fun h => absurd rfl h⟩
  | append_singleton flags e ih =>
    obtain ⟨hcounts,-⟩ := ih
    obtain ⟨hreq,herr⟩ := Prod.mk.injEq .. ▸ hcounts
    rw [List.foldl_append,List.length_append,List.count_append]
    simp only [List.foldl_cons,List.foldl_nil,RedisMetricsStore.tallied]
    rw [hreq]
    cases e with
    | false => exact ⟨by simpa using herr,fun _ => by simp⟩
    | true => exact ⟨by simp [herr],fun _ => by simp⟩

theorem foldl_counted (flags : List Bool) (h : flags.length ≤ 100) :
    (flags.foldl (fun cs e => some (counted cs e)) none).getD {} =
      { req := flags.length,err := flags.count true } := by
  induction flags using List.reverseRecOn with
  | nil => rfl
  | append_singleton flags e ih =>
    rw [List.length_append,List.length_singleton] at h
    have hcs := ih (by omega)
    rw [List.foldl_append,List.foldl_cons,List.foldl_nil,Option.getD_some,List.length_append,
      List.count_append,counted,hcs]
    have hkept : ¬(flags.length : ℤ) + 1 > 100 := by omega
    simp only [hkept,if_false]
    cases e <;> simp

variable (K : Type) [Field K]

theorem errorStats_agree_iff (flags : List Bool) :
    (flags.foldl (fun cs e => some (counted cs e)) none).map InMemoryMetricsStore.errorStats =
        (RedisMetricsStore.errorStats (flags.foldl RedisMetricsStore.tallied (none,none)).1
          (flags.foldl RedisMetricsStore.tallied (none,none)).2 : Option (ErrorStats K)) ↔
      flags.length ≤ 100 := by
  obtain ⟨hcounts,hsome⟩ := foldl_tallied flags
  by_cases hnil : flags = []
  · subst hnil
    exact ⟨fun _ => Nat.zero_le _,fun _ => rfl⟩
  have hpos : 0 < flags.length := List.length_pos_iff.mpr hnil
  have hne : (flags.length : ℤ) ≠ 0 := by omega
  obtain ⟨cs,hcs⟩ : ∃ cs, flags.foldl (fun cs e => some (counted cs e)) none = some cs := by
    obtain ⟨rest,e,rfl⟩ := List.eq_nil_or_concat' flags |>.resolve_left hnil
    exact ⟨_,by rw [List.foldl_append]; rfl⟩
  rw [hsome hnil,hcs,RedisMetricsStore.errorStats]
  simp only [hne,if_false,Option.map_some,Option.some.injEq]
  constructor
  · intro h
    have hreq : cs.req = flags.length := congrArg ErrorStats.requestCount h
    have hvalid : cs.Valid := outcomes_valid flags none (fun _ h => by cases h) cs hcs
    have hle := hvalid.requests_le
    omega
  · intro h
    have heq := foldl_counted flags h
    rw [hcs,Option.getD_some] at heq
    have herr := (Prod.mk.injEq .. ▸ hcounts).2
    rw [heq,InMemoryMetricsStore.errorStats,herr]
    simp only [if_pos (show (flags.length : ℤ) > 0 by omega)]

end Counts

section Agreement

variable {K : Type} [Field K] [LinearOrder K] [FloorRing K]

def redisReached (now : ℤ) (keyPrefix : String) (calls : List (Call K)) : RedisMetricsStore K :=
  calls.foldl (.call now) (.NewRedisMetricsStore keyPrefix)

def Agree (now : ℤ) (s : InMemoryMetricsStore K) (r : RedisMetricsStore K) : Prop :=
  ∀ tenantID models, s.GetLatencyEWMA tenantID models = r.GetLatencyEWMA now tenantID models ∧
    s.GetErrorStats tenantID models = r.GetErrorStats now tenantID models

omit [LinearOrder K] [FloorRing K] in
theorem agree_iff {now : ℤ} {s : InMemoryMetricsStore K} {r : RedisMetricsStore K} :
    Agree now s r ↔ ∀ tenantID model,
      s.ewma tenantID model = r.average now tenantID model ∧
        (s.stats tenantID model).map InMemoryMetricsStore.errorStats =
          (RedisMetricsStore.errorStats (r.counts now tenantID model).1 (r.counts now tenantID model).2 :
            Option (ErrorStats K)) := by
  constructor
  · intro h tenantID model
    obtain ⟨hewma,hstats⟩ := h tenantID [model]
    have hewma := congrFun hewma model
    have hstats := congrFun hstats model
    simp only [InMemoryMetricsStore.GetLatencyEWMA,RedisMetricsStore.GetLatencyEWMA,
      InMemoryMetricsStore.GetErrorStats,RedisMetricsStore.GetErrorStats,List.isEmpty_cons,
      Bool.false_eq_true,if_false,collect_apply,List.mem_singleton,if_true] at hewma hstats
    exact ⟨hewma,hstats⟩
  · intro h tenantID models
    have hewma := funext fun model => (h tenantID model).1
    have hstats := funext fun model => (h tenantID model).2
    rw [InMemoryMetricsStore.GetLatencyEWMA,InMemoryMetricsStore.GetErrorStats,hewma,hstats]
    cases models with
    | nil => exact ⟨rfl,rfl⟩
    | cons model rest => exact ⟨rfl,rfl⟩

theorem reached_agree_iff (now : ℤ) (keyPrefix : String) (calls : List (Call K)) :
    Agree now (reached calls) (redisReached now keyPrefix calls) ↔ ∀ tenantID model,
      (latencies tenantID model calls).foldl (fun prev l => some (averaged ewmaAlpha prev l)) none =
          (latencies tenantID model calls).foldl
            (fun prev l => some (averaged (fixedPoint 6 ewmaAlpha) prev (fixedPoint 6 l))) none ∧
        (outcomes tenantID model calls).length ≤ 100 := by
  rw [agree_iff]
  refine forall_congr' fun tenantID => forall_congr' fun model => and_congr ?_ ?_
  · rw [reached,redisReached,InMemoryMetricsStore.run_ewma,RedisMetricsStore.run_average]
    rfl
  · rw [reached,redisReached,InMemoryMetricsStore.run_stats,RedisMetricsStore.run_counts]
    exact errorStats_agree_iff K _

variable [IsStrictOrderedRing K]

theorem fixedPoint_ewmaAlpha : fixedPoint 6 (ewmaAlpha : K) = ewmaAlpha :=
  (fixedPoint_eq_self_iff 6 ewmaAlpha).mpr ⟨300000,by norm_num [ewmaAlpha]⟩

theorem averaged_inj {prev : Option K} {x y : K} :
    averaged ewmaAlpha prev x = averaged ewmaAlpha prev y ↔ x = y := by
  cases prev with
  | none => exact Iff.rfl
  | some prev =>
    have hne : (ewmaAlpha : K) ≠ 0 := by norm_num [ewmaAlpha]
    exact (add_left_inj _).trans (mul_right_inj' hne)

theorem stores_agree_iff (now : ℤ) (keyPrefix : String) (calls : List (Call K)) :
    (∀ seen, seen <+: calls → Agree now (reached seen) (redisReached now keyPrefix seen)) ↔
      (∀ tenantID model, (outcomes tenantID model calls).length ≤ 100) ∧
        ∀ tenantID model latencyMs, Call.updateLatencyEWMA tenantID model latencyMs ∈ calls →
          ∃ n : ℤ, latencyMs = n / 10 ^ 6 := by
  simp only [reached_agree_iff,fixedPoint_ewmaAlpha]
  constructor
  · intro h
    refine ⟨fun tenantID model => (h calls (List.prefix_refl _) tenantID model).2,
      fun tenantID model latencyMs hmem => ?_⟩
    obtain ⟨seen,rest,rfl⟩ := List.append_of_mem hmem
    have hpick : latencyOf tenantID model (.updateLatencyEWMA tenantID model latencyMs) = some latencyMs :=
      if_pos rfl
    have hbefore := (h seen (List.prefix_append _ _) tenantID model).1
    have hafter := (h (seen ++ [Call.updateLatencyEWMA tenantID model latencyMs])
      ⟨rest,by rw [List.append_assoc,List.singleton_append]⟩ tenantID model).1
    rw [latencies_append hpick,List.foldl_append,List.foldl_append,← hbefore] at hafter
    exact (fixedPoint_eq_self_iff 6 latencyMs).mp (averaged_inj.mp (Option.some.inj hafter)).symm
  · rintro ⟨hrequests,hdecimals⟩ seen hseen tenantID model
    refine ⟨List.foldl_ext _ _ _ fun prev l hl => ?_,?_⟩
    · obtain ⟨c,hc,hpick⟩ := List.mem_filterMap.mp hl
      cases c with
      | incRequest t m e => cases hpick
      | updateLatencyEWMA t m latencyMs =>
        simp only [latencyOf,Option.ite_none_right_eq_some,Prod.mk.injEq,Option.some.injEq] at hpick
        obtain ⟨⟨rfl,rfl⟩,rfl⟩ := hpick
        rw [(fixedPoint_eq_self_iff 6 latencyMs).mpr (hdecimals t m latencyMs (hseen.subset hc))]
    · refine le_trans (List.Sublist.length_le ?_) (hrequests tenantID model)
      exact hseen.sublist.filterMap _

end Agreement

theorem stores_disagree :
    ¬∀ calls : List (Call ℚ), Agree 0 (reached calls) (redisReached 0 "" calls) := by
  intro h
  have hagree := (reached_agree_iff 0 "" _).mp (h (List.replicate 101 (.incRequest "acme" "mini" true)))
  have hpick : outcomeOf (K := ℚ) "acme" "mini" (.incRequest "acme" "mini" true) = some true := by
    rw [outcomeOf,if_pos rfl]
  have hlength := (hagree "acme" "mini").2
  rw [outcomes,List.filterMap_replicate_of_some hpick,List.length_replicate] at hlength
  omega

theorem slowThenQuick_agree : Agree 0 (reached slowThenQuick) (redisReached 0 "" slowThenQuick) := by
  refine (stores_agree_iff 0 "" slowThenQuick).mpr ⟨fun tenantID model => ?_,fun tenantID model l h => ?_⟩
    slowThenQuick (List.prefix_refl _)
  · refine (List.length_filterMap_le _ _).trans ?_
    decide
  · simp only [slowThenQuick,List.mem_cons,Call.updateLatencyEWMA.injEq,reduceCtorEq,List.not_mem_nil,
      or_false] at h
    rcases h with ⟨-,-,rfl⟩ | ⟨-,-,rfl⟩
    · exact ⟨100000000,by norm_num⟩
    · exact ⟨40000000,by norm_num⟩

end PrismGateway.Router.Metrics
