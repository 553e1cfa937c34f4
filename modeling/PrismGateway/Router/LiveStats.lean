import PrismGateway.Router.RoundRobin

namespace PrismGateway.Router.Live

open Config

abbrev Stats := String → Option AggregatedStats

/-- A decision and what the store answers if it asks for statistics, `later` being when it has. -/
structure Moment where
  now : ℤ
  later : ℤ
  fetched : Option Stats
  ordered : now ≤ later

def cachedAt (t : ℤ) (entry : Option (Stats × ℤ)) : Option (Stats × ℤ) := entry.filter (fun e => t < e.2)

/-- The cache of `Router.StatsCache` over the statistics that scores are made of. -/
structure ModelStatsCache where
  cache : String → Option (Stats × ℤ)
  ttl : ℤ

def ModelStatsCache.getStats (c : ModelStatsCache) (tenantID : String) (m : Moment) :
    Option Stats × ModelStatsCache :=
  match cachedAt m.now (c.cache tenantID) with
  | some entry => (some entry.1,c)
  | none =>
    match m.fetched with
    | none => (none,c)
    | some stats =>
      (some stats,{ c with cache := Function.update c.cache tenantID (some (stats,m.later + c.ttl)) })

structure LiveRouter where
  rrIndex : String → ℕ
  latencyEWMA : String → String → Option Float
  errorStats : String → String → Option ErrorStats
  statsCache : Option ModelStatsCache

def readsStats (req : Request) : Bool :=
  match req.pool,req.smartConfig with
  | .ok candidates,some cfg =>
    let stageResult := (req.evaluator cfg).evaluate
    req.forcedModel = "" && !candidates.isEmpty && req.strategy = "smart" && !stageResult.blocked &&
      match smartPool { req with candidates := candidates } stageResult with
      | none => false
      | some pool => pool.isEmpty || 2 ≤ (applyStageResult pool stageResult).length
  | _,_ => false

theorem readsStats_smart {req : Request} (h : readsStats req = true) : req.strategy = "smart" := by
  unfold readsStats at h
  split at h
  · simp only [Bool.and_eq_true,decide_eq_true_eq] at h
    exact h.1.1.2
  · cases h

namespace LiveRouter

variable (l : LiveRouter)

def router (stats : Option Stats) : Router :=
  ⟨l.rrIndex,l.latencyEWMA,l.errorStats,fun _ model => stats.bind (· model)⟩

def getStats (m : Moment) (req : Request) : Option Stats × Option ModelStatsCache :=
  match l.statsCache with
  | none => (none,none)
  | some c =>
    if readsStats req then ((c.getStats req.tenantID m).1,some (c.getStats req.tenantID m).2)
    else (none,some c)

def select (m : Moment) (req : Request) : Except SelectError Result × LiveRouter :=
  let (stats,statsCache) := l.getStats m req
  let (outcome,rt) := (l.router stats).select req
  (outcome,{ l with rrIndex := rt.rrIndex, statsCache := statsCache })

end LiveRouter

def outcomes (l : LiveRouter) : List (Moment × Request) → List (Except SelectError Result)
  | [] => []
  | x :: later => (l.select x.1 x.2).1 :: outcomes (l.select x.1 x.2).2 later

section Alike

structure Alike (t : ℤ) (a b : LiveRouter) : Prop where
  rrIndex : a.rrIndex = b.rrIndex
  latencyEWMA : a.latencyEWMA = b.latencyEWMA
  errorStats : a.errorStats = b.errorStats
  statsCache : Option.Rel (fun c d => c.ttl = d.ttl ∧ ∀ tenantID,
    cachedAt t (c.cache tenantID) = cachedAt t (d.cache tenantID)) a.statsCache b.statsCache

variable {t : ℤ} {a b : LiveRouter} {m : Moment}

theorem cachedAt_cachedAt {u : ℤ} (h : t ≤ u) (entry : Option (Stats × ℤ)) :
    cachedAt u (cachedAt t entry) = cachedAt u entry := by
  cases entry with
  | none => rfl
  | some e =>
    simp only [cachedAt,Option.filter_some]
    split_ifs with ht hu hu
    · simp [Option.filter_some,hu]
    · simp [Option.filter_some,hu]
    · simp only [decide_eq_true_eq] at ht hu
      omega
    · rfl

theorem cachedAt_congr {u : ℤ} (h : t ≤ u) {e e' : Option (Stats × ℤ)} (he : cachedAt t e = cachedAt t e') :
    cachedAt u e = cachedAt u e' := by
  rw [← cachedAt_cachedAt h,he,cachedAt_cachedAt h]

theorem getStats_alike {c d : ModelStatsCache} (httl : c.ttl = d.ttl)
    (hfresh : ∀ tenantID, cachedAt t (c.cache tenantID) = cachedAt t (d.cache tenantID)) (hm : t ≤ m.now)
    (tenantID : String) :
    (c.getStats tenantID m).1 = (d.getStats tenantID m).1 ∧
      (c.getStats tenantID m).2.ttl = (d.getStats tenantID m).2.ttl ∧
      ∀ other, cachedAt t ((c.getStats tenantID m).2.cache other) =
        cachedAt t ((d.getStats tenantID m).2.cache other) := by
  have hnow := cachedAt_congr hm (hfresh tenantID)
  unfold ModelStatsCache.getStats
  rw [hnow]
  cases cachedAt m.now (d.cache tenantID) with
  | some entry => exact ⟨rfl,httl,hfresh⟩
  | none =>
    cases m.fetched with
    | none => exact ⟨rfl,httl,hfresh⟩
    | some stats =>
      refine ⟨rfl,httl,fun other => ?_⟩
      by_cases hother : other = tenantID
      · subst hother
        simp only [Function.update_self,httl]
      · simp only [Function.update_of_ne hother,hfresh]

theorem Alike.getStats (h : Alike t a b) (hm : t ≤ m.now) (req : Request) :
    (a.getStats m req).1 = (b.getStats m req).1 ∧
      Option.Rel (fun c d => c.ttl = d.ttl ∧ ∀ tenantID,
        cachedAt t (c.cache tenantID) = cachedAt t (d.cache tenantID))
        (a.getStats m req).2 (b.getStats m req).2 := by
  have hcache := h.statsCache
  unfold LiveRouter.getStats
  cases ha : a.statsCache with
  | none =>
    cases hb : b.statsCache with
    | none => exact ⟨rfl,.none⟩
    | some d =>
      rw [ha,hb] at hcache
      cases hcache
  | some c =>
    cases hb : b.statsCache with
    | none =>
      rw [ha,hb] at hcache
      cases hcache
    | some d =>
      rw [ha,hb] at hcache
      cases hcache with
      | some hcd =>
        simp only
        split_ifs
        · obtain ⟨hstats,hrest⟩ := getStats_alike hcd.1 hcd.2 hm req.tenantID
          exact ⟨hstats,.some hrest⟩
        · exact ⟨rfl,.some hcd⟩

theorem Alike.select (h : Alike t a b) (hm : t ≤ m.now) (req : Request) :
    (a.select m req).1 = (b.select m req).1 ∧ Alike t (a.select m req).2 (b.select m req).2 := by
  obtain ⟨hstats,hcache⟩ := h.getStats hm req
  have hrouter : a.router (a.getStats m req).1 = b.router (b.getStats m req).1 := by
    unfold LiveRouter.router
    rw [h.rrIndex,h.latencyEWMA,h.errorStats,hstats]
  refine ⟨congrArg (fun rt => (Router.select rt req).1) hrouter,?_⟩
  exact ⟨congrArg (fun rt => (Router.select rt req).2.rrIndex) hrouter,h.latencyEWMA,h.errorStats,hcache⟩

theorem Alike.outcomes (h : Alike t a b) {later : List (Moment × Request)}
    (hlater : ∀ x ∈ later, t ≤ x.1.now) : outcomes a later = outcomes b later := by
  induction later generalizing a b with
  | nil => rfl
  | cons x later ih =>
    obtain ⟨houtcome,hnext⟩ := h.select (hlater x List.mem_cons_self) x.2
    rw [Live.outcomes,Live.outcomes,houtcome,ih hnext (fun y hy => hlater y (List.mem_cons_of_mem _ hy))]

end Alike

section Entry

def entryStep (ttl : ℤ) (entry : Option (Stats × ℤ)) (m : Moment) : Option (Stats × ℤ) :=
  match cachedAt m.now entry,m.fetched with
  | none,some stats => some (stats,m.later + ttl)
  | _,_ => entry

def entryAfter (ttl : ℤ) (entry : Option (Stats × ℤ)) (reads : List Moment) : Option (Stats × ℤ) :=
  reads.foldl (entryStep ttl) entry

def Refills (t ttl : ℤ) (entry : Option (Stats × ℤ)) (m : Moment) : Prop :=
  cachedAt m.now entry = none ∧ m.fetched.isSome ∧ t < m.later + ttl

variable {t ttl : ℤ} {entry : Option (Stats × ℤ)} {m : Moment} {reads : List Moment}

theorem getStats_cache (c : ModelStatsCache) (tenantID : String) (m : Moment) :
    (c.getStats tenantID m).2 =
      { c with cache := Function.update c.cache tenantID (entryStep c.ttl (c.cache tenantID) m) } := by
  unfold ModelStatsCache.getStats entryStep
  cases hcached : cachedAt m.now (c.cache tenantID) with
  | some entry => simp only [Function.update_eq_self]
  | none =>
    cases hfetched : m.fetched with
    | none => simp only [Function.update_eq_self]
    | some stats => rfl

theorem cachedAt_of_later {u : ℤ} (h : t ≤ u) {e : Stats × ℤ} (hentry : cachedAt u entry = some e) :
    cachedAt t entry = some e := by
  obtain ⟨rfl,hfresh⟩ := Option.filter_eq_some_iff.mp hentry
  refine Option.filter_eq_some_iff.mpr ⟨rfl,?_⟩
  simp only [decide_eq_true_eq] at hfresh ⊢
  omega

theorem entryStep_of_fresh {e : Stats × ℤ} (hm : m.later ≤ t) (h : cachedAt t entry = some e) :
    entryStep ttl entry m = entry := by
  have hnow : cachedAt m.now entry = some e := cachedAt_of_later (m.ordered.trans hm) h
  unfold entryStep
  rw [hnow]

theorem entryAfter_of_fresh {e : Stats × ℤ} (hreads : ∀ m ∈ reads, m.later ≤ t)
    (h : cachedAt t entry = some e) : entryAfter ttl entry reads = entry := by
  induction reads with
  | nil => rfl
  | cons m reads ih =>
    rw [entryAfter,List.foldl_cons,entryStep_of_fresh (hreads m List.mem_cons_self) h]
    exact ih fun later hlater => hreads later (List.mem_cons_of_mem m hlater)

theorem cachedAt_entryStep (hm : m.later ≤ t) (h : ¬ Refills t ttl entry m) :
    cachedAt t (entryStep ttl entry m) = cachedAt t entry := by
  unfold entryStep
  cases hcached : cachedAt m.now entry with
  | some e => rfl
  | none =>
    cases hfetched : m.fetched with
    | none => rfl
    | some stats =>
      have hold : cachedAt t entry = none := by
        rw [← cachedAt_cachedAt (m.ordered.trans hm),hcached]
        rfl
      have hshort : ¬ t < m.later + ttl := fun hlong => h ⟨hcached,by rw [hfetched]; rfl,hlong⟩
      rw [hold]
      simp only [cachedAt,Option.filter_some,hshort,decide_false,Bool.false_eq_true,if_false]

theorem cachedAt_entryAfter (hreads : ∀ m ∈ reads, m.later ≤ t)
    (h : ∀ before m after, reads = before ++ m :: after → ¬ Refills t ttl (entryAfter ttl entry before) m) :
    cachedAt t (entryAfter ttl entry reads) = cachedAt t entry := by
  induction reads generalizing entry with
  | nil => rfl
  | cons m reads ih =>
    have hstep : cachedAt t (entryStep ttl entry m) = cachedAt t entry :=
      cachedAt_entryStep (hreads m List.mem_cons_self) (h [] m reads rfl)
    rw [← hstep]
    refine ih (fun later hlater => hreads later (List.mem_cons_of_mem m hlater)) ?_
    intro before later after hsplit
    exact h (m :: before) later after (by rw [hsplit,List.cons_append])

theorem refilled {before after : List Moment} (hreads : ∀ m' ∈ before ++ m :: after, m'.later ≤ t)
    (h : Refills t ttl (entryAfter ttl entry before) m) :
    cachedAt t entry = none ∧ ∃ e, cachedAt t (entryAfter ttl entry (before ++ m :: after)) = some e := by
  have hbefore : ∀ m' ∈ before, m'.later ≤ t := fun m' hm => hreads m' (List.mem_append_left _ hm)
  have hm : m.later ≤ t := hreads m (List.mem_append_right _ List.mem_cons_self)
  have hafter : ∀ m' ∈ after, m'.later ≤ t := fun m' hm' =>
    hreads m' (List.mem_append_right _ (List.mem_cons_of_mem m hm'))
  obtain ⟨hmissing,hfetched,hlasting⟩ := h
  obtain ⟨stats,hstats⟩ := Option.isSome_iff_exists.mp hfetched
  constructor
  · by_contra hfresh
    obtain ⟨e,he⟩ := Option.ne_none_iff_exists'.mp hfresh
    rw [entryAfter_of_fresh hbefore he,cachedAt_of_later (m.ordered.trans hm) he] at hmissing
    cases hmissing
  · have hstored : entryStep ttl (entryAfter ttl entry before) m = some (stats,m.later + ttl) := by
      unfold entryStep
      rw [hmissing,hstats]
    have hlast : cachedAt t (some (stats,m.later + ttl)) = some (stats,m.later + ttl) := by
      simp only [cachedAt,Option.filter_some,hlasting,decide_true,if_true]
    have hrun : entryAfter ttl entry (before ++ m :: after) =
        entryAfter ttl (some (stats,m.later + ttl)) after := by
      rw [entryAfter,List.foldl_append,List.foldl_cons]
      exact congrArg (List.foldl (entryStep ttl) · after) hstored
    rw [hrun,entryAfter_of_fresh hafter hlast]
    exact ⟨_,hlast⟩

end Entry

section Probe

def failing (model : String) : Stats := fun name => some ⟨if name = model then 1 else 0,100,1⟩

def errorsOnly : SmartConfig := { weights := { errors := 1 } }

def pair : List ModelConfig := [{ name := "a", provider := "" },{ name := "b", provider := "" }]

def smartProbe (tenantID : String) : Request where
  tenantID := tenantID
  strategy := "smart"
  candidates := pair
  smartConfig := some errorsOnly

def failingAt (t : ℤ) (model : String) : Moment := ⟨t,t,some (failing model),le_rfl⟩

variable {t : ℤ} {l : LiveRouter} {c : ModelStatsCache} {tenantID : String}

theorem scored_smartProbe (l : LiveRouter) (tenantID model : String) :
    (l.router (some (failing model))).scored (smartProbe tenantID) errorsOnly pair =
      (Router.mk (fun _ => 0) (fun _ _ => none) (fun _ _ => none) (fun _ => failing model)).scored
        (smartProbe "") errorsOnly pair := rfl

theorem rank_failing (l : LiveRouter) (tenantID : String) :
    (l.router (some (failing "a"))).rank (smartProbe tenantID) errorsOnly [] pair = ["b","a"] ∧
      (l.router (some (failing "b"))).rank (smartProbe tenantID) errorsOnly [] pair = ["a","b"] := by
  have hscored : ∀ model ∈ ["a","b"],
      (Router.mk (fun _ => 0) (fun _ _ => none) (fun _ _ => none) (fun _ => failing model)).scored
        (smartProbe "") errorsOnly pair =
          if model = "a" then [⟨"a",0⟩,⟨"b",1⟩] else [⟨"a",1⟩,⟨"b",0⟩] := by
    decide +kernel
  have hless : (0 : Float) < 1 := by decide
  have hnot : ¬ (1 : Float) < 0 := by decide
  constructor
  · rw [rank,scored_smartProbe,hscored "a" (by simp)]
    simp [preferredFirst,Lib.sliceStable,List.mergeSort,hless]
  · rw [rank,scored_smartProbe,hscored "b" (by simp)]
    simp [preferredFirst,Lib.sliceStable,List.mergeSort,hnot]

theorem select_smartProbe (l : LiveRouter) (tenantID : String) : ∃ flags, ∀ stats,
    ((l.router stats).select (smartProbe tenantID)).1 = finish (smartProbe tenantID)
      ((l.router stats).rank (smartProbe tenantID) errorsOnly [] pair,flags) :=
  ⟨_,fun _ => rfl⟩

theorem select_failing_ne (l : LiveRouter) (tenantID : String) :
    ((l.router (some (failing "a"))).select (smartProbe tenantID)).1 ≠
      ((l.router (some (failing "b"))).select (smartProbe tenantID)).1 := by
  obtain ⟨flags,hselect⟩ := select_smartProbe l tenantID
  obtain ⟨ha,hb⟩ := rank_failing l tenantID
  rw [hselect,hselect,ha,hb]
  intro h
  have hselected : some "b" = some "a" :=
    congrArg (fun outcome => outcome.toOption.map (·.selected)) h
  exact absurd hselected (by decide)

theorem select_probe_stats (hcache : l.statsCache = some c) (m : Moment) :
    (l.select m (smartProbe tenantID)).1 =
      ((l.router (c.getStats tenantID m).1).select (smartProbe tenantID)).1 := by
  have hreads : readsStats (smartProbe tenantID) = true := rfl
  have hstats : (l.getStats m (smartProbe tenantID)).1 = (c.getStats tenantID m).1 := by
    simp only [LiveRouter.getStats,hcache,hreads,if_true]
    rfl
  exact congrArg (fun stats => (Router.select (l.router stats) (smartProbe tenantID)).1) hstats

theorem told_apart {l' : LiveRouter} {c' : ModelStatsCache} {e : Stats × ℤ}
    (hcache : l.statsCache = some c) (hcache' : l'.statsCache = some c')
    (hold : cachedAt t (c.cache tenantID) = none) (hfresh : cachedAt t (c'.cache tenantID) = some e) :
    ∃ later, (∀ x ∈ later, t ≤ x.1.now) ∧ outcomes l' later ≠ outcomes l later := by
  by_contra halike
  push Not at halike
  have hprobe (model : String) : ((l.router (some (failing model))).select (smartProbe tenantID)).1 =
      ((l'.router (some e.1)).select (smartProbe tenantID)).1 := by
    have hsame := halike [(failingAt t model,smartProbe tenantID)] (by simp [failingAt])
    have hfirst := List.head_eq_of_cons_eq hsame
    rw [select_probe_stats hcache,select_probe_stats hcache'] at hfirst
    have hstats : (c.getStats tenantID (failingAt t model)).1 = some (failing model) := by
      simp only [ModelStatsCache.getStats,failingAt,hold]
    have hstats' : (c'.getStats tenantID (failingAt t model)).1 = some e.1 := by
      simp only [ModelStatsCache.getStats,failingAt,hfresh]
    rw [hstats,hstats'] at hfirst
    exact hfirst.symm
  exact select_failing_ne l tenantID ((hprobe "a").trans (hprobe "b").symm)

end Probe

end PrismGateway.Router.Live
