import PrismGateway.Api.Handlers
import PrismGateway.Orchestrator.Redaction
import PrismGateway.Storage.SemanticCache

namespace PrismGateway.Orchestrator

open Lib Config Router Providers Storage
open Api (ParsedRequest canonicalToChatCompletionResponse)

structure CacheEnv where
  scope : String
  threshold : ℚ
  ttlSeconds : Int
  embed : String → Option (List Float)
  dist : List Float → List Float → ℚ

def cacheTTLSeconds (ttl : Int) : Int := if 0 < ttl then ttl else 86400

def CacheEnv.semanticScope (c : CacheEnv) : SemanticCacheScope :=
  if c.scope = "route_group" then .routeGroup else .model

namespace Gateway

variable (c : CacheEnv) (g : Gateway) (pr : ParsedRequest)

def query (now : Int) (v : List Float) (model routeGroup : String) : SemanticCacheQuery where
  dist := c.dist
  tenantID := g.tenant.id
  queryVector := v
  scope := c.semanticScope
  model := model
  routeGroup := routeGroup
  threshold := c.threshold
  now := now

def withCache (rows : List SemanticCacheRow) (now : Int) : Gateway :=
  { g with semanticCache := some (fun text model routeGroup =>
      (c.embed text).bind (fun v =>
        ((g.query c now v model routeGroup).findNearestSemanticCache rows).map (fun row =>
          ⟨row.model,some row.response⟩))) }

def anchorRouteGroup : String :=
  (((g.accepted pr).bind (fun r => (g.router.select (g.routed pr r)).1.toOption)).bind
    (fun result => result.smartResult.map (·.anchorRouteGroup))).getD ""

def effectiveCacheRouteGroup : String :=
  if g.anchorRouteGroup pr ≠ "" then g.anchorRouteGroup pr else g.groupUsed pr

/-- What `InsertSemanticCacheEntry` stores of an answer; a vector has at least one dimension. -/
def inserted (served : Served) (wrote : Int) : Option SemanticCacheRow :=
  ((c.embed (rawText pr)).filter (· ≠ [])).map (fun v =>
    { tenantID := g.tenant.id
      model := served.model.name
      routeGroup := g.effectiveCacheRouteGroup pr
      embedding := v
      requestText := rawText pr
      response := canonicalToChatCompletionResponse (g.canonical served)
      expiresAt := wrote + cacheTTLSeconds c.ttlSeconds })

def firstModel : String := ((g.choice pr).getD []).head?.getD ""

def KeysAgree (served : Served) : Prop :=
  0 < c.threshold ∧ c.threshold ≤ 1 ∧
    match c.semanticScope with
    | .routeGroup => g.anchorRouteGroup pr = "" ∨ g.anchorRouteGroup pr = g.groupUsed pr
    | .model => served.model.name = g.firstModel pr

def AnsweredFromCache : Prop := ∃ model response, (g.run pr).ending = .cacheHit model response

section Lookup

variable {c g pr} {rows : List SemanticCacheRow} {now : Int}

theorem preRequest_congr {g g' : Gateway} (hpii : g.allowPIIModel = g'.allowPIIModel)
    (hconfig : g.globalConfig = g'.globalConfig) (hooks : List Hook) (req : ChatRequest)
    (candidates : List String) :
    g.preRequest hooks req candidates = g'.preRequest hooks req candidates := by
  induction hooks generalizing req candidates with
  | nil => rfl
  | cons hook rest ih => simp only [preRequest,ih,hpii,hconfig]

theorem plan_withCache : (g.withCache c rows now).plan pr = g.plan pr := by
  have hafter : (g.withCache c rows now).afterHooks pr = g.afterHooks pr := by
    funext candidates
    unfold afterHooks
    rw [@preRequest_congr (g.withCache c rows now) g rfl rfl]
    rfl
  unfold plan
  rw [hafter]
  rfl

theorem attemptStage_not_cacheHit (virtualAlias : Option String) (routeGroup : String)
    (req : ChatRequest) (candidates : List String) (model : String) (response : ChatBody) :
    (g.attemptStage pr virtualAlias routeGroup req candidates).ending ≠ .cacheHit model response := by
  unfold attemptStage
  dsimp only
  split <;> simp

def found (c : CacheEnv) (g : Gateway) (pr : ParsedRequest) (rows : List SemanticCacheRow) (now : Int) :
    Option SemanticCacheRow :=
  (c.embed (rawText pr)).bind (fun v =>
    (g.query c now v (g.firstModel pr) (g.groupUsed pr)).findNearestSemanticCache rows)

theorem ending_withCache {p : ChatRequest × List String} (h : g.plan pr = some p) :
    ((g.withCache c rows now).run pr).ending =
      match g.found c pr rows now with
      | some row => .cacheHit row.model row.response
      | none => ((g.withCache c rows now).attemptStage pr (g.aliasUsed pr) (g.groupUsed pr) p.1
          p.2).ending := by
  have hfirst : g.firstModel pr = p.2.head?.getD "" := by simp [firstModel,choice,h]
  rcases ending_run (g.withCache c rows now) pr with ⟨p',hp',hending⟩ | ⟨hnone,-⟩
  · have hp : p' = p := by
      rw [plan_withCache,h] at hp'
      exact (Option.some.inj hp').symm
    subst hp
    have hgroup : (g.withCache c rows now).groupUsed pr = g.groupUsed pr := rfl
    have halias : (g.withCache c rows now).aliasUsed pr = g.aliasUsed pr := rfl
    rw [hending,hgroup,halias]
    unfold found
    rw [hfirst]
    cases he : c.embed (rawText pr) with
    | none =>
      have hlookup : c.embed (" ".intercalate pr.messageTexts) = none := he
      simp [cacheStage,withCache,hlookup]
    | some v =>
      have hlookup : c.embed (" ".intercalate pr.messageTexts) = some v := he
      simp only [Option.bind_some]
      cases hf : (g.query c now v (p'.2.head?.getD "") (g.groupUsed pr)).findNearestSemanticCache
          rows with
      | none => simp [cacheStage,withCache,hlookup,hf]
      | some row => simp [cacheStage,withCache,hlookup,hf]
  · rw [plan_withCache,h] at hnone
    cases hnone

theorem answeredFromCache_iff {p : ChatRequest × List String} (h : g.plan pr = some p) :
    (g.withCache c rows now).AnsweredFromCache pr ↔ (g.found c pr rows now).isSome = true := by
  unfold AnsweredFromCache
  rw [ending_withCache h]
  cases g.found c pr rows now with
  | none =>
    refine ⟨?_,nofun⟩
    rintro ⟨model,response,hhit⟩
    exact absurd hhit (attemptStage_not_cacheHit _ _ _ _ _ _)
  | some row => exact ⟨fun _ => rfl,fun _ => ⟨_,_,rfl⟩⟩

theorem plan_of_answered {served : Served}
    (h : ((g.withCache c rows now).run pr).ending = .answered served) :
    ∃ p, g.plan pr = some p ∧ g.found c pr rows now = none := by
  rcases ending_run (g.withCache c rows now) pr with ⟨p,hp,-⟩ | ⟨-,hnot⟩
  · rw [plan_withCache] at hp
    refine ⟨p,hp,?_⟩
    rw [ending_withCache hp] at h
    cases hf : g.found c pr rows now with
    | none => rfl
    | some row =>
      rw [hf] at h
      cases h
  · rw [h] at hnot
    exact absurd trivial hnot

theorem found_isSome_iff :
    (g.found c pr rows now).isSome = true ↔
      ∃ v, c.embed (rawText pr) = some v ∧ v ≠ [] ∧ 0 < c.threshold ∧
        ∃ row ∈ rows, (g.query c now v (g.firstModel pr) (g.groupUsed pr)).accepts row = true := by
  unfold found
  cases c.embed (rawText pr) with
  | none => simp
  | some v =>
    simp only [Option.bind_some,Option.some.injEq,exists_eq_left']
    exact SemanticCacheQuery.find_isSome_iff

theorem accepts_later {wrote : Int} (h : now ≤ wrote) {v : List Float} {model routeGroup : String}
    {row : SemanticCacheRow} (hrow : (g.query c wrote v model routeGroup).accepts row = true) :
    (g.query c now v model routeGroup).accepts row = true := by
  unfold SemanticCacheQuery.accepts at hrow ⊢
  rw [Bool.and_eq_true,Bool.and_eq_true,Bool.and_eq_true] at hrow ⊢
  obtain ⟨⟨⟨htenant,hscope⟩,hexpires⟩,hdist⟩ := hrow
  have hearlier : now < row.expiresAt := lt_of_le_of_lt h (of_decide_eq_true hexpires)
  exact ⟨⟨⟨htenant,hscope⟩,decide_eq_true hearlier⟩,hdist⟩

theorem inserted_eq {served : Served} {wrote : Int} {row : SemanticCacheRow}
    (h : g.inserted c pr served wrote = some row) :
    c.embed (rawText pr) = some row.embedding ∧ row.embedding ≠ [] ∧ row.tenantID = g.tenant.id ∧
      row.model = served.model.name ∧ row.routeGroup = g.effectiveCacheRouteGroup pr ∧
      row.expiresAt = wrote + cacheTTLSeconds c.ttlSeconds := by
  obtain ⟨v,hv,rfl⟩ := Option.map_eq_some_iff.mp h
  obtain ⟨hembed,hne⟩ := Option.filter_eq_some_iff.mp hv
  exact ⟨hembed,by simpa using hne,rfl,rfl,rfl,rfl⟩

theorem effective_eq_groupUsed_iff :
    g.effectiveCacheRouteGroup pr = g.groupUsed pr ↔
      g.anchorRouteGroup pr = "" ∨ g.anchorRouteGroup pr = g.groupUsed pr := by
  unfold effectiveCacheRouteGroup
  split_ifs with h
  · simp [h]
  · simp [not_not.mp h]

theorem accepts_inserted_iff {served : Served} {wrote later : Int} {row : SemanticCacheRow}
    (h : g.inserted c pr served wrote = some row) (hself : c.dist row.embedding row.embedding = 0)
    (hlater : later < row.expiresAt) :
    0 < c.threshold ∧ (g.query c later row.embedding (g.firstModel pr) (g.groupUsed pr)).accepts row =
      true ↔ g.KeysAgree c pr served := by
  obtain ⟨-,-,htenant,hmodel,hgroup,-⟩ := inserted_eq h
  unfold KeysAgree SemanticCacheQuery.accepts SemanticCacheQuery.inScope query
  simp only [htenant,hself,hlater,Bool.and_eq_true,decide_eq_true_eq,true_and,and_true,sub_nonneg]
  cases c.semanticScope with
  | model =>
    simp only [hmodel,decide_eq_true_eq]
    tauto
  | routeGroup =>
    simp only [hgroup,decide_eq_true_eq,effective_eq_groupUsed_iff]
    tauto

theorem cacheTTLSeconds_pos (ttl : Int) : 0 < cacheTTLSeconds ttl := by
  unfold cacheTTLSeconds
  split_ifs with h
  · exact h
  · decide

theorem keysAgree_of_cached {wrote : Int} {served : Served} {row : SemanticCacheRow}
    (hanswered : ((g.withCache c rows now).run pr).ending = .answered served)
    (hinserted : g.inserted c pr served wrote = some row) (hnow : now ≤ wrote)
    (hself : c.dist row.embedding row.embedding = 0)
    (hhit : (g.withCache c (row :: rows) wrote).AnsweredFromCache pr) : g.KeysAgree c pr served := by
  obtain ⟨p,hp,hmiss⟩ := plan_of_answered hanswered
  obtain ⟨hembed,hne,-,-,-,hexpires⟩ := inserted_eq hinserted
  have hfresh : wrote < row.expiresAt := by
    have := cacheTTLSeconds_pos c.ttlSeconds
    omega
  rw [answeredFromCache_iff hp,found_isSome_iff] at hhit
  obtain ⟨v,hv,-,hthreshold,r,hr,haccepts⟩ := hhit
  rw [hembed] at hv
  obtain rfl := Option.some.inj hv
  rcases List.mem_cons.mp hr with rfl | hold
  · exact (accepts_inserted_iff hinserted hself hfresh).mp ⟨hthreshold,haccepts⟩
  · have hfound : (g.found c pr rows now).isSome = true :=
      found_isSome_iff.mpr ⟨_,hembed,hne,hthreshold,r,hold,accepts_later hnow haccepts⟩
    rw [hmiss] at hfound
    cases hfound

theorem cached_of_keysAgree {wrote later : Int} {served : Served} {row : SemanticCacheRow}
    {rows' : List SemanticCacheRow} (hplan : (g.plan pr).isSome = true)
    (hinserted : g.inserted c pr served wrote = some row)
    (hself : c.dist row.embedding row.embedding = 0) (hkeys : g.KeysAgree c pr served)
    (hmem : row ∈ rows') (hlater : later < row.expiresAt) :
    (g.withCache c rows' later).AnsweredFromCache pr := by
  obtain ⟨p,hp⟩ := Option.isSome_iff_exists.mp hplan
  obtain ⟨hembed,hne,-⟩ := inserted_eq hinserted
  obtain ⟨hthreshold,haccepts⟩ := (accepts_inserted_iff hinserted hself hlater).mpr hkeys
  rw [answeredFromCache_iff hp,found_isSome_iff]
  exact ⟨row.embedding,hembed,hne,hthreshold,row,hmem,haccepts⟩

end Lookup

theorem cache_effective_iff {c : CacheEnv} {g : Gateway} {pr : ParsedRequest}
    {rows : List SemanticCacheRow} {now wrote : Int} {served : Served} {row : SemanticCacheRow}
    (hanswered : ((g.withCache c rows now).run pr).ending = .answered served)
    (hinserted : g.inserted c pr served wrote = some row) (hnow : now ≤ wrote)
    (hself : c.dist row.embedding row.embedding = 0) :
    (∀ rows' later, row ∈ rows' → wrote ≤ later → later < row.expiresAt →
      (g.withCache c rows' later).AnsweredFromCache pr) ↔ g.KeysAgree c pr served := by
  constructor
  · intro hall
    have hfresh : wrote < row.expiresAt := by
      have := cacheTTLSeconds_pos c.ttlSeconds
      obtain ⟨-,-,-,-,-,hexpires⟩ := inserted_eq hinserted
      omega
    exact keysAgree_of_cached hanswered hinserted hnow hself
      (hall (row :: rows) wrote List.mem_cons_self le_rfl hfresh)
  · intro hkeys rows' later hmem _ hlater
    obtain ⟨p,hp,-⟩ := plan_of_answered hanswered
    exact cached_of_keysAgree (by rw [hp]; rfl) hinserted hself hkeys hmem hlater

end Gateway

def served? (t : Trace) : Option Served :=
  match t.ending with
  | .answered served => some served
  | _ => none

theorem ending_of_served? {t : Trace} {served : Served} (h : served? t = some served) :
    t.ending = .answered served := by
  unfold served? at h
  split at h
  · next heq =>
    cases h
    exact heq
  · cases h

def byModel : CacheEnv where
  scope := "model"
  threshold := 9 / 10
  ttlSeconds := 60
  embed := fun _ => some [1]
  dist := fun v w => if v = w then 0 else 1

def fallingBack : Gateway :=
  { plainGateway with
    tenant := { ignoresGroup with routing :=
      { strategy := "round_robin", fallback := { enabled := true } } }
    outcomes := ⟨fun _ => .admitted false,fun i =>
      if i = 0 then some { deadlineExceeded := true, message := "context deadline exceeded" }
      else none⟩ }

theorem exists_served {t : Trace} {name : String}
    (h : (served? t).map (·.model.name) = some name) :
    ∃ served, t.ending = .answered served ∧ served.model.name = name := by
  obtain ⟨served,hserved,hname⟩ := Option.map_eq_some_iff.mp h
  exact ⟨served,ending_of_served? hserved,hname⟩

theorem inserted_byModel (g : Gateway) (pr : ParsedRequest) (served : Served) (wrote : Int) :
    ∃ row, g.inserted byModel pr served wrote = some row ∧
      byModel.dist row.embedding row.embedding = 0 := by
  simp [Gateway.inserted,byModel]

theorem keysAgree_byModel {g : Gateway} {pr : ParsedRequest} {served : Served} :
    g.KeysAgree byModel pr served ↔ served.model.name = g.firstModel pr := by
  have hscope : byModel.semanticScope = .model := by decide
  have hpos : (0 : ℚ) < byModel.threshold := by norm_num [byModel]
  have hone : byModel.threshold ≤ 1 := by norm_num [byModel]
  simp [Gateway.KeysAgree,hscope,hpos,hone]

theorem first_answer_cached :
    ∃ served row, ((plainGateway.withCache byModel [] 0).run (asking "hello")).ending =
        .answered served ∧
      plainGateway.inserted byModel (asking "hello") served 0 = some row ∧
      ∀ rows' later, row ∈ rows' → 0 ≤ later → later < row.expiresAt →
        (plainGateway.withCache byModel rows' later).AnsweredFromCache (asking "hello") := by
  have hserved : (served? ((plainGateway.withCache byModel [] 0).run (asking "hello"))).map
      (·.model.name) = some "opus" := by decide +kernel
  obtain ⟨served,hanswered,hname⟩ := exists_served hserved
  obtain ⟨row,hrow,hself⟩ := inserted_byModel plainGateway (asking "hello") served 0
  have hfirst : plainGateway.firstModel (asking "hello") = "opus" := by decide
  refine ⟨served,row,hanswered,hrow,(Gateway.cache_effective_iff hanswered hrow le_rfl hself).mpr ?_⟩
  rw [keysAgree_byModel,hname,hfirst]

theorem fallback_answer_not_cached :
    ∃ served row, ((fallingBack.withCache byModel [] 0).run (asking "hello")).ending =
        .answered served ∧
      fallingBack.inserted byModel (asking "hello") served 0 = some row ∧
      byModel.dist row.embedding row.embedding = 0 ∧
      ¬ (fallingBack.withCache byModel [row] 0).AnsweredFromCache (asking "hello") := by
  have hserved : (served? ((fallingBack.withCache byModel [] 0).run (asking "hello"))).map
      (·.model.name) = some "mini" := by decide +kernel
  obtain ⟨served,hanswered,hname⟩ := exists_served hserved
  obtain ⟨row,hrow,hself⟩ := inserted_byModel fallingBack (asking "hello") served 0
  have hfirst : fallingBack.firstModel (asking "hello") = "opus" := by decide
  refine ⟨served,row,hanswered,hrow,hself,?_⟩
  intro hhit
  have hkeys := Gateway.keysAgree_of_cached hanswered hrow le_rfl hself hhit
  rw [keysAgree_byModel,hname,hfirst] at hkeys
  revert hkeys
  decide

end PrismGateway.Orchestrator
