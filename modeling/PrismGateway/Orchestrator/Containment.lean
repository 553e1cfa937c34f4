import PrismGateway.Orchestrator.Budget

namespace PrismGateway.Orchestrator

open Lib Config Router
open Api (ParsedRequest)

structure CacheSettings where
  enabled : Bool
  embeddingModel : String := ""
  -- `routing.semantic.embedding_model`
  routingEmbeddingModel : String := ""
  embeddingProviderFor : String → Bool
  find : String → String → String → Option CacheEntry

namespace CacheSettings

variable (c : CacheSettings) (gc : GlobalConfig)

def resolveTextEmbeddingModel : Option ModelConfig :=
  if c.routingEmbeddingModel = "" then none
  else (gc.modelByName c.routingEmbeddingModel).filter (·.type = "embedding")

def makeCacheEmbedFn : Option ModelConfig :=
  (if c.embeddingModel ≠ "" then gc.modelByName c.embeddingModel
    else c.resolveTextEmbeddingModel gc).filter (fun m => c.embeddingProviderFor m.provider)

def embedder : Option ModelConfig := if c.enabled then c.makeCacheEmbedFn gc else none

end CacheSettings

def Carries (pr : ParsedRequest) (input : String) : Prop :=
  ∃ t ∈ pr.messageTexts, t ≠ "" ∧ t.toList <:+: input.toList

def laterThan : ℕ → List Event → List Event
  | _, [] => []
  | 0, .hook _ _ :: events => events
  | n + 1, .hook _ _ :: events => laterThan n events
  | n, _ :: events => laterThan n events

def Ending.Refused : Ending → Prop
  | .failed _ _ kind => kind = "content_policy_violation" ∨ kind = "budget_exceeded"
  | _ => False

namespace Gateway

def caching (c : CacheSettings) (g : Gateway) : Gateway :=
  { g with semanticCache := (c.embedder g.globalConfig).map (fun _ => c.find) }

/-- The hook after `passed` answers AllowPII, and the target model is configured. -/
structure Rerouted (g : Gateway) (pr : ParsedRequest) (passed : List Hook) (target : String) :
    Prop where
  configured : g.allowPIIModel = some target
  known : (g.globalConfig.modelByName target).isSome = true
  answered : ∃ candidates hook rest req candidates' result,
    g.selected pr = some candidates ∧ g.hooks = passed ++ hook :: rest ∧
    (g.preRequest passed (provReq pr) candidates).2 = .ok (req,candidates') ∧
    hook.preRequest req = .ok result ∧ result.decision = .allowPII

def Contained (c : CacheSettings) (g : Gateway) (pr : ParsedRequest) (target : String) : Event → Prop
  | .toolRoutes _ => False
  | .select _ => False
  | .hook _ _ => True
  | .cacheLookup input =>
    Carries pr input → ∀ m, c.embedder g.globalConfig = some m → m.name = target
  | .call (.send n _) => n = target
  | .call _ => True

section Hooks

variable {g : Gateway} {pr : ParsedRequest}

theorem laterThan_preliminary {before : List Event} (h : before.all Event.preliminary = true)
    (n : ℕ) (events : List Event) : laterThan n (before ++ events) = laterThan n events := by
  induction before with
  | nil => rfl
  | cons ev before ih =>
    simp only [List.all_cons,Bool.and_eq_true] at h
    have htail := ih h.2
    cases ev with
    | toolRoutes texts => cases n <;> exact htail
    | select req => cases n <;> exact htail
    | _ => exact absurd h.1 (by simp [Event.preliminary])

theorem laterThan_hooks {hooks : List Event} (h : ∀ ev ∈ hooks, ∃ name req, ev = .hook name req)
    (name : String) (req : ChatRequest) (events : List Event) :
    laterThan hooks.length (hooks ++ .hook name req :: events) = events := by
  induction hooks with
  | nil => rfl
  | cons ev hooks ih =>
    obtain ⟨name',req',rfl⟩ := h ev List.mem_cons_self
    exact ih (fun ev hev => h ev (List.mem_cons_of_mem _ hev))

theorem preRequest_append {passed : List Hook} (rest : List Hook) {req req' : ChatRequest}
    {candidates candidates' : List String}
    (h : (g.preRequest passed req candidates).2 = .ok (req',candidates')) :
    g.preRequest (passed ++ rest) req candidates =
      ((g.preRequest passed req candidates).1 ++ (g.preRequest rest req' candidates').1,
        (g.preRequest rest req' candidates').2) ∧
    (g.preRequest passed req candidates).1.length = passed.length := by
  induction passed generalizing req candidates with
  | nil =>
    cases h
    exact ⟨rfl,rfl⟩
  | cons hook passed ih =>
    rw [List.cons_append,preRequest_cons,preRequest_cons]
    rw [preRequest_cons] at h
    cases hs : g.hookStep hook req candidates with
    | error ending =>
      rw [hs] at h
      cases h
    | ok p =>
      rw [hs] at h
      obtain ⟨hrun,hlength⟩ := ih h
      simp only [hrun,List.cons_append,List.length_cons,hlength,and_self]

theorem hookStep_allowPII {target : String} {hook : Hook} {req : ChatRequest}
    {candidates : List String} {result : PreResult} (hconfigured : g.allowPIIModel = some target)
    (hknown : (g.globalConfig.modelByName target).isSome = true)
    (hr : hook.preRequest req = .ok result) (hd : result.decision = .allowPII) :
    g.hookStep hook req candidates = .ok (req,[target]) := by
  have hnone : ¬ (g.globalConfig.modelByName target).isNone = true := by
    rw [Option.isNone_iff_eq_none]
    exact Option.isSome_iff_ne_none.mp hknown
  unfold hookStep
  simp only [preRequest,hr,hd,hconfigured,hnone,if_false,Bool.false_eq_true]

theorem hookStep_keeps_target {target : String} {hook : Hook} {req : ChatRequest}
    {p : ChatRequest × List String} (hconfigured : g.allowPIIModel = some target)
    (h : g.hookStep hook req [target] = .ok p) : p.2 = [target] := by
  unfold hookStep at h
  cases hr : hook.preRequest req with
  | error err =>
    simp only [preRequest,hr] at h
    cases h
  | ok result =>
    cases hd : result.decision with
    | block =>
      simp only [preRequest,hr,hd] at h
      cases h
    | allowPII =>
      simp only [preRequest,hr,hd,hconfigured] at h
      split_ifs at h
      cases h
      rfl
    | _ =>
      simp only [preRequest,hr,hd] at h
      cases h
      rfl

theorem preRequest_keeps_target {target : String} (hconfigured : g.allowPIIModel = some target)
    {hooks : List Hook} {req : ChatRequest} {p : ChatRequest × List String}
    (h : (g.preRequest hooks req [target]).2 = .ok p) : p.2 = [target] := by
  induction hooks generalizing req with
  | nil =>
    cases h
    rfl
  | cons hook rest ih =>
    rw [preRequest_cons] at h
    cases hs : g.hookStep hook req [target] with
    | error ending =>
      rw [hs] at h
      cases h
    | ok q =>
      rw [hs] at h
      obtain ⟨req',candidates⟩ := q
      have htarget : candidates = [target] := hookStep_keeps_target hconfigured hs
      subst htarget
      exact ih h

theorem degraded_singleton (group target : String) : g.degraded group [target] = [target] := by
  rw [degraded_eq]
  cases h : (g.groupModels group).contains target with
  | true => simp only [List.filter_cons,h,if_true,List.filter_nil,ite_self]
  | false => simp only [List.filter_cons,h,Bool.false_eq_true,if_false,List.filter_nil,if_true]

def HooksOnly (events : List Event) : Prop := ∀ ev ∈ events, ∃ name req, ev = .hook name req

theorem Rerouted.hooks_run {passed : List Hook} {target : String} (h : Rerouted g pr passed target) :
    ∃ candidates earlier name sent rest req, g.selected pr = some candidates ∧
      HooksOnly earlier ∧ earlier.length = passed.length ∧
      g.preRequest g.hooks (provReq pr) candidates =
        (earlier ++ .hook name sent :: (g.preRequest rest req [target]).1,
          (g.preRequest rest req [target]).2) := by
  obtain ⟨candidates,hook,rest,req,candidates',result,hselected,hhooks,hpassed,hr,hd⟩ := h.answered
  obtain ⟨happend,hlength⟩ := preRequest_append (hook :: rest) hpassed
  refine ⟨candidates,_,hook.name,req,rest,req,hselected,
    preRequest_events passed (provReq pr) candidates,hlength,?_⟩
  rw [hhooks,happend,preRequest_cons,hookStep_allowPII h.configured h.known hr hd]

theorem Rerouted.later {passed : List Hook} {target : String} (h : Rerouted g pr passed target) :
    (g.plan pr = none ∧ HooksOnly (laterThan passed.length (g.run pr).events)) ∨
    ∃ req hooks, g.plan pr = some (req,[target]) ∧ HooksOnly hooks ∧
      laterThan passed.length (g.run pr).events =
        hooks ++ (g.cacheStage pr (g.aliasUsed pr) (g.groupUsed pr) req [target]).events ∧
      (g.run pr).ending =
        (g.cacheStage pr (g.aliasUsed pr) (g.groupUsed pr) req [target]).ending := by
  obtain ⟨candidates,earlier,name,sent,rest,req,hselected,hearlier,hlength,hhooks⟩ := h.hooks_run
  obtain ⟨before,hbefore,hrun⟩ := run_of_selected hselected
  have hrest : HooksOnly (g.preRequest rest req [target]).1 := preRequest_events rest req [target]
  have hlater : ∀ events, laterThan passed.length
      (before ++ ((earlier ++ .hook name sent :: (g.preRequest rest req [target]).1) ++ events)) =
        (g.preRequest rest req [target]).1 ++ events := by
    intro events
    rw [laterThan_preliminary hbefore,List.append_assoc,List.cons_append,← hlength,
      laterThan_hooks hearlier]
  have hplan : g.plan pr = g.afterHooks pr candidates := by simp [plan,hselected]
  cases hh : (g.preRequest rest req [target]).2 with
  | error ending =>
    refine .inl ⟨?_,?_⟩
    · rw [hplan]
      simp only [afterHooks,hhooks,hh]
    · have hnone := hlater []
      simp only [List.append_nil] at hnone
      rw [hrun]
      simp only [hookStage,hhooks,hh]
      rw [hnone]
      exact hrest
  | ok p =>
    obtain ⟨req',candidates'⟩ := p
    have htarget : candidates' = [target] := preRequest_keeps_target h.configured hh
    subst htarget
    have hok : (g.preRequest g.hooks (provReq pr) candidates).2 = .ok (req',[target]) := by
      rw [hhooks,hh]
    rw [hookStage_hooked hok,hhooks] at hrun
    cases hb : g.budget pr.metadata with
    | blocked status message =>
      refine .inl ⟨?_,?_⟩
      · rw [hplan]
        simp only [afterHooks,hhooks,hh,hb]
      · rw [hrun]
        simp only [budgetStage,hb]
        rw [hlater]
        simpa using hrest
    | proceed =>
      refine .inr ⟨req',_,?_,hrest,?_,?_⟩
      · rw [hplan]
        simp only [afterHooks,hhooks,hh,hb]
      · rw [hrun]
        simp only [budgetStage,hb]
        rw [hlater]
      · rw [hrun]
        simp only [budgetStage,hb]
    | degrade group =>
      refine .inr ⟨req',_,?_,hrest,?_,?_⟩
      · rw [hplan]
        simp only [afterHooks,hhooks,hh,hb,degraded_singleton,ite_self]
      · rw [hrun]
        simp only [budgetStage,hb,degraded_singleton,ite_self]
        rw [hlater]
      · rw [hrun]
        simp only [budgetStage,hb,degraded_singleton,ite_self]

theorem event_of_cacheStage {virtualAlias : Option String} {routeGroup : String} {req : ChatRequest}
    {candidates : List String} {ev : Event}
    (h : ev ∈ (g.cacheStage pr virtualAlias routeGroup req candidates).events) :
    ev = .cacheLookup (rawText pr) ∧ g.semanticCache.isSome = true ∨
      ∃ a, ev = .call a ∧ a ∈ ((g.env pr req).run g.outcomes candidates).1 := by
  have hattempt : ∀ ev ∈ (g.attemptStage pr virtualAlias routeGroup req candidates).events,
      ∃ a, ev = .call a ∧ a ∈ ((g.env pr req).run g.outcomes candidates).1 := by
    intro ev hev
    unfold attemptStage at hev
    dsimp only at hev
    split at hev <;> exact (List.mem_map.mp hev).imp (fun a ha => ⟨ha.2.symm,ha.1⟩)
  unfold cacheStage at h
  cases hc : g.semanticCache with
  | none =>
    rw [hc] at h
    exact .inr (hattempt ev h)
  | some find =>
    simp only [hc] at h
    split at h
    · rcases List.mem_cons.mp h with rfl | htail
      · exact .inl ⟨rfl,rfl⟩
      · exact .inr (hattempt ev htail)
    · split at h
      · exact .inl ⟨List.mem_singleton.mp h,rfl⟩
      · exact .inl ⟨List.mem_singleton.mp h,rfl⟩

theorem lookup_mem_cacheStage (hcache : g.semanticCache.isSome = true) (virtualAlias : Option String)
    (routeGroup : String) (req : ChatRequest) (candidates : List String) :
    .cacheLookup (rawText pr) ∈ (g.cacheStage pr virtualAlias routeGroup req candidates).events := by
  obtain ⟨find,hc⟩ := Option.isSome_iff_exists.mp hcache
  unfold cacheStage
  simp only [hc]
  split
  · exact List.mem_cons_self
  · split <;> exact List.mem_singleton.mpr rfl

theorem cacheStage_not_refused (virtualAlias : Option String) (routeGroup : String)
    (req : ChatRequest) (candidates : List String) :
    ¬ (g.cacheStage pr virtualAlias routeGroup req candidates).ending.Refused := by
  have hattempt : ¬ (g.attemptStage pr virtualAlias routeGroup req candidates).ending.Refused := by
    unfold attemptStage
    dsimp only
    split <;> exact id
  unfold cacheStage
  cases g.semanticCache with
  | none => exact hattempt
  | some find =>
    dsimp only
    split
    · exact hattempt
    · split
      · exact id
      · simp [Ending.Refused]

theorem contained_of_hook {c : CacheSettings} {target : String} {events : List Event}
    (h : HooksOnly events) : ∀ ev ∈ events, Contained c g pr target ev := by
  intro ev hev
  obtain ⟨name,req,rfl⟩ := h ev hev
  trivial

theorem sends_target {target n : String} {req sent : ChatRequest}
    (h : .send n sent ∈ ((g.env pr req).run g.outcomes [target]).1) : n = target := by
  obtain ⟨i,m,hi,-,-,-⟩ := Env.send_of_attempts _ _ _ h
  simpa using List.mem_of_mem_take (List.mem_of_getElem? hi)

end Hooks

theorem isInfix_intercalate {t : String} {texts : List String} (h : t ∈ texts) :
    t.toList <:+: (" ".intercalate texts).toList := by
  induction texts with
  | nil => cases h
  | cons text texts ih =>
    cases texts with
    | nil =>
      obtain rfl := List.mem_singleton.mp h
      simp
    | cons next rest =>
      rw [String.intercalate_cons_cons,String.toList_append,String.toList_append]
      rcases List.mem_cons.mp h with rfl | htail
      · rw [List.append_assoc]
        exact (List.prefix_append _ _).isInfix
      · exact (ih htail).trans (List.suffix_append _ _).isInfix

theorem carries_rawText {pr : ParsedRequest} :
    Carries pr (rawText pr) ↔ ∃ t ∈ pr.messageTexts, t ≠ "" :=
  ⟨fun ⟨t,ht,hne,_⟩ => ⟨t,ht,hne⟩,fun ⟨t,ht,hne⟩ => ⟨t,ht,hne,isInfix_intercalate ht⟩⟩

theorem allow_pii_contained_iff {c : CacheSettings} {g : Gateway} {pr : ParsedRequest}
    {passed : List Hook} {target : String} (h : Rerouted (g.caching c) pr passed target) :
    (((g.caching c).run pr).ending.Refused ∨
      ∀ ev ∈ laterThan passed.length ((g.caching c).run pr).events, Contained c g pr target ev) ↔
    ((g.caching c).plan pr = none ∨
      ∀ m, c.embedder g.globalConfig = some m →
        m.name = target ∨ ∀ t ∈ pr.messageTexts, t = "") := by
  have hsemantic : (g.caching c).semanticCache =
      (c.embedder g.globalConfig).map (fun _ => c.find) := rfl
  rcases h.later with ⟨hplan,hhooks⟩ | ⟨req,hooks,hplan,hhooks,hlater,hending⟩
  · exact ⟨fun _ => .inl hplan,fun _ => .inr (contained_of_hook hhooks)⟩
  · constructor
    · rintro (hrefused | hcontained)
      · rw [hending] at hrefused
        exact absurd hrefused (cacheStage_not_refused _ _ _ _)
      · refine .inr ?_
        intro m hm
        have hcache : (g.caching c).semanticCache.isSome = true := by rw [hsemantic,hm]; rfl
        have hlookup := hcontained (.cacheLookup (rawText pr)) (by
          rw [hlater]
          exact List.mem_append_right _ (lookup_mem_cacheStage hcache _ _ _ _))
        by_cases htext : ∃ t ∈ pr.messageTexts, t ≠ ""
        · exact .inl (hlookup (carries_rawText.mpr htext) m hm)
        · refine .inr ?_
          intro t ht
          by_contra hne
          exact htext ⟨t,ht,hne⟩
    · rintro (hnone | hsafe)
      · rw [hplan] at hnone
        cases hnone
      · refine .inr ?_
        intro ev hev
        rw [hlater] at hev
        rcases List.mem_append.mp hev with hhook | hstage
        · exact contained_of_hook hhooks ev hhook
        · rcases event_of_cacheStage hstage with ⟨rfl,-⟩ | ⟨a,rfl,ha⟩
          · intro hcarries m hm
            obtain ⟨t,ht,hne⟩ := carries_rawText.mp hcarries
            exact (hsafe m hm).resolve_right (fun hall => hne (hall t ht))
          · cases a with
            | send n sent => exact sends_target ha
            | _ => trivial

end Gateway

def rerouter : Hook where
  name := "external_pii"
  preRequest := fun req => .ok { decision := .allowPII, messages := req.messages }
  postResponse := fun _ _ => .ok none

def rerouting : Gateway :=
  { plainGateway with
    globalConfig :=
      ⟨twoModels.models ++ [{ name := "ada", provider := "openai", type := "embedding" }],none⟩
    hooks := [rerouter]
    allowPIIModel := some "mini" }

def embeddingWith (model : String) : CacheSettings where
  enabled := true
  embeddingModel := model
  embeddingProviderFor := fun _ => true
  find := fun _ _ _ => none

theorem rerouted (c : CacheSettings) (text : String)
    (h : (rerouting.caching c).selected (asking text) = some ["opus","mini"]) :
    Gateway.Rerouted (rerouting.caching c) (asking text) [] "mini" where
  configured := rfl
  known := of_decide_eq_true rfl
  answered := ⟨_,rerouter,[],_,_,_,h,rfl,rfl,rfl,rfl⟩

theorem unresolved_embedder_keeps_text :
    ((rerouting.caching (embeddingWith "gone")).run (asking "ssn 078-05-1120")).ending.Refused ∨
      ∀ ev ∈ laterThan 0 ((rerouting.caching (embeddingWith "gone")).run
        (asking "ssn 078-05-1120")).events,
        Gateway.Contained (embeddingWith "gone") rerouting (asking "ssn 078-05-1120") "mini" ev := by
  refine (Gateway.allow_pii_contained_iff (rerouted _ _ (by decide))).mpr (.inr ?_)
  intro m hm
  have hnone : (embeddingWith "gone").embedder rerouting.globalConfig = none := by decide
  rw [hnone] at hm
  cases hm

def Event.isLookupOf (text : String) : Event → Bool
  | .cacheLookup input => input = text
  | _ => false

theorem cache_lookup_leaves_target :
    Gateway.Rerouted (rerouting.caching (embeddingWith "ada")) (asking "ssn 078-05-1120") [] "mini" ∧
    ¬ (((rerouting.caching (embeddingWith "ada")).run (asking "ssn 078-05-1120")).ending.Refused ∨
      ∀ ev ∈ laterThan 0 ((rerouting.caching (embeddingWith "ada")).run
        (asking "ssn 078-05-1120")).events,
        Gateway.Contained (embeddingWith "ada") rerouting (asking "ssn 078-05-1120") "mini" ev) := by
  refine ⟨rerouted _ _ (by decide),?_⟩
  rintro (hrefused | hcontained)
  · have hanswered : ((rerouting.caching (embeddingWith "ada")).run
        (asking "ssn 078-05-1120")).ending.succeeded = true := by decide
    revert hrefused hanswered
    cases ((rerouting.caching (embeddingWith "ada")).run (asking "ssn 078-05-1120")).ending <;>
      simp [Ending.Refused,Ending.succeeded]
  · have hlookup : (laterThan 0 ((rerouting.caching (embeddingWith "ada")).run
        (asking "ssn 078-05-1120")).events).any (Event.isLookupOf "ssn 078-05-1120") = true := by
      decide
    obtain ⟨ev,hev,his⟩ := List.any_eq_true.mp hlookup
    unfold Event.isLookupOf at his
    split at his
    · next input =>
      obtain rfl : input = "ssn 078-05-1120" := by simpa using his
      have hcarries : Carries (asking "ssn 078-05-1120") "ssn 078-05-1120" :=
        ⟨"ssn 078-05-1120",by decide,by decide,List.infix_rfl⟩
      have hname := hcontained _ hev hcarries
        { name := "ada", provider := "openai", type := "embedding" } (by decide)
      revert hname
      decide
    · cases his

end PrismGateway.Orchestrator
