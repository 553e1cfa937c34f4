import PrismGateway.Orchestrator.Offers
import PrismGateway.Orchestrator.Run

namespace PrismGateway.Router

open Lib Config

namespace StageEvaluator

def asksRules (se : StageEvaluator) : List (String × SmartStageRule) → SmartStageResult → Bool
  | [], _ => false
  | (stage,rule) :: rest, r =>
    match rule.when.semanticSimilarity with
    | some cond =>
      if r.blocked || !r.preferredModels.isEmpty || r.anchorRouteGroup ≠ "" then
        se.asksRules rest (se.semanticRule stage rule cond r)
      else true
    | none =>
      if evaluateCondition (prompt se.messages) rule.when then
        let r := { r with stagesEvaluated := r.stagesEvaluated ++ [stage] }
        if rule.action.block then false
        else se.asksRules rest (applyAction rule.action r)
      else se.asksRules rest r

def asks (se : StageEvaluator) : Bool :=
  se.deps.isSome && !se.usesLegacyRules &&
    se.asksRules se.stageRules { promptLength := (prompt se.messages).totalChars }

end StageEvaluator

def Request.asks (req : Request) : Bool :=
  req.smartConfig.any (fun cfg =>
    (req.evaluator cfg).asks &&
      if req.strategy = "smart" then
        req.forcedModel = "" && (match req.pool with
          | .ok candidates => !candidates.isEmpty
          | .error _ => false)
      else req.routeGroup = "")

end PrismGateway.Router

namespace PrismGateway.Orchestrator

open Lib Config Router Providers
open Api (ParsedRequest)

inductive Modality where
  | text
  | image
  deriving DecidableEq

structure Embeddings where
  tools : Bool
  text : Bool
  image : Bool
  textModel : String
  imageModel : String
  cacheModel : String
  cached : String → Bool

inductive Outgoing where
  | embed (modality : Modality) (model input : String)
  | chat (modelName : String) (req : ChatRequest)
  | cacheWrite (text : String)
  deriving DecidableEq

def Ending.Answered : Ending → Prop
  | .answered _ => True
  | _ => False

def rawText (pr : ParsedRequest) : String := " ".intercalate pr.messageTexts

def Embeddings.toolInputs (e : Embeddings) (texts : List String) : List Outgoing :=
  if e.tools then [.embed .text e.textModel (" ".intercalate texts)] else []

/-- What semantic routing embeds: `findBestMultimodalAnchor` where there are images, else what `Select`
asks for. -/
def Embeddings.routeInputs (e : Embeddings) (smart : SmartConfig) (images : List String)
    (req : Router.Request) : List Outgoing :=
  if hasSemanticRule smart then
    match images with
    | [] => if req.asks then [.embed .text e.textModel (" ".intercalate req.messages)] else []
    | image :: _ =>
      (if e.text ∧ req.messages ≠ [] then [.embed .text e.textModel (" ".intercalate req.messages)]
        else []) ++ if e.image then [.embed .image e.imageModel image] else []
  else []

namespace Gateway

variable (e : Embeddings) (g : Gateway) (pr : ParsedRequest)

def sentBy : Event → List Outgoing
  | .toolRoutes texts => e.toolInputs texts
  | .select req => e.routeInputs g.tenant.routing.smart pr.messageImageURLs req
  | .hook _ _ => []
  | .cacheLookup text => [.embed .text e.cacheModel text]
  | .call (.send modelName req) => [.chat modelName req]
  | .call _ => []

def writes : List Outgoing :=
  if g.semanticCache.isSome ∧ e.cached (rawText pr) then [.cacheWrite (rawText pr)] else []

def writtenBy : Ending → List Outgoing
  | .answered _ => g.writes e pr
  | _ => []

def traceOut (t : Trace) : List Outgoing :=
  t.events.flatMap (g.sentBy e pr) ++ g.writtenBy e pr t.ending

def outgoing : List Outgoing := g.traceOut e pr (g.run pr)

def accepted : Option PrecedenceResult :=
  if (pr.rawBody.isSome ∧ pr.headers "X-Model-Type" = "ml") ∨ pr.messages.isEmpty then none
  else match validateMetadata pr.metadata with
    | .error _ => none
    | .ok () => (resolution g.tenant g.globalConfig (g.routeInput pr)).toOption

def toolMatch : Option ToolRouteMatch :=
  if g.toolRoutingEnabled then g.checkToolRoutes pr.messageTexts else none

def routed (r : PrecedenceResult) : Router.Request :=
  routeReq g.tenant g.globalConfig (g.routeInput pr) r

def selected : Option (List String) :=
  (g.accepted pr).bind (fun r =>
    if (g.toolMatch pr).isSome then none
    else ((g.router.select (g.routed pr r)).1.toOption).map (·.candidates))

def afterHooks (candidates : List String) : Option (ChatRequest × List String) :=
  match (g.preRequest g.hooks (provReq pr) candidates).2 with
  | .error _ => none
  | .ok (req,candidates) => match g.budget pr.metadata with
    | .proceed => some (req,candidates)
    | .degrade group => some (req,if group = "" then candidates else g.degraded group candidates)
    | .blocked _ _ => none

def plan : Option (ChatRequest × List String) := (g.selected pr).bind (g.afterHooks pr)

def groupUsed : String := ((g.accepted pr).map (·.routeGroupUsed)).getD ""

def aliasUsed : Option String := (target g.tenant g.globalConfig (g.routeInput pr)).virtualAlias

def outgoingAfter (p : ChatRequest × List String) : List Outgoing :=
  g.traceOut e pr (g.cacheStage pr (g.aliasUsed pr) (g.groupUsed pr) p.1 p.2)

def routing : Option Router.Request :=
  (g.accepted pr).bind (fun r => if (g.toolMatch pr).isSome then none else some (g.routed pr r))

def toolReaders : List (Modality × String) :=
  if (g.accepted pr).isSome ∧ g.toolRoutingEnabled ∧ e.tools then [(.text,e.textModel)] else []

def routeReaders (req : Router.Request) : List (Modality × String) :=
  if hasSemanticRule g.tenant.routing.smart then
    if pr.messageImageURLs = [] then if req.asks then [(.text,e.textModel)] else []
    else (if e.text ∧ req.messages ≠ [] then [(Modality.text,e.textModel)] else []) ++
      if e.image then [(Modality.image,e.imageModel)] else []
  else []

def cacheReaders : List (Modality × String) :=
  if (g.plan pr).isSome ∧ g.semanticCache.isSome then [(.text,e.cacheModel)] else []

def readers : List (Modality × String) :=
  g.toolReaders e pr ++ (g.routing pr).elim [] (g.routeReaders e pr) ++ g.cacheReaders e pr

def asSent : Modality → String
  | .text => rawText pr
  | .image => pr.messageImageURLs.head?.getD ""

def embedded (reader : Modality × String) : Outgoing := .embed reader.1 reader.2 (asSent pr reader.1)

section Stages

variable {e g pr}

theorem sentBy_preRequest (hooks : List Hook) (req : ChatRequest) (candidates : List String) :
    (g.preRequest hooks req candidates).1.flatMap (g.sentBy e pr) = [] := by
  induction hooks generalizing req candidates with
  | nil => rfl
  | cons hook rest ih =>
    unfold preRequest
    cases hook.preRequest req with
    | error err => rfl
    | ok result =>
      cases hd : result.decision with
      | allow => simpa [hd,sentBy] using ih req candidates
      | block => simp [hd,sentBy]
      | redact => simpa [hd,sentBy] using ih { req with messages := result.messages } candidates
      | warn => simpa [hd,sentBy] using ih req candidates
      | allowPII =>
        cases hm : g.allowPIIModel with
        | none => simp [hd,sentBy]
        | some model =>
          by_cases hknown : (g.globalConfig.modelByName model).isNone
          · simp [hd,hknown,sentBy]
          · simpa [hd,hknown,sentBy] using ih req [model]

theorem preRequest_failed {hooks : List Hook} {req : ChatRequest} {candidates : List String}
    {ending : Ending} (h : (g.preRequest hooks req candidates).2 = .error ending) :
    ∃ status message kind, ending = .failed status message kind := by
  induction hooks generalizing req candidates with
  | nil => cases h
  | cons hook rest ih =>
    unfold preRequest at h
    cases hr : hook.preRequest req with
    | error err =>
      rw [hr] at h
      cases h
      exact ⟨_,_,_,rfl⟩
    | ok result =>
      cases hd : result.decision with
      | allow => exact ih (by simpa [hr,hd] using h)
      | block =>
        simp only [hr,hd] at h
        cases h
        exact ⟨_,_,_,rfl⟩
      | redact => exact ih (by simpa [hr,hd] using h)
      | warn => exact ih (by simpa [hr,hd] using h)
      | allowPII =>
        cases hm : g.allowPIIModel with
        | none =>
          simp only [hr,hd,hm] at h
          cases h
          exact ⟨_,_,_,rfl⟩
        | some model =>
          by_cases hknown : (g.globalConfig.modelByName model).isNone
          · simp only [hr,hd,hm,hknown,if_true] at h
            cases h
            exact ⟨_,_,_,rfl⟩
          · exact ih (by simpa [hr,hd,hm,hknown] using h)

theorem traceOut_append (events : List Event) (t : Trace) :
    g.traceOut e pr ⟨events ++ t.events,t.ending⟩ =
      events.flatMap (g.sentBy e pr) ++ g.traceOut e pr t := by
  simp [traceOut,List.append_assoc]

theorem traceOut_hookStage (virtualAlias : Option String) (routeGroup : String)
    (candidates : List String) :
    g.traceOut e pr (g.hookStage pr virtualAlias routeGroup candidates) =
      (g.afterHooks pr candidates).elim [] (fun p =>
        g.traceOut e pr (g.cacheStage pr virtualAlias routeGroup p.1 p.2)) := by
  have hsent : (g.preRequest g.hooks (provReq pr) candidates).1.flatMap (g.sentBy e pr) = [] :=
    sentBy_preRequest g.hooks (provReq pr) candidates
  cases hh : (g.preRequest g.hooks (provReq pr) candidates).2 with
  | error ending =>
    obtain ⟨status,message,kind,rfl⟩ := preRequest_failed hh
    simp only [hookStage,afterHooks,hh,traceOut,hsent]
    rfl
  | ok p =>
    obtain ⟨req,candidates'⟩ := p
    simp only [hookStage,afterHooks,hh]
    rw [traceOut_append,hsent,List.nil_append]
    unfold budgetStage
    cases g.budget pr.metadata with
    | proceed => rfl
    | degrade group => rfl
    | blocked status message => rfl

theorem run_refused (h : g.accepted pr = none) :
    ∃ ending, g.run pr = ⟨[],ending⟩ ∧ ¬ ending.Answered := by
  unfold accepted at h
  unfold run
  by_cases hml : pr.rawBody.isSome ∧ pr.headers "X-Model-Type" = "ml"
  · rw [if_pos hml]
    exact ⟨_,rfl,id⟩
  · rw [if_neg hml]
    by_cases hempty : pr.messages.isEmpty
    · rw [if_pos hempty]
      exact ⟨_,rfl,id⟩
    · rw [if_neg hempty]
      rw [if_neg (not_or.mpr ⟨hml,hempty⟩)] at h
      cases hv : validateMetadata pr.metadata with
      | error err => exact ⟨_,rfl,id⟩
      | ok u =>
        rw [hv] at h
        cases hr : resolution g.tenant g.globalConfig (g.routeInput pr) with
        | error err => exact ⟨_,rfl,id⟩
        | ok r =>
          rw [hr] at h
          cases h

theorem writtenBy_of_not_answered {ending : Ending} (h : ¬ ending.Answered) :
    g.writtenBy e pr ending = [] := by
  cases ending with
  | answered served => exact absurd trivial h
  | _ => rfl

theorem accepted_iff {r : PrecedenceResult} :
    g.accepted pr = some r ↔
      ¬(pr.rawBody.isSome ∧ pr.headers "X-Model-Type" = "ml") ∧ ¬ pr.messages.isEmpty ∧
        validateMetadata pr.metadata = .ok () ∧
          resolution g.tenant g.globalConfig (g.routeInput pr) = .ok r := by
  unfold accepted
  split
  · next hstopped =>
    constructor
    · intro h
      cases h
    · rintro ⟨hml,hempty,-,-⟩
      exact absurd hstopped (not_or.mpr ⟨hml,hempty⟩)
  · next hnot =>
    obtain ⟨hml,hempty⟩ := not_or.mp hnot
    cases hv : validateMetadata pr.metadata with
    | error err => simp
    | ok u =>
      cases hr : resolution g.tenant g.globalConfig (g.routeInput pr) with
      | error err => simp [Except.toOption]
      | ok r' => simpa [Except.toOption,hempty] using fun _ => not_and.mp hml

theorem run_accepted {r : PrecedenceResult} (h : g.accepted pr = some r) :
    g.run pr = g.toolStage pr r := by
  obtain ⟨hml,hempty,hv,hr⟩ := accepted_iff.mp h
  unfold run
  rw [if_neg hml,if_neg hempty,hv,hr]

theorem selectStage_error {r : PrecedenceResult} {err : SelectError}
    (h : (g.router.select (g.routed pr r)).1 = .error err) :
    g.selectStage pr r = ⟨[.select (g.routed pr r)],.selection err⟩ := by
  unfold selectStage
  dsimp only
  split
  · next err' herr =>
    cases h.symm.trans herr
    rfl
  · next result hok => cases h.symm.trans hok

theorem selectStage_ok {r : PrecedenceResult} {result : Result}
    (h : (g.router.select (g.routed pr r)).1 = .ok result) :
    g.selectStage pr r =
      ⟨.select (g.routed pr r) ::
        (g.hookStage pr (g.aliasUsed pr) r.routeGroupUsed result.candidates).events,
        (g.hookStage pr (g.aliasUsed pr) r.routeGroupUsed result.candidates).ending⟩ := by
  unfold selectStage
  dsimp only
  split
  · next err herr => cases h.symm.trans herr
  · next result' hok =>
    cases h.symm.trans hok
    rfl

theorem routeInputs_eq (req : Router.Request) (h : req.messages = pr.messageTexts) :
    e.routeInputs g.tenant.routing.smart pr.messageImageURLs req =
      (g.routeReaders e pr req).map (embedded pr) := by
  unfold Embeddings.routeInputs routeReaders
  cases himages : pr.messageImageURLs with
  | nil =>
    simp only [eq_self,if_true]
    split_ifs <;> simp [embedded,asSent,rawText,h]
  | cons image rest =>
    have hne : image :: rest ≠ [] := List.cons_ne_nil image rest
    simp only [hne,if_false]
    split_ifs <;> simp [embedded,asSent,rawText,h,himages]

theorem traceOut_selectStage {r : PrecedenceResult} :
    g.traceOut e pr (g.selectStage pr r) =
      (g.routeReaders e pr (g.routed pr r)).map (embedded pr) ++
        (((g.router.select (g.routed pr r)).1.toOption).map (·.candidates)).elim [] (fun candidates =>
          g.traceOut e pr (g.hookStage pr (g.aliasUsed pr) r.routeGroupUsed candidates)) := by
  rw [← routeInputs_eq (g.routed pr r) rfl]
  cases hs : (g.router.select (g.routed pr r)).1 with
  | error err =>
    have hwritten : g.writtenBy e pr (.selection err) = [] := rfl
    rw [selectStage_error hs]
    simp [traceOut,sentBy,hwritten,Except.toOption]
  | ok result =>
    rw [selectStage_ok hs]
    simp [traceOut,sentBy,Except.toOption]

theorem traceOut_toolStage {r : PrecedenceResult} (h : g.accepted pr = some r) :
    g.traceOut e pr (g.toolStage pr r) =
      (g.toolReaders e pr).map (embedded pr) ++
        if (g.toolMatch pr).isSome then [] else g.traceOut e pr (g.selectStage pr r) := by
  unfold toolStage toolMatch toolReaders
  rw [h]
  by_cases ht : g.toolRoutingEnabled = true
  · have hinputs : e.toolInputs pr.messageTexts =
        (if e.tools then [(Modality.text,e.textModel)] else []).map (embedded pr) := by
      unfold Embeddings.toolInputs
      split_ifs <;> rfl
    cases hm : g.checkToolRoutes pr.messageTexts with
    | none => simp [ht,traceOut,sentBy,hinputs]
    | some found => simp [ht,traceOut,sentBy,writtenBy,hinputs]
  · simp [ht]

theorem outgoing_eq :
    g.outgoing e pr =
      (g.toolReaders e pr ++ (g.routing pr).elim [] (g.routeReaders e pr)).map (embedded pr) ++
        (g.plan pr).elim [] (g.outgoingAfter e pr) := by
  unfold outgoing routing plan selected outgoingAfter groupUsed
  cases ha : g.accepted pr with
  | none =>
    obtain ⟨ending,hrun,hending⟩ := run_refused ha
    have htools : g.toolReaders e pr = [] := by simp [toolReaders,ha]
    simp [hrun,traceOut,writtenBy_of_not_answered hending,htools]
  | some r =>
    rw [run_accepted ha,traceOut_toolStage ha]
    by_cases hm : (g.toolMatch pr).isSome
    · simp [hm]
    · simp only [hm,if_false,traceOut_selectStage,List.map_append,List.append_assoc,Option.bind_some,
        Option.map_some,Option.getD_some,Bool.false_eq_true,Option.elim_some]
      cases (g.router.select (g.routed pr r)).1 with
      | error err => simp [Except.toOption]
      | ok result =>
        simp only [Except.toOption,Option.map_some,Option.elim_some,Option.bind_some]
        rw [traceOut_hookStage]

theorem ending_hookStage (virtualAlias : Option String) (routeGroup : String)
    (candidates : List String) :
    (∃ p, g.afterHooks pr candidates = some p ∧
      (g.hookStage pr virtualAlias routeGroup candidates).ending =
        (g.cacheStage pr virtualAlias routeGroup p.1 p.2).ending) ∨
    (g.afterHooks pr candidates = none ∧ ∃ status message kind,
      (g.hookStage pr virtualAlias routeGroup candidates).ending = .failed status message kind) := by
  cases hh : (g.preRequest g.hooks (provReq pr) candidates).2 with
  | error ending =>
    obtain ⟨status,message,kind,rfl⟩ := preRequest_failed hh
    exact .inr ⟨by simp only [afterHooks,hh],status,message,kind,by simp only [hookStage,hh]⟩
  | ok p =>
    obtain ⟨req,candidates'⟩ := p
    cases hb : g.budget pr.metadata with
    | proceed =>
      exact .inl ⟨_,by simp only [afterHooks,hh,hb]; rfl,by simp only [hookStage,hh,budgetStage,hb]⟩
    | degrade group =>
      exact .inl ⟨_,by simp only [afterHooks,hh,hb]; rfl,by simp only [hookStage,hh,budgetStage,hb]⟩
    | blocked status message =>
      exact .inr ⟨by simp only [afterHooks,hh,hb],status,message,_,by
        simp only [hookStage,hh,budgetStage,hb]
        rfl⟩

theorem ending_run (g : Gateway) (pr : ParsedRequest) :
    (∃ p, g.plan pr = some p ∧
      (g.run pr).ending = (g.cacheStage pr (g.aliasUsed pr) (g.groupUsed pr) p.1 p.2).ending) ∨
    (g.plan pr = none ∧ ¬ (g.run pr).ending.Answered) := by
  unfold plan selected groupUsed
  cases ha : g.accepted pr with
  | none =>
    obtain ⟨ending,hrun,hending⟩ := run_refused ha
    refine .inr ⟨rfl,?_⟩
    rw [hrun]
    exact hending
  | some r =>
    rw [run_accepted ha]
    simp only [Option.bind_some,Option.map_some,Option.getD_some]
    by_cases hm : (g.toolMatch pr).isSome
    · obtain ⟨found,hfound⟩ := Option.isSome_iff_exists.mp hm
      have htool : g.toolRoutingEnabled = true := by
        by_contra hoff
        simp [toolMatch,hoff] at hfound
      have hcheck : g.checkToolRoutes pr.messageTexts = some found := by
        simpa [toolMatch,htool] using hfound
      have hstage : (g.toolStage pr r).ending = .toolRoute found := by
        simp only [toolStage,htool,hcheck,if_true]
      refine .inr ⟨by simp [hm],?_⟩
      rw [hstage]
      exact id
    · have hstage : (g.toolStage pr r).ending = (g.selectStage pr r).ending := by
        unfold toolStage
        by_cases htool : g.toolRoutingEnabled = true
        · have hcheck : g.checkToolRoutes pr.messageTexts = none := by
            simpa [toolMatch,htool] using hm
          simp [htool,hcheck]
        · simp [htool]
      simp only [hm,if_false,Bool.false_eq_true]
      rw [hstage]
      cases hs : (g.router.select (g.routed pr r)).1 with
      | error err =>
        refine .inr ⟨by simp [Except.toOption],?_⟩
        rw [selectStage_error hs]
        exact id
      | ok result =>
        rw [selectStage_ok hs]
        simp only [Except.toOption,Option.map_some,Option.bind_some]
        rcases ending_hookStage (g.aliasUsed pr) r.routeGroupUsed result.candidates with
          ⟨p,hp,hending⟩ | ⟨hnone,status,message,kind,hending⟩
        · exact .inl ⟨p,hp,hending⟩
        · refine .inr ⟨hnone,?_⟩
          rw [hending]
          exact id

end Stages

def withoutMessages : ParsedRequest :=
  { pr with messages := [], messageTexts := [], messageImageURLs := [] }

def redacted : Option ChatRequest :=
  ((g.preRequest g.hooks (provReq pr) []).2.toOption).map Prod.fst

structure Twins (g : Gateway) (pr pr' : ParsedRequest) : Prop where
  same : withoutMessages pr = withoutMessages pr'
  redacted : g.redacted pr = g.redacted pr'

def choice : Option (List String) := (g.plan pr).map Prod.snd

def toAttempt : Option (ChatRequest × List String) :=
  (g.plan pr).filter (fun p =>
    (g.semanticCache.bind (fun find => find (rawText pr) (p.2.head?.getD "") (g.groupUsed pr))).isNone)

def chatEnv : Env := g.env pr ((g.redacted pr).getD {})

def offered : List Offer :=
  (g.toAttempt pr).elim [] (fun p => (g.chatEnv pr).offers p.1 ((g.chatEnv pr).tried p.2))

def facing (w : World) : Gateway :=
  { g with
    outcomes := (g.plan pr).elim g.outcomes (fun p => w.outcomes (g.env pr p.1) p.2) }

/-- The requests are handed to the same embedding models, with one text and one image where they are,
and could lead to the same calls. -/
structure SameView (e : Embeddings) (g : Gateway) (pr pr' : ParsedRequest) : Prop where
  readers : g.readers e pr = g.readers e pr'
  asSent : ∀ reader ∈ g.readers e pr, asSent pr reader.1 = asSent pr' reader.1
  offered : g.offered pr = g.offered pr'

section Pairs

variable {e g} {pr' : ParsedRequest}

theorem preRequest_request (hooks : List Hook) (req : ChatRequest) (cs cs' : List String) :
    ((g.preRequest hooks req cs).2.toOption).map Prod.fst =
      ((g.preRequest hooks req cs').2.toOption).map Prod.fst := by
  induction hooks generalizing req cs cs' with
  | nil => rfl
  | cons hook rest ih =>
    unfold preRequest
    cases hook.preRequest req with
    | error err => rfl
    | ok result =>
      cases hd : result.decision with
      | allow => simpa [hd] using ih req cs cs'
      | block => simp [hd]
      | redact => simpa [hd] using ih { req with messages := result.messages } cs cs'
      | warn => simpa [hd] using ih req cs cs'
      | allowPII => simp [hd]

theorem redacted_of_plan {p : ChatRequest × List String} (h : g.plan pr = some p) :
    g.redacted pr = some p.1 := by
  obtain ⟨cs,-,hafter⟩ := Option.bind_eq_some_iff.mp h
  unfold redacted
  rw [preRequest_request g.hooks (provReq pr) [] cs]
  unfold afterHooks at hafter
  cases hh : (g.preRequest g.hooks (provReq pr) cs).2 with
  | error ending =>
    rw [hh] at hafter
    cases hafter
  | ok q =>
    rw [hh] at hafter
    obtain ⟨req,cs'⟩ := q
    dsimp only at hafter
    split at hafter
    · cases hafter
      rfl
    · cases hafter
      rfl
    · cases hafter

theorem preRequest_outcomes (o : Outcomes) (hooks : List Hook) (req : ChatRequest)
    (candidates : List String) :
    Gateway.preRequest { g with outcomes := o } hooks req candidates =
      g.preRequest hooks req candidates := by
  induction hooks generalizing req candidates with
  | nil => rfl
  | cons hook rest ih =>
    unfold preRequest
    simp only [ih]

theorem plan_outcomes (o : Outcomes) (pr : ParsedRequest) :
    Gateway.plan { g with outcomes := o } pr = g.plan pr := by
  have hafter : Gateway.afterHooks { g with outcomes := o } pr = g.afterHooks pr := by
    funext candidates
    unfold afterHooks
    rw [preRequest_outcomes]
    rfl
  unfold plan
  rw [hafter]
  rfl

theorem chatEnv_of_plan {p : ChatRequest × List String} (h : g.plan pr = some p) :
    g.chatEnv pr = g.env pr p.1 := by
  rw [chatEnv,redacted_of_plan pr h,Option.getD_some]

def served (calls : List Offer) : Bool :=
  (calls.getLast?.bind (fun x => (g.globalConfig.modelByName x.1).bind (g.family pr))).isSome

def chats (calls : List Offer) : List Outgoing := calls.map (fun x => .chat x.1 x.2)

theorem sentBy_calls (actions : List Action) :
    (actions.map Event.call).flatMap (g.sentBy e pr) = chats (sent actions) := by
  induction actions with
  | nil => rfl
  | cons a rest ih =>
    simp only [List.map_cons,List.flatMap_cons,ih]
    cases a <;> rfl

theorem served_isSome (virtualAlias : Option String) (routeGroup : String) (actions : List Action) :
    ((lastSent actions).bind (fun sent => (g.globalConfig.modelByName sent.1).bind (fun m =>
      (g.family pr m).map (fun f => (⟨virtualAlias,routeGroup,m,f,sent.2⟩ : Served))))).isSome =
        g.served pr (sent actions) := by
  have hlast : lastSent actions = (sent actions).getLast? := rfl
  unfold served
  rw [hlast]
  cases (sent actions).getLast? with
  | none => rfl
  | some x =>
    simp only [Option.bind_some]
    cases g.globalConfig.modelByName x.1 with
    | none => rfl
    | some m =>
      simp only [Option.bind_some]
      cases g.family pr m <;> rfl

theorem traceOut_attemptStage (virtualAlias : Option String) (routeGroup : String) (req : ChatRequest)
    (candidates : List String) :
    g.traceOut e pr (g.attemptStage pr virtualAlias routeGroup req candidates) =
      chats (sent ((g.env pr req).run g.outcomes candidates).1) ++
        if ((g.env pr req).run g.outcomes candidates).2 = .completed ∧
            g.served pr (sent ((g.env pr req).run g.outcomes candidates).1) = true then
          g.writes e pr
        else [] := by
  rw [← served_isSome pr virtualAlias routeGroup]
  unfold attemptStage
  obtain ⟨actions,response⟩ := (g.env pr req).run g.outcomes candidates
  dsimp only
  cases (lastSent actions).bind (fun sent => (g.globalConfig.modelByName sent.1).bind (fun m =>
      (g.family pr m).map (fun f => (⟨virtualAlias,routeGroup,m,f,sent.2⟩ : Served)))) with
  | none => simp [traceOut,sentBy_calls,writtenBy]
  | some served =>
    cases response <;> simp [traceOut,sentBy_calls,writtenBy]

theorem outgoingAfter_eq {p : ChatRequest × List String} (hp : g.plan pr = some p) :
    g.outgoingAfter e pr p = (g.cacheReaders e pr).map (embedded pr) ++
      (g.toAttempt pr).elim [] (fun p =>
        g.traceOut e pr (g.attemptStage pr (g.aliasUsed pr) (g.groupUsed pr) p.1 p.2)) := by
  unfold outgoingAfter cacheStage cacheReaders toAttempt
  rw [hp]
  cases hc : g.semanticCache with
  | none => simp [Option.filter]
  | some find =>
    simp only [Option.bind_some,Option.isSome_some,and_self,if_true]
    cases hfound : find (" ".intercalate pr.messageTexts) (p.2.head?.getD "") (g.groupUsed pr) with
    | none => simp [traceOut,sentBy,embedded,asSent,rawText,hfound,Option.filter]
    | some entry =>
      cases hr : entry.response with
      | none => simp [hr,traceOut,sentBy,writtenBy,embedded,asSent,rawText,hfound,Option.filter]
      | some response => simp [hr,traceOut,sentBy,writtenBy,embedded,asSent,rawText,hfound,Option.filter]

def attempted (e : Embeddings) (g : Gateway) (pr : ParsedRequest) (w : World) : List Outgoing :=
  chats (w.calls (g.chatEnv pr) [] (g.offered pr)).1 ++
    if (w.calls (g.chatEnv pr) [] (g.offered pr)).2 = true ∧
        g.served pr (w.calls (g.chatEnv pr) [] (g.offered pr)).1 = true then
      g.writes e pr
    else []

theorem outgoing_facing (w : World) :
    (g.facing pr w).outgoing e pr = (g.readers e pr).map (embedded pr) ++ attempted e g pr w := by
  have hplan : (g.facing pr w).plan pr = g.plan pr := plan_outcomes _ pr
  have hreaders : (g.facing pr w).cacheReaders e pr = g.cacheReaders e pr := by
    unfold cacheReaders
    rw [hplan]
    rfl
  have hattempt : (g.facing pr w).toAttempt pr = g.toAttempt pr := by
    unfold toAttempt
    rw [hplan]
    rfl
  have hbefore : (g.facing pr w).toolReaders e pr ++
      ((g.facing pr w).routing pr).elim [] ((g.facing pr w).routeReaders e pr) =
        g.toolReaders e pr ++ (g.routing pr).elim [] (g.routeReaders e pr) := rfl
  have hsplit : (g.readers e pr).map (embedded pr) =
      (g.toolReaders e pr ++ (g.routing pr).elim [] (g.routeReaders e pr)).map (embedded pr) ++
        (g.cacheReaders e pr).map (embedded pr) := List.map_append
  rw [outgoing_eq,hplan,hbefore,hsplit,List.append_assoc]
  refine congrArg _ ?_
  unfold attempted offered
  cases hp : g.plan pr with
  | none =>
    have hnone : g.toAttempt pr = none := by rw [toAttempt,hp]; rfl
    have hunread : g.cacheReaders e pr = [] := by simp [cacheReaders,hp]
    rw [hnone,hunread]
    simp [World.calls,chats]
  | some p =>
    rw [Option.elim_some,outgoingAfter_eq pr (hplan.trans hp),hreaders,hattempt]
    refine congrArg _ ?_
    cases hq : g.toAttempt pr with
    | none => simp [World.calls,chats]
    | some q =>
      obtain rfl : p = q := by
        rw [toAttempt,hp] at hq
        exact Option.some.inj (Option.filter_eq_some_iff.mp hq).1
      have henv : g.chatEnv pr = g.env pr p.1 := chatEnv_of_plan pr hp
      have houtcomes : (g.facing pr w).outcomes = w.outcomes (g.env pr p.1) p.2 := by
        rw [facing,hp]
        rfl
      obtain ⟨hsent,hcompleted⟩ := run_calls w (g.env pr p.1) p.2
      rw [Option.elim_some,Option.elim_some,traceOut_attemptStage,houtcomes,henv]
      change chats (sent ((g.env pr p.1).run _ p.2).1) ++
        (if ((g.env pr p.1).run _ p.2).2 = .completed ∧
            g.served pr (sent ((g.env pr p.1).run _ p.2).1) = true then g.writes e pr else []) = _
      simp only [hsent,hcompleted]
      rfl

end Pairs

section Twins

variable {e : Embeddings} {g : Gateway} {pr pr' : ParsedRequest}

theorem Twins.chatEnv (h : Twins g pr pr') : g.chatEnv pr = g.chatEnv pr' := by
  have hstream : pr.stream = pr'.stream := congrArg (·.stream) h.same
  simp only [Gateway.chatEnv,env,hstream,h.redacted]

def embedding : Outgoing → Option (Modality × String × String)
  | .embed modality model input => some (modality,model,input)
  | _ => none

def chat : Outgoing → Option Offer
  | .chat modelName req => some (modelName,req)
  | _ => none

theorem embedding_chats (calls : List Offer) : (chats calls).filterMap embedding = [] := by
  rw [chats,List.filterMap_map]
  exact List.filterMap_eq_nil_iff.mpr fun x _ => rfl

theorem chat_chats (calls : List Offer) : (chats calls).filterMap chat = calls := by
  rw [chats,List.filterMap_map]
  exact List.filterMap_some

theorem writes_nothing_else (e : Embeddings) (g : Gateway) (pr : ParsedRequest) (p : Prop) [Decidable p] :
    (if p then g.writes e pr else []).filterMap embedding = [] ∧
      (if p then g.writes e pr else []).filterMap chat = [] := by
  unfold writes
  split_ifs <;> exact ⟨rfl,rfl⟩

theorem embeddings_facing (w : World) : ((g.facing pr w).outgoing e pr).filterMap embedding =
    (g.readers e pr).map (fun reader => (reader.1,reader.2,Gateway.asSent pr reader.1)) := by
  rw [outgoing_facing,attempted,List.filterMap_append,List.filterMap_append,embedding_chats,
    (writes_nothing_else e g pr _).1,List.append_nil,List.append_nil,List.filterMap_map]
  exact congrFun List.filterMap_eq_map (g.readers e pr)

theorem chats_facing (w : World) : ((g.facing pr w).outgoing e pr).filterMap chat =
    (w.calls (g.chatEnv pr) [] (g.offered pr)).1 := by
  have hreaders : ((g.readers e pr).map (embedded pr)).filterMap chat = [] := by
    rw [List.filterMap_map]
    exact List.filterMap_eq_nil_iff.mpr fun reader _ => rfl
  rw [outgoing_facing,attempted,List.filterMap_append,List.filterMap_append,chat_chats,
    (writes_nothing_else e g pr _).2,hreaders,List.nil_append,List.append_nil]

theorem readers_eq (h : (g.readers e pr).map (fun reader => (reader.1,reader.2,Gateway.asSent pr reader.1)) =
      (g.readers e pr').map (fun reader => (reader.1,reader.2,Gateway.asSent pr' reader.1))) :
    g.readers e pr = g.readers e pr' ∧
      ∀ reader ∈ g.readers e pr, Gateway.asSent pr reader.1 = Gateway.asSent pr' reader.1 := by
  have hreaders : g.readers e pr = g.readers e pr' := by
    have hforget := congrArg (List.map fun x : Modality × String × String => (x.1,x.2.1)) h
    simpa only [List.map_map,Function.comp_def,Prod.mk.eta,List.map_id'] using hforget
  refine ⟨hreaders,fun reader hreader => ?_⟩
  rw [← hreaders] at h
  have hsame := List.map_inj_left.mp h reader hreader
  exact congrArg (fun x => x.2.2) hsame

theorem SameView.writes (h : SameView e g pr pr') (hoffered : g.offered pr ≠ []) :
    g.writes e pr = g.writes e pr' := by
  cases hc : g.semanticCache with
  | none => simp [Gateway.writes,hc]
  | some find =>
    have hplan : (g.plan pr).isSome = true := by
      by_contra hnone
      have hoff : g.plan pr = none := by simpa using hnone
      exact hoffered (by rw [Gateway.offered,toAttempt,hoff]; rfl)
    have hmem : (.text,e.cacheModel) ∈ g.readers e pr :=
      List.mem_append_right _ (by simp [cacheReaders,hplan,hc])
    have htext : rawText pr = rawText pr' := h.asSent _ hmem
    unfold Gateway.writes
    rw [htext]

end Twins

end Gateway

def redactor : Hook where
  name := "external_pii"
  preRequest := fun _ => .ok
    { decision := .redact, messages := [{ role := "user", content := "[REDACTED]" }] }
  postResponse := fun _ _ => .ok none

def textModels : Embeddings where
  tools := true
  text := true
  image := false
  textModel := "ada"
  imageModel := ""
  cacheModel := "ada"
  cached := fun _ => true

def redacting (toolRouting : Bool) : Gateway :=
  { plainGateway with hooks := [redactor], toolRoutingEnabled := toolRouting }

def asking (text : String) : ParsedRequest := ParsedRequest.withTexts
  { tenantID := "acme"
    messages := [Api.textMessage "user" text]
    headers := fun _ => ""
    apiStyle := .openAIChat }

theorem asking_twins (toolRouting : Bool) (s t : String) :
    Gateway.Twins (redacting toolRouting) (asking s) (asking t) := ⟨rfl,rfl⟩

end PrismGateway.Orchestrator
