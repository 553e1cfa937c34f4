import PrismGateway.Api.Embeddings

namespace PrismGateway.Api

open Lib Config Router Orchestrator

inductive Route where
  | chatCompletions
  | messages
  | responses
  | generateContent
  | embeddings
  deriving DecidableEq, Repr

def Route.Body : Route → Type
  | .chatCompletions => String × Except String ChatCompletionRequest
  | .messages => Except String AnthropicMessagesRequest
  | .responses => Except String ResponsesAPIRequest
  -- the path and whether it asks for a stream
  | .generateContent => String × Bool × Except String GeminiGenerateContentRequest
  | .embeddings => Except String EmbeddingAPIRequest

inductive Course where
  | rejected (err : String)
  | ml (modelName rawBody : String)
  | orchestrated (t : Trace)
  | embedded (c : Server.EmbeddingCourse)

namespace Server

variable (s : Server)

def call (h : Header) : Call := ⟨s.gateway.tenant.id,h.get⟩

def orchestrate : Except String ParsedRequest → Course
  | .error err => .rejected err
  | .ok pr => match (s.gateway.run pr).ending with
    | .ml => .ml (pr.headers "X-Model-Name") (pr.rawBody.getD "")
    | _ => .orchestrated (s.gateway.run pr)

def serve (h : Header) : (r : Route) → r.Body → Course
  | .chatCompletions, (raw,decoded) =>
    s.orchestrate (parseChatCompletionsRequest (s.call h) raw decoded)
  | .messages, decoded => s.orchestrate (parseAnthropicMessagesRequest (s.call h) decoded)
  | .responses, decoded => s.orchestrate (parseResponsesAPIRequest (s.call h) decoded)
  | .generateContent, (path,stream,decoded) =>
    s.orchestrate (parseGeminiGenerateContentRequest (s.call h) path stream decoded)
  | .embeddings, .error err => .rejected err
  | .embeddings, .ok req => .embedded (s.embeddings h req)

end Server

inductive Override where
  | model
  | routeGroup
  deriving DecidableEq, Repr

namespace Override

def allowed (o : Override) (sel : SelectionConfig) : Bool :=
  match o with
  | .model => sel.allowModelOverride
  | .routeGroup => sel.allowRouteGroupOverride

def key (o : Override) (sel : SelectionConfig) : String :=
  match o with
  | .model => orDefault sel.headerModelKey "X-Model"
  | .routeGroup => orDefault sel.headerRouteKey "X-Route-Group"

def other : Override → Override
  | .model => .routeGroup
  | .routeGroup => .model

def ownHeaders : List String :=
  ["X-Model-Type","X-Model-Name","X-Debug-Fail-Model","X-Debug-Latency-Ms","X-Debug-Seed"]

def Shared (o : Override) (sel : SelectionConfig) : Prop :=
  ∃ k ∈ o.other.key sel :: ownHeaders, Header.Same (o.key sel) k

structure DifferOnly (o : Override) (sel : SelectionConfig) (h h' : Header) : Prop where
  rest : Header.AgreeBut (o.key sel) h h'
  otherUses : ∀ k ∈ o.other.key sel :: ownHeaders, h.get k = h'.get k

def Ignored (o : Override) (tenant : TenantConfig) (r : Route) : Prop :=
  o.allowed tenant.selection = false →
    ∀ (s : Server) (body : r.Body) (h h' : Header), s.gateway.tenant = tenant →
      o.DifferOnly tenant.selection h h' → s.serve h r body = s.serve h' r body

theorem DifferOnly.eq_of_shared {o : Override} {sel : SelectionConfig} {h h' : Header}
    (hdiffer : o.DifferOnly sel h h') (hshared : o.Shared sel) : h = h' := by
  obtain ⟨k,hk,hsame⟩ := hshared
  exact hdiffer.rest.eq (Header.get_eq_of_same hsame (hdiffer.otherUses k hk))

end Override

section Chat

variable {g : Gateway} {h h' : Header}

structure SameChoice (tenant : TenantConfig) (h h' : Header) : Prop where
  modelType : h.get "X-Model-Type" = h'.get "X-Model-Type"
  modelName : h.get "X-Model-Name" = h'.get "X-Model-Name"
  debugFailModel : h.get "X-Debug-Fail-Model" = h'.get "X-Debug-Fail-Model"
  headerModel : tenant.selection.allowModelOverride = true →
    h.get (Override.model.key tenant.selection) = h'.get (Override.model.key tenant.selection)
  headerRouteGroup : tenant.selection.allowRouteGroupOverride = true →
    h.get (Override.routeGroup.key tenant.selection) =
      h'.get (Override.routeGroup.key tenant.selection)

theorem sameChoice_of_differOnly {o : Override} {tenant : TenantConfig}
    (hallowed : o.allowed tenant.selection = false)
    (hdiffer : o.DifferOnly tenant.selection h h') : SameChoice tenant h h' := by
  have own : ∀ k ∈ Override.ownHeaders, h.get k = h'.get k :=
    fun k hk => hdiffer.otherUses k (List.mem_cons_of_mem _ hk)
  have other : h.get (o.other.key tenant.selection) = h'.get (o.other.key tenant.selection) :=
    hdiffer.otherUses _ List.mem_cons_self
  cases o with
  | model =>
    exact
      { modelType := own _ (by simp [Override.ownHeaders])
        modelName := own _ (by simp [Override.ownHeaders])
        debugFailModel := own _ (by simp [Override.ownHeaders])
        headerModel := fun hon => Bool.noConfusion (hon.symm.trans hallowed)
        headerRouteGroup := fun _ => other }
  | routeGroup =>
    exact
      { modelType := own _ (by simp [Override.ownHeaders])
        modelName := own _ (by simp [Override.ownHeaders])
        debugFailModel := own _ (by simp [Override.ownHeaders])
        headerModel := fun _ => other
        headerRouteGroup := fun hon => Bool.noConfusion (hon.symm.trans hallowed) }

def withHeaders (h : Header) (pr : ParsedRequest) : ParsedRequest := { pr with headers := h.get }

theorem headerModel_same (same : SameChoice g.tenant h h') (pr : ParsedRequest) :
    headerModel g.tenant (g.routeInput (withHeaders h pr)) =
      headerModel g.tenant (g.routeInput (withHeaders h' pr)) := by
  unfold headerModel
  cases hon : g.tenant.selection.allowModelOverride with
  | false => rfl
  | true => exact same.headerModel hon

theorem headerRouteGroup_same (same : SameChoice g.tenant h h') (pr : ParsedRequest) :
    headerRouteGroup g.tenant (g.routeInput (withHeaders h pr)) =
      headerRouteGroup g.tenant (g.routeInput (withHeaders h' pr)) := by
  unfold headerRouteGroup
  cases hon : g.tenant.selection.allowRouteGroupOverride with
  | false => rfl
  | true => exact same.headerRouteGroup hon

theorem target_same (same : SameChoice g.tenant h h') (pr : ParsedRequest) :
    target g.tenant g.globalConfig (g.routeInput (withHeaders h pr)) =
      target g.tenant g.globalConfig (g.routeInput (withHeaders h' pr)) := by
  unfold target
  rw [headerRouteGroup_same same]
  rfl

theorem resolution_same (same : SameChoice g.tenant h h') (pr : ParsedRequest) :
    resolution g.tenant g.globalConfig (g.routeInput (withHeaders h pr)) =
      resolution g.tenant g.globalConfig (g.routeInput (withHeaders h' pr)) := by
  unfold resolution
  rw [headerModel_same same,target_same same]

theorem routeReq_same (same : SameChoice g.tenant h h') (pr : ParsedRequest) (r : PrecedenceResult) :
    routeReq g.tenant g.globalConfig (g.routeInput (withHeaders h pr)) r =
      routeReq g.tenant g.globalConfig (g.routeInput (withHeaders h' pr)) r := by
  have hfail : failModels (g.routeInput (withHeaders h pr)) =
      failModels (g.routeInput (withHeaders h' pr)) := by
    have hdebug : (g.routeInput (withHeaders h pr)).headers "X-Debug-Fail-Model" =
        (g.routeInput (withHeaders h' pr)).headers "X-Debug-Fail-Model" := same.debugFailModel
    unfold failModels
    rw [hdebug]
    rfl
  unfold routeReq
  rw [hfail,target_same same]
  rfl

theorem selectStage_same (same : SameChoice g.tenant h h') (pr : ParsedRequest)
    (r : PrecedenceResult) :
    g.selectStage (withHeaders h pr) r = g.selectStage (withHeaders h' pr) r := by
  unfold Gateway.selectStage
  dsimp only
  rw [routeReq_same same,target_same same]
  rfl

theorem toolStage_same (same : SameChoice g.tenant h h') (pr : ParsedRequest)
    (r : PrecedenceResult) :
    g.toolStage (withHeaders h pr) r = g.toolStage (withHeaders h' pr) r := by
  unfold Gateway.toolStage
  rw [selectStage_same same]
  rfl

theorem run_same (same : SameChoice g.tenant h h') (pr : ParsedRequest) :
    g.run (withHeaders h pr) = g.run (withHeaders h' pr) := by
  unfold Gateway.run
  rw [resolution_same same]
  simp only [toolStage_same same]
  rw [show (withHeaders h pr).headers "X-Model-Type" = (withHeaders h' pr).headers "X-Model-Type"
    from same.modelType]
  rfl

end Chat

section Served

variable {s : Server} {h h' : Header}

theorem orchestrate_same (same : SameChoice s.gateway.tenant h h') (p : Except String ParsedRequest) :
    s.orchestrate (p.map (withHeaders h)) = s.orchestrate (p.map (withHeaders h')) := by
  cases p with
  | error err => rfl
  | ok pr =>
    have hname : (withHeaders h pr).headers "X-Model-Name" =
        (withHeaders h' pr).headers "X-Model-Name" := same.modelName
    simp only [Except.map,Server.orchestrate]
    rw [run_same same,hname]
    rfl

theorem orchestrate_parsed (same : SameChoice s.gateway.tenant h h')
    (parse : Header → Except String ParsedRequest)
    (hparse : parse h = (parse h').map (withHeaders h))
    (hparse' : parse h' = (parse h').map (withHeaders h')) :
    s.orchestrate (parse h) = s.orchestrate (parse h') := by
  calc s.orchestrate (parse h)
      = s.orchestrate ((parse h').map (withHeaders h)) := congrArg s.orchestrate hparse
    _ = s.orchestrate ((parse h').map (withHeaders h')) := orchestrate_same same (parse h')
    _ = s.orchestrate (parse h') := congrArg s.orchestrate hparse'.symm

theorem parseAnthropicMessagesRequest_headers (h h₀ : Header)
    (decoded : Except String AnthropicMessagesRequest) :
    parseAnthropicMessagesRequest (s.call h) decoded =
      (parseAnthropicMessagesRequest (s.call h₀) decoded).map (withHeaders h) := by
  cases decoded with
  | error err => rfl
  | ok req =>
    unfold parseAnthropicMessagesRequest
    dsimp only
    split <;> rfl

theorem parseResponsesAPIRequest_headers (h h₀ : Header)
    (decoded : Except String ResponsesAPIRequest) :
    parseResponsesAPIRequest (s.call h) decoded =
      (parseResponsesAPIRequest (s.call h₀) decoded).map (withHeaders h) := by
  cases decoded with
  | error err => rfl
  | ok req =>
    unfold parseResponsesAPIRequest
    dsimp only
    cases req.input.toMessages <;> rfl

theorem parseGeminiGenerateContentRequest_headers (h h₀ : Header) (path : String) (stream : Bool)
    (decoded : Except String GeminiGenerateContentRequest) :
    parseGeminiGenerateContentRequest (s.call h) path stream decoded =
      (parseGeminiGenerateContentRequest (s.call h₀) path stream decoded).map (withHeaders h) := by
  unfold parseGeminiGenerateContentRequest
  split
  · rfl
  · cases decoded <;> rfl

theorem parseChatCompletionsRequest_headers {h h₀ : Header}
    (hml : h.get "X-Model-Type" = h₀.get "X-Model-Type") (raw : String)
    (decoded : Except String ChatCompletionRequest) :
    parseChatCompletionsRequest (s.call h) raw decoded =
      (parseChatCompletionsRequest (s.call h₀) raw decoded).map (withHeaders h) := by
  have hcall : (s.call h).headers "X-Model-Type" = (s.call h₀).headers "X-Model-Type" := hml
  unfold parseChatCompletionsRequest
  rw [hcall]
  split
  · rfl
  · cases decoded <;> rfl

theorem serve_chat_same (same : SameChoice s.gateway.tenant h h') {r : Route} (hr : r ≠ .embeddings)
    (body : r.Body) : s.serve h r body = s.serve h' r body := by
  cases r with
  | chatCompletions =>
    exact orchestrate_parsed same (fun h => parseChatCompletionsRequest (s.call h) body.1 body.2)
      (parseChatCompletionsRequest_headers same.modelType body.1 body.2)
      (parseChatCompletionsRequest_headers rfl body.1 body.2)
  | messages =>
    exact orchestrate_parsed same (fun h => parseAnthropicMessagesRequest (s.call h) body)
      (parseAnthropicMessagesRequest_headers h h' body)
      (parseAnthropicMessagesRequest_headers h' h' body)
  | responses =>
    exact orchestrate_parsed same (fun h => parseResponsesAPIRequest (s.call h) body)
      (parseResponsesAPIRequest_headers h h' body) (parseResponsesAPIRequest_headers h' h' body)
  | generateContent =>
    exact orchestrate_parsed same
      (fun h => parseGeminiGenerateContentRequest (s.call h) body.1 body.2.1 body.2.2)
      (parseGeminiGenerateContentRequest_headers h h' body.1 body.2.1 body.2.2)
      (parseGeminiGenerateContentRequest_headers h' h' body.1 body.2.1 body.2.2)
  | embeddings => exact absurd rfl hr

end Served

section Embeddings

theorem requested_empty (pr : PrecedenceResolver) : pr.requested "" "" = ("",.none) := by
  unfold PrecedenceResolver.requested
  dsimp only
  split <;> rfl

theorem requested_header (pr : PrecedenceResolver) {x : String} (hx : x ≠ "") :
    pr.requested "" x = (x,.header) := by
  unfold PrecedenceResolver.requested
  dsimp only
  split
  · exact if_pos hx
  · exact (if_neg (not_not.mpr rfl)).trans (if_pos hx)

theorem resolve_empty {pr : PrecedenceResolver} (hallowed : pr.allowed ≠ []) :
    ∃ r, pr.resolve "" "" "" = .ok r ∧ r.candidates = pr.allowed := by
  have hne : ¬pr.allowed.isEmpty = true := fun h => hallowed (List.isEmpty_iff.mp h)
  unfold PrecedenceResolver.resolve
  rw [if_neg hne,requested_empty]
  exact ⟨_,rfl,rfl⟩

theorem resolve_unknown_model {pr : PrecedenceResolver} {x : String} (hallowed : pr.allowed ≠ [])
    (hx : x ≠ "") (hunknown : x ∉ modelNames pr.allowed) :
    pr.resolve "" x "" = .error (.modelNotAllowed x pr.tenantConfig.id) := by
  have hne : ¬pr.allowed.isEmpty = true := fun h => hallowed (List.isEmpty_iff.mp h)
  unfold PrecedenceResolver.resolve PrecedenceResolver.settle
  rw [if_neg hne,requested_header pr hx]
  dsimp only
  rw [if_pos rfl,if_pos hx,if_pos (by simpa using hunknown)]

theorem resolve_unknown_group {pr : PrecedenceResolver} {x : String} (hallowed : pr.allowed ≠ [])
    (hx : x ≠ "") (hunknown : pr.group x = none) :
    pr.resolve "" "" x = .error (.routeGroupNotFound x) := by
  have hne : ¬pr.allowed.isEmpty = true := fun h => hallowed (List.isEmpty_iff.mp h)
  unfold PrecedenceResolver.resolve
  rw [if_neg hne]
  dsimp only
  rw [if_neg hx,hunknown]

theorem resolve_nothing_allowed {pr : PrecedenceResolver} (hallowed : pr.allowed = [])
    (bodyModel headerModel routeGroup : String) :
    pr.resolve bodyModel headerModel routeGroup = .error (.noAllowedModels pr.tenantConfig.id) := by
  unfold PrecedenceResolver.resolve
  rw [hallowed]
  rfl

theorem embeddings_nothing_allowed {s : Server} (hmodels : s.gateway.tenant.allowedModels = [])
    (h h' : Header) (req : EmbeddingAPIRequest) : s.embeddings h req = s.embeddings h' req := by
  have hallowed : (⟨s.gateway.tenant,s.gateway.globalConfig.models,.embedding⟩ :
      PrecedenceResolver).allowed = [] := by
    simp [PrecedenceResolver.allowed,hmodels]
  unfold Server.embeddings Server.embeddingSelection Server.embeddingResolution
  simp only [resolve_nothing_allowed hallowed]

def unheardOf (names : List String) : String :=
  String.ofList (List.replicate ((names.map String.length).sum + 1) 'x')

theorem unheardOf_notMem (names : List String) : unheardOf names ∉ names := by
  intro hmem
  have hle : (unheardOf names).length ≤ (names.map String.length).sum :=
    List.le_sum_of_mem (List.mem_map_of_mem hmem)
  simp [unheardOf] at hle

theorem unheardOf_ne_empty (names : List String) : unheardOf names ≠ "" := by
  intro h
  have hlen : (unheardOf names).length = 0 := by rw [h]; rfl
  simp [unheardOf] at hlen

def probe (tenant : TenantConfig) (name : String) : Server where
  gateway :=
    { plainGateway with
      tenant := tenant
      globalConfig := ⟨[{ name := name, provider := "openai", type := "embedding" }],none⟩ }

def probeBody : EmbeddingAPIRequest := { input := some (.arr [.str "text"]) }

variable {tenant : TenantConfig} {name : String}

def probeResolver (tenant : TenantConfig) (name : String) : PrecedenceResolver :=
  ⟨tenant,(probe tenant name).gateway.globalConfig.models,.embedding⟩

theorem probeResolver_allowed (hname : name ∈ tenant.allowedModels) :
    (probeResolver tenant name).allowed =
      [{ name := name, provider := "openai", type := "embedding" }] := by
  have hallowed : tenant.allowedModels.contains name = true := List.contains_iff_mem.mpr hname
  simp only [PrecedenceResolver.allowed,probeResolver,probe,PrecedenceResolver.routable,
    List.filter_cons,List.filter_nil,hallowed]
  rfl

theorem probe_resolution (h : Header) :
    (probe tenant name).embeddingResolution h probeBody =
      (probeResolver tenant name).resolve "" (h.get (Override.model.key tenant.selection))
        (h.get (Override.routeGroup.key tenant.selection)) := rfl

theorem probe_inputs : embeddingInputs probeBody = .ok ["text"] := rfl

theorem probe_empty (hname : name ∈ tenant.allowedModels) {h : Header}
    (hmodel : h.get (Override.model.key tenant.selection) = "")
    (hgroup : h.get (Override.routeGroup.key tenant.selection) = "") (err : PrecedenceError) :
    (probe tenant name).embeddings h probeBody ≠ .refused (.precedence err) := by
  have hallowed := probeResolver_allowed hname
  have hne : (probeResolver tenant name).allowed ≠ [] := by
    rw [hallowed]
    simp
  obtain ⟨r,hr,hcs⟩ := resolve_empty hne
  have hres : (probe tenant name).embeddingResolution h probeBody = .ok r := by
    rw [probe_resolution,hmodel,hgroup]
    exact hr
  have hcandidates : Server.filterEmbeddingCandidates r.candidates ≠ [] := by
    rw [hcs,hallowed]
    exact List.cons_ne_nil _ _
  unfold Server.embeddings Server.embeddingSelection
  rw [probe_inputs,hres]
  dsimp only
  rw [if_neg hcandidates]
  cases ((probe tenant name).gateway.router.select ((probe tenant name).embeddingRouteReq h r)).1 with
  | error err => simp
  | ok result =>
    dsimp only
    split <;> simp

theorem probe_refused {h : Header} {err : PrecedenceError}
    (hres : (probe tenant name).embeddingResolution h probeBody = .error err) :
    (probe tenant name).embeddings h probeBody = .refused (.precedence err) := by
  refine (probe tenant name).embeddings_refused probe_inputs ?_
  unfold Server.embeddingSelection
  rw [hres]

theorem probe_unknown (o : Override) (hname : name ∈ tenant.allowedModels)
    (hunshared : ¬o.Shared tenant.selection) :
    ∃ x err, (probe tenant name).embeddings (.only (o.key tenant.selection) x) probeBody =
      .refused (.precedence err) := by
  have hallowed := probeResolver_allowed hname
  have hapart : ¬Header.Same (o.other.key tenant.selection) (o.key tenant.selection) :=
    fun hsame => hunshared ⟨_,List.mem_cons_self,hsame.symm⟩
  have hne : (probeResolver tenant name).allowed ≠ [] := by rw [hallowed]; simp
  cases o with
  | model =>
    refine ⟨unheardOf [name],.modelNotAllowed (unheardOf [name]) tenant.id,probe_refused ?_⟩
    have hgroup : (Header.only (Override.model.key tenant.selection) (unheardOf [name])).get
        (Override.routeGroup.key tenant.selection) = "" := Header.get_only_of_not_same hapart _
    rw [probe_resolution,Header.get_only,hgroup]
    refine resolve_unknown_model hne (unheardOf_ne_empty _) ?_
    rw [hallowed]
    exact unheardOf_notMem [name]
  | routeGroup =>
    let groups := tenant.selection.routeGroups.getD []
    have hmodel : (Header.only (Override.routeGroup.key tenant.selection)
        (unheardOf (groups.map Prod.fst))).get (Override.model.key tenant.selection) = "" :=
      Header.get_only_of_not_same hapart _
    refine ⟨unheardOf (groups.map Prod.fst),
      .routeGroupNotFound (unheardOf (groups.map Prod.fst)),probe_refused ?_⟩
    rw [probe_resolution,Header.get_only,hmodel]
    refine resolve_unknown_group hne (unheardOf_ne_empty _) ?_
    cases hgroups : tenant.selection.routeGroups with
    | none => simp [PrecedenceResolver.group,probeResolver,hgroups]
    | some l =>
      have hnot : unheardOf (l.map Prod.fst) ∉ l.map Prod.fst := unheardOf_notMem _
      simp only [PrecedenceResolver.group,probeResolver,groups,hgroups,Option.getD_some,
        Option.bind_some]
      exact List.lookup_eq_none_iff.mpr (fun p hp => by
        have hne : unheardOf (l.map Prod.fst) ≠ p.1 :=
          fun heq => hnot (heq ▸ List.mem_map_of_mem hp)
        simpa using hne)

theorem not_ignored_of_allowed {o : Override} {a : String} (hoff : o.allowed tenant.selection = false)
    (ha : a ∈ tenant.allowedModels) (hunshared : ¬o.Shared tenant.selection) :
    ¬o.Ignored tenant .embeddings := by
  intro hignored
  obtain ⟨x,err,hrefused⟩ := probe_unknown o ha hunshared
  have hdiffer : o.DifferOnly tenant.selection (.only (o.key tenant.selection) "")
      (.only (o.key tenant.selection) x) :=
    { rest := Header.agreeBut_only _ _ _
      otherUses := fun k hk => by
        have hapart : ¬Header.Same k (o.key tenant.selection) :=
          fun hsame => hunshared ⟨k,hk,hsame.symm⟩
        rw [Header.get_only_of_not_same hapart,Header.get_only_of_not_same hapart] }
  have hnothing : ∀ k, (Header.only (o.key tenant.selection) "").get k = "" := fun k => ite_self _
  have hserved := hignored hoff (probe tenant a) (.ok probeBody) _ _ rfl hdiffer
  have hcourse : (probe tenant a).embeddings (.only (o.key tenant.selection) "") probeBody =
      .refused (.precedence err) := by
    rw [← hrefused]
    exact Course.embedded.inj hserved
  exact probe_empty ha (hnothing _) (hnothing _) err hcourse

end Embeddings

theorem override_ignored_iff (o : Override) (tenant : TenantConfig) (r : Route) :
    o.Ignored tenant r ↔ o.allowed tenant.selection = true ∨ r ≠ .embeddings ∨
      tenant.allowedModels = [] ∨ o.Shared tenant.selection := by
  constructor
  · intro hignored
    by_contra hnot
    simp only [not_or,Bool.not_eq_true,not_not] at hnot
    obtain ⟨hoff,rfl,hmodels,hunshared⟩ := hnot
    obtain ⟨a,ha⟩ := List.exists_mem_of_ne_nil _ hmodels
    exact not_ignored_of_allowed hoff ha hunshared hignored
  · rintro (hon | hchat | hnone | hshared) hoff s body h h' htenant hdiffer
    · exact Bool.noConfusion (hon.symm.trans hoff)
    · subst htenant
      exact serve_chat_same (sameChoice_of_differOnly hoff hdiffer) hchat body
    · subst htenant
      by_cases hr : r = .embeddings
      · subst hr
        cases body with
        | error err => rfl
        | ok req => exact congrArg Course.embedded (embeddings_nothing_allowed hnone h h' req)
      · exact serve_chat_same (sameChoice_of_differOnly hoff hdiffer) hr body
    · rw [hdiffer.eq_of_shared hshared]

def embeddingTenant : TenantConfig where
  id := "acme"
  allowedModels := ["small","large"]
  routing := { strategy := "header" }
  rateLimit := ⟨60,10⟩
  compliance := ⟨30,"metadata"⟩

def embeddingServer : Server where
  gateway :=
    { plainGateway with
      tenant := embeddingTenant
      globalConfig :=
        ⟨[{ name := "small", provider := "openai", type := "embedding" },
          { name := "large", provider := "openai", type := "embedding" }],none⟩ }
  embeddingProviderFor := fun _ => true

theorem header_chooses_embedding_model :
    ¬Override.model.Ignored embeddingTenant .embeddings ∧
      embeddingServer.embeddings (.only "X-Model" "") probeBody =
        .attempted ["small","large"]
          [.allow "openai" (.admitted false),.createEmbedding "openai" ⟨"small",["text"],""⟩,
            .report "openai" .success false] (.ok "small") ∧
      embeddingServer.embeddings (.only "X-Model" "large") probeBody =
        .attempted ["large","small"]
          [.allow "openai" (.admitted false),.createEmbedding "openai" ⟨"large",["text"],""⟩,
            .report "openai" .success false] (.ok "large") := by
  have hsmall : embeddingServer.embeddings (.only "X-Model" "") probeBody =
      .attempted ["small","large"]
        [.allow "openai" (.admitted false),.createEmbedding "openai" ⟨"small",["text"],""⟩,
          .report "openai" .success false] (.ok "small") := by decide
  have hlarge : embeddingServer.embeddings (.only "X-Model" "large") probeBody =
      .attempted ["large","small"]
        [.allow "openai" (.admitted false),.createEmbedding "openai" ⟨"large",["text"],""⟩,
          .report "openai" .success false] (.ok "large") := by decide
  refine ⟨?_,hsmall,hlarge⟩
  intro hignored
  have hdiffer : Override.model.DifferOnly embeddingTenant.selection (.only "X-Model" "")
      (.only "X-Model" "large") := ⟨Header.agreeBut_only _ _ _,by decide⟩
  have hserved := hignored rfl embeddingServer (.ok probeBody) _ _ rfl hdiffer
  have hsame : embeddingServer.embeddings (.only "X-Model" "") probeBody =
      embeddingServer.embeddings (.only "X-Model" "large") probeBody := Course.embedded.inj hserved
  rw [hsmall,hlarge] at hsame
  exact absurd hsame (by decide)

end PrismGateway.Api
