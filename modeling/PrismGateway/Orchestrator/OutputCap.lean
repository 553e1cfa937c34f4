import PrismGateway.Api.WireFormat
import PrismGateway.Orchestrator.Independence

namespace PrismGateway.Orchestrator

open Lib Config Router Api

def chatTypes : List String := ["","chat","llm"]

def underCap (cap : Int) (client : Option Int) : Int :=
  client.elim cap (fun asked => min asked cap)

theorem cap_eq_underCap_iff {cap : Int} {client : Option Int} :
    cap = underCap cap client ↔ ∀ asked, client = some asked → cap ≤ asked := by
  cases client with
  | none => simp [underCap]
  | some asked =>
    simp only [underCap,Option.elim_some,Option.some.injEq,forall_eq']
    omega

theorem client_eq_underCap_iff {cap : Int} {client : Option Int} :
    client = some (underCap cap client) ↔ ∃ asked, client = some asked ∧ asked ≤ cap := by
  cases client with
  | none => simp
  | some asked =>
    simp only [underCap,Option.elim_some,Option.some.injEq]
    constructor
    · intro h
      exact ⟨asked,rfl,by omega⟩
    · rintro ⟨_,rfl,hle⟩
      omega

namespace Env

def CapHonoured (env : Env) (cap : Int) (client : Option Int) (candidates : List String) : Prop :=
  ∀ o n req, .send n req ∈ (env.run o candidates).1 →
    ∀ m, env.globalConfig.modelByName n = some m → m.type ∈ chatTypes →
      req.maxTokens = some (underCap cap client)

def Suits (env : Env) (cap : Int) (client : Option Int) (earlier : List String) (m : ModelConfig) : Prop :=
  if env.capped m ∨ env.anyCapped earlier then ∀ asked, client = some asked → cap ≤ asked
  else ∃ asked, client = some asked ∧ asked ≤ cap

def AsksRight (env : Env) (cap : Int) (client : Option Int) (candidates : List String) : Prop :=
  EveryEntered (fun _ n => env.stops n = false)
    (fun i n => ∀ m, env.sendable n = some m → m.type ∈ chatTypes →
      env.Suits cap client ((env.tried candidates).take i) m)
    (env.tried candidates)

theorem maxTokens_prepare (env : Env) (m : ModelConfig) (names : List String) :
    (env.prepare m (env.preparedAll names env.provReq)).maxTokens =
      if env.capped m ∨ env.anyCapped names then some env.cap else env.provReq.maxTokens := by
  obtain ⟨model,hall⟩ := env.preparedAll_eq names env.provReq
  rw [hall,prepare]
  by_cases hm : env.capped m = true
  · simp [hm]
  · simp [hm]

theorem maxTokens_right_iff {env : Env} {cap : Int} {client : Option Int} (hcap : env.cap = cap)
    (hclient : env.provReq.maxTokens = client) (m : ModelConfig) (names : List String) :
    (env.prepare m (env.preparedAll names env.provReq)).maxTokens = some (underCap cap client) ↔
      env.Suits cap client names m := by
  rw [maxTokens_prepare,hcap,hclient,Suits]
  split_ifs with hset
  · rw [Option.some.injEq]
    exact cap_eq_underCap_iff
  · exact client_eq_underCap_iff

theorem cap_honoured_iff {env : Env} {cap : Int} {client : Option Int} (hcap : env.cap = cap)
    (hclient : env.provReq.maxTokens = client) (candidates : List String) :
    env.CapHonoured cap client candidates ↔ env.AsksRight cap client candidates := by
  constructor
  · intro h i n hn hent m hm htype
    have hsent := attempts_send (j := i) hm (env.tried candidates) 0 ⟨env.provReq,none⟩ i
      (Nat.zero_add i) hn hent
    have hmodel := (usable_eq_some.mp (sendable_eq_some.mp hm).1).1
    exact (maxTokens_right_iff hcap hclient m _).mp (h _ n _ hsent m hmodel htype)
  · intro h o n req hsent m hmodel htype
    obtain ⟨i,m',hn,hent,hm,rfl⟩ := send_of_attempts _ _ _ hsent
    obtain rfl : m' = m :=
      Option.some_injective _ ((usable_eq_some.mp (sendable_eq_some.mp hm).1).1.symm.trans hmodel)
    exact (maxTokens_right_iff hcap hclient m' _).mpr (h i n hn hent m' hm htype)

end Env

namespace Gateway

variable {g : Gateway} {pr : ParsedRequest} {req : ChatRequest} {selected passed : List String} {cap : Int}

theorem maxTokens_of_preRequest
    (hhooks : (g.preRequest g.hooks (provReq pr) selected).2 = .ok (req,passed)) :
    req.maxTokens = pr.maxTokens := by
  rcases preRequest_result (g := g) g.hooks (provReq pr) selected with
    ⟨status,message,kind,hres⟩ | ⟨messages,passed',hres⟩
  · rw [hres] at hhooks
    cases hhooks
  · rw [hres] at hhooks
    cases hhooks
    rfl

theorem cap_env (hcap : g.tenant.maxOutputTokens = some cap) (hpos : 0 < cap) :
    (g.env pr req).cap = cap := by
  rw [Env.cap,env,hcap]
  exact if_neg (by omega)

theorem output_cap_iff (hcap : g.tenant.maxOutputTokens = some cap) (hpos : 0 < cap)
    (hhooks : (g.preRequest g.hooks (provReq pr) selected).2 = .ok (req,passed))
    (candidates : List String) :
    (g.env pr req).CapHonoured cap pr.maxTokens candidates ↔
      (g.env pr req).AsksRight cap pr.maxTokens candidates :=
  Env.cap_honoured_iff (cap_env hcap hpos) (maxTokens_of_preRequest hhooks) candidates

end Gateway

def cappedGateway (type : String) : Gateway :=
  { plainGateway with
    tenant := { ignoresGroup with maxOutputTokens := some 200 }
    globalConfig := ⟨[{ name := "opus",provider := "anthropic",type := type }],none⟩ }

def greeting (client : Option Int) : ParsedRequest :=
  { tenantID := "acme",messages := [{ role := "user",content := some (.str "Hi") }],maxTokens := client
    headers := fun _ => "",apiStyle := .openAIChat }

theorem cap_not_honoured :
    (¬((cappedGateway "llm").env (greeting (some 50)) (Gateway.provReq (greeting (some 50)))).CapHonoured 200
        (some 50) ["opus"]) ∧
      ¬((cappedGateway "chat").env (greeting none) (Gateway.provReq (greeting none))).CapHonoured 200
        none ["opus"] := by
  constructor
  · intro h
    have hsent : .send "opus" { model := "opus",messages := [{ role := "user",content := "Hi" }]
                                maxTokens := some 200 } ∈
        (((cappedGateway "llm").env (greeting (some 50)) (Gateway.provReq (greeting (some 50)))).run
          plainGateway.outcomes ["opus"]).1 := by
      decide
    exact absurd (h _ _ _ hsent _ rfl (by decide)) (by decide)
  · intro h
    have hsent : .send "opus" { model := "opus",messages := [{ role := "user",content := "Hi" }] } ∈
        (((cappedGateway "chat").env (greeting none) (Gateway.provReq (greeting none))).run
          plainGateway.outcomes ["opus"]).1 := by
      decide
    exact absurd (h _ _ _ hsent _ rfl (by decide)) (by decide)

open Env in
theorem cap_lowers :
    ((cappedGateway "llm").env (greeting (some 500)) (Gateway.provReq (greeting (some 500)))).CapHonoured 200
      (some 500) ["opus"] := by
  refine (@Gateway.output_cap_iff (cappedGateway "llm") (greeting (some 500)) _ [] [] 200 rfl (by decide)
    rfl ["opus"]).mpr fun i n _ _ m hm htype => ?_
  have hmem := List.mem_of_find?_eq_some (usable_eq_some.mp (sendable_eq_some.mp hm).1).1
  rw [List.mem_singleton.mp hmem,Suits,if_pos (.inl (by decide))]
  rintro asked ⟨⟩
  decide

end PrismGateway.Orchestrator
