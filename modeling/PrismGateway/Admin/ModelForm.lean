import PrismGateway.Admin.ModelPatch

namespace PrismGateway.Admin

open Lib Config.Schemas Storage

structure ExecutionInput where
  endpoint : Option String := none
  protocol : Option String := none

structure PricingInput where
  promptPer1M : Option Float := none
  cachedInputPer1M : Option Float := none
  completionPer1M : Option Float := none

structure MockInput where
  enabled : Option Bool := none
  delayMinMs : Option Int := none
  delayMaxMs : Option Int := none
  errorRate : Option Float := none
  errorStatus : Option Int := none
  errorMessage : Option String := none
  fixedResponse : Option String := none

/-- The values of the edit form, as the types of `CatalogLikeModelPatch` have them; `canonicalEnabled`
is its `Enabled`. -/
structure CatalogLikeModelPatch where
  canonicalEnabled : Option Bool := none
  enabled : Option Bool := none
  provider : Option String := none
  type : Option String := none
  infrastructureMonthlyUSD : Option Float := none
  markupPercentage : Option Float := none
  providerModelID : Option String := none
  name : Option String := none
  baseURL : Option String := none
  execution : Option ExecutionInput := none
  observable : Option (List ObservableField) := none
  pricing : Option PricingInput := none
  mock : Option MockInput := none

namespace CatalogLikeModelPatch

def entry (key : String) (value : Option Json) : Json.Entries := value.toList.map (fun j => (key,j))

def group (key : String) (entries : Json.Entries) : Json.Entries :=
  if entries.isEmpty then [] else [(key,.obj entries)]

def trimmed (s : Option String) : Option Json :=
  (s.map Frontend.trim).bind (fun s => if s = "" then none else some (.str s))

def finite (x : Option Float) : Option Json := x.bind (fun x => if x.isFinite then some (.num x) else none)

def integer (i : Option Int) : Option Json := i.map (fun i => .num (Float.ofInt i))

def executionEntries (e : ExecutionInput) : Json.Entries :=
  entry "endpoint" (trimmed e.endpoint) ++ entry "protocol" (trimmed e.protocol)

def observableFields (fields : List ObservableField) : Json :=
  .arr (((fields.map (fun f => { f with path := Frontend.trim f.path })).filter (fun f => f.path ≠ "")).map
    (fun f => .obj [("path",.str f.path),("type",.str f.type),("role",.str f.role)]))

def pricingEntries (p : PricingInput) : Json.Entries :=
  entry "PromptPer1M" (finite p.promptPer1M) ++ entry "CompletionPer1M" (finite p.completionPer1M)

def mockEntries (m : MockInput) : Json.Entries :=
  entry "Enabled" (m.enabled.map .bool) ++
  entry "DelayMinMs" (integer m.delayMinMs) ++
  entry "DelayMaxMs" (integer m.delayMaxMs) ++
  entry "ErrorRate" (finite m.errorRate) ++
  entry "ErrorStatus" (integer m.errorStatus) ++
  entry "ErrorMessage" (m.errorMessage.map .str) ++
  entry "FixedResponse" (m.fixedResponse.map .str)

def buildAdminModelPatchPayload (input : CatalogLikeModelPatch) : Json :=
  .obj (entry "Enabled" ((input.canonicalEnabled <|> input.enabled).map .bool) ++
    entry "Provider" (input.provider.map .str) ++
    entry "Type" (input.type.map .str) ++
    entry "infrastructure_monthly_usd" (finite input.infrastructureMonthlyUSD) ++
    entry "markup_percentage" (finite input.markupPercentage) ++
    entry "provider_model_id" (trimmed input.providerModelID) ++
    entry "name" (trimmed input.name) ++
    entry "base_url" (input.baseURL.map (fun s => .str (Frontend.trim s))) ++
    group "execution" (input.execution.elim [] executionEntries) ++
    entry "observable" (input.observable.map (fun l => .obj [("fields",observableFields l)])) ++
    group "Pricing" (input.pricing.elim [] pricingEntries) ++
    group "Mock" (input.mock.elim [] mockEntries))

end CatalogLikeModelPatch

namespace ModelEdit

def pricingFields : Fields :=
  match pricing with
  | .struct _ fs => fs
  | _ => .nil

def priceOf (m : modelConfig.Val) : Json.Number :=
  match m with
  | (_,_,_,_,pricing,_) => (pricesOf pricing).1

theorem price_of_lands {patch es : Json.Entries} {before : modelConfig.Val} {p : Float}
    (hgroup : mentions aliases modelFields.names "Pricing" patch = [("Pricing",.obj es)])
    (hprice : mentions (spellings "Pricing") pricingFields.names "prompt_per_1m" es =
      [("PromptPer1M",.num p)])
    (h : Lands patch before) : Json.Number.ofFloat p = some (priceOf before) := by
  have hpricing : (⟨{ name := "Pricing" },pricing,before.2.2.2.2.1⟩ : Item) ∈ modelFields.items before :=
    .tail _ (.tail _ (.tail _ (.tail _ (.head _))))
  have hprompt : (⟨{ name := "prompt_per_1m" },.float,before.2.2.2.2.1.1⟩ : Item) ∈
      pricingFields.items before.2.2.2.2.1 := .head _
  have hedit : Editable "Pricing" := show "Pricing" ≠ "Name" by decide
  have hlands := h _ hpricing hedit
  dsimp only at hlands
  rw [hgroup] at hlands
  have htaken : pricingFields.Taken (spellings "Pricing") (placing [] pricingFields.names) es
      before.2.2.2.2.1 := hlands
  have htakes := htaken _ hprompt
  dsimp only at htakes
  rw [hprice] at htakes
  have hunknown : fieldFor pricingFields.names "PromptPer1M" = none := by decide
  have hlost : placing [] pricingFields.names
      ⟨{ name := "prompt_per_1m" },.float,before.2.2.2.2.1.1⟩ "PromptPer1M" (.num p) = .lost := by
    simp [placing,hunknown,Json.isNull]
  have hkept : (⟨{ name := "prompt_per_1m" },.float,before.2.2.2.2.1.1⟩ : Item).kept =
      some before.2.2.2.2.1.1 :=
    (Item.settle_singleton _ _).trans (Json.Number.ofFloat_val _)
  rw [Asked,hlost,Item.Takes,hkept] at htakes
  exact htakes

def stored : Json :=
  .obj [("models",.arr [.obj [("Name",.str "gpt-4o"),("Pricing",.obj [("prompt_per_1m",.num 1)]),
      ("Provider",.str "openai")]]),
    ("providers",.obj [("openai",.obj [])])]

def storedDb : Global.Db := ⟨[⟨1,stored,"seed-from-yaml"⟩],some 1,2,[]⟩

def noYaml : YamlConfig := ⟨globalConfig.zero,[]⟩

def repriced : CatalogLikeModelPatch where
  canonicalEnabled := some true
  provider := some "openai"
  type := some ""
  infrastructureMonthlyUSD := some 0
  markupPercentage := some 0
  baseURL := some ""
  pricing := some { promptPer1M := some 2 }

def saveForm (form : CatalogLikeModelPatch) : Global.Db × Except Failure ModelPatched :=
  adminPatchModel noYaml (some (stored,1)) storedDb "gpt-4o" (.version 1)
    (.ok form.buildAdminModelPatchPayload) Global.admin

theorem form_saved : ∃ db' reply, saveForm repriced = (db',.ok reply) := by
  have hok : (saveForm repriced).2.toOption.isSome = true := by decide
  cases hsave : saveForm repriced with
  | mk db' answer =>
    rw [hsave] at hok
    cases answer with
    | error failure => cases hok
    | ok reply => exact ⟨db',reply,rfl⟩

theorem stored_prices : (globalConfig.decode stored globalConfig.zero).map
    (fun gc => (modelsOf gc).map (fun m => (priceOf m).val)) = some [1] := by
  decide

theorem repriced_sent : ∃ patch es, asMap (parsed repriced.buildAdminModelPatchPayload) = some patch ∧
    mentions aliases modelFields.names "Pricing" patch = [("Pricing",.obj es)] ∧
    mentions (spellings "Pricing") pricingFields.names "prompt_per_1m" es =
      [("PromptPer1M",.num 2)] :=
  ⟨_,_,rfl,rfl,rfl⟩

theorem ui_price_not_in_force : ∃ db' reply gc gc' patch index, saveForm repriced = (db',.ok reply) ∧
    Saved noYaml (some (stored,1)) storedDb db' "gpt-4o" repriced.buildAdminModelPatchPayload
      reply.version gc gc' patch ∧
    (modelsOf gc).findIdx? (fun m => nameOf m = "gpt-4o") = some index ∧
    ¬ InForce patch gc (stripProviderSecretsForStorage gc') index := by
  obtain ⟨db',reply,hsave⟩ := form_saved
  obtain ⟨gc,gc',patch,hsaved⟩ := saved_of_ok hsave
  obtain ⟨index,before,hindex,hbefore,hiff⟩ := in_force_iff hsaved.sent hsaved.edited
  refine ⟨db',reply,gc,gc',patch,index,hsave,hsaved,hindex,fun hforce => ?_⟩
  obtain ⟨patch',es,hsent,hgroup,hprice⟩ := repriced_sent
  have hpatch : patch' = patch := Option.some.inj (hsent.symm.trans hsaved.sent)
  have htwo := price_of_lands (hpatch ▸ hgroup) hprice (hiff.mp hforce)
  have hone : (priceOf before).val = 1 := by
    obtain ⟨v,hcurrent⟩ := hsaved.current
    have hprices := stored_prices
    rw [currentConfig] at hcurrent
    cases hdecode : globalConfig.decode stored globalConfig.zero with
    | none =>
      rw [hdecode] at hcurrent
      cases hcurrent
    | some gc₀ =>
      rw [hdecode] at hcurrent hprices
      cases hcurrent
      have hmem : (priceOf before).val ∈ [(1 : Float)] := by
        rw [← Option.some.inj hprices]
        exact List.mem_map_of_mem (List.mem_of_getElem? hbefore)
      exact List.mem_singleton.mp hmem
  have hvalue : (Json.Number.ofFloat 2).map (fun x => x.val) = some 1 := by
    rw [htwo]
    exact congrArg some hone
  exact absurd hvalue (by decide)

theorem type_edit_saved : ∃ db' reply, adminPatchModel noYaml (some (stored,1)) storedDb "gpt-4o"
      (.version 1) (.ok (.obj [("Type",.str "embedding")])) Global.admin = (db',.ok reply) ∧
    ∃ gc gc' patch index before, Saved noYaml (some (stored,1)) storedDb db' "gpt-4o"
        (.obj [("Type",.str "embedding")]) reply.version gc gc' patch ∧
      (modelsOf gc).findIdx? (fun m => nameOf m = "gpt-4o") = some index ∧
      (modelsOf gc)[index]? = some before ∧
      (InForce patch gc (stripProviderSecretsForStorage gc') index ↔ Lands patch before) := by
  have hok : (adminPatchModel noYaml (some (stored,1)) storedDb "gpt-4o" (.version 1)
      (.ok (.obj [("Type",.str "embedding")])) Global.admin).2.toOption.isSome = true := by
    decide
  cases hsave : adminPatchModel noYaml (some (stored,1)) storedDb "gpt-4o" (.version 1)
      (.ok (.obj [("Type",.str "embedding")])) Global.admin with
  | mk db' answer =>
    rw [hsave] at hok
    cases answer with
    | error failure => cases hok
    | ok reply => exact ⟨db',reply,rfl,model_edit_in_force_iff hsave⟩

end ModelEdit

end PrismGateway.Admin
