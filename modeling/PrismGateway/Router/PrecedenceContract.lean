import PrismGateway.Router.Precedence

namespace PrismGateway.Router

open Lib Config

def PrecedenceError.typed : PrecedenceError → Bool
  | .invalidConflictPolicy _ => false
  | .emptyRouteGroup _ => false
  | _ => true

def PrecedenceResult.GroupIgnored (r : PrecedenceResult) : Prop :=
  r.decisionReason = "explicit_" ++ r.requestedSource.text ++ "|group_ignored"

namespace PrecedenceResolver

variable (pr : PrecedenceResolver) (bodyModel headerModel routeGroup : String)

structure Answers (r : PrecedenceResult) : Prop where
  nonempty : r.candidates ≠ []
  allowed : ∀ c ∈ r.candidates, c ∈ pr.globalModels ∧ c.name ∈ pr.tenantConfig.allowedModels ∧
    routable pr.targetType c = true
  grouped : routeGroup ≠ "" → ¬r.GroupIgnored →
    ∃ g, pr.group routeGroup = some g ∧ ∀ c ∈ r.candidates, c.name ∈ g
  forced : r.forcedModel = "" ∨ r.forcedModel ∈ modelNames r.candidates

/-- What `Resolve` promises: a pool that can be used, or an error that has its own type. -/
structure Contract : Prop where
  answers : ∀ r, pr.resolve bodyModel headerModel routeGroup = .ok r → pr.Answers routeGroup r
  typed : ∀ e, pr.resolve bodyModel headerModel routeGroup = .error e → e.typed = true

def grouped (g : List String) : List ModelConfig := pr.allowed.filter (fun c => g.contains c.name)

def Usable : Prop :=
  pr.allowed = [] ∨ routeGroup = "" ∨ ∀ g, pr.group routeGroup = some g →
    let model := (pr.requested bodyModel headerModel).1
    if model ≠ "" ∧ model ∉ g then
      pr.conflictPolicy = "error" ∨ pr.conflictPolicy = "ignore_group" ∧ model ∈ modelNames pr.allowed ∨
        pr.conflictPolicy = "ignore_model" ∧ pr.grouped g ≠ []
    else pr.grouped g ≠ []

variable {pr routeGroup} {model : String} {source : RequestedSource} {candidates : List ModelConfig}
  {g : List String}

theorem mem_allowed {c : ModelConfig} (h : c ∈ pr.allowed) : c ∈ pr.globalModels ∧
    c.name ∈ pr.tenantConfig.allowedModels ∧ routable pr.targetType c = true := by
  obtain ⟨hmem,hallowed⟩ := List.mem_filter.mp h
  obtain ⟨hname,htype⟩ := Bool.and_eq_true_iff.mp hallowed
  exact ⟨hmem,List.contains_iff_mem.mp hname,htype⟩

theorem mem_grouped {c : ModelConfig} (h : c ∈ pr.grouped g) : c ∈ pr.allowed ∧ c.name ∈ g := by
  obtain ⟨hmem,hname⟩ := List.mem_filter.mp h
  exact ⟨hmem,List.contains_iff_mem.mp hname⟩

theorem settle_ok {r : PrecedenceResult}
    (h : pr.settle model source routeGroup candidates = .ok r) : r.candidates = candidates ∧
      (r.forcedModel = "" ∨ r.forcedModel ∈ modelNames r.candidates) := by
  have hforced : r.forcedModel = "" ∨ r.forcedModel ∈ modelNames r.candidates := by
    by_cases hempty : r.forcedModel = ""
    · exact .inl hempty
    · exact .inr (settle_forced h hempty)
  refine ⟨?_,hforced⟩
  unfold settle at h
  split_ifs at h
  all_goals
    cases h
    rfl

theorem settle_error {e : PrecedenceError}
    (h : pr.settle model source routeGroup candidates = .error e) : e.typed = true := by
  unfold settle at h
  split_ifs at h
  cases h
  rfl

theorem answers_of_settle {r : PrecedenceResult} (hne : candidates ≠ [])
    (hallowed : ∀ c ∈ candidates, c ∈ pr.allowed)
    (hgroup : routeGroup ≠ "" → ∃ g, pr.group routeGroup = some g ∧ ∀ c ∈ candidates, c.name ∈ g)
    (h : pr.settle model source routeGroup candidates = .ok r) : pr.Answers routeGroup r := by
  obtain ⟨hcandidates,hforced⟩ := settle_ok h
  refine ⟨?_,?_,?_,hforced⟩
  · rwa [hcandidates]
  · rw [hcandidates]
    exact fun c hc => mem_allowed (hallowed c hc)
  · rw [hcandidates]
    exact fun hnamed _ => hgroup hnamed

theorem conflict_cases :
    pr.conflictPolicy = "error" ∧ pr.conflict model source routeGroup candidates =
        .error (.modelNotInRouteGroup model routeGroup) ∨
      (∃ r, pr.conflictPolicy = "ignore_group" ∧
        pr.conflict model source routeGroup candidates = .ok r ∧ r.forcedModel = model ∧
          r.candidates = pr.allowed ∧ r.GroupIgnored) ∨
      (∃ r, pr.conflictPolicy = "ignore_model" ∧
        pr.conflict model source routeGroup candidates = .ok r ∧ r.forcedModel = "" ∧
          r.candidates = candidates) ∨
      (pr.conflictPolicy ≠ "error" ∧ pr.conflictPolicy ≠ "ignore_group" ∧
        pr.conflictPolicy ≠ "ignore_model") ∧ pr.conflict model source routeGroup candidates =
          .error (.invalidConflictPolicy pr.conflictPolicy) := by
  unfold conflict
  split_ifs with herror hgroup hmodel
  · exact .inl ⟨herror,rfl⟩
  · exact .inr (.inl ⟨_,hgroup,rfl,rfl,rfl,rfl⟩)
  · exact .inr (.inr (.inl ⟨_,hmodel,rfl,rfl,rfl⟩))
  · exact .inr (.inr (.inr ⟨⟨herror,hgroup,hmodel⟩,rfl⟩))

theorem resolve_of_empty (h : pr.allowed = []) :
    pr.resolve bodyModel headerModel routeGroup = .error (.noAllowedModels pr.tenantConfig.id) := by
  simp only [resolve,h,List.isEmpty_nil,if_true]

theorem resolve_of_ungrouped (h : pr.allowed ≠ []) : pr.resolve bodyModel headerModel "" =
    pr.settle (pr.requested bodyModel headerModel).1 (pr.requested bodyModel headerModel).2 ""
      pr.allowed := by
  have hne : pr.allowed.isEmpty = false := List.isEmpty_eq_false_iff.mpr h
  simp only [resolve,hne,Bool.false_eq_true,if_false,if_true]

theorem resolve_of_missing (h : pr.allowed ≠ []) (hnamed : routeGroup ≠ "")
    (hgroup : pr.group routeGroup = none) :
    pr.resolve bodyModel headerModel routeGroup = .error (.routeGroupNotFound routeGroup) := by
  have hne : pr.allowed.isEmpty = false := List.isEmpty_eq_false_iff.mpr h
  simp only [resolve,hne,Bool.false_eq_true,if_false,if_neg hnamed,hgroup]

theorem resolve_of_grouped (h : pr.allowed ≠ []) (hnamed : routeGroup ≠ "")
    (hgroup : pr.group routeGroup = some g) : pr.resolve bodyModel headerModel routeGroup =
      if (pr.requested bodyModel headerModel).1 ≠ "" ∧ (pr.requested bodyModel headerModel).1 ∉ g then
        pr.conflict (pr.requested bodyModel headerModel).1 (pr.requested bodyModel headerModel).2
          routeGroup (pr.grouped g)
      else if pr.grouped g = [] then .error (.emptyRouteGroup routeGroup)
      else pr.settle (pr.requested bodyModel headerModel).1 (pr.requested bodyModel headerModel).2
        routeGroup (pr.grouped g) := by
  have hne : pr.allowed.isEmpty = false := List.isEmpty_eq_false_iff.mpr h
  simp only [resolve,hne,Bool.false_eq_true,if_false,if_neg hnamed,hgroup,Bool.not_eq_true',
    List.contains_eq_mem,decide_eq_false_iff_not,List.isEmpty_iff,grouped]

theorem contract_of_error {e : PrecedenceError}
    (h : pr.resolve bodyModel headerModel routeGroup = .error e) (htyped : e.typed = true) :
    pr.Contract bodyModel headerModel routeGroup := by
  refine ⟨fun r hr => ?_,fun e' he' => ?_⟩
  · rw [h] at hr
    cases hr
  · rw [h] at he'
    cases he'
    exact htyped

theorem contract_ok_iff {r : PrecedenceResult}
    (h : pr.resolve bodyModel headerModel routeGroup = .ok r) :
    pr.Contract bodyModel headerModel routeGroup ↔ pr.Answers routeGroup r := by
  refine ⟨fun hc => hc.answers r h,fun hr => ⟨fun r' hr' => ?_,fun e he => ?_⟩⟩
  · rw [h] at hr'
    cases hr'
    exact hr
  · rw [h] at he
    cases he

theorem contract_of_settle (hne : candidates ≠ []) (hallowed : ∀ c ∈ candidates, c ∈ pr.allowed)
    (hgroup : routeGroup ≠ "" → ∃ g, pr.group routeGroup = some g ∧ ∀ c ∈ candidates, c.name ∈ g)
    (h : pr.resolve bodyModel headerModel routeGroup =
      pr.settle model source routeGroup candidates) : pr.Contract bodyModel headerModel routeGroup :=
  ⟨fun _ hr => answers_of_settle hne hallowed hgroup (h.symm.trans hr),
    fun _ he => settle_error (h.symm.trans he)⟩

theorem contract_conflict_iff (hallowed : pr.allowed ≠ []) (hgroup : pr.group routeGroup = some g)
    (hmodel : model ≠ "") (h : pr.resolve bodyModel headerModel routeGroup =
      pr.conflict model source routeGroup (pr.grouped g)) :
    pr.Contract bodyModel headerModel routeGroup ↔
      (pr.conflictPolicy = "error" ∨
        pr.conflictPolicy = "ignore_group" ∧ model ∈ modelNames pr.allowed ∨
          pr.conflictPolicy = "ignore_model" ∧ pr.grouped g ≠ []) := by
  rcases @conflict_cases pr routeGroup model source (pr.grouped g) with ⟨hpolicy,hresult⟩ |
    ⟨r,hpolicy,hresult,hforced,hcandidates,hignored⟩ | ⟨r,hpolicy,hresult,hforced,hcandidates⟩ |
      ⟨⟨herror,hignoreGroup,hignoreModel⟩,hresult⟩
  · exact iff_of_true (contract_of_error bodyModel headerModel (h.trans hresult) rfl) (.inl hpolicy)
  · rw [contract_ok_iff bodyModel headerModel (h.trans hresult),hpolicy]
    constructor
    · intro hr
      have hmem := hr.forced.resolve_left (by rwa [hforced])
      rw [hforced,hcandidates] at hmem
      exact .inr (.inl ⟨rfl,hmem⟩)
    · rintro (hp | ⟨-,hmem⟩ | ⟨hp,-⟩)
      · exact absurd hp (by decide)
      · refine ⟨?_,?_,fun _ hnot => absurd hignored hnot,.inr ?_⟩
        · rwa [hcandidates]
        · rw [hcandidates]
          exact fun c hc => mem_allowed hc
        · rwa [hforced,hcandidates]
      · exact absurd hp (by decide)
  · rw [contract_ok_iff bodyModel headerModel (h.trans hresult),hpolicy]
    constructor
    · intro hr
      have hne := hr.nonempty
      rw [hcandidates] at hne
      exact .inr (.inr ⟨rfl,hne⟩)
    · rintro (hp | ⟨hp,-⟩ | ⟨-,hne⟩)
      · exact absurd hp (by decide)
      · exact absurd hp (by decide)
      · refine ⟨?_,?_,fun _ _ => ⟨g,hgroup,?_⟩,.inl hforced⟩
        · rwa [hcandidates]
        · rw [hcandidates]
          exact fun c hc => mem_allowed (mem_grouped hc).1
        · rw [hcandidates]
          exact fun c hc => (mem_grouped hc).2
  · refine iff_of_false (fun hc => ?_) ?_
    · exact absurd (hc.typed _ (h.trans hresult)) (by simp [PrecedenceError.typed])
    · rintro (hp | ⟨hp,-⟩ | ⟨hp,-⟩)
      · exact herror hp
      · exact hignoreGroup hp
      · exact hignoreModel hp

theorem contract_iff (pr : PrecedenceResolver) (bodyModel headerModel routeGroup : String) :
    pr.Contract bodyModel headerModel routeGroup ↔ pr.Usable bodyModel headerModel routeGroup := by
  unfold Usable
  by_cases hallowed : pr.allowed = []
  · exact iff_of_true (contract_of_error _ _ (resolve_of_empty _ _ hallowed) rfl) (.inl hallowed)
  rw [or_iff_right hallowed]
  by_cases hnamed : routeGroup = ""
  · subst hnamed
    refine iff_of_true ?_ (.inl rfl)
    exact contract_of_settle _ _ hallowed (fun _ hc => hc) (fun hne => absurd rfl hne)
      (resolve_of_ungrouped _ _ hallowed)
  rw [or_iff_right hnamed]
  cases hgroup : pr.group routeGroup with
  | none =>
    refine iff_of_true ?_ nofun
    exact contract_of_error _ _ (resolve_of_missing _ _ hallowed hnamed hgroup) rfl
  | some g =>
    have hresolve := resolve_of_grouped bodyModel headerModel hallowed hnamed hgroup
    simp only [Option.some.injEq,forall_eq']
    by_cases hconflict : (pr.requested bodyModel headerModel).1 ≠ "" ∧
        (pr.requested bodyModel headerModel).1 ∉ g
    · rw [if_pos hconflict] at hresolve ⊢
      exact contract_conflict_iff _ _ hallowed hgroup hconflict.1 hresolve
    · rw [if_neg hconflict] at hresolve ⊢
      by_cases hempty : pr.grouped g = []
      · rw [if_pos hempty] at hresolve
        refine iff_of_false (fun hc => ?_) (not_not.mpr hempty)
        exact absurd (hc.typed _ hresolve) (by simp [PrecedenceError.typed])
      · rw [if_neg hempty] at hresolve
        refine iff_of_true ?_ hempty
        exact contract_of_settle _ _ hempty (fun _ hc => (mem_grouped hc).1)
          (fun _ => ⟨g,hgroup,fun _ hc => (mem_grouped hc).2⟩) hresolve

def strayResolver (conflictPolicy : String) : PrecedenceResolver where
  tenantConfig := {
    id := "acme"
    allowedModels := ["mini"]
    routing := { strategy := "round_robin" }
    selection := {
      routeGroups := some [("large",["titan"])]
      precedence := { conflictPolicy := conflictPolicy } }
    rateLimit := ⟨60,10⟩
    compliance := ⟨90,"full"⟩ }
  globalModels := [{ name := "mini", provider := "openai" },{ name := "opus", provider := "anthropic" }]

theorem unusable_results :
    ((strayResolver "ignore_group").resolve "" "opus" "large" = .ok
        { forcedModel := "opus"
          candidates := [{ name := "mini", provider := "openai" }]
          decisionReason := "explicit_header|group_ignored"
          requestedSource := .header
          requestedModel := "opus"
          routeGroupUsed := "large" } ∧
      ¬(strayResolver "ignore_group").Contract "" "opus" "large") ∧
    ((strayResolver "ignore_model").resolve "" "opus" "large" = .ok
        { decisionReason := "group:large|model_ignored", routeGroupUsed := "large" } ∧
      ¬(strayResolver "ignore_model").Contract "" "opus" "large") := by
  have hgroup : (strayResolver "ignore_group").resolve "" "opus" "large" = .ok
      { forcedModel := "opus"
        candidates := [{ name := "mini", provider := "openai" }]
        decisionReason := "explicit_header|group_ignored"
        requestedSource := .header
        requestedModel := "opus"
        routeGroupUsed := "large" } := by decide
  have hmodel : (strayResolver "ignore_model").resolve "" "opus" "large" = .ok
      { decisionReason := "group:large|model_ignored", routeGroupUsed := "large" } := by decide
  refine ⟨⟨hgroup,fun h => ?_⟩,hmodel,fun h => (h.answers _ hmodel).nonempty rfl⟩
  exact absurd (h.answers _ hgroup).forced (by decide)

end PrecedenceResolver

end PrismGateway.Router
