import PrismGateway.Admin.BudgetForm
import PrismGateway.Lib.Integers

namespace PrismGateway.Admin

open Lib Config.Schemas Storage

namespace BudgetRoute

def budgets : Place tenantFields budgetsConfig :=
  .there (.there (.there (.there (.there (.there (.there (.there (.there (.here rfl)))))))))

def enforcement : Place tenantFields budgetEnforcementConfig :=
  .there (.there (.there (.there (.there (.there (.there (.there (.there (.there (.here rfl))))))))))

def monthlyUsd : Route tenantFields .float := .inside budgets (.field (.here rfl))

def timezone : Route tenantFields .str := .inside budgets (.field (.there (.here rfl)))

def enabled : Route tenantFields .bool := .inside enforcement (.field (.here rfl))

def mode : Route tenantFields .str := .inside enforcement (.field (.there (.here rfl)))

def blockStatus : Route tenantFields .int :=
  .inside enforcement (.field (.there (.there (.here rfl))))

def degradeRouteGroup : Route tenantFields .str :=
  .inside enforcement (.field (.there (.there (.there (.here rfl)))))

def includeCostInError : Route tenantFields .bool :=
  .inside enforcement (.field (.there (.there (.there (.there (.here rfl))))))

def thresholds : Place (fieldsOf budgetEnforcementConfig) budgetEnforcementThresholds :=
  .there (.there (.there (.there (.there (.here rfl)))))

def tagBudgets : Place (fieldsOf budgetEnforcementConfig) tagBudgetsConfig :=
  .there (.there (.there (.there (.there (.there (.here rfl))))))

def warnPct : Route tenantFields .float :=
  .inside enforcement (.inside thresholds (.field (.here rfl)))

def hardPct : Route tenantFields .float :=
  .inside enforcement (.inside thresholds (.field (.there (.here rfl))))

def tagsEnabled : Route tenantFields .bool :=
  .inside enforcement (.inside tagBudgets (.field (.here rfl)))

def tagKeys : Route tenantFields (list .str) :=
  .inside enforcement (.inside tagBudgets (.field (.there (.here rfl))))

def tagLimits : Route tenantFields (table (table .float)) :=
  .inside enforcement (.inside tagBudgets (.field (.there (.there (.here rfl)))))

end BudgetRoute

structure Shown where
  schema : Schema
  route : Route tenantFields schema
  sent : Json
  value : Option schema.Val

abbrev Limits : Type := (table (table .float)).Val

def limitAt (limits : Limits) (key value : String) : Option Json.Number :=
  let byKey : Option {l : List (String × Option {l : List (String × Json.Number) // GoMap.Sorted l}) //
    GoMap.Sorted l} := limits
  byKey.bind fun m => (m.val.lookup key).bind fun t => t.bind fun m => m.val.lookup value

def limitsOf (tc : tenantFields.Vals) : Limits := BudgetRoute.tagLimits.get tc

def TagText.limits : TagText → Option Limits
  | .blank => some none
  | .malformed => none
  | .json j => (table (table .float)).decode j none

namespace BudgetForm

variable (form : BudgetForm)

def textShown (route : Route tenantFields .str) (t : String) : Shown := ⟨.str,route,.str t,some t⟩

def flagShown (route : Route tenantFields .bool) (b : Bool) : Shown := ⟨.bool,route,.bool b,some b⟩

def numberShown (route : Route tenantFields .float) (x : Float) : Shown :=
  ⟨.float,route,numberText x,Json.Number.ofFloat x⟩

def shown : List Shown :=
  form.monthlyUsd.toList.map (numberShown BudgetRoute.monthlyUsd) ++
  form.timezone.toList.map (textShown BudgetRoute.timezone) ++
  [flagShown BudgetRoute.enabled form.enabled,
    textShown BudgetRoute.mode form.mode.text,
    numberShown BudgetRoute.warnPct (form.warnPctUi / 100),
    numberShown BudgetRoute.hardPct (form.hardPctUi / 100),
    flagShown BudgetRoute.includeCostInError form.includeCostInError,
    flagShown BudgetRoute.tagsEnabled form.tagBudgetsEnabled] ++
  (match form.mode with
    | .reportOnly => []
    | .block =>
      [⟨.int,BudgetRoute.blockStatus,.num (Float.ofInt form.blockStatus),some form.blockStatus⟩]
    | .degrade => [textShown BudgetRoute.degradeRouteGroup form.degradeRouteGroup]) ++
  if form.tagBudgetsEnabled then
    [⟨list .str,BudgetRoute.tagKeys,.arr (form.tagKeys.map .str),some (some form.tagKeys)⟩]
  else []

def Carried (tc : tenantFields.Vals) : Prop := ∀ s ∈ form.shown, s.value = some (s.route.get tc)

def ShowsLimits (limits : Limits) : Prop :=
  ∃ m, form.tagBudgetMonthlyByTag.limits = some m ∧ ∀ key value, limitAt m key value = limitAt limits key value

def Unedited (before : tenantFields.Vals) (key value : String) : Prop :=
  ∃ m, form.tagBudgetMonthlyByTag.limits = some m ∧
    limitAt m key value = limitAt (limitsOf before) key value

structure Saved (before tc : tenantFields.Vals) : Prop where
  carried : form.Carried tc
  limits : form.tagBudgetsEnabled = true → form.ShowsLimits (limitsOf tc)
  kept : ∀ key value, form.Unedited before key value →
    limitAt (limitsOf tc) key value = limitAt (limitsOf before) key value

def InForce (db : TenantTables) (tenantID : String) (before : tenantFields.Vals) : Prop :=
  ∀ order, ∃ tc, db.loadTenantConfig order tenantID = some tc ∧ form.Saved before tc

def Undisturbed (current : Json.Entries) : Prop :=
  ∀ s ∈ form.shown, ∀ v, s.value = some v →
    (othersAt s.route.legs (.obj current)).foldlM (fun x j => s.schema.decode j x) v = some v

structure Harmless (current : Json.Entries) (before : tenantFields.Vals) : Prop where
  finite : ∀ s ∈ form.shown, s.value.isSome = true
  undisturbed : form.Undisturbed current
  nothingParsed : form.monthlyByTag.getD [] = []
  limits : form.tagBudgetsEnabled = true → form.ShowsLimits (limitsOf before)

end BudgetForm

section Sent

def WrittenFor : List Leg → Json → Prop
  | [], _ => True
  | s :: legs, .obj es => (es.map Prod.fst).Nodup ∧ es.map Prod.fst ⊆ s.names ∧
      ∀ j, es.lookup s.name = some j → WrittenFor legs j
  | _ :: _, _ => False

theorem fixed_of_lower {names : List String} (h : LowerNames names) : ∀ n ∈ names, toSnakeCase n = n :=
  fun n hn => (toSnakeCase_eq_self_iff n).mpr fun c hc => (h n hn c hc).2

theorem sent_obj (order : Json.MapOrder) {es : Json.Entries} (hnodup : (es.map Prod.fst).Nodup)
    (hfixed : ∀ k ∈ es.map Prod.fst, toSnakeCase k = k) :
    ∃ patch, normalizeConfigKeys order (parsed (.obj es)) = .obj patch ∧
      (∀ k, patch.lookup k = (es.lookup k).map (fun j => normalizeConfigKeys order (parsed j))) ∧
      patch.map Prod.fst ⊆ es.map Prod.fst := by
  have hkeys : ∀ k ∈ (Json.arrivals (fun k => k) (fun l => l) es).map Prod.fst, k ∈ es.map Prod.fst := by
    intro k hk
    obtain ⟨e,he,rfl⟩ := (Json.mem_keys_arrivals List.Perm.refl).mp hk
    exact List.mem_map_of_mem he
  have hsorted : GoMap.Sorted (Json.arrivals (fun k => k) (fun l => l) es) := Json.sorted_arrivals es
  have hsnake : ∀ e ∈ Json.arrivals (fun k => k) (fun l => l) es, toSnakeCase e.1 = e.1 :=
    fun e he => hfixed e.1 (hkeys e.1 (List.mem_map_of_mem he))
  have harrivals := Json.arrivals_eq_of_fixed order.perm hsorted hsnake
  refine ⟨_,by rw [parsed,Json.rekey_obj,normalizeConfigKeys,Json.rekey_obj,harrivals],fun k => ?_,?_⟩
  · have hparsed : (Json.arrivals (fun k => k) (fun l => l) es).lookup k = (es.lookup k).map parsed := by
      have hmap : ((es.map (fun e => (e.1,parsed e.2))).map Prod.fst).Nodup := by
        rw [List.map_map]
        exact hnodup
      exact (GoMap.lookup_ofList hmap k).trans (GoMap.lookup_map parsed k es)
    refine (GoMap.lookup_map (normalizeConfigKeys order) k _).trans ?_
    rw [hparsed,Option.map_map]
    rfl
  · intro k hk
    rw [List.map_map] at hk
    exact hkeys k hk

variable {legs : List Leg}

theorem opens_sent (order : Json.MapOrder) (hlegs : ∀ s ∈ legs, Proper s) : ∀ {j : Json},
    WrittenFor legs j → Opens legs (normalizeConfigKeys order (parsed j)) ∧
      (normalizeConfigKeys order (parsed j)).read (legs.map Leg.name) =
        (j.read (legs.map Leg.name)).map (fun j => normalizeConfigKeys order (parsed j)) ∧
      spares (normalizeConfigKeys order (parsed j)) (legs.map Leg.name) =
        spares j (legs.map Leg.name) := by
  induction legs with
  | nil =>
    intro j _
    rw [List.map_nil,Json.read_nil,Json.read_nil]
    refine ⟨trivial,rfl,?_⟩
    cases j <;> cases normalizeConfigKeys order (parsed _) <;> rfl
  | cons s legs ih =>
    obtain ⟨hs,hlegs⟩ := List.forall_mem_cons.mp hlegs
    intro j hwritten
    cases j with
    | obj es =>
      obtain ⟨hnodup,hnames,hinner⟩ := hwritten
      obtain ⟨patch,hsent,hlookup,hkeys⟩ := sent_obj order hnodup
        (fun k hk => fixed_of_lower hs.2 k (hnames hk))
      rw [hsent,List.map_cons,Json.read_obj,Json.read_obj,spares_obj,spares_obj,hlookup]
      refine ⟨⟨?_,?_⟩,?_,?_⟩
      · intro k hk hreaches
        rw [Leg.reaches,fieldFor_of_mem (hnames (hkeys hk))] at hreaches
        exact Option.some.inj (of_decide_eq_true hreaches)
      · intro j hj
        rw [hlookup] at hj
        obtain ⟨j',hj',rfl⟩ := Option.map_eq_some_iff.mp hj
        exact (ih hlegs (hinner j' hj')).1
      · cases hown : es.lookup s.name with
        | none => rfl
        | some j => exact (ih hlegs (hinner j hown)).2.1
      · cases hown : es.lookup s.name with
        | none => rfl
        | some j => exact (ih hlegs (hinner j hown)).2.2
    | _ => cases hwritten

end Sent

section Sound

def KeysOf (names : List String) (es : Json.Entries) : Prop :=
  (es.map Prod.fst).Nodup ∧ es.map Prod.fst ⊆ names

theorem WrittenFor.inside {s : Leg} {legs : List Leg} {es : Json.Entries} {j : Json}
    (hkeys : KeysOf s.names es) (hown : es.lookup s.name = some j) (h : WrittenFor legs j) :
    WrittenFor (s :: legs) (.obj es) := by
  refine ⟨hkeys.1,hkeys.2,fun j' hj' => ?_⟩
  rw [hown] at hj'
  cases hj'
  exact h

theorem WrittenFor.last {s : Leg} {es : Json.Entries} (hkeys : KeysOf s.names es) :
    WrittenFor [s] (.obj es) := ⟨hkeys.1,hkeys.2,fun _ _ => trivial⟩

namespace BudgetForm

variable (form : BudgetForm)

theorem keys_patch : KeysOf tenantFields.names
    [("budgets",.obj form.budgets),("budget_enforcement",.obj form.budgetEnforcement)] := by
  unfold KeysOf
  simp only [List.map_cons,List.map_nil]
  decide

theorem keys_budgets : KeysOf (fieldsOf budgetsConfig).names form.budgets := by
  unfold KeysOf budgets
  cases form.monthlyUsd <;> cases form.timezone <;>
    simp only [Option.toList_none,Option.toList_some,List.map_nil,List.map_cons,List.nil_append,
      List.append_nil,List.singleton_append] <;> decide

theorem keys_thresholds : KeysOf (fieldsOf budgetEnforcementThresholds).names form.thresholds := by
  unfold KeysOf thresholds
  simp only [List.map_cons,List.map_nil]
  decide

theorem keys_tagBudgets : KeysOf (fieldsOf tagBudgetsConfig).names form.tagBudgets := by
  unfold KeysOf tagBudgets
  cases form.monthlyByTag <;>
    simp only [Option.toList_none,Option.toList_some,List.map_nil,List.map_cons,List.append_nil,
      List.cons_append,List.nil_append] <;> decide

theorem keys_budgetEnforcement :
    KeysOf (fieldsOf budgetEnforcementConfig).names form.budgetEnforcement := by
  unfold KeysOf budgetEnforcement modeEntries
  cases form.mode <;>
    simp only [List.map_nil,List.map_cons,List.append_nil,List.cons_append,
      List.nil_append] <;> decide

theorem lookup_thresholds :
    form.budgetEnforcement.lookup "thresholds" = some (.obj form.thresholds) := rfl

theorem lookup_tagBudgets :
    form.budgetEnforcement.lookup "tag_budgets" = some (.obj form.tagBudgets) := by
  unfold budgetEnforcement modeEntries
  cases form.mode <;> rfl

theorem written_budgets (n : String) :
    WrittenFor [⟨tenantFields.names,"budgets"⟩,⟨(fieldsOf budgetsConfig).names,n⟩] form.patch :=
  .inside form.keys_patch rfl (.last form.keys_budgets)

end BudgetForm

theorem lower_tenant : LowerNames tenantFields.names := by decide

theorem lower_budgets : LowerNames (fieldsOf budgetsConfig).names := by decide

theorem lower_enforcement : LowerNames (fieldsOf budgetEnforcementConfig).names := by decide

theorem lower_thresholds : LowerNames (fieldsOf budgetEnforcementThresholds).names := by
  decide

theorem lower_tagBudgets : LowerNames (fieldsOf tagBudgetsConfig).names := by decide

structure Shown.Sound (form : BudgetForm) (s : Shown) : Prop where
  lower : ∀ l ∈ s.route.legs, LowerNames l.names
  written : WrittenFor s.route.legs form.patch
  read : form.patch.read s.route.path = some s.sent
  plain : ∀ es, s.sent ≠ .obj es
  unchanged : ∀ order, normalizeConfigKeys order (parsed s.sent) = s.sent
  value : ∀ v, s.value = some v → s.sent ≠ .null ∧ s.schema.decode s.sent s.schema.zero = some v

namespace BudgetForm

variable {form : BudgetForm}

theorem sound_text {route : Route tenantFields .str} {t : String}
    (hlower : ∀ l ∈ route.legs, LowerNames l.names) (hwritten : WrittenFor route.legs form.patch)
    (hread : form.patch.read route.path = some (.str t)) : (textShown route t).Sound form := by
  refine ⟨hlower,hwritten,hread,fun _ h => (by cases h),fun order => ?_,?_⟩
  · exact (congrArg (normalizeConfigKeys order) (Json.rekey_str t)).trans (Json.rekey_str t)
  · rintro v hv
    cases hv
    exact ⟨fun h => (by cases h),rfl⟩

theorem sound_flag {route : Route tenantFields .bool} {b : Bool}
    (hlower : ∀ l ∈ route.legs, LowerNames l.names) (hwritten : WrittenFor route.legs form.patch)
    (hread : form.patch.read route.path = some (.bool b)) : (flagShown route b).Sound form := by
  refine ⟨hlower,hwritten,hread,fun _ h => (by cases h),fun order => ?_,?_⟩
  · exact (congrArg (normalizeConfigKeys order) (Json.rekey_bool b)).trans (Json.rekey_bool b)
  · rintro v hv
    cases hv
    exact ⟨fun h => (by cases h),rfl⟩

theorem isFinite_neg_zero : (-0 : Float).isFinite = true := by decide +kernel

theorem numberText_of_ofFloat {x : Float} {v : Json.Number} (h : Json.Number.ofFloat x = some v) :
    numberText x = .num x := by
  refine if_pos ?_
  rw [Json.Number.ofFloat] at h
  split_ifs at h with hx hzero
  · exact hx.1
  · rw [hzero]
    exact isFinite_neg_zero

theorem sound_number {route : Route tenantFields .float} {x : Float}
    (hlower : ∀ l ∈ route.legs, LowerNames l.names) (hwritten : WrittenFor route.legs form.patch)
    (hread : form.patch.read route.path = some (numberText x)) : (numberShown route x).Sound form := by
  refine ⟨hlower,hwritten,hread,fun es h => ?_,fun order => ?_,?_⟩
  · rw [numberShown,numberText] at h
    split_ifs at h
  · rw [numberShown,numberText]
    split_ifs
    · exact (congrArg (normalizeConfigKeys order) (Json.rekey_num x)).trans (Json.rekey_num x)
    · exact (congrArg (normalizeConfigKeys order) Json.rekey_null).trans Json.rekey_null
  · intro v hv
    change numberText x ≠ .null ∧ Schema.float.decode (numberText x) Json.Number.zero = some v
    rw [numberText_of_ofFloat hv]
    exact ⟨fun h => (by cases h),hv⟩

theorem exactInt_of_valid (h : form.valid = true) : Json.ExactInt form.blockStatus := by
  simp only [valid,Bool.and_eq_true,decide_eq_true_eq] at h
  obtain ⟨hlow,hhigh⟩ := h.1.1.2
  exact Json.exactInt_status hlow hhigh

theorem lower_field {fs : Fields} {s : Schema} (hlower : LowerNames fs.names) (p : Place fs s) :
    ∀ l ∈ (Route.field p).legs, LowerNames l.names :=
  List.forall_mem_cons.mpr ⟨hlower,fun _ h => absurd h List.not_mem_nil⟩

theorem lower_in_budgets {s : Schema} (p : Place (fieldsOf budgetsConfig) s) :
    ∀ l ∈ (Route.inside BudgetRoute.budgets (.field p)).legs, LowerNames l.names :=
  List.forall_mem_cons.mpr ⟨lower_tenant,lower_field lower_budgets p⟩

theorem lower_in_enforcement {s : Schema} {r : Route (fieldsOf budgetEnforcementConfig) s}
    (h : ∀ l ∈ r.legs, LowerNames l.names) :
    ∀ l ∈ (Route.inside BudgetRoute.enforcement r).legs, LowerNames l.names :=
  List.forall_mem_cons.mpr ⟨lower_tenant,h⟩

theorem read_field (es : Json.Entries) (n : String) : (Json.obj es).read [n] = es.lookup n := by
  rw [Json.read_obj]
  cases es.lookup n with
  | none => rfl
  | some j => exact Json.read_nil j

theorem read_budgets (form : BudgetForm) (n : String) :
    form.patch.read ["budgets",n] = form.budgets.lookup n := read_field form.budgets n

theorem read_enforcement (form : BudgetForm) (n : String) :
    form.patch.read ["budget_enforcement",n] = form.budgetEnforcement.lookup n :=
  read_field form.budgetEnforcement n

theorem read_thresholds (form : BudgetForm) (n : String) :
    form.patch.read ["budget_enforcement","thresholds",n] = form.thresholds.lookup n :=
  read_field form.thresholds n

theorem read_tagBudgets (form : BudgetForm) (n : String) :
    form.patch.read ["budget_enforcement","tag_budgets",n] = form.tagBudgets.lookup n := by
  change (form.budgetEnforcement.lookup "tag_budgets").bind (fun j => j.read [n]) = _
  rw [lookup_tagBudgets]
  exact read_field form.tagBudgets n

theorem lookup_monthlyUsd {x : Float} (h : form.monthlyUsd = some x) :
    form.budgets.lookup "monthly_usd" = some (numberText x) := by
  rw [budgets,h]
  rfl

theorem lookup_timezone {t : String} (h : form.timezone = some t) :
    form.budgets.lookup "timezone" = some (.str t) := by
  rw [budgets,h]
  cases form.monthlyUsd <;> rfl

theorem lookup_blockStatus (h : form.mode = .block) : form.budgetEnforcement.lookup "block_status" =
    some (.num (Float.ofInt form.blockStatus)) := by
  rw [budgetEnforcement,modeEntries,h]
  rfl

theorem lookup_degradeRouteGroup (h : form.mode = .degrade) :
    form.budgetEnforcement.lookup "degrade_route_group" = some (.str form.degradeRouteGroup) := by
  rw [budgetEnforcement,modeEntries,h]
  rfl

theorem written_of_enforcement (form : BudgetForm) {s : Schema}
    (p : Place (fieldsOf budgetEnforcementConfig) s) :
    WrittenFor (Route.inside BudgetRoute.enforcement (.field p)).legs form.patch :=
  .inside form.keys_patch rfl (.last form.keys_budgetEnforcement)

theorem written_of_thresholds (form : BudgetForm) {s : Schema}
    (p : Place (fieldsOf budgetEnforcementThresholds) s) :
    WrittenFor (Route.inside BudgetRoute.enforcement (.inside BudgetRoute.thresholds (.field p))).legs
      form.patch :=
  .inside form.keys_patch rfl (.inside form.keys_budgetEnforcement form.lookup_thresholds
    (.last form.keys_thresholds))

theorem written_of_tagBudgets (form : BudgetForm) {s : Schema}
    (p : Place (fieldsOf tagBudgetsConfig) s) :
    WrittenFor (Route.inside BudgetRoute.enforcement (.inside BudgetRoute.tagBudgets (.field p))).legs
      form.patch :=
  .inside form.keys_patch rfl (.inside form.keys_budgetEnforcement form.lookup_tagBudgets
    (.last form.keys_tagBudgets))

theorem lower_of_enforcement {s : Schema} (p : Place (fieldsOf budgetEnforcementConfig) s) :
    ∀ l ∈ (Route.inside BudgetRoute.enforcement (.field p)).legs, LowerNames l.names :=
  lower_in_enforcement (lower_field lower_enforcement p)

theorem lower_of_inner {inner : Fields} {s : Schema} (hlower : LowerNames inner.names)
    (q : Place (fieldsOf budgetEnforcementConfig) (.struct [] inner)) (p : Place inner s) :
    ∀ l ∈ (Route.inside BudgetRoute.enforcement (.inside q (.field p))).legs, LowerNames l.names :=
  lower_in_enforcement (List.forall_mem_cons.mpr ⟨lower_enforcement,lower_field hlower p⟩)

theorem rekey_texts {key : String → String} {iter : Json.Entries → Json.Entries} (l : List String) :
    Json.rekey key iter (.arr (l.map .str)) = .arr (l.map .str) := by
  rw [Json.rekey_arr,List.map_map]
  exact congrArg Json.arr (List.map_congr_left fun t _ => Json.rekey_str t)

theorem decode_texts (l : List String) :
    (list .str).decode (.arr (l.map .str)) none = some (some l) := by
  have hitems : (l.map Json.str).mapM (fun j => (Schema.str).decode j "") = some l :=
    mapM_map_eq_some.mpr fun _ _ => rfl
  exact congrArg (Option.map some) hitems

theorem sound_shown (hvalid : form.valid = true) : ∀ s ∈ form.shown, s.Sound form := by
  simp only [shown,List.forall_mem_append,List.forall_mem_cons,List.mem_map,forall_exists_index,
    and_imp,Option.mem_toList]
  refine ⟨⟨⟨⟨?_,?_⟩,?_,?_,?_,?_,?_,?_,?_⟩,?_⟩,?_⟩
  · rintro _ x hx rfl
    exact sound_number (lower_in_budgets _) (form.written_budgets _)
      ((form.read_budgets _).trans (lookup_monthlyUsd hx))
  · rintro _ t ht rfl
    exact sound_text (lower_in_budgets _) (form.written_budgets _)
      ((form.read_budgets _).trans (lookup_timezone ht))
  · exact sound_flag (lower_of_enforcement _) (form.written_of_enforcement _)
      (form.read_enforcement "enabled")
  · exact sound_text (lower_of_enforcement _) (form.written_of_enforcement _)
      (form.read_enforcement "mode")
  · exact sound_number (lower_of_inner lower_thresholds _ _) (form.written_of_thresholds _)
      (form.read_thresholds "warn_pct")
  · exact sound_number (lower_of_inner lower_thresholds _ _) (form.written_of_thresholds _)
      (form.read_thresholds "hard_pct")
  · exact sound_flag (lower_of_enforcement _) (form.written_of_enforcement _)
      (form.read_enforcement "include_cost_in_error")
  · exact sound_flag (lower_of_inner lower_tagBudgets _ _) (form.written_of_tagBudgets _)
      (form.read_tagBudgets "enabled")
  · exact fun s hs => absurd hs List.not_mem_nil
  · cases hmode : form.mode with
    | reportOnly => exact fun s hs => absurd hs List.not_mem_nil
    | block =>
      rw [List.forall_mem_singleton]
      refine ⟨lower_of_enforcement _,form.written_of_enforcement _,
        (form.read_enforcement _).trans (lookup_blockStatus hmode),fun _ h => (by cases h),?_,?_⟩
      · intro order
        exact (congrArg (normalizeConfigKeys order) (Json.rekey_num _)).trans (Json.rekey_num _)
      · rintro v hv
        cases hv
        exact ⟨fun h => (by cases h),exactInt_of_valid hvalid⟩
    | degrade =>
      rw [List.forall_mem_singleton]
      exact sound_text (lower_of_enforcement _) (form.written_of_enforcement _)
        ((form.read_enforcement _).trans (lookup_degradeRouteGroup hmode))
  · split_ifs
    · rw [List.forall_mem_singleton]
      refine ⟨lower_of_inner lower_tagBudgets _ _,form.written_of_tagBudgets _,
        form.read_tagBudgets "keys",fun _ h => (by cases h),?_,?_⟩
      · exact fun order => (congrArg (normalizeConfigKeys order) (rekey_texts _)).trans (rekey_texts _)
      · rintro v hv
        cases hv
        exact ⟨fun h => (by cases h),decode_texts _⟩
    · exact fun s hs => absurd hs List.not_mem_nil

end BudgetForm

end Sound

section Merged

variable {form : BudgetForm} {order : Json.MapOrder} {current patch : Json.Entries}
  {before tc : tenantFields.Vals}

theorem merged_obj (current patch : Json.Entries) :
    Json.obj (mergeMaps current patch) = mergeValue (some (.obj current)) (.obj patch) := by
  rw [mergeValue]

theorem proper_of {s : Schema} {r : Route tenantFields s} (h : ∀ l ∈ r.legs, LowerNames l.names) :
    ∀ l ∈ r.legs, Proper l := fun l hl => ⟨r.name_mem l hl,h l hl⟩

theorem value_after {s : Shown} (hsound : s.Sound form)
    (hsent : normalizeConfigKeys order (parsed form.patch) = .obj patch)
    (hcurrent : Tidy (.obj current)) (hpatch : Tidy (.obj patch))
    (h : tenantFields.decode tenantFields.names (mergeMaps current patch) tenantFields.zero = some tc)
    {v : s.schema.Val} (hv : s.value = some v) :
    (othersAt s.route.legs (.obj current)).foldlM (fun x j => s.schema.decode j x) v =
      some (s.route.get tc) := by
  obtain ⟨hnull,hvalue⟩ := hsound.value v hv
  have hproper := proper_of hsound.lower
  obtain ⟨hopens,hread,_⟩ := opens_sent order hproper hsound.written
  rw [show s.route.legs.map Leg.name = s.route.path from rfl,hsound.read,Option.map_some,
    hsound.unchanged order] at hread
  rw [hsent] at hopens hread
  have harrive := arriveAt_merge_named (o := some (.obj current)) hproper
    (fun x hx => Option.some.inj hx ▸ hcurrent) hpatch hopens hnull hread
  have hdecode := s.route.decode_eq h
  rw [merged_obj,harrive,mergeValue_of_ne_obj hsound.plain,Route.get_zero,List.foldlM_cons,hvalue] at hdecode
  exact hdecode

theorem carried_iff (hsound : ∀ s ∈ form.shown, s.Sound form)
    (hsent : normalizeConfigKeys order (parsed form.patch) = .obj patch)
    (hcurrent : Tidy (.obj current)) (hpatch : Tidy (.obj patch))
    (h : tenantFields.decode tenantFields.names (mergeMaps current patch) tenantFields.zero = some tc) :
    form.Carried tc ↔ (∀ s ∈ form.shown, s.value.isSome = true) ∧ form.Undisturbed current := by
  constructor
  · intro hcarried
    refine ⟨fun s hs => Option.isSome_of_eq_some (hcarried s hs),fun s hs v hv => ?_⟩
    rw [value_after (hsound s hs) hsent hcurrent hpatch h hv,← hcarried s hs,hv]
  · rintro ⟨hfinite,hundisturbed⟩ s hs
    obtain ⟨v,hv⟩ := Option.isSome_iff_exists.mp (hfinite s hs)
    rw [hv,← hundisturbed s hs v hv]
    exact value_after (hsound s hs) hsent hcurrent hpatch h hv

end Merged

section Accepted

variable {form : BudgetForm} {order : Json.MapOrder} {current patch : Json.Entries}

theorem accepts_sent {f : Fields} {es : Json.Entries} (hlower : LowerNames f.names)
    (hkeys : KeysOf f.names es)
    (h : ∀ e ∈ es, f.accept (some e.1) (normalizeConfigKeys order (parsed e.2)) = true) :
    (Schema.struct [] f).accepts (normalizeConfigKeys order (parsed (.obj es))) = true := by
  obtain ⟨patch,hsent,hlookup,hsubset⟩ := sent_obj order hkeys.1
    (fun k hk => fixed_of_lower hlower k (hkeys.2 hk))
  have htidy : Tidy (.obj patch) := hsent ▸ tidy_normalizeConfigKeys order _
  rw [hsent,Schema.accepts,List.all_eq_true]
  intro e he
  have hmem : e.1 ∈ f.names := hkeys.2 (hsubset (List.mem_map_of_mem he))
  have hown := hlookup e.1
  rw [GoMap.lookup_of_mem htidy.1.sorted.nodup he] at hown
  obtain ⟨j,hj,hvalue⟩ := Option.map_eq_some_iff.mp hown.symm
  rw [fieldFor_of_mem hmem,← hvalue]
  exact h _ (GoMap.mem_of_lookup hj)

theorem accepts_numberText (x : Float) :
    Schema.float.accepts (normalizeConfigKeys order (parsed (numberText x))) = true := by
  rw [numberText]
  split_ifs with hx
  · rw [parsed,Json.rekey_num,normalizeConfigKeys,Json.rekey_num]
    change (Json.Number.ofFloat x).isSome = true
    rw [Json.Number.ofFloat]
    split_ifs with h hzero
    · rfl
    · rfl
    · exact absurd ⟨hx,hzero⟩ h
  · rw [parsed,Json.rekey_null,normalizeConfigKeys,Json.rekey_null]
    rfl

namespace BudgetForm

theorem accepts_budgets : budgetsConfig.accepts
    (normalizeConfigKeys order (parsed (.obj form.budgets))) = true := by
  have hnodup : (fieldsOf budgetsConfig).names.Nodup := by decide
  refine accepts_sent (f := fieldsOf budgetsConfig) lower_budgets form.keys_budgets ?_
  simp only [budgets,List.forall_mem_append,List.mem_map,forall_exists_index,and_imp]
  constructor
  · rintro _ x _ rfl
    exact (Place.accept_eq (.here rfl) hnodup).trans (accepts_numberText x)
  · rintro _ t _ rfl
    refine (Place.accept_eq (.there (.here rfl)) hnodup).trans ?_
    rw [parsed,Json.rekey_str,normalizeConfigKeys,Json.rekey_str]
    rfl

theorem accepts_thresholds : budgetEnforcementThresholds.accepts
    (normalizeConfigKeys order (parsed (.obj form.thresholds))) = true := by
  have hnodup : (fieldsOf budgetEnforcementThresholds).names.Nodup := by decide
  refine accepts_sent (f := fieldsOf budgetEnforcementThresholds) lower_thresholds
    form.keys_thresholds ?_
  simp only [thresholds,List.forall_mem_cons]
  refine ⟨?_,?_,fun _ h => absurd h List.not_mem_nil⟩
  · exact (Place.accept_eq (.here rfl) hnodup).trans (accepts_numberText _)
  · exact (Place.accept_eq (.there (.here rfl)) hnodup).trans (accepts_numberText _)

theorem sent_empty (order : Json.MapOrder) : normalizeConfigKeys order (parsed (.obj [])) = .obj [] := by
  obtain ⟨patch,hsent,_,hkeys⟩ := @sent_obj order [] List.nodup_nil (by simp)
  cases patch with
  | nil => exact hsent
  | cons e patch => exact absurd (hkeys List.mem_cons_self) List.not_mem_nil

theorem accepts_tagBudgets (hparsed : form.monthlyByTag.getD [] = []) : tagBudgetsConfig.accepts
    (normalizeConfigKeys order (parsed (.obj form.tagBudgets))) = true := by
  have hnodup : (fieldsOf tagBudgetsConfig).names.Nodup := by decide
  refine accepts_sent (f := fieldsOf tagBudgetsConfig) lower_tagBudgets form.keys_tagBudgets ?_
  simp only [tagBudgets,List.forall_mem_append,List.forall_mem_cons,List.mem_map,
    forall_exists_index,and_imp]
  refine ⟨⟨?_,?_,fun _ h => absurd h List.not_mem_nil⟩,?_⟩
  · refine (Place.accept_eq (.here rfl) hnodup).trans ?_
    rw [parsed,Json.rekey_bool,normalizeConfigKeys,Json.rekey_bool]
    rfl
  · refine (Place.accept_eq (.there (.here rfl)) hnodup).trans ?_
    rw [parsed,rekey_texts,normalizeConfigKeys,rekey_texts]
    exact List.all_eq_true.mpr fun j hj => by
      obtain ⟨t,_,rfl⟩ := List.mem_map.mp hj
      rfl
  · rintro _ m hm rfl
    have hempty : m = [] := by
      rw [Option.mem_toList.mp hm] at hparsed
      exact hparsed
    refine (Place.accept_eq (.there (.there (.here rfl))) hnodup).trans ?_
    rw [hempty,sent_empty]
    rfl

theorem accepts_budgetEnforcement (hvalid : form.valid = true)
    (hparsed : form.monthlyByTag.getD [] = []) : budgetEnforcementConfig.accepts
    (normalizeConfigKeys order (parsed (.obj form.budgetEnforcement))) = true := by
  have hnodup : (fieldsOf budgetEnforcementConfig).names.Nodup := by decide
  have hfield {s : Schema} (p : Place (fieldsOf budgetEnforcementConfig) s) {j : Json} :=
    p.accept_eq (j := j) hnodup
  have hflag (b : Bool) : Schema.bool.accepts (normalizeConfigKeys order (parsed (.bool b))) = true := by
    rw [parsed,Json.rekey_bool,normalizeConfigKeys,Json.rekey_bool]
    rfl
  have htext (t : String) : Schema.str.accepts (normalizeConfigKeys order (parsed (.str t))) = true := by
    rw [parsed,Json.rekey_str,normalizeConfigKeys,Json.rekey_str]
    rfl
  refine accepts_sent (f := fieldsOf budgetEnforcementConfig) lower_enforcement
    form.keys_budgetEnforcement ?_
  simp only [budgetEnforcement,List.forall_mem_append,List.forall_mem_cons]
  refine ⟨⟨⟨?_,?_,?_,?_,fun _ h => absurd h List.not_mem_nil⟩,?_⟩,?_,
    fun _ h => absurd h List.not_mem_nil⟩
  · exact (hfield (.here rfl)).trans (hflag _)
  · exact (hfield (.there (.here rfl))).trans (htext _)
  · exact (hfield BudgetRoute.thresholds).trans accepts_thresholds
  · exact (hfield (.there (.there (.there (.there (.here rfl)))))).trans (hflag _)
  · rw [modeEntries]
    cases form.mode with
    | reportOnly => exact fun _ h => absurd h List.not_mem_nil
    | block =>
      rw [List.forall_mem_singleton]
      refine (hfield (.there (.there (.here rfl)))).trans ?_
      rw [parsed,Json.rekey_num,normalizeConfigKeys,Json.rekey_num]
      exact Option.isSome_of_eq_some (exactInt_of_valid hvalid)
    | degrade =>
      rw [List.forall_mem_singleton]
      exact (hfield (.there (.there (.there (.here rfl))))).trans (htext _)
  · exact (hfield BudgetRoute.tagBudgets).trans (accepts_tagBudgets hparsed)

theorem accepts_patch (hvalid : form.valid = true) (hparsed : form.monthlyByTag.getD [] = []) :
    tenantConfig.accepts (normalizeConfigKeys order (parsed form.patch)) = true := by
  have hnodup : tenantFields.names.Nodup := by decide
  refine accepts_sent (f := tenantFields) lower_tenant form.keys_patch ?_
  simp only [List.forall_mem_cons]
  refine ⟨?_,?_,fun _ h => absurd h List.not_mem_nil⟩
  · exact (BudgetRoute.budgets.accept_eq hnodup).trans accepts_budgets
  · exact (BudgetRoute.enforcement.accept_eq hnodup).trans (accepts_budgetEnforcement hvalid hparsed)

end BudgetForm

end Accepted

section Limits

variable {form : BudgetForm} {order : Json.MapOrder} {current patch : Json.Entries}
  {before tc : tenantFields.Vals}

theorem foldlM_view {α γ δ : Type} {f : γ → α → Option γ} (view : γ → δ)
    (hf : ∀ a v w, view v = view w → f v a = f w a) (l : List α) {v w v' w' : γ}
    (h : view v = view w) (hv : l.foldlM f v = some v') (hw : l.foldlM f w = some w') :
    view v' = view w' := by
  cases l with
  | nil =>
    cases hv
    cases hw
    exact h
  | cons a l =>
    rw [List.foldlM_cons,hf a v w h] at hv
    rw [List.foldlM_cons,hv] at hw
    exact congrArg view (Option.some.inj hw)

theorem decode_limits_view (j : Json) (v w : Limits)
    (h : Option.getD v (Schema.dict (table .float)).zero = Option.getD w (Schema.dict (table .float)).zero) :
    (table (table .float)).decode j v = (table (table .float)).decode j w := by
  by_cases hnull : j = .null
  · rw [hnull]
    rfl
  · exact (Schema.decode_ptr hnull v).trans
      ((congrArg (fun z => ((Schema.dict (table .float)).decode j z).map some) h).trans
        (Schema.decode_ptr hnull w).symm)

theorem limitAt_congr {v w : Limits}
    (h : Option.getD v (Schema.dict (table .float)).zero = Option.getD w (Schema.dict (table .float)).zero)
    (key value : String) : limitAt v key value = limitAt w key value := by
  have hview : ∀ l : Limits, limitAt l key value =
      limitAt (some (Option.getD l (Schema.dict (table .float)).zero)) key value := by
    intro l
    cases l <;> rfl
  rw [hview v,hview w,h]

theorem lower_tagLimits : ∀ l ∈ BudgetRoute.tagLimits.legs, LowerNames l.names :=
  BudgetForm.lower_of_inner lower_tagBudgets BudgetRoute.tagBudgets (.there (.there (.here rfl)))

theorem lookup_limits (form : BudgetForm) :
    form.tagBudgets.lookup "monthly_usd_by_tag" = form.monthlyByTag.map .obj := by
  rw [BudgetForm.tagBudgets]
  cases form.monthlyByTag <;> rfl

theorem path_tagLimits : BudgetRoute.tagLimits.legs.map Leg.name =
    ["budget_enforcement","tag_budgets","monthly_usd_by_tag"] := rfl

theorem read_limits (form : BudgetForm) : form.patch.read (BudgetRoute.tagLimits.legs.map Leg.name) =
    form.monthlyByTag.map .obj :=
  (form.read_tagBudgets "monthly_usd_by_tag").trans (lookup_limits form)

theorem spares_limits (h : form.monthlyByTag = none) :
    spares form.patch (BudgetRoute.tagLimits.legs.map Leg.name) = true := by
  have hlookup : form.tagBudgets.lookup "monthly_usd_by_tag" = none := by
    rw [lookup_limits,h]
    rfl
  rw [path_tagLimits]
  change spares (.obj form.budgetEnforcement) ["tag_budgets","monthly_usd_by_tag"] = true
  rw [spares_obj,form.lookup_tagBudgets,Option.elim_some,spares_obj,hlookup]
  rfl

theorem decode_empty_merge {o : Option Json} {b : Limits}
    (h : o.elim (some none) (fun j => (table (table .float)).decode j none) = some b) :
    ∃ a, (table (table .float)).decode (mergeValue o (.obj [])) none = some a ∧
      Option.getD a (Schema.dict (table .float)).zero = Option.getD b (Schema.dict (table .float)).zero := by
  cases o with
  | none =>
    cases h
    rw [mergeValue_none]
    exact ⟨_,rfl,rfl⟩
  | some x =>
    cases x with
    | obj es =>
      rw [mergeValue,mergeMaps]
      exact ⟨b,h,rfl⟩
    | null =>
      cases h
      rw [mergeValue]
      · exact ⟨_,rfl,rfl⟩
      · exact fun _ h => by cases h
    | _ => cases h

theorem limits_kept (hparsed : form.monthlyByTag.getD [] = [])
    (hsent : normalizeConfigKeys order (parsed form.patch) = .obj patch)
    (hcurrent : Tidy (.obj current)) (hpatch : Tidy (.obj patch))
    (hbefore : tenantFields.decode tenantFields.names current tenantFields.zero = some before)
    (h : tenantFields.decode tenantFields.names (mergeMaps current patch) tenantFields.zero = some tc)
    (key value : String) : limitAt (limitsOf tc) key value = limitAt (limitsOf before) key value := by
  have hproper := proper_of lower_tagLimits
  have hwritten := form.written_of_tagBudgets (.there (.there (.here rfl)))
  obtain ⟨hopens,hread,hspares⟩ := opens_sent order hproper hwritten
  have ho : ∀ x, some (Json.obj current) = some x → Tidy x := fun x hx => Option.some.inj hx ▸ hcurrent
  have hafter := BudgetRoute.tagLimits.decode_eq h
  have hearlier := BudgetRoute.tagLimits.decode_eq hbefore
  rw [Route.get_zero] at hafter hearlier
  rw [hsent] at hopens hread hspares
  cases hmonthly : form.monthlyByTag with
  | none =>
    have harrive := arriveAt_merge_spared (o := some (.obj current)) (Route.legs_ne_nil _) hproper ho hpatch
      hopens (hspares.trans (spares_limits hmonthly))
    rw [merged_obj,harrive,Option.getD_some,hearlier] at hafter
    rw [limitsOf,limitsOf,Option.some.inj hafter]
  | some m =>
    rw [hmonthly,Option.getD_some] at hparsed
    subst hparsed
    rw [read_limits,hmonthly,Option.map_some,Option.map_some,BudgetForm.sent_empty] at hread
    have harrive := arriveAt_merge_named (o := some (.obj current)) hproper ho hpatch hopens
      (fun h => by cases h) hread
    rw [merged_obj,harrive,List.foldlM_cons] at hafter
    rw [arriveAt_tidy hproper hcurrent,List.foldlM_append] at hearlier
    obtain ⟨a,ha,hafter⟩ := Option.bind_eq_some_iff.mp hafter
    obtain ⟨b,hb,hearlier⟩ := Option.bind_eq_some_iff.mp hearlier
    have hown : ((Json.obj current).read (BudgetRoute.tagLimits.legs.map Leg.name)).elim (some none)
        (fun j => (table (table .float)).decode j none) = some b := by
      cases hstood : (Json.obj current).read (BudgetRoute.tagLimits.legs.map Leg.name) with
      | none =>
        rw [hstood] at hb
        exact hb
      | some x =>
        rw [hstood,Option.toList_some,List.foldlM_cons] at hb
        obtain ⟨y,hy,hb⟩ := Option.bind_eq_some_iff.mp hb
        exact hy.trans hb
    obtain ⟨a',ha',hview⟩ := decode_empty_merge hown
    cases Option.some.inj (ha'.symm.trans ha)
    exact limitAt_congr (foldlM_view (fun l : Limits => Option.getD l (Schema.dict (table .float)).zero)
      (fun j v w => decode_limits_view j v w) _ hview hafter hearlier) key value

theorem parsed_numbers {m : Json.Entries} (h : form.monthlyByTag = some m) :
    ∀ e ∈ m, ∃ x, e.2 = .num x := by
  rw [BudgetForm.monthlyByTag] at h
  cases htext : form.tagBudgetMonthlyByTag with
  | json j =>
    rw [htext,parseTagBudgetsMonthly] at h
    obtain ⟨es,_,rfl⟩ := Option.map_eq_some_iff.mp h
    intro e he
    obtain ⟨e',_,hparse⟩ := List.mem_filterMap.mp he
    split_ifs at hparse
    obtain ⟨x,_,rfl⟩ := Option.map_eq_some_iff.mp hparse
    exact ⟨x,rfl⟩
  | blank =>
    rw [htext] at h
    cases h
  | malformed =>
    rw [htext] at h
    cases h

theorem sent_numbers {m : Json.Entries} (hm : ∀ e ∈ m, ∃ x, e.2 = .num x) (hne : m ≠ []) :
    ∃ limits, normalizeConfigKeys order (parsed (.obj m)) = .obj limits ∧
      ∃ k x, limits.lookup k = some (.num x) := by
  obtain ⟨e,he⟩ := List.exists_mem_of_ne_nil m hne
  rw [parsed,Json.rekey_obj,normalizeConfigKeys,Json.rekey_obj]
  refine ⟨_,rfl,toSnakeCase e.1,?_⟩
  have hfirst : e.1 ∈ (Json.arrivals (fun k => k) (fun l => l) m).map Prod.fst :=
    (Json.mem_keys_arrivals List.Perm.refl).mpr ⟨e,he,rfl⟩
  obtain ⟨e',he',hkey⟩ := List.mem_map.mp hfirst
  have hsecond : toSnakeCase e.1 ∈ (Json.arrivals toSnakeCase order.iter
      (Json.arrivals (fun k => k) (fun l => l) m)).map Prod.fst :=
    (Json.mem_keys_arrivals order.perm).mpr ⟨e',he',congrArg toSnakeCase hkey⟩
  obtain ⟨j,hj⟩ := Option.isSome_iff_exists.mp (GoMap.isSome_lookup_iff.mpr hsecond)
  obtain ⟨f,hf,heq⟩ := Json.mem_arrivals order.perm (GoMap.mem_of_lookup hj)
  obtain ⟨f',hf',hfeq⟩ := Json.mem_arrivals List.Perm.refl hf
  obtain ⟨x,hx⟩ := hm f' hf'
  refine ⟨x,hj.trans ?_⟩
  rw [← (Prod.mk.inj heq).2,← hfeq,hx,Json.rekey_num,Json.rekey_num]

theorem rejects_numbers {o : Option Json} {limits : Json.Entries} (hnodup : (limits.map Prod.fst).Nodup)
    {k : String} {x : Float} (hx : limits.lookup k = some (.num x)) :
    (table (table .float)).accepts (mergeValue o (.obj limits)) = false := by
  have hentry : ∃ es, mergeValue o (.obj limits) = .obj es ∧ (k,Json.num x) ∈ es := by
    rcases mergeValue_obj o limits with ⟨es,_,hmerge⟩ | ⟨_,hmerge⟩
    · refine ⟨_,hmerge,GoMap.mem_of_lookup ?_⟩
      rw [lookup_mergeMaps hnodup,hx,Option.elim_some]
      exact congrArg some (mergeValue_of_ne_obj (fun _ h => by cases h) _)
    · exact ⟨limits,hmerge,GoMap.mem_of_lookup hx⟩
  obtain ⟨es,hes,hmem⟩ := hentry
  rw [hes]
  exact List.all_eq_false.mpr ⟨_,hmem,fun h => by cases h⟩

theorem nothingParsed_of_decode
    (hsent : normalizeConfigKeys order (parsed form.patch) = .obj patch)
    (hcurrent : Tidy (.obj current)) (hpatch : Tidy (.obj patch))
    (h : tenantFields.decode tenantFields.names (mergeMaps current patch) tenantFields.zero = some tc) :
    form.monthlyByTag.getD [] = [] := by
  cases hmonthly : form.monthlyByTag with
  | none => rfl
  | some m =>
    rw [Option.getD_some]
    by_contra hne
    obtain ⟨limits,hlimits,k,x,hx⟩ := @sent_numbers order _ (parsed_numbers hmonthly) hne
    have hproper := proper_of lower_tagLimits
    have hwritten := form.written_of_tagBudgets (.there (.there (.here rfl)))
    obtain ⟨hopens,hread,_⟩ := opens_sent order hproper hwritten
    have htidy : Tidy (.obj limits) := hlimits ▸ tidy_normalizeConfigKeys order _
    have hafter := BudgetRoute.tagLimits.decode_eq h
    rw [read_limits,hmonthly,Option.map_some,Option.map_some,hlimits] at hread
    rw [hsent] at hopens hread
    have harrive := arriveAt_merge_named (o := some (.obj current)) hproper
      (fun x hx => Option.some.inj hx ▸ hcurrent) hpatch hopens (fun h => by cases h) hread
    rw [merged_obj,harrive,List.foldlM_cons] at hafter
    obtain ⟨a,ha,_⟩ := Option.bind_eq_some_iff.mp hafter
    have haccepts := (table (table .float)).isSome_decode (by decide) _ _ |>.symm.trans
      (Option.isSome_of_eq_some ha)
    rw [rejects_numbers htidy.nodup hx] at haccepts
    cases haccepts

end Limits

section Saved

variable {cfg : Settings} {db db' : TenantTables} {readOrder patchOrder : Json.MapOrder}
  {tenantID : String} {version newVersion : Int} {form : BudgetForm} {before : tenantConfig.Val}

theorem decodes_merged {order : Json.MapOrder} {current patch : Json.Entries}
    (hvalid : form.valid = true) (hparsed : form.monthlyByTag.getD [] = [])
    (hsent : normalizeConfigKeys order (parsed form.patch) = .obj patch)
    (hbefore : tenantConfig.decode (.obj current) tenantConfig.zero = some before) :
    ∃ tc, tenantConfig.decode (.obj (mergeMaps current patch)) tenantConfig.zero = some tc := by
  have hfree : tenantConfig.aliasFree = true := by decide
  refine Option.isSome_iff_exists.mp ?_
  rw [tenantConfig.isSome_decode hfree,merged_obj]
  refine accepts_mergeValue tenantConfig _ _ ?_ (hsent ▸ BudgetForm.accepts_patch hvalid hparsed)
  intro x hx
  cases hx
  rw [← tenantConfig.isSome_decode hfree (.obj current) tenantConfig.zero,hbefore]
  rfl

theorem budget_saved_iff
    (hload : (ensureTenantConfigInDB cfg db readOrder tenantID).loadTenantConfig readOrder tenantID =
      some before)
    (hsaved : saveBudget cfg db readOrder patchOrder tenantID version form = some (db',.ok newVersion)) :
    ∃ j current,
      (ensureTenantConfigInDB cfg db readOrder tenantID).getTenantConfig readOrder tenantID =
        some (j,version) ∧ asMap j = some current ∧
      (form.InForce db' tenantID before ↔ form.Harmless current before) := by
  rw [saveBudget] at hsaved
  split_ifs at hsaved with hvalid
  obtain ⟨current,patch,hmerge,hget⟩ := merge_of_patched (Option.some.inj hsaved)
  obtain ⟨j,hread,hmap⟩ := hmerge.read
  have hcurrent := hmerge.tidy_current
  have hpatch := hmerge.tidy_patch
  have hbefore := loaded_of_asMap hread hmap hload
  have hsent : normalizeConfigKeys patchOrder (parsed form.patch) = .obj patch := by
    have hasMap := hmerge.sent
    obtain ⟨sent,hobj,_⟩ := sent_obj patchOrder form.keys_patch.1
      (fun k hk => fixed_of_lower lower_tenant k (form.keys_patch.2 hk))
    rw [BudgetForm.patch,hobj] at hasMap ⊢
    exact congrArg Json.obj (Option.some.inj hasMap)
  have hdecoded : ∀ order, db'.loadTenantConfig order tenantID =
      tenantConfig.decode (.obj (mergeMaps current patch)) tenantConfig.zero := by
    intro order
    rw [TenantTables.loadTenantConfig,hget order]
    rfl
  have hsound := BudgetForm.sound_shown hvalid
  refine ⟨j,current,hread,hmap,?_⟩
  constructor
  · intro hforce
    obtain ⟨tc,htc,hsaved⟩ := hforce readOrder
    rw [hdecoded] at htc
    have hparsed := nothingParsed_of_decode hsent hcurrent hpatch htc
    obtain ⟨hfinite,hundisturbed⟩ := (carried_iff hsound hsent hcurrent hpatch htc).mp hsaved.carried
    refine ⟨hfinite,hundisturbed,hparsed,fun htags => ?_⟩
    obtain ⟨m,hm,hlimits⟩ := hsaved.limits htags
    refine ⟨m,hm,fun key value => ?_⟩
    rw [hlimits key value,limits_kept hparsed hsent hcurrent hpatch hbefore htc]
  · intro h order
    obtain ⟨tc,htc⟩ := decodes_merged hvalid h.nothingParsed hsent hbefore
    have hkept := limits_kept h.nothingParsed hsent hcurrent hpatch hbefore htc
    refine ⟨tc,(hdecoded order).trans htc,?_,fun htags => ?_,fun key value _ => hkept key value⟩
    · exact (carried_iff hsound hsent hcurrent hpatch htc).mpr ⟨h.finite,h.undisturbed⟩
    · obtain ⟨m,hm,hlimits⟩ := h.limits htags
      exact ⟨m,hm,fun key value => (hlimits key value).trans (hkept key value).symm⟩

end Saved

def budgetedTenant : Json :=
  .obj [("allowed_models",.arr [.str "mini"]),
    ("budgets",.obj [("monthly_usd",.num 500),("timezone",.str "UTC")])]

def budgetedTables : TenantTables := TenantTables.empty.setFlat "acme" ⟨1,budgetedTenant⟩

def dialogSettings : Settings := ⟨fun _ => none,fun _ => none,fun _ => false⟩

def inListing : Json.MapOrder := ⟨fun l => l,Json.listed_perm⟩

def openedForm : BudgetForm where
  monthlyUsd := some 500
  warnPctUi := 0.8 * 100
  hardPctUi := 1 * 100
  tagBudgetMonthlyByTag := .json (.obj [])

def placeholderForm : BudgetForm :=
  { openedForm with
    tagBudgetsEnabled := true
    tagBudgetKeys := "team,project"
    tagBudgetMonthlyByTag := .json (.obj [("team:ai",.num 100),("project:x",.num 50)]) }

def saveListed (form : BudgetForm) : Option (TenantTables × Except Failure Int) :=
  saveBudget dialogSettings budgetedTables inListing inListing "acme" 1 form

theorem saveListed_ok {form : BudgetForm}
    (h : (saveListed form).any (fun r => r.2.toOption.isSome) = true) :
    ∃ db' newVersion, saveListed form = some (db',.ok newVersion) := by
  cases hsave : saveListed form with
  | none =>
    rw [hsave] at h
    cases h
  | some r =>
    obtain ⟨db',answer⟩ := r
    rw [hsave] at h
    cases answer with
    | error failure => cases h
    | ok newVersion => exact ⟨db',newVersion,rfl⟩

theorem dialog_runs : openedForm.valid = true ∧
    ((ensureTenantConfigInDB dialogSettings budgetedTables inListing
      "acme").loadTenantConfig inListing "acme").isSome = true ∧
    (saveListed openedForm).any (fun r => r.2.toOption.isSome) = true ∧
    (saveListed placeholderForm).any (fun r => r.2.toOption.isSome &&
      (r.1.loadTenantConfig inListing "acme").isNone) = true := by
  decide +kernel

theorem opened_budgeted : BudgetForm.opened budgetedTenant = some openedForm := by
  have hopened : BudgetForm.opened budgetedTenant =
      if openedForm.valid then some openedForm else none := rfl
  rw [hopened,if_pos dialog_runs.1]

theorem budgeted_loads : ∃ before, (ensureTenantConfigInDB dialogSettings budgetedTables inListing
    "acme").loadTenantConfig inListing "acme" = some before :=
  Option.isSome_iff_exists.mp dialog_runs.2.1

theorem openedForm_saved : ∃ before db' newVersion, saveListed openedForm = some (db',.ok newVersion) ∧
    ∃ j current, (ensureTenantConfigInDB dialogSettings budgetedTables inListing "acme").getTenantConfig inListing
        "acme" = some (j,1) ∧ asMap j = some current ∧
      (openedForm.InForce db' "acme" before ↔ openedForm.Harmless current before) := by
  obtain ⟨before,hload⟩ := budgeted_loads
  obtain ⟨db',newVersion,hsave⟩ := saveListed_ok dialog_runs.2.2.1
  exact ⟨before,db',newVersion,hsave,budget_saved_iff hload hsave⟩

theorem placeholder_unreadable : BudgetForm.opened budgetedTenant = some openedForm ∧
    ∃ before db' newVersion,
    (ensureTenantConfigInDB dialogSettings budgetedTables inListing "acme").loadTenantConfig inListing "acme" =
        some before ∧
      saveListed placeholderForm = some (db',.ok newVersion) ∧
      db'.loadTenantConfig inListing "acme" = none ∧ ¬placeholderForm.InForce db' "acme" before := by
  obtain ⟨before,hload⟩ := budgeted_loads
  have hbroken := dialog_runs.2.2.2
  cases hsave : saveListed placeholderForm with
  | none =>
    rw [hsave] at hbroken
    cases hbroken
  | some r =>
    obtain ⟨db',answer⟩ := r
    rw [hsave,Option.any_some,Bool.and_eq_true] at hbroken
    have hnone := Option.isNone_iff_eq_none.mp hbroken.2
    cases answer with
    | error failure => cases hbroken.1
    | ok newVersion =>
      refine ⟨opened_budgeted,before,db',newVersion,hload,rfl,hnone,fun hforce => ?_⟩
      obtain ⟨tc,htc,-⟩ := hforce inListing
      exact Option.some_ne_none tc (htc.symm.trans hnone)

end PrismGateway.Admin
