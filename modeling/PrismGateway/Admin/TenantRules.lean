import PrismGateway.Admin.TenantConfig

namespace PrismGateway.Admin

open Lib Config.Schemas Storage

def textOf : Json → String
  | .str s => s
  | _ => ""

def intOf : Json → Int
  | .num x => (Json.parseInt x).getD 0
  | _ => 0

def numberOf : Json → Float
  | .num x => ((Json.Number.ofFloat x).getD Json.Number.zero).val
  | _ => 0

def textsOf : Json → List String
  | .arr items => items.map textOf
  | _ => []

def keysOf : Json → List String
  | .obj m => m.map Prod.fst
  | _ => []

def leaf (es : Json.Entries) (section_ field : String) : Json :=
  ((entriesAt es section_).lookup field).getD .null

structure Rule where
  section_ : String
  field : String
  check : Json → Bool

def rules (cfg : Settings) : List Rule :=
  [⟨"routing","strategy",fun j => Config.validStrategies.contains (textOf j)⟩,
   ⟨"rate_limit","rpm",fun j => !(intOf j < 1 || intOf j > 10000)⟩,
   ⟨"rate_limit","burst",fun j => !(intOf j < 1 || intOf j > 1000)⟩,
   ⟨"compliance","retention_days",fun j => !(intOf j < 7 || intOf j > 365)⟩,
   ⟨"compliance","log_mode",fun j => Config.validLogModes.contains (textOf j)⟩,
   ⟨"budgets","timezone",fun j => cfg.loadLocation (textOf j)⟩,
   ⟨"budgets","monthly_usd",fun j => !(numberOf j < 0 || numberOf j > 1000000)⟩]

def modelsOk (cfg : Settings) (j : Json) : Bool :=
  !(textsOf j).isEmpty && (textsOf j).all (fun n => (cfg.modelByName n).isSome)

def allowedModelsOf (es : Json.Entries) : Json := (es.lookup "allowed_models").getD .null

def routeGroupOf (es : Json.Entries) : String := textOf (leaf es "routing" "route_group")

def routeGroupsAt (es : Json.Entries) : Json := leaf es "selection" "route_groups"

structure DocOk (cfg : Settings) (es : Json.Entries) : Prop where
  models : modelsOk cfg (allowedModelsOf es) = true
  fields : ∀ r ∈ rules cfg, r.check (leaf es r.section_ r.field) = true
  group : routeGroupOf es = "" ∨ routeGroupOf es ∈ keysOf (routeGroupsAt es)

/-- The fields that `validateTenantConfig` reads, with their place in the document. -/
structure Describes (es : Json.Entries) (tc : Config.TenantConfig) : Prop where
  models : tc.allowedModels = textsOf (allowedModelsOf es)
  strategy : tc.routing.strategy = textOf (leaf es "routing" "strategy")
  rpm : tc.rateLimit.rpm = intOf (leaf es "rate_limit" "rpm")
  burst : tc.rateLimit.burst = intOf (leaf es "rate_limit" "burst")
  retentionDays : tc.compliance.retentionDays = intOf (leaf es "compliance" "retention_days")
  logMode : tc.compliance.logMode = textOf (leaf es "compliance" "log_mode")
  timezone : tc.budgets.timezone = textOf (leaf es "budgets" "timezone")
  monthlyUSD : tc.budgets.monthlyUSD = numberOf (leaf es "budgets" "monthly_usd")
  routeGroup : tc.routing.routeGroup = routeGroupOf es

section Describes

variable {cfg : Settings} {es : Json.Entries} {tc : Config.TenantConfig}

theorem Describes.docOk (h : Describes es tc)
    (hgroups : (tc.selection.routeGroups.bind (·.lookup tc.routing.routeGroup)).isSome = true →
      routeGroupOf es ∈ keysOf (routeGroupsAt es))
    (hvalid : Config.validateTenantConfig cfg.modelByName cfg.loadLocation tc = .ok ()) :
    DocOk cfg es := by
  obtain ⟨hmodels,hknown,hstrategy,hrpm,hburst,hretention,hlogMode,htimezone,hmonthly,hgroup⟩ :=
    Config.validateTenantConfig_iff.mp hvalid
  refine ⟨?_,?_,?_⟩
  · rw [modelsOk,← h.models,hmodels,hknown]
    rfl
  · simp only [rules,List.forall_mem_cons,← h.strategy,← h.rpm,← h.burst,← h.retentionDays,
      ← h.logMode,← h.timezone,← h.monthlyUSD]
    exact ⟨hstrategy,hrpm,hburst,hretention,hlogMode,htimezone,hmonthly,by simp⟩
  · rw [Bool.or_eq_true,decide_eq_true_eq,h.routeGroup] at hgroup
    rw [h.routeGroup] at hgroups
    exact hgroup.imp_right hgroups

theorem Describes.validate (h : Describes es tc)
    (hgroups : routeGroupOf es ∈ keysOf (routeGroupsAt es) →
      (tc.selection.routeGroups.bind (·.lookup tc.routing.routeGroup)).isSome = true)
    (hdoc : DocOk cfg es) :
    Config.validateTenantConfig cfg.modelByName cfg.loadLocation tc = .ok () := by
  obtain ⟨hmodels,hfields,hgroup⟩ := hdoc
  simp only [rules,List.forall_mem_cons,← h.strategy,← h.rpm,← h.burst,← h.retentionDays,
    ← h.logMode,← h.timezone,← h.monthlyUSD] at hfields
  obtain ⟨hstrategy,hrpm,hburst,hretention,hlogMode,htimezone,hmonthly,_⟩ := hfields
  rw [modelsOk,← h.models,Bool.and_eq_true] at hmodels
  have hkept := hgroup.imp_right hgroups
  rw [← h.routeGroup] at hkept
  exact Config.validateTenantConfig_iff.mpr ⟨hmodels.1,hmodels.2,hstrategy,hrpm,hburst,hretention,
    hlogMode,htimezone,hmonthly,by simpa using hkept⟩

end Describes

def fieldsOf : Schema → Fields
  | .struct _ fs => fs
  | _ => .nil

def sections : List (String × Schema) :=
  [("routing",routingConfig),("selection",selectionConfig),("rate_limit",rateLimitConfig),
   ("compliance",complianceConfig),("budgets",budgetsConfig)]

structure PlainDoc (es : Json.Entries) : Prop where
  top : Plain tenantFields.names es
  sections : ∀ x ∈ sections, Plain (fieldsOf x.2).names (entriesAt es x.1)

theorem Tidy.entriesAt {es : Json.Entries} (h : Tidy (.obj es)) (k : String) :
    Settled (entriesAt es k) := by
  rw [Lib.entriesAt]
  split
  · next m hm => exact (tidyEntries_iff.mp h.2 _ (GoMap.mem_of_lookup hm)).1
  · exact settled_nil

structure SectionItem (tc : tenantFields.Vals) (tag : Tag) (fs : Fields) (v : fs.Vals) : Prop where
  mem : (⟨tag,.struct [] fs,v⟩ : Item) ∈ tenantFields.items tc
  dash : tag.dash = false
  listed : (tag.name,Schema.struct [] fs) ∈ sections

section Sections

variable (tc : tenantFields.Vals)

theorem routing_item :
    SectionItem tc { name := "routing" } (fieldsOf routingConfig) tc.2.2.2.2.1 :=
  ⟨List.mem_of_getElem? (i := 4) rfl,rfl,List.mem_of_getElem? (i := 0) rfl⟩

theorem selection_item :
    SectionItem tc { name := "selection" } (fieldsOf selectionConfig) tc.2.2.2.2.2.1 :=
  ⟨List.mem_of_getElem? (i := 5) rfl,rfl,List.mem_of_getElem? (i := 1) rfl⟩

theorem rateLimit_item : SectionItem tc { name := "rate_limit" } (fieldsOf rateLimitConfig)
    tc.2.2.2.2.2.2.2.2.2.2.2.1 :=
  ⟨List.mem_of_getElem? (i := 11) rfl,rfl,List.mem_of_getElem? (i := 2) rfl⟩

theorem compliance_item : SectionItem tc { name := "compliance" } (fieldsOf complianceConfig)
    tc.2.2.2.2.2.2.2.2.2.2.2.2.1 :=
  ⟨List.mem_of_getElem? (i := 12) rfl,rfl,List.mem_of_getElem? (i := 3) rfl⟩

theorem budgets_item :
    SectionItem tc { name := "budgets" } (fieldsOf budgetsConfig) tc.2.2.2.2.2.2.2.2.2.1 :=
  ⟨List.mem_of_getElem? (i := 9) rfl,rfl,List.mem_of_getElem? (i := 4) rfl⟩

def modelsItem : Item := ⟨{ name := "allowed_models" },list .str,tc.2.2.2.1⟩

theorem modelsItem_mem : modelsItem tc ∈ tenantFields.items tc :=
  List.mem_of_getElem? (i := 3) rfl

end Sections

section Values

variable {es : Json.Entries} {tc : tenantFields.Vals}

theorem top_value (h : tenantConfig.decode (.obj es) tenantConfig.zero = some tc)
    (htidy : Tidy (.obj es)) (hplain : PlainDoc es) {i : Item} (hi : i ∈ tenantFields.items tc)
    (hd : i.tag.dash = false) :
    i.schema.decode ((es.lookup i.tag.name).getD .null) i.schema.zero = some i.val := by
  have hfields : tenantFields.decode tenantFields.names es tenantFields.zero = some tc := h
  exact Fields.value_at hfields htidy.1.sorted.nodup hplain.top hi hd

theorem leaf_value (h : tenantConfig.decode (.obj es) tenantConfig.zero = some tc)
    (htidy : Tidy (.obj es)) (hplain : PlainDoc es) {tag : Tag} {fs : Fields} {v : fs.Vals}
    (hsection : SectionItem tc tag fs v) {i : Item} (hi : i ∈ fs.items v)
    (hd : i.tag.dash = false) :
    i.schema.decode (leaf es tag.name i.tag.name) i.schema.zero = some i.val := by
  have hsub := decode_entriesAt (top_value h htidy hplain hsection.mem hsection.dash)
  exact Fields.value_at hsub (Tidy.entriesAt htidy tag.name).sorted.nodup
    (hplain.sections _ hsection.listed) hi hd

theorem textOf_of_decode {j : Json} {t : String} (h : (Schema.str).decode j "" = some t) :
    t = textOf j := by
  cases j with
  | null =>
    cases h
    rfl
  | str s =>
    cases h
    rfl
  | _ => cases h

theorem intOf_of_decode {j : Json} {i : Int} (h : (Schema.int).decode j (0 : Int) = some i) :
    i = intOf j := by
  cases j with
  | null =>
    cases h
    rfl
  | num x =>
    have hx : Json.parseInt x = some i := h
    rw [intOf,hx]
    rfl
  | _ => cases h

theorem numberOf_of_decode {j : Json} {x : Json.Number}
    (h : (Schema.float).decode j Json.Number.zero = some x) : x.val = numberOf j := by
  cases j with
  | null =>
    cases h
    rfl
  | num y =>
    have hy : Json.Number.ofFloat y = some x := h
    rw [numberOf,hy]
    rfl
  | _ => cases h

theorem mapM_eq_map {α β : Type} {f : α → Option β} {g : α → β} {items : List α}
    (hf : ∀ a b, f a = some b → b = g a) : ∀ {l : List β}, items.mapM f = some l →
      l = items.map g := by
  induction items with
  | nil =>
    intro l h
    cases h
    rfl
  | cons a items ih =>
    intro l h
    rw [List.mapM_cons] at h
    cases ha : f a with
    | none => simp [ha] at h
    | some b =>
      cases hl : items.mapM f with
      | none => simp [ha,hl] at h
      | some bs =>
        simp only [ha,hl,Option.pure_def,Option.bind_eq_bind,Option.bind_some,Option.some.injEq] at h
        rw [← h,List.map_cons,hf a b ha,ih hl]

theorem textsOf_of_decode {j : Json} {v : Option (List String)}
    (h : (list .str).decode j none = some v) : v.getD [] = textsOf j := by
  cases j with
  | null =>
    cases h
    rfl
  | arr items =>
    obtain ⟨l,hl,rfl⟩ := Option.map_eq_some_iff.mp h
    have hitems : items.mapM (fun j => (Schema.str).decode j "") = some l := hl
    exact mapM_eq_map (fun _ _ => textOf_of_decode) hitems
  | _ => cases h

theorem isSome_routeGroupsOf (d : {l : List (String × Option (List String)) // GoMap.Sorted l})
    (g : String) : ((routeGroupsOf (some d)).bind (·.lookup g)).isSome = true ↔
      g ∈ d.val.map Prod.fst := by
  have hgroups : (routeGroupsOf (some d)).bind (·.lookup g) =
      (d.val.lookup g).map (fun v : Option (List String) => v.getD []) :=
    GoMap.lookup_map (fun v : Option (List String) => v.getD []) g d.val
  rw [hgroups,Option.isSome_map,GoMap.isSome_lookup_iff]

theorem keysOf_of_decode {j : Json} {groups : (table (list .str)).Val}
    (h : (table (list .str)).decode j none = some groups) (g : String) :
    ((routeGroupsOf groups).bind (·.lookup g)).isSome = true ↔ g ∈ keysOf j := by
  cases j with
  | null =>
    cases h
    simp [routeGroupsOf,keysOf]
  | obj m =>
    obtain ⟨d,hd,rfl⟩ := Option.map_eq_some_iff.mp h
    obtain ⟨l,hl,heq⟩ := Option.bind_eq_some_iff.mp hd
    have hval : GoMap.ofList ([] ++ l) = d.val := congrArg Subtype.val (Option.some.inj heq)
    have hkeys : g ∈ d.val.map Prod.fst ↔ g ∈ m.map Prod.fst := by
      rw [← hval,GoMap.mem_keys_ofList,List.nil_append,
        keys_mapM (g := fun j => (list .str).decode j (list .str).zero) hl]
    exact (isSome_routeGroupsOf d g).trans hkeys
  | _ => cases h

end Values

section Validity

variable {es : Json.Entries} {tc : tenantFields.Vals}

theorem describes_of_decode (h : tenantConfig.decode (.obj es) tenantConfig.zero = some tc)
    (htidy : Tidy (.obj es)) (hplain : PlainDoc es) : Describes es (tenantOf tc) ∧
      ∀ g, ((tenantOf tc).selection.routeGroups.bind (·.lookup g)).isSome = true ↔
        g ∈ keysOf (routeGroupsAt es) := by
  have hmodels := textsOf_of_decode (top_value h htidy hplain (modelsItem_mem tc) rfl)
  have hrouting := fun (i : Item) hi => leaf_value h htidy hplain (routing_item tc) (i := i) hi
  have hselection := fun (i : Item) hi => leaf_value h htidy hplain (selection_item tc) (i := i) hi
  have hlimit := fun (i : Item) hi => leaf_value h htidy hplain (rateLimit_item tc) (i := i) hi
  have hcompliance := fun (i : Item) hi => leaf_value h htidy hplain (compliance_item tc) (i := i) hi
  have hbudgets := fun (i : Item) hi => leaf_value h htidy hplain (budgets_item tc) (i := i) hi
  have hstrategy := textOf_of_decode
    (hrouting ⟨{ name := "strategy" },.str,_⟩ (List.mem_of_getElem? (i := 0) rfl) rfl)
  have hgroup := textOf_of_decode (hrouting ⟨{ name := "route_group",omitempty := true },.str,_⟩
    (List.mem_of_getElem? (i := 1) rfl) rfl)
  have hgroups := keysOf_of_decode (hselection ⟨{ name := "route_groups" },table (list .str),_⟩
    (List.mem_of_getElem? (i := 2) rfl) rfl)
  have hrpm := intOf_of_decode
    (hlimit ⟨{ name := "rpm" },.int,_⟩ (List.mem_of_getElem? (i := 0) rfl) rfl)
  have hburst := intOf_of_decode
    (hlimit ⟨{ name := "burst" },.int,_⟩ (List.mem_of_getElem? (i := 1) rfl) rfl)
  have hretention := intOf_of_decode
    (hcompliance ⟨{ name := "retention_days" },.int,_⟩ (List.mem_of_getElem? (i := 0) rfl) rfl)
  have hlogMode := textOf_of_decode
    (hcompliance ⟨{ name := "log_mode" },.str,_⟩ (List.mem_of_getElem? (i := 1) rfl) rfl)
  have hmonthly := numberOf_of_decode
    (hbudgets ⟨{ name := "monthly_usd" },.float,_⟩ (List.mem_of_getElem? (i := 0) rfl) rfl)
  have htimezone := textOf_of_decode
    (hbudgets ⟨{ name := "timezone" },.str,_⟩ (List.mem_of_getElem? (i := 1) rfl) rfl)
  exact ⟨⟨hmodels,hstrategy,hrpm,hburst,hretention,hlogMode,htimezone,hmonthly,hgroup⟩,hgroups⟩

theorem validate_iff_docOk {cfg : Settings}
    (h : tenantConfig.decode (.obj es) tenantConfig.zero = some tc) (htidy : Tidy (.obj es))
    (hplain : PlainDoc es) : validate cfg tc = .ok () ↔ DocOk cfg es := by
  obtain ⟨hdescribes,hgroups⟩ := describes_of_decode h htidy hplain
  have hgroup := hgroups (tenantOf tc).routing.routeGroup
  rw [hdescribes.routeGroup] at hgroup
  constructor
  · exact hdescribes.docOk (by rw [hdescribes.routeGroup]; exact hgroup.mp)
  · exact hdescribes.validate (by rw [hdescribes.routeGroup]; exact hgroup.mpr)

end Validity

section Arrived

variable (key : String → String) (iter : Json.Entries → Json.Entries) {tag : Tag}
  (hd : tag.dash = false)

include hd

theorem textOf_arrived (t : String) : textOf ((⟨tag,.str,t⟩ : Item).arrived key iter) = t := by
  rcases Item.arrived_cases key iter ⟨tag,.str,t⟩ hd with h | ⟨h,hzero⟩
  · rw [h]
    simp [Schema.encode,textOf]
  · rw [h]
    exact hzero.symm

theorem intOf_arrived {i : Int} (hexact : Json.ExactInt i) :
    intOf ((⟨tag,.int,i⟩ : Item).arrived key iter) = i := by
  rcases Item.arrived_cases key iter ⟨tag,.int,i⟩ hd with h | ⟨h,hzero⟩
  · rw [h]
    show (Json.parseInt (Float.ofInt i)).getD 0 = i
    rw [hexact]
    rfl
  · rw [h]
    exact hzero.symm

theorem numberOf_arrived (x : Json.Number) :
    numberOf ((⟨tag,.float,x⟩ : Item).arrived key iter) = x.val := by
  rcases Item.arrived_cases key iter ⟨tag,.float,x⟩ hd with h | ⟨h,hzero⟩
  · rw [h]
    show ((Json.Number.ofFloat x.val).getD Json.Number.zero).val = x.val
    rw [Json.Number.ofFloat_val]
    rfl
  · rw [h]
    exact (congrArg Subtype.val hzero).symm

theorem textsOf_arrived (v : Option (List String)) :
    textsOf ((⟨tag,list .str,v⟩ : Item).arrived key iter) = v.getD [] := by
  rcases Item.arrived_cases key iter ⟨tag,list .str,v⟩ hd with h | ⟨h,hzero⟩
  · rw [h]
    cases v with
    | none => rfl
    | some l =>
      have hencode : (list .str).encode (some l) = .arr (l.map Json.str) := rfl
      show textsOf (Json.rekey key iter ((list .str).encode (some l))) = l
      rw [hencode,Json.rekey_arr,textsOf,List.map_map,List.map_map]
      exact (List.map_congr_left fun s _ => by simp [textOf]).trans (List.map_id l)
  · rw [h]
    have hnone : v = none := hzero
    rw [hnone]
    rfl

theorem keysOf_arrived (hiter : ∀ l, (iter l).Perm l) (groups : (table (list .str)).Val) (g : String) :
    g ∈ keysOf ((⟨tag,table (list .str),groups⟩ : Item).arrived key iter) ↔
      ∃ name, ((routeGroupsOf groups).bind (·.lookup name)).isSome = true ∧ key name = g := by
  rcases Item.arrived_cases key iter ⟨tag,table (list .str),groups⟩ hd with h | ⟨h,hzero⟩
  · rw [h]
    cases groups with
    | none => simp [Schema.encode,table,keysOf,routeGroupsOf]
    | some d =>
      have hencode : (table (list .str)).encode (some d) =
          .obj (d.val.map (fun e => (e.1,(list .str).encode e.2))) := rfl
      show g ∈ keysOf (Json.rekey key iter ((table (list .str)).encode (some d))) ↔ _
      rw [hencode,Json.rekey_obj,keysOf,Json.mem_keys_arrivals hiter]
      constructor
      · rintro ⟨_,hsent,hkey⟩
        obtain ⟨e,he,rfl⟩ := List.mem_map.mp hsent
        have hname : e.1 ∈ d.val.map Prod.fst := List.mem_map_of_mem he
        exact ⟨e.1,(isSome_routeGroupsOf d e.1).mpr hname,hkey⟩
      · rintro ⟨name,hname,hkey⟩
        obtain ⟨e,he,rfl⟩ := List.mem_map.mp ((isSome_routeGroupsOf d name).mp hname)
        exact ⟨_,List.mem_map_of_mem he,hkey⟩
  · rw [h]
    have hnone : groups = none := hzero
    rw [hnone]
    simp [keysOf,routeGroupsOf]

end Arrived

section Stored

variable (order : Json.MapOrder) (tc : tenantFields.Vals)

def storedEntries : Json.Entries :=
  Json.arrivals toSnakeCase order.iter (GoMap.ofList (tenantFields.sent stored tc))

theorem normalize_stripAPIKeys :
    normalizeConfigKeys order (stripAPIKeys tc) = .obj (storedEntries order tc) := by
  rw [stripAPIKeys_eq,normalizeConfigKeys,Json.rekey_obj]
  rfl

theorem tenantFields_fit : structFits toSnakeCase [] tenantFields.names = true :=
  (Bool.and_eq_true_iff.mp tenantDocument.fits).1

theorem tenantFields_fixed : ∀ n ∈ tenantFields.names, toSnakeCase n = n := by decide

theorem sections_fit : ∀ x ∈ sections, structFits toSnakeCase [] (fieldsOf x.2).names = true ∧
    stored x.1 = true ∧ ∀ n ∈ (fieldsOf x.2).names, toSnakeCase n = n := by decide

variable {tc}

section Section

variable {tag : Tag} {fs : Fields} {v : fs.Vals} (hsection : SectionItem tc tag fs v)

include hsection

theorem entriesAt_stored : entriesAt (storedEntries order tc) tag.name =
    Json.arrivals toSnakeCase order.iter (GoMap.ofList (fs.sent (fun _ => true) v)) :=
  Fields.entriesAt_sent order.perm tenantFields_fit hsection.mem hsection.dash
    (sections_fit _ hsection.listed).2.1
    (tenantFields_fixed _ (Fields.mem_names_of_mem_items hsection.mem hsection.dash))

theorem plain_section : Plain fs.names (entriesAt (storedEntries order tc) tag.name) := by
  rw [entriesAt_stored order hsection]
  exact Fields.plain_sent order.perm (sections_fit _ hsection.listed).2.2 _ v

theorem leaf_stored {i : Item} (hi : i ∈ fs.items v) (hd : i.tag.dash = false) :
    leaf (storedEntries order tc) tag.name i.tag.name = i.arrived toSnakeCase order.iter := by
  obtain ⟨hfits,_,hfixed⟩ := sections_fit _ hsection.listed
  rw [leaf,entriesAt_stored order hsection]
  exact Fields.arrived_of_sent order.perm hfits hi hd rfl
    (hfixed _ (Fields.mem_names_of_mem_items hi hd))

end Section

theorem plainDoc_stored (tc : tenantFields.Vals) : PlainDoc (storedEntries order tc) := by
  refine ⟨Fields.plain_sent order.perm tenantFields_fixed stored tc,?_⟩
  simp only [sections,List.forall_mem_cons]
  exact ⟨plain_section order (routing_item tc),plain_section order (selection_item tc),
    plain_section order (rateLimit_item tc),plain_section order (compliance_item tc),
    plain_section order (budgets_item tc),by simp⟩

/-- The integers that `validateTenantConfig` reads come back from their `float64` form. -/
structure ExactLimits (tc : Config.TenantConfig) : Prop where
  rpm : Json.ExactInt tc.rateLimit.rpm
  burst : Json.ExactInt tc.rateLimit.burst
  retentionDays : Json.ExactInt tc.compliance.retentionDays

theorem describes_stored (hexact : ExactLimits (tenantOf tc)) :
    Describes (storedEntries order tc) (tenantOf tc) ∧
      ∀ g, g ∈ keysOf (routeGroupsAt (storedEntries order tc)) ↔
        ∃ name, ((tenantOf tc).selection.routeGroups.bind (·.lookup name)).isSome = true ∧
          toSnakeCase name = g := by
  have hmodels : textsOf (allowedModelsOf (storedEntries order tc)) = (tenantOf tc).allowedModels := by
    have harrived := Fields.arrived_of_sent order.perm tenantFields_fit (modelsItem_mem tc) rfl
      (show stored "allowed_models" = true by decide)
      (show toSnakeCase "allowed_models" = "allowed_models" by decide)
    exact (congrArg textsOf harrived).trans (textsOf_arrived toSnakeCase order.iter rfl _)
  have hrouting := fun (i : Item) hi => leaf_stored order (routing_item tc) (i := i) hi
  have hselection := fun (i : Item) hi => leaf_stored order (selection_item tc) (i := i) hi
  have hlimit := fun (i : Item) hi => leaf_stored order (rateLimit_item tc) (i := i) hi
  have hcompliance := fun (i : Item) hi => leaf_stored order (compliance_item tc) (i := i) hi
  have hbudgets := fun (i : Item) hi => leaf_stored order (budgets_item tc) (i := i) hi
  have hstrategy := hrouting ⟨{ name := "strategy" },.str,_⟩ (List.mem_of_getElem? (i := 0) rfl) rfl
  have hgroup := hrouting ⟨{ name := "route_group",omitempty := true },.str,_⟩
    (List.mem_of_getElem? (i := 1) rfl) rfl
  have hgroups := hselection ⟨{ name := "route_groups" },table (list .str),_⟩
    (List.mem_of_getElem? (i := 2) rfl) rfl
  have hrpm := hlimit ⟨{ name := "rpm" },.int,_⟩ (List.mem_of_getElem? (i := 0) rfl) rfl
  have hburst := hlimit ⟨{ name := "burst" },.int,_⟩ (List.mem_of_getElem? (i := 1) rfl) rfl
  have hretention := hcompliance ⟨{ name := "retention_days" },.int,_⟩
    (List.mem_of_getElem? (i := 0) rfl) rfl
  have hlogMode := hcompliance ⟨{ name := "log_mode" },.str,_⟩ (List.mem_of_getElem? (i := 1) rfl) rfl
  have hmonthly := hbudgets ⟨{ name := "monthly_usd" },.float,_⟩ (List.mem_of_getElem? (i := 0) rfl) rfl
  have htimezone := hbudgets ⟨{ name := "timezone" },.str,_⟩ (List.mem_of_getElem? (i := 1) rfl) rfl
  refine ⟨⟨hmodels.symm,?_,?_,?_,?_,?_,?_,?_,?_⟩,fun g => ?_⟩
  · exact ((congrArg textOf hstrategy).trans (textOf_arrived _ _ rfl _)).symm
  · exact ((congrArg intOf hrpm).trans (intOf_arrived _ _ rfl hexact.rpm)).symm
  · exact ((congrArg intOf hburst).trans (intOf_arrived _ _ rfl hexact.burst)).symm
  · exact ((congrArg intOf hretention).trans (intOf_arrived _ _ rfl hexact.retentionDays)).symm
  · exact ((congrArg textOf hlogMode).trans (textOf_arrived _ _ rfl _)).symm
  · exact ((congrArg textOf htimezone).trans (textOf_arrived _ _ rfl _)).symm
  · exact ((congrArg numberOf hmonthly).trans (numberOf_arrived _ _ rfl _)).symm
  · exact ((congrArg textOf hgroup).trans (textOf_arrived _ _ rfl _)).symm
  · rw [routeGroupsAt]
    exact (iff_of_eq (congrArg (fun j => g ∈ keysOf j) hgroups)).trans
      (keysOf_arrived _ _ rfl order.perm _ g)

end Stored

end PrismGateway.Admin
