import PrismGateway.Admin.TenantPatch
import PrismGateway.Frontend.AdminClient
import PrismGateway.Storage.PathMerge

namespace PrismGateway.Admin.TrafficSplit

open Lib Lib.Json Storage

structure Entry where
  model : String
  weight : Float

structure Group where
  name : String
  entries : List Entry

/-- The state of `EditTrafficSplitDialog`. -/
structure Dialog where
  groups : List Group
  distinct : (groups.map Group.name).Nodup

def entryOf : Json → Option Entry
  | .obj e => match e.lookup "model", e.lookup "weight" with
    | some (.str model), some (.num weight) => some ⟨model,weight⟩
    | _, _ => none
  | _ => none

def groupOf : String × Json → Option Group
  | (name,.arr entries) => (entries.mapM entryOf).map (Group.mk name)
  | _ => none

def openDialog (config : Json.Entries) : Option Dialog :=
  match config.lookup "traffic_split" with
  | none => some ⟨[],List.nodup_nil⟩
  | some .null => some ⟨[],List.nodup_nil⟩
  | some (.obj split) => (split.mapM groupOf).bind fun groups =>
    if h : (groups.map Group.name).Nodup then some ⟨groups,h⟩ else none
  | some _ => none

namespace Dialog

variable (d : Dialog)

def addGroup (newGroupName : String) : Dialog :=
  if h : Frontend.trim newGroupName = "" ∨ Frontend.trim newGroupName ∈ d.groups.map Group.name then d
  else
    { groups := d.groups ++ [⟨Frontend.trim newGroupName,[]⟩]
      distinct := by
        rw [not_or] at h
        rw [List.map_append]
        exact List.Nodup.append d.distinct (List.nodup_singleton _) (by simpa using h.2) }

def removeGroup (name : String) : Dialog where
  groups := d.groups.filter (fun g => g.name ≠ name)
  distinct := (List.filter_sublist.map Group.name).nodup d.distinct

def changeGroup (groupName : String) (change : List Entry → List Entry) : Dialog where
  groups := d.groups.map (fun g => if g.name = groupName then ⟨g.name,change g.entries⟩ else g)
  distinct := by
    have hnames : (d.groups.map (fun g => if g.name = groupName then ⟨g.name,change g.entries⟩
        else g)).map Group.name = d.groups.map Group.name := by
      rw [List.map_map]
      refine List.map_congr_left fun g _ => ?_
      simp only [Function.comp_apply]
      split_ifs <;> rfl
    rw [hnames]
    exact d.distinct

def addEntry (groupName : String) : Dialog :=
  d.changeGroup groupName (fun entries => entries ++ [⟨"",0⟩])

def removeEntry (groupName : String) (index : ℕ) : Dialog :=
  d.changeGroup groupName (fun entries => entries.eraseIdx index)

def updateModel (groupName : String) (index : ℕ) (value : String) : Dialog :=
  d.changeGroup groupName (fun entries => entries.modify index (fun e => { e with model := value }))

def updateWeight (groupName : String) (index : ℕ) (value : Float) : Dialog :=
  d.changeGroup groupName (fun entries => entries.modify index (fun e => { e with weight := value }))

end Dialog

def getTotalWeight (entries : List Entry) : Float :=
  entries.foldl (fun sum e => sum + if e.weight.isNaN then 0 else e.weight) 0

def Group.valid (g : Group) : Bool :=
  !g.entries.isEmpty && !(getTotalWeight g.entries ≤ 0) && decide (g.entries.map Entry.model).Nodup

def Entry.value (e : Entry) : Json := .obj [("model",.str e.model),("weight",numberText e.weight)]

def Group.value (g : Group) : Json := .arr (g.entries.map Entry.value)

namespace Dialog

variable (d : Dialog)

def fields : Json.Entries := d.groups.map (fun g => (g.name,g.value))

/-- The object that is built key by key: an assignment to `__proto__` leaves no key of its own. -/
def trafficSplit : Json.Entries := d.fields.filter (fun e => e.1 ≠ "__proto__")

def patch : Json := .obj [("traffic_split",.obj d.trafficSplit)]

def edited : Json.Entries := GoMap.ofList d.fields

end Dialog

def save (cfg : Settings) (db : TenantTables) (readOrder patchOrder : Json.MapOrder)
    (tenantID : String) (version : Int) (d : Dialog) : Option (TenantTables × Except Failure Int) :=
  if d.groups.all Group.valid then
    some (adminPatchTenantConfig cfg db readOrder patchOrder tenantID (.version version) (some d.patch))
  else none

def Stored (db : TenantTables) (tenantID : String) (d : Dialog) : Prop :=
  ∀ order, ∃ doc version, db.getTenantConfig order tenantID = some (doc,version) ∧
    doc.read ["traffic_split"] = some (.obj d.edited)

def splitOf (config : Json.Entries) : Json.Entries :=
  match config.lookup "traffic_split" with
  | some (.obj split) => split
  | _ => []

structure Complete (stored : Json.Entries) (d : Dialog) : Prop where
  plain : ∀ g ∈ d.groups, toSnakeCase g.name = g.name
  kept : ∀ x ∈ stored.map Prod.fst, x ∈ d.groups.map Group.name
  proto : ∀ g ∈ d.groups, g.name = "__proto__" → stored.lookup g.name = some g.value

section Values

theorem tidy_numberText (x : Float) : Tidy (numberText x) := by
  rw [numberText]
  split_ifs <;> trivial

theorem Entry.sorted (e : Entry) :
    GoMap.Sorted [("model",Json.str e.model),("weight",numberText e.weight)] := by
  have hlt : ("model" : String) < "weight" := by decide
  simpa [GoMap.Sorted] using hlt

theorem Entry.tidy (e : Entry) : Tidy e.value := by
  refine ⟨⟨e.sorted,?_⟩,trivial,tidy_numberText e.weight,trivial⟩
  have hfixed : ∀ k ∈ ["model","weight"], toSnakeCase k = k := by decide
  exact hfixed

theorem Group.tidy (g : Group) : Tidy g.value := by
  rw [Group.value,Tidy,tidyItems_iff]
  intro j hj
  obtain ⟨e,_,rfl⟩ := List.mem_map.mp hj
  exact e.tidy

theorem parsed_numberText (x : Float) : parsed (numberText x) = numberText x := by
  rw [numberText]
  split_ifs
  · exact rekey_num x
  · exact rekey_null

theorem Entry.parsed_eq (e : Entry) : parsed e.value = e.value := by
  rw [parsed,Entry.value,rekey_obj,arrivals_eq_of_fixed (fun _ => List.Perm.refl _) e.sorted
    (fun _ _ => rfl)]
  have hweight : rekey (fun k => k) (fun l => l) (numberText e.weight) = numberText e.weight :=
    parsed_numberText e.weight
  simp [hweight]

theorem Group.parsed_eq (g : Group) : parsed g.value = g.value := by
  rw [parsed,Group.value,rekey_arr,List.map_map]
  exact congrArg Json.arr (List.map_congr_left fun e _ => e.parsed_eq)

end Values

section Saved

variable {cfg : Settings} {db db' : TenantTables} {readOrder patchOrder : Json.MapOrder}
  {tenantID : String} {version newVersion : Int} {d : Dialog}

theorem Dialog.nodup_fields (d : Dialog) : (d.fields.map Prod.fst).Nodup := by
  rw [Dialog.fields,List.map_map]
  exact d.distinct

theorem Dialog.nodup_trafficSplit (d : Dialog) : (d.trafficSplit.map Prod.fst).Nodup :=
  (List.filter_sublist.map Prod.fst).nodup d.nodup_fields

theorem Dialog.mem_fields {e : String × Json} (he : e ∈ d.fields) :
    ∃ g ∈ d.groups, (g.name,g.value) = e := List.mem_map.mp he

def arrived (order : Json.MapOrder) (d : Dialog) : Json.Entries :=
  arrivals toSnakeCase order.iter (arrivals (fun k => k) (fun l => l) d.trafficSplit)

theorem sent_patch (order : Json.MapOrder) (d : Dialog) :
    normalizeConfigKeys order (parsed d.patch) =
      .obj [("traffic_split",.obj (arrived order d))] := by
  rw [Dialog.patch,parsed_singleton,normalize_singleton order (by decide),parsed,rekey_obj,
    normalizeConfigKeys,rekey_obj]
  rfl

theorem arrivals_trafficSplit (d : Dialog) :
    arrivals (fun k => k) (fun l => l) d.trafficSplit = GoMap.ofList d.trafficSplit := by
  refine congrArg GoMap.ofList (map_eq_self_iff.mpr fun e he => ?_)
  obtain ⟨g,_,rfl⟩ := Dialog.mem_fields (List.mem_of_mem_filter he)
  exact congrArg (Prod.mk g.name) g.parsed_eq

theorem mem_sent {e : String × Json} (he : e ∈ GoMap.ofList d.trafficSplit) :
    ∃ g ∈ d.groups, (g.name,g.value) = e :=
  Dialog.mem_fields (List.mem_of_mem_filter (GoMap.mem_of_mem_ofList he))

theorem arrived_array {order : Json.MapOrder} {x : String} {j : Json}
    (h : (arrived order d).lookup x = some j) : ∃ items, j = .arr items := by
  rw [arrived,arrivals_trafficSplit] at h
  obtain ⟨e,he,heq⟩ := mem_arrivals order.perm (GoMap.mem_of_lookup h)
  obtain ⟨g,_,rfl⟩ := mem_sent he
  cases heq
  exact ⟨_,rekey_arr _⟩

theorem arrived_of_plain (order : Json.MapOrder)
    (hplain : ∀ g ∈ d.groups, toSnakeCase g.name = g.name) :
    arrived order d = GoMap.ofList d.trafficSplit := by
  rw [arrived,arrivals_trafficSplit,arrivals_eq_of_fixed order.perm (GoMap.sorted_ofList _)]
  · refine map_eq_self_iff.mpr fun e he => ?_
    obtain ⟨g,_,rfl⟩ := mem_sent he
    exact congrArg (Prod.mk g.name) (Tidy.normalizeConfigKeys_eq order _ g.tidy)
  · intro e he
    obtain ⟨g,hg,rfl⟩ := mem_sent he
    exact hplain g hg

theorem lookup_arrived (order : Json.MapOrder)
    (hplain : ∀ g ∈ d.groups, toSnakeCase g.name = g.name) (x : String) :
    (arrived order d).lookup x = if x = "__proto__" then none else d.fields.lookup x := by
  rw [arrived_of_plain order hplain,GoMap.lookup_ofList d.nodup_trafficSplit,Dialog.trafficSplit,
    GoMap.lookup_filter (fun k => decide (k ≠ "__proto__"))]
  split_ifs with hx hproto hproto
  · exact absurd hproto (of_decide_eq_true hx)
  · rfl
  · rfl
  · exact absurd (decide_eq_true hproto) hx

theorem lookup_edited (d : Dialog) (x : String) : d.edited.lookup x = d.fields.lookup x :=
  GoMap.lookup_ofList d.nodup_fields x

theorem fields_eq_none {x : String} : d.fields.lookup x = none ↔ x ∉ d.groups.map Group.name := by
  rw [← Option.not_isSome_iff_eq_none,GoMap.isSome_lookup_iff,Dialog.fields,List.map_map]
  rfl

theorem fields_of_mem {g : Group} (hg : g ∈ d.groups) : d.fields.lookup g.name = some g.value :=
  GoMap.lookup_of_mem d.nodup_fields (List.mem_map_of_mem (f := fun g => (g.name,g.value)) hg)

theorem merged_split (order : Json.MapOrder) {current : Json.Entries} (hcurrent : Tidy (.obj current)) :
    ∃ split, (Json.obj (mergeMaps current [("traffic_split",.obj (arrived order d))])).read
        ["traffic_split"] = some (.obj split) ∧
      GoMap.Sorted split ∧
      ∀ x, split.lookup x = ((arrived order d).lookup x).or ((splitOf current).lookup x) := by
  have hread : (Json.obj (mergeMaps current [("traffic_split",.obj (arrived order d))])).read
      ["traffic_split"] =
        some (mergeValue (current.lookup "traffic_split") (.obj (arrived order d))) := by
    rw [read_obj,lookup_mergeMaps (by simp),GoMap.lookup_cons_eq,if_pos rfl,Option.elim_some,merged,
      Option.bind_some,read_nil]
    exact fun h => by cases h
  have hsorted : GoMap.Sorted (arrived order d) := sorted_arrivals _
  rcases mergeValue_obj (current.lookup "traffic_split") (arrived order d) with
    ⟨split,hlookup,hmerge⟩ | ⟨hne,hmerge⟩
  · refine ⟨_,hread.trans (congrArg some hmerge),?_,?_⟩
    · exact sorted_mergeMaps (hcurrent.of_lookup hlookup).1.sorted _
    · intro x
      have hsplit : splitOf current = split := by rw [splitOf,hlookup]
      rw [lookup_mergeMaps hsorted.nodup,hsplit]
      cases harrived : (arrived order d).lookup x with
      | none => rfl
      | some j =>
        obtain ⟨items,rfl⟩ := arrived_array harrived
        rw [Option.elim_some,merged,mergeValue]
        · rfl
        · exact fun _ h => by cases h
        · exact fun h => by cases h
  · refine ⟨_,hread.trans (congrArg some hmerge),hsorted,?_⟩
    intro x
    have hsplit : splitOf current = [] := by
      rw [splitOf]
      cases hlookup : current.lookup "traffic_split" with
      | none => rfl
      | some j =>
        cases j with
        | obj split => exact absurd hlookup (hne split)
        | _ => rfl
    rw [hsplit]
    exact (Option.or_none ..).symm

theorem split_eq_iff (order : Json.MapOrder) {split stored : Json.Entries}
    (hsorted : GoMap.Sorted split) (hfixed : ∀ k ∈ split.map Prod.fst, toSnakeCase k = k)
    (hlookup : ∀ x, split.lookup x = ((arrived order d).lookup x).or (stored.lookup x)) :
    split = d.edited ↔ Complete stored d := by
  constructor
  · rintro rfl
    have hplain : ∀ g ∈ d.groups, toSnakeCase g.name = g.name := by
      intro g hg
      refine hfixed g.name (GoMap.isSome_lookup_iff.mp ?_)
      rw [lookup_edited,fields_of_mem hg]
      rfl
    refine ⟨hplain,?_,?_⟩
    · intro x hx
      by_contra hnone
      have h := hlookup x
      rw [lookup_edited,fields_eq_none.mpr hnone] at h
      have hsome := GoMap.isSome_lookup_iff.mpr hx
      rw [(Option.or_eq_none_iff.mp h.symm).2] at hsome
      cases hsome
    · intro g hg hproto
      have h := hlookup g.name
      rw [lookup_edited,fields_of_mem hg,lookup_arrived order hplain,if_pos hproto,Option.none_or] at h
      exact h.symm
  · intro h
    refine GoMap.Sorted.ext hsorted (GoMap.sorted_ofList _) fun x => ?_
    have hgone : d.fields.lookup x = none → stored.lookup x = none := by
      intro hnone
      rw [← Option.not_isSome_iff_eq_none,GoMap.isSome_lookup_iff]
      exact fun hx => fields_eq_none.mp hnone (h.kept x hx)
    change split.lookup x = d.edited.lookup x
    rw [hlookup,lookup_arrived order h.plain,lookup_edited]
    cases hfields : d.fields.lookup x with
    | none =>
      rw [hgone hfields]
      split_ifs <;> rfl
    | some j =>
      split_ifs with hproto
      · obtain ⟨g,hg,heq⟩ := Dialog.mem_fields (GoMap.mem_of_lookup hfields)
        cases heq
        exact h.proto g hg hproto
      · rfl

theorem split_saved_iff
    (hsaved : save cfg db readOrder patchOrder tenantID version d = some (db',.ok newVersion)) :
    ∃ j current,
      (ensureTenantConfigInDB cfg db readOrder tenantID).getTenantConfig readOrder tenantID =
        some (j,version) ∧ asMap j = some current ∧
      (Stored db' tenantID d ↔ Complete (splitOf current) d) := by
  rw [save] at hsaved
  split_ifs at hsaved
  obtain ⟨current,patch,hmerge,hget⟩ := merge_of_patched (Option.some.inj hsaved)
  obtain ⟨j,hread,hmap⟩ := hmerge.read
  have hsent := hmerge.sent
  rw [sent_patch] at hsent
  cases hsent
  obtain ⟨split,hsplit,hsorted,hlookup⟩ := merged_split (d := d) patchOrder hmerge.tidy_current
  have htidy : Tidy (.obj split) :=
    (tidy_mergeMaps hmerge.tidy_current hmerge.tidy_patch).of_read hsplit
  refine ⟨j,current,hread,hmap,?_⟩
  rw [← split_eq_iff patchOrder hsorted htidy.1.fixed hlookup]
  constructor
  · intro hstored
    obtain ⟨doc,v,hdoc,hedited⟩ := hstored readOrder
    rw [hget readOrder] at hdoc
    cases hdoc
    rw [hsplit] at hedited
    cases hedited
    rfl
  · rintro rfl order
    exact ⟨_,_,hget order,hsplit⟩

end Saved

def storedSplit : Json.Entries :=
  [("chat",.arr [.obj [("model",.str "mini"),("weight",.num 1)]]),
   ("code",.arr [.obj [("model",.str "maxi"),("weight",.num 1)]])]

def storedConfig : Json.Entries := [("traffic_split",.obj storedSplit)]

def tables : TenantTables := TenantTables.empty.setFlat "acme" ⟨1,.obj storedConfig⟩

def bareSettings : Settings := ⟨fun _ => none,fun _ => none,fun _ => false⟩

def inOrder : Json.MapOrder := ⟨fun l => l,Json.listed_perm⟩

def opened : Dialog := ⟨[⟨"chat",[⟨"mini",1⟩]⟩,⟨"code",[⟨"maxi",1⟩]⟩],by decide⟩

def saveOpened (change : Dialog → Dialog) : Option (TenantTables × Except Failure Int) :=
  save bareSettings tables inOrder inOrder "acme" 1 (change opened)

theorem open_stored : openDialog storedConfig = some opened := rfl

theorem saved_of_ok {change : Dialog → Dialog}
    (h : (saveOpened change).any (fun r => r.2.toOption.isSome) = true) :
    ∃ db' newVersion, saveOpened change = some (db',.ok newVersion) := by
  cases hsave : saveOpened change with
  | none =>
    rw [hsave] at h
    cases h
  | some r =>
    obtain ⟨db',answer⟩ := r
    rw [hsave] at h
    cases answer with
    | error failure => cases h
    | ok newVersion => exact ⟨db',newVersion,rfl⟩

def heavier (d : Dialog) : Dialog := d.updateWeight "chat" 0 3

theorem heavier_saved : ∃ db' newVersion, saveOpened heavier = some (db',.ok newVersion) ∧
    ∃ j current, (ensureTenantConfigInDB bareSettings tables inOrder "acme").getTenantConfig inOrder
        "acme" = some (j,1) ∧ asMap j = some current ∧
      (Stored db' "acme" (heavier opened) ↔ Complete (splitOf current) (heavier opened)) := by
  obtain ⟨db',newVersion,hsave⟩ := @saved_of_ok heavier (by decide)
  exact ⟨db',newVersion,hsave,split_saved_iff hsave⟩

theorem removed_group_stays : openDialog storedConfig = some opened ∧ ∃ db' newVersion,
    saveOpened (fun d => d.removeGroup "code") = some (db',.ok newVersion) ∧
      ¬Stored db' "acme" (opened.removeGroup "code") := by
  have hstays : (saveOpened (fun d => d.removeGroup "code")).any (fun r => r.2.toOption.isSome &&
      ((r.1.getTenantConfig inOrder "acme").bind (fun x => x.1.read ["traffic_split","code"])).isSome) =
        true := by decide
  cases hsave : saveOpened (fun d => d.removeGroup "code") with
  | none =>
    rw [hsave] at hstays
    cases hstays
  | some r =>
    obtain ⟨db',answer⟩ := r
    rw [hsave,Option.any_some,Bool.and_eq_true] at hstays
    cases answer with
    | error failure => cases hstays.1
    | ok newVersion =>
      refine ⟨open_stored,db',newVersion,rfl,fun hstored => ?_⟩
      obtain ⟨doc,v,hdoc,hread⟩ := hstored inOrder
      have hcode := hstays.2
      rw [hdoc,Option.bind_some,show ["traffic_split","code"] = ["traffic_split"] ++ ["code"] from rfl,
        read_append,hread] at hcode
      cases hcode

end PrismGateway.Admin.TrafficSplit
