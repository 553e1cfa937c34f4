import PrismGateway.Lib.Tables
import Mathlib.Data.Rat.Defs

namespace PrismGateway.Storage.Catalog

open Lib

structure ModelCatalogEntry where
  displayName : String
  type : String
  promptPer1M : ℚ
  cachedInputPer1M : ℚ := 0
  completionPer1M : ℚ := 0
  infrastructureMonthlyUSD : ℚ := 0
  isActive : Bool := true
  longContext : Bool := false
  longContextStartTokens : Int := 272000
  longContextPromptPer1M : ℚ := 0
  longContextCachedInputPer1M : ℚ := 0
  longContextCompletionPer1M : ℚ := 0
  deriving DecidableEq, Repr

/-- The columns of `model_catalog` but its key and its time stamps. -/
structure ModelData extends ModelCatalogEntry where
  cacheWrite5mPer1M : ℚ := 0
  cacheWrite1hPer1M : ℚ := 0
  geoMultiplierUS : ℚ := 1
  deriving DecidableEq, Repr

structure ModelRow where
  data : ModelData
  createdAt : Int
  updatedAt : Int
  deriving DecidableEq, Repr

/-- A row as `INSERT` makes it, its time stamps the `NOW()` of the statement. -/
def ModelRow.fresh (now : Int) (data : ModelData) : ModelRow := ⟨data,now,now⟩

structure ToolRow where
  displayName : String
  toolType : String
  unit : String
  pricePerUnit : ℚ
  isActive : Bool := true
  createdAt : Int
  updatedAt : Int
  deriving DecidableEq, Repr

abbrev Models := Table (String × String) ModelRow

abbrev Tools := Table (String × String) ToolRow

def under {α : Type} (provider : String) (rows : List (String × α)) : List ((String × String) × α) :=
  rows.map (fun row => ((provider,row.1),row.2))

def llm (displayName : String) (prompt cachedInput completion : ℚ) : ModelCatalogEntry where
  displayName := displayName
  type := "LLM"
  promptPer1M := prompt
  cachedInputPer1M := cachedInput
  completionPer1M := completion

def embedding (displayName : String) (prompt : ℚ) : ModelCatalogEntry where
  displayName := displayName
  type := "Embedding"
  promptPer1M := prompt

def longContext (e : ModelCatalogEntry) (prompt cachedInput completion : ℚ) : ModelCatalogEntry :=
  { e with
    longContext := true
    longContextPromptPer1M := prompt
    longContextCachedInputPer1M := cachedInput
    longContextCompletionPer1M := completion }

def models055 : List (String × ℚ × ℚ) :=
  [("gpt-5.2",1.75,14),("gpt-5.2-pro",21,168),("gpt-5.1",1.25,10),("gpt-5",1.25,10),("gpt-5-mini",0.25,2),
   ("gpt-5-nano",0.05,0.4),("gpt-5-pro",15,120),("gpt-4.1",2,8),("gpt-4.1-mini",0.4,1.6),
   ("gpt-4.1-nano",0.1,0.4),("gpt-4o",2.5,10),("gpt-4o-mini",0.15,0.6),("o4-mini",1.1,4.4),("o3",2,8),
   ("o3-mini",1.1,4.4),("o3-pro",20,80),("o1",15,60),("o1-mini",1.1,4.4),("o1-pro",150,600),
   ("gpt-4o-2024-05-13",5,15),("gpt-4-turbo-2024-04-09",10,30),("gpt-4-0125-preview",10,30),
   ("gpt-4-1106-preview",10,30),("gpt-4-1106-vision-preview",10,30),("gpt-4-0613",30,60),
   ("gpt-4-0314",30,60),("gpt-4-32k",60,120),("gpt-3.5-turbo",0.5,1.5),("gpt-3.5-turbo-0125",0.5,1.5),
   ("gpt-3.5-turbo-1106",1,2),("gpt-3.5-turbo-0613",1.5,2),("gpt-3.5-0301",1.5,2),
   ("gpt-3.5-turbo-instruct",1.5,2),("gpt-3.5-turbo-16k-0613",3,4),("davinci-002",2,2),
   ("babbage-002",0.4,0.4)]

def seeds055 : List ((String × String) × ModelData) :=
  under "openai" (models055.map (fun (id,prompt,completion) =>
    (id,{ llm id prompt 0 completion with longContextStartTokens := 270000 })))

def models058 : List (String × ModelCatalogEntry) :=
  [("gpt-5.5",longContext (llm "GPT-5.5" 5 0.5 30) 10 1 45),
   ("gpt-5.5-pro",longContext (llm "GPT-5.5 Pro" 30 0 180) 60 0 270),
   ("gpt-5.4",longContext (llm "GPT-5.4" 2.5 0.25 15) 5 0.5 22.5),
   ("gpt-5.4-pro",longContext (llm "GPT-5.4 Pro" 30 0 180) 60 0 270),
   ("gpt-5.4-mini",llm "GPT-5.4 Mini" 0.75 0.075 4.5),
   ("gpt-5.4-nano",llm "GPT-5.4 Nano" 0.2 0.02 1.25),
   ("gpt-5.2",llm "GPT-5.2" 1.75 0.175 14),
   ("gpt-5.2-pro",llm "GPT-5.2 Pro" 21 0 168),
   ("gpt-5.1",llm "GPT-5.1" 1.25 0.125 10),
   ("gpt-5",llm "GPT-5" 1.25 0.125 10),
   ("gpt-5-mini",llm "GPT-5 Mini" 0.25 0.025 2),
   ("gpt-5-nano",llm "GPT-5 Nano" 0.05 0.005 0.4),
   ("gpt-5-pro",llm "GPT-5 Pro" 15 0 120),
   ("gpt-4.1",llm "GPT-4.1" 2 0.5 8),
   ("gpt-4.1-mini",llm "GPT-4.1 Mini" 0.4 0.1 1.6),
   ("gpt-4.1-nano",llm "GPT-4.1 Nano" 0.1 0.025 0.4),
   ("gpt-4o",llm "GPT-4o" 2.5 1.25 10),
   ("gpt-4o-mini",llm "GPT-4o Mini" 0.15 0.075 0.6),
   ("o4-mini",llm "o4 Mini" 1.1 0.275 4.4),
   ("o3",llm "o3" 2 0.5 8),
   ("o3-mini",llm "o3 Mini" 1.1 0.55 4.4),
   ("o3-pro",llm "o3 Pro" 20 0 80),
   ("o1",llm "o1" 15 7.5 60),
   ("o1-mini",llm "o1 Mini" 1.1 0.55 4.4),
   ("o1-pro",llm "o1 Pro" 150 0 600),
   ("gpt-4o-2024-05-13",llm "GPT-4o (2024-05-13)" 5 0 15),
   ("gpt-4-turbo-2024-04-09",llm "GPT-4 Turbo (2024-04-09)" 10 0 30),
   ("gpt-4-0125-preview",llm "GPT-4 (0125 preview)" 10 0 30),
   ("gpt-4-1106-preview",llm "GPT-4 (1106 preview)" 10 0 30),
   ("gpt-4-1106-vision-preview",llm "GPT-4 (1106 vision preview)" 10 0 30),
   ("gpt-4-0613",llm "GPT-4 (0613)" 30 0 60),
   ("gpt-4-0314",llm "GPT-4 (0314)" 30 0 60),
   ("gpt-4-32k",llm "GPT-4 32K" 60 0 120),
   ("gpt-3.5-turbo",llm "GPT-3.5 Turbo" 0.5 0 1.5),
   ("gpt-3.5-turbo-0125",llm "GPT-3.5 Turbo (0125)" 0.5 0 1.5),
   ("gpt-3.5-turbo-1106",llm "GPT-3.5 Turbo (1106)" 1 0 2),
   ("gpt-3.5-turbo-0613",llm "GPT-3.5 Turbo (0613)" 1.5 0 2),
   ("gpt-3.5-0301",llm "GPT-3.5 (0301)" 1.5 0 2),
   ("gpt-3.5-turbo-instruct",llm "GPT-3.5 Turbo Instruct" 1.5 0 2),
   ("gpt-3.5-turbo-16k-0613",llm "GPT-3.5 Turbo 16K (0613)" 3 0 4),
   ("text-embedding-3-small",embedding "text-embedding-3-small" 0.02),
   ("text-embedding-3-large",embedding "text-embedding-3-large" 0.13),
   ("text-embedding-ada-002",embedding "text-embedding-ada-002" 0.1)]

def seeds058 : List ((String × String) × ModelCatalogEntry) := under "openai" models058

def claude (displayName : String) (prompt cachedInput completion cacheWrite5m cacheWrite1h : ℚ) :
    ModelData :=
  { llm displayName prompt cachedInput completion with
    longContextStartTokens := 0
    cacheWrite5mPer1M := cacheWrite5m
    cacheWrite1hPer1M := cacheWrite1h }

def models061 : List (String × ModelData) :=
  [("claude-opus-4-8",claude "Claude Opus 4.8" 5 0.5 25 6.25 10),
   ("claude-opus-4-7",claude "Claude Opus 4.7" 5 0.5 25 6.25 10),
   ("claude-opus-4-6",claude "Claude Opus 4.6" 5 0.5 25 6.25 10),
   ("claude-opus-4-5",claude "Claude Opus 4.5" 5 0.5 25 6.25 10),
   ("claude-opus-4-1",claude "Claude Opus 4.1" 15 1.5 75 18.75 30),
   ("claude-sonnet-4-6",claude "Claude Sonnet 4.6" 3 0.3 15 3.75 6),
   ("claude-sonnet-4-5",claude "Claude Sonnet 4.5" 3 0.3 15 3.75 6),
   ("claude-haiku-4-5",claude "Claude Haiku 4.5" 1 0.1 5 1.25 2)]

def seeds061 : List ((String × String) × ModelData) := under "anthropic" models061

def seeds062 : List ((String × String) × ModelData) :=
  [(("deepseek","deepseek-v4-flash"),{ llm "DeepSeek V4 Flash" 0.14 0.0028 0.28 with }),
   (("deepseek","deepseek-v4-pro"),{ llm "DeepSeek V4 Pro" 1.74 0.0145 3.48 with }),
   (("kimi","kimi-k2.6"),{ llm "Kimi K2.6" 0.95 0.16 4 with })]

def models064 : List (String × ModelData) :=
  [("grok-4.3",{ llm "Grok 4.3" 1.25 0 2.5 with }),
   ("grok-4.20-0309-reasoning",{ llm "Grok 4.20 Reasoning" 1.25 0 2.5 with }),
   ("grok-4.20-0309-non-reasoning",{ llm "Grok 4.20" 1.25 0 2.5 with }),
   ("grok-4.20-multi-agent-0309",{ llm "Grok 4.20 Multi-Agent" 1.25 0 2.5 with }),
   ("grok-build-0.1",{ llm "Grok Build 0.1" 1 0 2 with })]

def seeds064 : List ((String × String) × ModelData) := under "xai" models064

def tool (displayName toolType unit : String) (pricePerUnit : ℚ) (now : Int) : ToolRow where
  displayName := displayName
  toolType := toolType
  unit := unit
  pricePerUnit := pricePerUnit
  createdAt := now
  updatedAt := now

def tools057 : List (String × (Int → ToolRow)) :=
  [("web_search_standard",tool "Web Search (all models)" "web_search" "call" 0.01),
   ("web_search_preview_reasoning",tool "Web Search Preview (reasoning)" "web_search" "call" 0.01),
   ("web_search_preview_non_reasoning",tool "Web Search Preview (non-reasoning)" "web_search" "call" 0.025),
   ("file_search",tool "File Search" "file_search" "call" 0.0025),
   ("container_1gb",tool "Container (1 GB)" "container" "session" 0.03),
   ("container_4gb",tool "Container (4 GB)" "container" "session" 0.12),
   ("container_16gb",tool "Container (16 GB)" "container" "session" 0.48),
   ("container_64gb",tool "Container (64 GB)" "container" "session" 1.92),
   ("function_calling",tool "Function Calling" "function" "call" 0),
   ("custom_tool",tool "Custom Tool" "custom" "call" 0),
   ("mcp_tool",tool "MCP Tool" "mcp" "call" 0)]

def seeds057 (now : Int) : List ((String × String) × ToolRow) :=
  under "openai" (tools057.map (fun row => (row.1,row.2 now)))

section Statements

variable (now : Int)

def update058 (seed : ModelCatalogEntry) (row : ModelRow) : ModelRow :=
  { row with data := { row.data with toModelCatalogEntry := seed }, updatedAt := now }

def update061 (seed data : ModelData) : ModelData :=
  { data with
    displayName := seed.displayName
    promptPer1M := seed.promptPer1M
    cachedInputPer1M := seed.cachedInputPer1M
    completionPer1M := seed.completionPer1M
    cacheWrite5mPer1M := seed.cacheWrite5mPer1M
    cacheWrite1hPer1M := seed.cacheWrite1hPer1M
    geoMultiplierUS := seed.geoMultiplierUS
    isActive := seed.isActive
    longContext := seed.longContext
    longContextStartTokens := seed.longContextStartTokens
    longContextPromptPer1M := seed.longContextPromptPer1M
    longContextCachedInputPer1M := seed.longContextCachedInputPer1M
    longContextCompletionPer1M := seed.longContextCompletionPer1M }

def update062 (seed data : ModelData) : ModelData :=
  { data with
    displayName := seed.displayName
    type := seed.type
    promptPer1M := seed.promptPer1M
    cachedInputPer1M := seed.cachedInputPer1M
    completionPer1M := seed.completionPer1M
    cacheWrite5mPer1M := seed.cacheWrite5mPer1M
    cacheWrite1hPer1M := seed.cacheWrite1hPer1M
    geoMultiplierUS := seed.geoMultiplierUS
    isActive := seed.isActive }

def ModelRow.mapData (f : ModelData → ModelData) (row : ModelRow) : ModelRow :=
  { row with data := f row.data }

def deactivate (data : ModelData) : ModelData := { data with isActive := false }

def migration055 (t : Models) : Models :=
  t.insertNew (seeds055.map (fun seed => (seed.1,.fresh now seed.2)))

def migration058 (t : Models) : Models :=
  (t.deleteWhere (fun key _ => key.1 = "openai")).upsert seeds058
    (fun seed => .fresh now { seed with }) (update058 now)

def migration061 (t : Models) : Models :=
  (t.updateWhere (fun key _ => key.1 = "anthropic") (.mapData deactivate)).upsert seeds061
    (.fresh now) (fun seed => .mapData (update061 seed))

def migration062 (t : Models) : Models :=
  t.upsert seeds062 (.fresh now) (fun seed => .mapData (update062 seed))

def migration064 (t : Models) : Models :=
  t.upsert seeds064 (.fresh now) (fun seed => .mapData (update062 seed))

def migrateModels (t : Models) : Models :=
  migration064 now (migration062 now (migration061 now (migration058 now (migration055 now t))))

def migrateTools (t : Tools) : Tools := t.insertNew (seeds057 now)

end Statements

theorem lookup_under {α : Type} (provider : String) (rows : List (String × α)) (key : String × String) :
    (under provider rows).lookup key = if key.1 = provider then rows.lookup key.2 else none := by
  obtain ⟨p,id⟩ := key
  induction rows with
  | nil => simp [under]
  | cons row rows ih =>
    obtain ⟨id',row⟩ := row
    have hkey : ((p,id) == (provider,id')) = (p == provider && id == id') := rfl
    simp only [under,List.map_cons,List.lookup_cons,hkey] at ih ⊢
    by_cases hp : p = provider
    · simp only [hp,beq_self_eq_true,Bool.true_and,if_true] at ih ⊢
      rw [ih]
    · rw [if_neg hp] at ih ⊢
      simp only [beq_eq_false_iff_ne.mpr hp,Bool.false_and]
      exact ih

section Models

variable {now : Int} {t : Models}

theorem migration055_other {key : String × String} (h : key.1 ≠ "openai") :
    migration055 now t key = t key := by
  have hnone : (seeds055.map (fun seed => (seed.1,ModelRow.fresh now seed.2))).lookup key = none := by
    rw [lookup_map_snd,seeds055,lookup_under,if_neg h]
    rfl
  simp [migration055,Table.insertNew,hnone]

theorem migration058_openai (id : String) :
    migration058 now t ("openai",id) =
      (models058.lookup id).map (fun seed => .fresh now { seed with }) := by
  have hlookup : seeds058.lookup ("openai",id) = models058.lookup id := lookup_under "openai" _ _
  cases hseed : models058.lookup id with
  | none =>
    rw [migration058,Table.upsert_of_none (hlookup.trans hseed)]
    simp [Table.deleteWhere]
  | some seed =>
    rw [migration058,Table.upsert_of_some (hlookup.trans hseed)]
    simp [Table.deleteWhere]

theorem migration058_other {key : String × String} (h : key.1 ≠ "openai") :
    migration058 now t key = t key := by
  have hlookup : seeds058.lookup key = none := (lookup_under "openai" _ _).trans (if_neg h)
  rw [migration058,Table.upsert_of_none hlookup]
  cases hrow : t key <;> simp [Table.deleteWhere,hrow,h]

theorem migration061_anthropic (id : String) :
    migration061 now t ("anthropic",id) =
      match models061.lookup id with
      | none => (t ("anthropic",id)).map (.mapData deactivate)
      | some seed =>
        some (((t ("anthropic",id)).map (.mapData (update061 seed))).getD (.fresh now seed)) := by
  have hlookup : seeds061.lookup ("anthropic",id) = models061.lookup id :=
    lookup_under "anthropic" _ _
  cases hseed : models061.lookup id with
  | none =>
    rw [migration061,Table.upsert_of_none (hlookup.trans hseed)]
    simp [Table.updateWhere]
  | some seed =>
    rw [migration061,Table.upsert_of_some (hlookup.trans hseed)]
    cases hrow : t ("anthropic",id) <;>
      simp [Table.updateWhere,hrow,ModelRow.mapData,update061,deactivate]

theorem migration061_other {key : String × String} (h : key.1 ≠ "anthropic") :
    migration061 now t key = t key := by
  have hlookup : seeds061.lookup key = none := (lookup_under "anthropic" _ _).trans (if_neg h)
  rw [migration061,Table.upsert_of_none hlookup]
  cases hrow : t key <;> simp [Table.updateWhere,hrow,h]

def otherSeeds : List ((String × String) × ModelData) := seeds062 ++ seeds064

theorem lookup_seeds062 {key : String × String} (h : key.1 ≠ "deepseek" ∧ key.1 ≠ "kimi") :
    seeds062.lookup key = none := by
  rw [List.lookup_eq_none_iff]
  rintro ⟨⟨provider,id⟩,seed⟩ hseed
  rw [bne_iff_ne]
  rintro rfl
  simp only [seeds062,List.mem_cons,List.not_mem_nil,or_false,Prod.mk.injEq] at hseed
  rcases hseed with ⟨⟨rfl,-⟩,-⟩ | ⟨⟨rfl,-⟩,-⟩ | ⟨⟨rfl,-⟩,-⟩
  · exact h.1 rfl
  · exact h.1 rfl
  · exact h.2 rfl

theorem lookup_seeds064 {key : String × String} (h : key.1 ≠ "xai") : seeds064.lookup key = none :=
  (lookup_under "xai" _ _).trans (if_neg h)

theorem migration062_064 (key : String × String) :
    migration064 now (migration062 now t) key =
      match otherSeeds.lookup key with
      | none => t key
      | some seed => some (((t key).map (.mapData (update062 seed))).getD (.fresh now seed)) := by
  by_cases hkey : key.1 = "xai"
  · have h062 : seeds062.lookup key = none := lookup_seeds062 (by simp [hkey])
    have h062' : migration062 now t key = t key := Table.upsert_of_none h062
    rw [otherSeeds,List.lookup_append,h062,Option.none_or,migration064]
    cases hseed : seeds064.lookup key with
    | none => rw [Table.upsert_of_none hseed,h062']
    | some seed => rw [Table.upsert_of_some hseed,h062']
  · have h064 : seeds064.lookup key = none := lookup_seeds064 hkey
    rw [otherSeeds,List.lookup_append,h064,Option.or_none,migration064,Table.upsert_of_none h064,
      migration062]
    cases hseed : seeds062.lookup key with
    | none => rw [Table.upsert_of_none hseed]
    | some seed => rw [Table.upsert_of_some hseed]

theorem lookup_otherSeeds {key : String × String} (h : key.1 = "openai" ∨ key.1 = "anthropic") :
    otherSeeds.lookup key = none := by
  have h062 : seeds062.lookup key = none := lookup_seeds062 (by rcases h with h | h <;> simp [h])
  have h064 : seeds064.lookup key = none := lookup_seeds064 (by rcases h with h | h <;> simp [h])
  rw [otherSeeds,List.lookup_append,h062,h064]
  rfl

theorem otherSeeds_provider {key : String × String} {seed : ModelData}
    (h : otherSeeds.lookup key = some seed) : key.1 ≠ "openai" ∧ key.1 ≠ "anthropic" := by
  constructor
  · intro he
    simp [lookup_otherSeeds (.inl he)] at h
  · intro he
    simp [lookup_otherSeeds (.inr he)] at h

theorem migrateModels_openai (id : String) :
    migrateModels now t ("openai",id) =
      (models058.lookup id).map (fun seed => .fresh now { seed with }) := by
  rw [migrateModels,migration062_064,lookup_otherSeeds (.inl rfl)]
  exact (migration061_other (by simp)).trans (migration058_openai id)

theorem migrateModels_anthropic (id : String) :
    migrateModels now t ("anthropic",id) =
      match models061.lookup id with
      | none => (t ("anthropic",id)).map (.mapData deactivate)
      | some seed =>
        some (((t ("anthropic",id)).map (.mapData (update061 seed))).getD (.fresh now seed)) := by
  have hearlier : migration058 now (migration055 now t) ("anthropic",id) = t ("anthropic",id) :=
    (migration058_other (by simp)).trans (migration055_other (by simp))
  rw [migrateModels,migration062_064,lookup_otherSeeds (.inr rfl)]
  refine (migration061_anthropic id).trans ?_
  rw [hearlier]

theorem migrateModels_other {key : String × String} (ho : key.1 ≠ "openai") (ha : key.1 ≠ "anthropic") :
    migrateModels now t key =
      match otherSeeds.lookup key with
      | none => t key
      | some seed => some (((t key).map (.mapData (update062 seed))).getD (.fresh now seed)) := by
  have hearlier : migration061 now (migration058 now (migration055 now t)) key = t key :=
    (migration061_other ha).trans ((migration058_other ho).trans (migration055_other ho))
  rw [migrateModels,migration062_064,hearlier]

end Models

def content (t : Models) : Table (String × String) ModelData := fun key => (t key).map (·.data)

structure Settled (t : Models) : Prop where
  openai : ∀ id, content t ("openai",id) = (models058.lookup id).map (fun seed => { seed with })
  anthropic : ∀ id seed, models061.lookup id = some seed →
    ∃ data, content t ("anthropic",id) = some data ∧ update061 seed data = data
  retired : ∀ id data, models061.lookup id = none → content t ("anthropic",id) = some data →
    data.isActive = false
  others : ∀ key seed, otherSeeds.lookup key = some seed →
    ∃ data, content t key = some data ∧ update062 seed data = data

theorem deactivate_eq_self {data : ModelData} : deactivate data = data ↔ data.isActive = false := by
  constructor
  · intro h
    rw [← h]
    rfl
  · intro h
    rw [deactivate,← h]

theorem deactivated_data_iff {row : Option ModelRow} :
    (row.map (ModelRow.mapData deactivate)).map (·.data) = row.map (·.data) ↔
      ∀ data, row.map (·.data) = some data → data.isActive = false := by
  cases row with
  | none => simp
  | some row => simp [ModelRow.mapData,deactivate_eq_self]

theorem upserted_data_iff {now : Int} {row : Option ModelRow} {f : ModelData → ModelData}
    {seed : ModelData} :
    (some ((row.map (ModelRow.mapData f)).getD (.fresh now seed))).map (·.data) = row.map (·.data) ↔
      ∃ data, row.map (·.data) = some data ∧ f data = data := by
  cases row with
  | none => simp
  | some row => simp [ModelRow.mapData]

section Models

variable {now : Int} {t : Models}

theorem content_openai {id : String} : content (migrateModels now t) ("openai",id) =
    (models058.lookup id).map (fun seed => { seed with }) := by
  rw [content,migrateModels_openai]
  cases models058.lookup id <;> rfl

theorem content_migrateModels_iff : content (migrateModels now t) = content t ↔ Settled t := by
  constructor
  · intro h
    refine ⟨fun id => (congrFun h _).symm.trans content_openai,?_,?_,?_⟩
    · intro id seed hseed
      have hid := congrFun h ("anthropic",id)
      rw [content,migrateModels_anthropic,hseed] at hid
      exact upserted_data_iff.mp hid
    · intro id data hseed hdata
      have hid := congrFun h ("anthropic",id)
      rw [content,migrateModels_anthropic,hseed] at hid
      exact deactivated_data_iff.mp hid data hdata
    · intro key seed hseed
      have hkey := congrFun h key
      obtain ⟨ho,ha⟩ := otherSeeds_provider hseed
      rw [content,migrateModels_other ho ha,hseed] at hkey
      exact upserted_data_iff.mp hkey
  · intro h
    funext key
    obtain ⟨provider,id⟩ := key
    by_cases ho : provider = "openai"
    · subst ho
      exact content_openai.trans (h.openai id).symm
    · by_cases ha : provider = "anthropic"
      · subst ha
        rw [content,migrateModels_anthropic]
        cases hseed : models061.lookup id with
        | none => exact deactivated_data_iff.mpr (fun data hdata => h.retired id data hseed hdata)
        | some seed => exact upserted_data_iff.mpr (h.anthropic id seed hseed)
      · rw [content,migrateModels_other ho ha]
        cases hseed : otherSeeds.lookup (provider,id) with
        | none => rfl
        | some seed => exact upserted_data_iff.mpr (h.others _ seed hseed)

theorem lookup_seeds057 (id : String) :
    (seeds057 now).lookup ("openai",id) = (tools057.lookup id).map (fun row => row now) := by
  rw [seeds057,lookup_under,if_pos rfl]
  exact lookup_map_snd (fun row : Int → ToolRow => row now) id tools057

theorem migrateTools_isSome {tools : Tools} {id : String} (h : (tools057.lookup id).isSome = true) :
    (migrateTools now tools ("openai",id)).isSome = true := by
  rw [migrateTools,Table.insertNew,lookup_seeds057,Option.isSome_or,Option.isSome_map,h,Bool.or_true]

theorem migrateTools_eq_self_iff {tools : Tools} : migrateTools now tools = tools ↔
    ∀ id, (tools057.lookup id).isSome = true → (tools ("openai",id)).isSome = true := by
  rw [migrateTools,Table.insertNew_eq_self_iff]
  constructor
  · intro h id hid
    obtain ⟨row,hrow⟩ := Option.isSome_iff_exists.mp hid
    exact h ("openai",id) (row now) (by rw [lookup_seeds057,hrow]; rfl)
  · rintro h ⟨provider,id⟩ row hrow
    by_cases hp : provider = "openai"
    · subst hp
      rw [lookup_seeds057] at hrow
      obtain ⟨seed,hseed,-⟩ := Option.map_eq_some_iff.mp hrow
      exact h id (by rw [hseed]; rfl)
    · have hnone : (seeds057 now).lookup (provider,id) = none :=
        (lookup_under "openai" _ _).trans (if_neg hp)
      rw [hnone] at hrow
      cases hrow

theorem upserted_createdAt {row : Option ModelRow} {f : ModelData → ModelData} {seed : ModelData}
    (h : ∀ r, row = some r → r.createdAt ≤ now) :
    ((row.map (ModelRow.mapData f)).getD (.fresh now seed)).createdAt ≤ now := by
  cases row with
  | none => exact Int.le_refl now
  | some r => exact h r rfl

theorem createdAt_migrateModels (h : t.Every (fun _ row => row.createdAt ≤ now)) :
    (migrateModels now t).Every (fun _ row => row.createdAt ≤ now) := by
  rintro ⟨provider,id⟩ row hrow
  by_cases ho : provider = "openai"
  · subst ho
    rw [migrateModels_openai] at hrow
    obtain ⟨seed,-,rfl⟩ := Option.map_eq_some_iff.mp hrow
    exact Int.le_refl now
  · by_cases ha : provider = "anthropic"
    · subst ha
      rw [migrateModels_anthropic] at hrow
      cases hseed : models061.lookup id with
      | none =>
        rw [hseed] at hrow
        obtain ⟨r,hr,rfl⟩ := Option.map_eq_some_iff.mp hrow
        exact h _ r hr
      | some seed =>
        rw [hseed] at hrow
        cases hrow
        exact upserted_createdAt (h _)
    · rw [migrateModels_other ho ha] at hrow
      cases hseed : otherSeeds.lookup (provider,id) with
      | none =>
        rw [hseed] at hrow
        exact h _ row hrow
      | some seed =>
        rw [hseed] at hrow
        cases hrow
        exact upserted_createdAt (h _)

theorem upserted_settled {row : Option ModelRow} {update : ModelData → ModelData → ModelData}
    {seed : ModelData} (hseed : update seed seed = seed)
    (htwice : ∀ data, update seed (update seed data) = update seed data) :
    ∃ data, (some ((row.map (ModelRow.mapData (update seed))).getD (.fresh now seed))).map (·.data) =
      some data ∧ update seed data = data := by
  cases row with
  | none => exact ⟨seed,rfl,hseed⟩
  | some row => exact ⟨update seed row.data,rfl,htwice row.data⟩

theorem settled_migrateModels : Settled (migrateModels now t) := by
  refine ⟨fun id => content_openai,?_,?_,?_⟩
  · intro id seed hseed
    rw [content,migrateModels_anthropic,hseed]
    exact upserted_settled rfl (fun _ => rfl)
  · intro id data hseed hdata
    rw [content,migrateModels_anthropic,hseed] at hdata
    cases hrow : t ("anthropic",id) with
    | none => simp [hrow] at hdata
    | some row =>
      rw [hrow] at hdata
      cases hdata
      rfl
  · intro key seed hseed
    obtain ⟨ho,ha⟩ := otherSeeds_provider hseed
    rw [content,migrateModels_other ho ha,hseed]
    exact upserted_settled rfl (fun _ => rfl)

end Models

theorem migrateModels_stamped (now : Int) (t : Models) :
    ∃ row, migrateModels now t ("openai","gpt-5.5") = some row ∧ row.createdAt = now := by
  rw [migrateModels_openai]
  exact ⟨_,rfl,rfl⟩

end PrismGateway.Storage.Catalog
