import PrismGateway.Lib.GoMap
import PrismGateway.Lib.Run
import PrismGateway.Orchestrator.Cost
import Mathlib.Data.String.Basic

namespace PrismGateway.Orchestrator.Prices

open Lib Cost

deriving instance DecidableEq for Pricing
deriving instance DecidableEq for ToolPricingEntry

structure PricedModel where
  provider : String
  name : String
  pricing : Pricing
  deriving DecidableEq

structure CatalogPricingRow where
  provider : String
  id : String
  cachedInputPer1M : ℚ := 0
  longContext : Bool := false
  longContextStartTokens : ℤ := 0
  longContextPromptPer1M : ℚ := 0
  longContextCachedInputPer1M : ℚ := 0
  longContextCompletionPer1M : ℚ := 0
  cacheWrite5mPer1M : ℚ := 0
  cacheWrite1hPer1M : ℚ := 0
  geoMultiplierUS : ℚ := 0

structure ToolCatalogPricingRow (R : Type := ℚ) where
  provider : String
  id : String
  toolType : String
  pricePerUnit : R

abbrev CatalogRows := Option (List CatalogPricingRow)
abbrev ToolRows (R : Type := ℚ) := Option (List (ToolCatalogPricingRow R))

def fill {α : Type} [Zero α] [DecidableEq α] (x y : α) : α := if x = 0 then y else x

def overlay (row : CatalogPricingRow) (p : Pricing) : Pricing :=
  { p with
    cachedInputPer1M := fill p.cachedInputPer1M row.cachedInputPer1M
    longContext := if p.longContext then p.longContext else row.longContext
    longContextStartTokens := fill p.longContextStartTokens row.longContextStartTokens
    longContextPromptPer1M := fill p.longContextPromptPer1M row.longContextPromptPer1M
    longContextCachedInputPer1M :=
      fill p.longContextCachedInputPer1M row.longContextCachedInputPer1M
    longContextCompletionPer1M := fill p.longContextCompletionPer1M row.longContextCompletionPer1M
    cacheWrite5mPer1M := fill p.cacheWrite5mPer1M row.cacheWrite5mPer1M
    cacheWrite1hPer1M := fill p.cacheWrite1hPer1M row.cacheWrite1hPer1M
    geoMultiplierUS := fill p.geoMultiplierUS row.geoMultiplierUS }

def rowFor (rows : CatalogRows) (m : PricedModel) : Option CatalogPricingRow :=
  (rows.getD []).reverse.find? (fun r => r.provider ++ "/" ++ r.id = m.provider ++ "/" ++ m.name)

def enrichModel (rows : CatalogRows) (m : PricedModel) : PricedModel :=
  match rowFor rows m with
  | none => m
  | some row => { m with pricing := overlay row m.pricing }

def enrichPricingFromCatalog (rows : CatalogRows) (models : List PricedModel) : List PricedModel :=
  models.map (enrichModel rows)

def buildToolPricingIndex {R : Type} (rows : ToolRows R) : List (String × ToolPricingEntry R) :=
  GoMap.ofList ((rows.getD []).map (fun r => (r.provider ++ "/" ++ r.id,⟨r.toolType,r.pricePerUnit⟩)))

structure GlobalPrices where
  models : List PricedModel
  toolPricing : List (String × ToolPricingEntry)
  deriving DecidableEq

structure Load where
  base : List PricedModel
  catalog : CatalogRows
  tools : ToolRows

def Load.prices (l : Load) : GlobalPrices :=
  ⟨enrichPricingFromCatalog l.catalog l.base,buildToolPricingIndex l.tools⟩

inductive Stored where
  | failed
  | absent
  | malformed
  | present (models : List PricedModel)
  deriving DecidableEq

structure Setup where
  yaml : List PricedModel
  dynamicConfig : Bool
  ttl : Int

/-- A `GlobalConfig` owns its models, or its slice is the one of the loaded YAML configuration. -/
inductive Config where
  | own (prices : GlobalPrices)
  | yaml (toolPricing : List (String × ToolPricingEntry))

structure Resolved where
  config : Config
  load : Load

structure Cached where
  prices : GlobalPrices
  fetchedAt : Int
  load : Load

inductive Phase where
  | begun
  | missed
  | loaded (base : List PricedModel)
  | overlaid (base : List PricedModel) (rows : CatalogRows)
  | ready (prices : GlobalPrices) (load : Load)
  | fellBack
  | catalogRead (rows : CatalogRows)
  | yamlOverlaid (rows : CatalogRows)
  | done

structure Call where
  enriches : Bool
  phase : Phase

/-- `yaml` is the slice `cfg.Models`, `priced` the configurations that requests are priced with;
`fallbacks` lists the catalog rows of the loads that fell back to YAML. -/
structure World where
  now : Int
  stored : Stored
  catalog : CatalogRows
  tools : ToolRows
  yaml : List PricedModel
  cached : Option Cached
  calls : List Call
  priced : List Resolved
  fallbacks : List CatalogRows

inductive Event where
  | wait (now : Int)
  | store (stored : Stored)
  | updateCatalog (rows : CatalogRows)
  | updateTools (rows : ToolRows)
  | invalidate
  | resolve (enriches : Bool)
  | next (c : Nat)

namespace World

variable (s : Setup) (w : World)

def hit : Option Cached := w.cached.filter (fun e => w.now - e.fetchedAt ≤ s.ttl)

def move (c : Nat) (k : Call) (phase : Phase) : World :=
  { w with calls := w.calls.set c { k with phase := phase } }

def deliver (c : Nat) (k : Call) (r : Resolved) : World :=
  { w.move c k .done with priced := if k.enriches then w.priced ++ [r] else w.priced }

def loadOf (base : List PricedModel) : Load := ⟨base,w.catalog,w.tools⟩

-- json.Unmarshal fails: the pricing caller takes `GlobalConfigFromYAML` as it is
def unparsed (c : Nat) (k : Call) : World :=
  if k.enriches then
    { w.deliver c k ⟨.yaml [],w.loadOf s.yaml⟩ with fallbacks := w.fallbacks ++ [w.catalog] }
  else w.move c k .done

def next (c : Nat) (k : Call) : Option World :=
  match k.phase with
  | .begun => match w.hit s with
    | some e => some (w.deliver c k ⟨.own e.prices,e.load⟩)
    | none => some (w.move c k .missed)
  | .missed =>
    if s.dynamicConfig then
      match w.stored with
      | .present models => some (w.move c k (.loaded models))
      | .malformed => some (w.unparsed s c k)
      | _ => some (w.move c k .fellBack)
    else some (w.move c k .fellBack)
  | .loaded base =>
    if k.enriches then some (w.move c k (.overlaid base w.catalog))
    else some { w.move c k .done with cached := some ⟨⟨base,[]⟩,w.now,w.loadOf base⟩ }
  | .overlaid base rows =>
    some (w.move c k (.ready ⟨enrichPricingFromCatalog rows base,buildToolPricingIndex w.tools⟩
      ⟨base,rows,w.tools⟩))
  | .ready prices load =>
    some { w.deliver c k ⟨.own prices,load⟩ with cached := some ⟨prices,w.now,load⟩ }
  | .fellBack =>
    if k.enriches then some (w.move c k (.catalogRead w.catalog)) else some (w.move c k .done)
  -- the models of the fallback are those of the loaded YAML configuration, filled in place
  | .catalogRead rows =>
    some { w.move c k (.yamlOverlaid rows) with
      yaml := enrichPricingFromCatalog rows w.yaml
      fallbacks := w.fallbacks ++ [rows] }
  | .yamlOverlaid rows =>
    some (w.deliver c k ⟨.yaml (buildToolPricingIndex w.tools),⟨s.yaml,rows,w.tools⟩⟩)
  | .done => none

def pricesOf (r : Resolved) : GlobalPrices :=
  match r.config with
  | .own prices => prices
  | .yaml toolPricing => ⟨w.yaml,toolPricing⟩

def AddsNothing (base : List PricedModel) : Prop :=
  enrichPricingFromCatalog w.catalog base = base ∧ buildToolPricingIndex w.tools = []

def Coherent : Prop := ∀ r ∈ w.priced, w.pricesOf r = r.load.prices

end World

section Runs

variable (s : Setup)

def step (w : World) : Event → Option World
  | .wait now => if w.now ≤ now then some { w with now := now } else none
  | .store stored => some { w with stored := stored }
  | .updateCatalog rows => some { w with catalog := rows }
  | .updateTools rows => some { w with tools := rows }
  | .invalidate => some { w with cached := none }
  | .resolve enriches => some { w with calls := w.calls ++ [⟨enriches,.begun⟩] }
  | .next c => (w.calls[c]?).bind (fun k => w.next s c k)

def Phase.Plain (w : World) (enriches : Bool) : Phase → Prop
  | .loaded base => enriches = false → w.AddsNothing base
  | .catalogRead rows => ∀ earlier ∈ w.fallbacks,
      enrichPricingFromCatalog earlier s.yaml = enrichPricingFromCatalog rows s.yaml
  | .missed => s.dynamicConfig = true → w.stored = .malformed → enriches = true →
      w.AddsNothing s.yaml ∧ ∀ earlier ∈ w.fallbacks, enrichPricingFromCatalog earlier s.yaml = s.yaml
  | _ => True

def Plain (w : World) : Event → Prop
  | .next c => ∀ k ∈ w.calls[c]?, k.phase.Plain s w k.enriches
  | _ => True

def Resolved.Sound (fallbacks : List CatalogRows) (r : Resolved) : Prop :=
  match r.config with
  | .own prices => prices = r.load.prices
  | .yaml toolPricing => r.load.base = s.yaml ∧ r.load.catalog ∈ fallbacks ∧
      toolPricing = buildToolPricingIndex r.load.tools

def Phase.Sound (fallbacks : List CatalogRows) : Phase → Prop
  | .ready prices load => prices = load.prices
  | .yamlOverlaid rows => rows ∈ fallbacks
  | _ => True

structure Inv (w : World) : Prop where
  untouched : w.fallbacks = [] → w.yaml = s.yaml
  filled : ∀ rows ∈ w.fallbacks, w.yaml = enrichPricingFromCatalog rows s.yaml
  cached : ∀ e, w.cached = some e → e.prices = e.load.prices
  priced : ∀ r ∈ w.priced, Resolved.Sound s w.fallbacks r
  calls : ∀ k ∈ w.calls, k.phase.Sound w.fallbacks

end Runs

section Enrichment

theorem fill_fill {α : Type} [Zero α] [DecidableEq α] (x y : α) : fill (fill x y) y = fill x y := by
  unfold fill
  split_ifs <;> rfl

theorem overlay_overlay (row : CatalogPricingRow) (p : Pricing) :
    overlay row (overlay row p) = overlay row p := by
  unfold overlay
  simp only [fill_fill]
  cases p.longContext <;> simp

theorem enrichModel_enrichModel (rows : CatalogRows) (m : PricedModel) :
    enrichModel rows (enrichModel rows m) = enrichModel rows m := by
  unfold enrichModel
  cases hrow : rowFor rows m with
  | none => simp only [hrow]
  | some row =>
    have hsame : rowFor rows { m with pricing := overlay row m.pricing } = some row := hrow
    simp only [hsame,overlay_overlay]

theorem enrich_enrich (rows : CatalogRows) (models : List PricedModel) :
    enrichPricingFromCatalog rows (enrichPricingFromCatalog rows models) =
      enrichPricingFromCatalog rows models := by
  unfold enrichPricingFromCatalog
  rw [List.map_map]
  exact List.map_congr_left (fun m _ => enrichModel_enrichModel rows m)

end Enrichment

section Invariant

variable {s : Setup} {w w' : World} {c : Nat} {k : Call}

theorem Resolved.Sound.mono {fallbacks later : List CatalogRows} {r : Resolved}
    (h : r.Sound s fallbacks) (hsub : fallbacks ⊆ later) : r.Sound s later := by
  unfold Resolved.Sound at h ⊢
  split at h
  · exact h
  · exact ⟨h.1,hsub h.2.1,h.2.2⟩

theorem Phase.Sound.mono {fallbacks later : List CatalogRows} {phase : Phase}
    (h : phase.Sound fallbacks) (hsub : fallbacks ⊆ later) : phase.Sound later := by
  cases phase with
  | yamlOverlaid rows => exact hsub h
  | _ => exact h

theorem Inv.coherent (h : Inv s w) : w.Coherent := by
  intro r hr
  have hsound := h.priced r hr
  unfold Resolved.Sound at hsound
  unfold World.pricesOf
  split at hsound
  · exact hsound
  · obtain ⟨hbase,hmem,htools⟩ := hsound
    rw [Load.prices,hbase,htools,h.filled _ hmem]

theorem Inv.move {phase : Phase} (h : Inv s w) (hphase : phase.Sound w.fallbacks) :
    Inv s (w.move c k phase) where
  untouched := h.untouched
  filled := h.filled
  cached := h.cached
  priced := h.priced
  calls := by
    intro l hl
    rcases List.mem_or_eq_of_mem_set hl with hold | rfl
    · exact h.calls l hold
    · exact hphase

theorem Inv.deliver {r : Resolved} (h : Inv s w) (hr : r.Sound s w.fallbacks) :
    Inv s (w.deliver c k r) := by
  have hmove : Inv s (w.move c k .done) := h.move trivial
  refine ⟨hmove.untouched,hmove.filled,hmove.cached,?_,hmove.calls⟩
  intro q hq
  unfold World.deliver at hq
  dsimp only at hq
  split_ifs at hq
  · rcases List.mem_append.mp hq with hold | hnew
    · exact h.priced q hold
    · exact (List.mem_singleton.mp hnew) ▸ hr
  · exact h.priced q hq

theorem Inv.set {e : Cached} (h : Inv s w) (he : e.prices = e.load.prices) :
    Inv s { w with cached := some e } where
  untouched := h.untouched
  filled := h.filled
  cached := by
    intro e' he'
    cases he'
    exact he
  priced := h.priced
  calls := h.calls

theorem Inv.fallBack {rows : CatalogRows} {yaml : List PricedModel} (h : Inv s w)
    (hyaml : yaml = enrichPricingFromCatalog rows s.yaml)
    (hagree : ∀ earlier ∈ w.fallbacks,
      enrichPricingFromCatalog earlier s.yaml = enrichPricingFromCatalog rows s.yaml) :
    Inv s { w with yaml := yaml, fallbacks := w.fallbacks ++ [rows] } where
  untouched := by simp
  filled := by
    intro earlier hearlier
    rcases List.mem_append.mp hearlier with hold | hnew
    · exact hyaml.trans (hagree earlier hold).symm
    · rw [List.mem_singleton.mp hnew]
      exact hyaml
  cached := h.cached
  priced := fun r hr => (h.priced r hr).mono (List.subset_append_left _ _)
  calls := fun l hl => (h.calls l hl).mono (List.subset_append_left _ _)

theorem Inv.yaml_eq (h : Inv s w) {models : List PricedModel} (hfirst : s.yaml = models)
    (hearlier : ∀ rows ∈ w.fallbacks, enrichPricingFromCatalog rows s.yaml = models) :
    w.yaml = models := by
  cases hf : w.fallbacks with
  | nil => exact (h.untouched hf).trans hfirst
  | cons rows rest =>
    have hmem : rows ∈ w.fallbacks := by simp [hf]
    exact (h.filled rows hmem).trans (hearlier rows hmem)

theorem Inv.enriched_yaml (h : Inv s w) {rows : CatalogRows}
    (hagree : ∀ earlier ∈ w.fallbacks,
      enrichPricingFromCatalog earlier s.yaml = enrichPricingFromCatalog rows s.yaml) :
    enrichPricingFromCatalog rows w.yaml = enrichPricingFromCatalog rows s.yaml := by
  cases hf : w.fallbacks with
  | nil => rw [h.untouched hf]
  | cons earlier rest =>
    have hmem : earlier ∈ w.fallbacks := by simp [hf]
    rw [h.filled earlier hmem,hagree earlier hmem,enrich_enrich]

theorem Inv.unparsed (h : Inv s w)
    (hplain : k.enriches = true → w.AddsNothing s.yaml ∧ ∀ earlier ∈ w.fallbacks,
      enrichPricingFromCatalog earlier s.yaml = s.yaml) : Inv s (w.unparsed s c k) := by
  unfold World.unparsed
  split_ifs with henriches
  · obtain ⟨⟨hbase,htools⟩,hearlier⟩ := hplain henriches
    have hyaml : w.yaml = s.yaml := h.yaml_eq rfl hearlier
    have hfell : Inv s { w with fallbacks := w.fallbacks ++ [w.catalog] } :=
      h.fallBack (hyaml.trans hbase.symm) (fun earlier he => (hearlier earlier he).trans hbase.symm)
    refine hfell.deliver ⟨rfl,?_,htools.symm⟩
    exact List.mem_append_right _ (List.mem_singleton.mpr rfl)
  · exact h.move trivial

theorem inv_next (h : Inv s w) (hk : w.calls[c]? = some k) (hplain : Plain s w (.next c))
    (hnext : w.next s c k = some w') : Inv s w' := by
  have hcall := hplain k hk
  have hphase := h.calls k (List.mem_of_getElem? hk)
  unfold World.next at hnext
  cases hp : k.phase with
  | begun =>
    simp only [hp] at hnext
    split at hnext
    · next e he =>
      cases hnext
      exact h.deliver (h.cached e (Option.filter_eq_some_iff.mp he).1)
    · cases hnext
      exact h.move trivial
  | missed =>
    simp only [hp,Phase.Plain] at hnext hcall
    split_ifs at hnext with hdynamic
    · split at hnext
      · cases hnext
        exact h.move trivial
      · next hstored =>
        cases hnext
        exact h.unparsed (hcall hdynamic hstored)
      · cases hnext
        exact h.move trivial
    · cases hnext
      exact h.move trivial
  | loaded base =>
    simp only [hp,Phase.Plain] at hnext hcall
    split_ifs at hnext with henriches
    · cases hnext
      exact h.move trivial
    · cases hnext
      obtain ⟨hbase,htools⟩ := hcall (by simpa using henriches)
      have hdone : Inv s (w.move c k .done) := h.move trivial
      refine hdone.set ?_
      simp only [Load.prices,World.loadOf,hbase,htools]
  | overlaid base rows =>
    simp only [hp] at hnext
    cases hnext
    exact h.move rfl
  | ready prices load =>
    simp only [hp] at hnext
    cases hnext
    rw [hp] at hphase
    have hdelivered : Inv s (w.deliver c k ⟨.own prices,load⟩) := h.deliver hphase
    exact hdelivered.set hphase
  | fellBack =>
    simp only [hp] at hnext
    split_ifs at hnext
    · cases hnext
      exact h.move trivial
    · cases hnext
      exact h.move trivial
  | catalogRead rows =>
    simp only [hp,Phase.Plain] at hnext hcall
    cases hnext
    have hfell := h.fallBack (h.enriched_yaml hcall) hcall
    exact hfell.move (List.mem_append_right _ (List.mem_singleton.mpr rfl))
  | yamlOverlaid rows =>
    simp only [hp] at hnext
    cases hnext
    rw [hp] at hphase
    exact h.deliver ⟨rfl,hphase,rfl⟩
  | done =>
    simp only [hp] at hnext
    cases hnext

theorem inv_step (w : World) (e : Event) (w' : World) (h : Inv s w) (hplain : Plain s w e)
    (hstep : step s w e = some w') : Inv s w' := by
  cases e with
  | wait now =>
    simp only [step] at hstep
    split_ifs at hstep
    cases hstep
    exact ⟨h.untouched,h.filled,h.cached,h.priced,h.calls⟩
  | store stored =>
    cases hstep
    exact ⟨h.untouched,h.filled,h.cached,h.priced,h.calls⟩
  | updateCatalog rows =>
    cases hstep
    exact ⟨h.untouched,h.filled,h.cached,h.priced,h.calls⟩
  | updateTools rows =>
    cases hstep
    exact ⟨h.untouched,h.filled,h.cached,h.priced,h.calls⟩
  | invalidate =>
    cases hstep
    exact ⟨h.untouched,h.filled,nofun,h.priced,h.calls⟩
  | resolve enriches =>
    cases hstep
    refine ⟨h.untouched,h.filled,h.cached,h.priced,?_⟩
    intro k hk
    rcases List.mem_append.mp hk with hold | hnew
    · exact h.calls k hold
    · rw [List.mem_singleton.mp hnew]
      trivial
  | next c =>
    obtain ⟨k,hk,hnext⟩ := Option.bind_eq_some_iff.mp hstep
    exact inv_next h hk hplain hnext

def World.start (s : Setup) (stored : Stored) (catalog : CatalogRows) (tools : ToolRows) : World where
  now := 0
  stored := stored
  catalog := catalog
  tools := tools
  yaml := s.yaml
  cached := none
  calls := []
  priced := []
  fallbacks := []

theorem inv_start (stored : Stored) (catalog : CatalogRows) (tools : ToolRows) :
    Inv s (World.start s stored catalog tools) :=
  ⟨fun _ => rfl,nofun,nofun,nofun,nofun⟩

theorem prices_coherent_of_plain {stored : Stored} {catalog : CatalogRows} {tools : ToolRows}
    {es : List Event} (hplain : EveryStep (step s) (Plain s) (World.start s stored catalog tools) es)
    (h : exec (step s) (World.start s stored catalog tools) es = some w) : w.Coherent :=
  (exec_invariant_of_steps (step s) inv_step (inv_start stored catalog tools) hplain h).coherent

end Invariant

section Decidability

variable (s : Setup) (w : World)

instance (base : List PricedModel) : Decidable (w.AddsNothing base) :=
  inferInstanceAs (Decidable (_ ∧ _))

instance (enriches : Bool) : (phase : Phase) → Decidable (phase.Plain s w enriches)
  | .loaded base => inferInstanceAs (Decidable (enriches = false → w.AddsNothing base))
  | .catalogRead rows => inferInstanceAs (Decidable (∀ earlier ∈ w.fallbacks,
      enrichPricingFromCatalog earlier s.yaml = enrichPricingFromCatalog rows s.yaml))
  | .missed => inferInstanceAs (Decidable (s.dynamicConfig = true → w.stored = .malformed →
      enriches = true → w.AddsNothing s.yaml ∧
        ∀ earlier ∈ w.fallbacks, enrichPricingFromCatalog earlier s.yaml = s.yaml))
  | .begun => .isTrue trivial
  | .overlaid _ _ => .isTrue trivial
  | .ready _ _ => .isTrue trivial
  | .fellBack => .isTrue trivial
  | .yamlOverlaid _ => .isTrue trivial
  | .done => .isTrue trivial

instance : (e : Event) → Decidable (Plain s w e)
  | .next c => inferInstanceAs (Decidable (∀ k ∈ w.calls[c]?, k.phase.Plain s w k.enriches))
  | .wait _ => .isTrue trivial
  | .store _ => .isTrue trivial
  | .updateCatalog _ => .isTrue trivial
  | .updateTools _ => .isTrue trivial
  | .invalidate => .isTrue trivial
  | .resolve _ => .isTrue trivial

instance : Decidable w.Coherent :=
  inferInstanceAs (Decidable (∀ r ∈ w.priced, w.pricesOf r = r.load.prices))

end Decidability

def opusModel : PricedModel := ⟨"anthropic","opus",{ promptPer1M := 15, completionPer1M := 75 }⟩

def cachedAt (price : ℚ) : CatalogRows :=
  some [{ provider := "anthropic", id := "opus", cachedInputPer1M := price }]

def webSearch : ToolRows := some [⟨"anthropic","web_search","web_search",1 / 100⟩]

def setup (dynamicConfig : Bool) : Setup := ⟨[opusModel],dynamicConfig,5⟩

def storedOpus : World := World.start (setup true) (.present [opusModel]) (cachedAt (3 / 2)) webSearch

def yamlOpus : World := World.start (setup false) .absent (cachedAt (3 / 2)) webSearch

def resolveFully (c : Nat) : List Event := .resolve true :: List.replicate 5 (.next c)

def cachedPrices : List Event :=
  resolveFully 0 ++ [Event.updateCatalog (cachedAt 2),Event.resolve true,Event.next 1]

theorem cached_prices_coherent :
    ∃ w, exec (step (setup true)) storedOpus cachedPrices = some w ∧ w.priced.length = 2 ∧
      w.Coherent := by
  obtain ⟨w,hrun,hpriced⟩ := reaches (P := fun w : World => w.priced.length = 2)
    (show (exec (step (setup true)) storedOpus cachedPrices).any _ = true by decide)
  exact ⟨w,hrun,hpriced,prices_coherent_of_plain (by decide) hrun⟩

def filledBare : List Event :=
  Event.resolve false :: List.replicate 3 (Event.next 0) ++ [Event.resolve true,Event.next 1]

def fellBackTwice : List Event :=
  resolveFully 0 ++ .updateCatalog (cachedAt 2) :: resolveFully 1

theorem prices_depend_on_earlier_loads :
    (∃ w, exec (step (setup true)) storedOpus filledBare = some w ∧
      w.priced.map w.pricesOf = [⟨[opusModel],[]⟩] ∧ ¬ w.Coherent) ∧
    (∃ w, exec (step (setup false)) yamlOpus fellBackTwice = some w ∧
      w.priced.map (fun r => (w.pricesOf r).models.map (·.pricing.cachedInputPer1M)) =
        [[3 / 2],[3 / 2]] ∧ ¬ w.Coherent) :=
  ⟨reaches (show (exec (step (setup true)) storedOpus filledBare).any _ = true by decide +kernel),
    reaches (show (exec (step (setup false)) yamlOpus fellBackTwice).any _ = true by decide +kernel)⟩

end PrismGateway.Orchestrator.Prices
