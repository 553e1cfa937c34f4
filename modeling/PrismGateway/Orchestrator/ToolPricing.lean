import PrismGateway.Orchestrator.PriceResolution
import PrismGateway.Orchestrator.StreamCost
import Mathlib.Data.List.Forall2
import Mathlib.Data.Option.Basic

namespace PrismGateway.Orchestrator.ToolPricing

open Lib Cost
open Prices (ToolCatalogPricingRow ToolRows buildToolPricingIndex)

def pricingEntries (tools : ToolRows Float) : List (ToolPricingEntry Float) :=
  (buildToolPricingIndex tools).map Prod.snd

section Ranges

variable {entries : List (ToolPricingEntry Float)}

def charge (o : ToolOrder entries) (call : String × ℤ) : Option Float :=
  ((o.order call.1).find? (fun entry => entry.toolType = call.1)).map
    (fun entry => Float.ofInt call.2 * entry.pricePerUnit)

def toolCost (calls : List (String × ℤ)) (o : ToolOrder entries) : Float :=
  calls.foldl (fun toolCost call =>
    match charge o call with
    | none => toolCost
    | some x => toolCost + x) 0

def computeToolCost (calls : List (String × ℤ)) (o : ToolOrder entries) : Float := toolCost calls o

-- The token cost ranges over no map, so it is a number like any other here.
def computeCost (tokenCost : Float) (calls : List (String × ℤ)) (o : ToolOrder entries) : Float :=
  tokenCost + toolCost calls o

end Ranges

/-- One pricing of a request: the order in which the query returns the catalog, and those of the ranges
over the calls and over the index. -/
structure Draw (usage : Usage) (tools : ToolRows Float) where
  rows : ToolRows Float
  rows_perm : Option.Rel List.Perm rows tools
  calls : List (String × ℤ)
  calls_perm : calls.Perm usage.toolCallsUsed
  order : ToolOrder (pricingEntries rows)

structure WellPriced (usage : Usage) (tools : ToolRows Float) : Prop where
  agree : ∀ d d' : Draw usage tools, toolCost d.calls d.order = computeToolCost d'.calls d'.order
  repriced : ∀ (tokenCost : Float) (d d' : Draw usage tools),
    computeCost tokenCost d.calls d.order = computeCost tokenCost d'.calls d'.order

def Charged (entries : List (ToolPricingEntry Float)) (call : String × ℤ) (x : Float) : Prop :=
  ∃ entry ∈ entries, entry.toolType = call.1 ∧ x = Float.ofInt call.2 * entry.pricePerUnit

def priced (entries : List (ToolPricingEntry Float)) (call : String × ℤ) : Bool :=
  entries.any (fun entry => entry.toolType = call.1)

def Charges (usage : Usage) (tools : ToolRows Float) (l : List Float) : Prop :=
  ∃ rows, Option.Rel List.Perm rows tools ∧
    ∃ calls, calls.Perm (usage.toolCallsUsed.filter (priced (pricingEntries rows))) ∧
      List.Forall₂ (Charged (pricingEntries rows)) calls l

def floatSum (l : List Float) : Float := l.foldl (· + ·) 0

section Sums

variable {entries : List (ToolPricingEntry Float)}

theorem toolCost_eq (calls : List (String × ℤ)) (o : ToolOrder entries) :
    toolCost calls o = floatSum (calls.filterMap (charge o)) := by
  have hfold : ∀ start : Float, calls.foldl (fun toolCost call =>
      match charge o call with
      | none => toolCost
      | some x => toolCost + x) start = (calls.filterMap (charge o)).foldl (· + ·) start := by
    induction calls with
    | nil => exact fun _ => rfl
    | cons call calls ih =>
      intro start
      rw [List.foldl_cons,ih]
      cases hcharge : charge o call with
      | none => rw [List.filterMap_cons_none hcharge]
      | some x => rw [List.filterMap_cons_some hcharge,List.foldl_cons]
  exact hfold 0

theorem charge_isSome (o : ToolOrder entries) (call : String × ℤ) :
    (charge o call).isSome = priced entries call := by
  rw [charge,Option.isSome_map,Bool.eq_iff_iff,List.find?_isSome,priced,List.any_eq_true]
  simp only [(o.perm call.1).mem_iff]

theorem charged_of_charge {o : ToolOrder entries} {call : String × ℤ} {x : Float}
    (h : charge o call = some x) : Charged entries call x := by
  obtain ⟨entry,hfind,rfl⟩ := Option.map_eq_some_iff.mp h
  exact ⟨entry,(o.perm call.1).mem_iff.mp (List.mem_of_find?_eq_some hfind),
    by simpa using List.find?_some hfind,rfl⟩

theorem charged_filterMap (o : ToolOrder entries) (calls : List (String × ℤ)) :
    List.Forall₂ (Charged entries) (calls.filter (priced entries)) (calls.filterMap (charge o)) := by
  induction calls with
  | nil => exact .nil
  | cons call calls ih =>
    have hsome := charge_isSome o call
    cases hcharge : charge o call with
    | none =>
      rw [hcharge] at hsome
      rw [List.filterMap_cons_none hcharge,List.filter_cons_of_neg (by rw [← hsome]; decide)]
      exact ih
    | some x =>
      rw [hcharge] at hsome
      rw [List.filterMap_cons_some hcharge,List.filter_cons_of_pos hsome.symm]
      exact .cons (charged_of_charge hcharge) ih

theorem exists_order {calls : List (String × ℤ)} {l : List Float} (h : List.Forall₂ (Charged entries) calls l)
    (hnodup : (calls.map Prod.fst).Nodup) : ∃ o : ToolOrder entries, calls.filterMap (charge o) = l := by
  induction h with
  | nil => exact ⟨⟨fun _ => entries,fun _ => List.Perm.refl _⟩,rfl⟩
  | @cons call x calls l hcharged _ ih =>
    obtain ⟨hnew,hrest⟩ := List.nodup_cons.mp hnodup
    obtain ⟨o,ho⟩ := ih hrest
    obtain ⟨entry,hentry,htype,rfl⟩ := hcharged
    obtain ⟨before,after,hentries⟩ := List.append_of_mem hentry
    have hperm : (entry :: (before ++ after)).Perm entries := by
      rw [hentries]
      exact List.perm_middle.symm
    let o' : ToolOrder entries :=
      ⟨fun toolType => if toolType = call.1 then entry :: (before ++ after) else o.order toolType,by
        intro toolType
        split_ifs
        · exact hperm
        · exact o.perm toolType⟩
    have hfirst : charge o' call = some (Float.ofInt call.2 * entry.pricePerUnit) := by
      simp [charge,o',htype]
    have hothers : ∀ other ∈ calls, charge o' other = charge o other := by
      intro other hother
      have hne : other.1 ≠ call.1 := fun heq => hnew (heq ▸ List.mem_map_of_mem hother)
      simp only [charge,o',if_neg hne]
    refine ⟨o',?_⟩
    rw [List.filterMap_cons_some hfirst,List.filterMap_congr hothers,ho]

end Sums

section Draws

variable {usage : Usage} {tools : ToolRows Float}

theorem charges_of_draw (d : Draw usage tools) :
    Charges usage tools (d.calls.filterMap (charge d.order)) :=
  ⟨d.rows,d.rows_perm,_,d.calls_perm.filter _,charged_filterMap d.order d.calls⟩

theorem exists_draw (hnodup : (usage.toolCallsUsed.map Prod.fst).Nodup) {l : List Float}
    (h : Charges usage tools l) : ∃ d : Draw usage tools, toolCost d.calls d.order = floatSum l := by
  obtain ⟨rows,hrows,calls,hcalls,hl⟩ := h
  have hsub : (calls.map Prod.fst).Nodup := by
    rw [(hcalls.map Prod.fst).nodup_iff]
    exact hnodup.sublist (List.filter_sublist.map Prod.fst)
  obtain ⟨o,ho⟩ := exists_order hl hsub
  -- the calls that no entry prices come last
  let others := usage.toolCallsUsed.filter (fun call => !priced (pricingEntries rows) call)
  have hperm : (calls ++ others).Perm usage.toolCallsUsed :=
    (hcalls.append_right others).trans (List.filter_append_perm _ _)
  have hothers : others.filterMap (charge o) = [] := by
    refine List.filterMap_eq_nil_iff.mpr fun call hcall => ?_
    have hunpriced := (List.mem_filter.mp hcall).2
    rw [← charge_isSome o call] at hunpriced
    simpa using hunpriced
  refine ⟨⟨rows,hrows,calls ++ others,hperm,o⟩,?_⟩
  rw [toolCost_eq,List.filterMap_append,hothers,List.append_nil,ho]

end Draws

def openaiSearch : List (ToolCatalogPricingRow Float) :=
  [⟨"openai","web_search_standard","web_search",0.01⟩,
    ⟨"openai","web_search_preview_reasoning","web_search",0.01⟩,
    ⟨"openai","web_search_preview_non_reasoning","web_search",0.025⟩]

def oneSearch : Usage :=
  { promptTokens := 0,completionTokens := 0,totalTokens := 0,toolCallsUsed := [("web_search",1)] }

-- One price for each type is not enough: the sum of three floats depends on their order.
example : floatSum [0.01,0.0025,0.03] ≠ floatSum [0.03,0.0025,0.01] := by decide

end PrismGateway.Orchestrator.ToolPricing
