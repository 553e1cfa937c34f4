import PrismGateway.Lib.FloatRange
import PrismGateway.Router.Stages
import Mathlib.Data.List.Forall2

namespace PrismGateway.Admin.Calibration

open Lib Config Router

structure CalibrateItem where
  text : String
  route : String
  deriving DecidableEq, Repr

structure CalibrateScore where
  similarity : Float
  predictedRoute : String
  trueRoute : String
  found : Bool
  deriving DecidableEq, Repr

-- recall is a word of Lean's own
structure CalibrateResponse where
  recommendedThreshold : Float
  precision : Float
  recallRate : Float
  f1 : Float
  deriving DecidableEq, Repr

-- the embedding provider of the tenant and its anchor table, as both sides read them
structure Backend where
  createEmbedding : String → Except String (List (List Float))
  queryAnchors : String → List Float → Except String (Option SemanticAnchorResult)

def Backend.nearestAnchor (b : Backend) (tenantID : String) (embedding : List Float) :
    Except String (Option SemanticAnchorResult) :=
  if embedding.isEmpty then .ok none else b.queryAnchors tenantID embedding

abbrev Refusal := ℕ × String

def itemRefusal (i : ℕ) (item : CalibrateItem) : Option Refusal :=
  if item.text = "" then some (400,s!"dataset[{i}].text is required")
  else if item.route = "" then some (400,s!"dataset[{i}].route is required")
  else none

def datasetRefusal (dataset : List CalibrateItem) : Option Refusal :=
  if dataset.isEmpty then some (400,"dataset must not be empty")
  else if 200 < dataset.length then some (400,"dataset exceeds maximum of 200 items")
  else (dataset.zipIdx.filterMap fun (item,i) => itemRefusal i item).head?

def Backend.scoreItem (b : Backend) (tenantID : String) (item : CalibrateItem) :
    Except Refusal CalibrateScore :=
  match b.createEmbedding item.text with
  | .error err => .error (502,"failed to generate embedding: " ++ err)
  | .ok [] => .error (502,"no embedding data returned")
  | .ok (embedding :: _) =>
    match b.nearestAnchor tenantID embedding with
    | .error _ => .error (500,"failed to query anchors")
    -- a table without anchors reads as distance 0 and no route group
    | .ok none => .ok ⟨1.0 - 0,"",item.route,false⟩
    | .ok (some anchor) => .ok ⟨1.0 - anchor.distance,anchor.routeGroup,item.route,true⟩

abbrev Outcome := Option Bool

def truePositives (outcomes : List Outcome) : ℕ := outcomes.count (some true)

def falsePositives (outcomes : List Outcome) : ℕ := outcomes.count (some false)

def falseNegatives (outcomes : List Outcome) : ℕ := outcomes.count none

def precision (outcomes : List Outcome) : Float :=
  if 0 < truePositives outcomes + falsePositives outcomes then
    Float.ofNat (truePositives outcomes) /
      Float.ofNat (truePositives outcomes + falsePositives outcomes)
  else 1.0

def recallRate (outcomes : List Outcome) : Float :=
  if 0 < truePositives outcomes + falseNegatives outcomes then
    Float.ofNat (truePositives outcomes) /
      Float.ofNat (truePositives outcomes + falseNegatives outcomes)
  else 0

def f1Score (outcomes : List Outcome) : Float :=
  let p := precision outcomes
  let r := recallRate outcomes
  if p + r > 0 then 2 * p * r / (p + r) else 0

def outcomeAt (t : Float) (s : CalibrateScore) : Outcome :=
  if s.found ∧ s.similarity ≥ t then some (s.predictedRoute = s.trueRoute) else none

def gridThreshold (i : ℕ) : Float := Float.ofNat i / Float.ofNat 100

def measured (scores : List CalibrateScore) (t : Float) : CalibrateResponse :=
  let outcomes := scores.map (outcomeAt t)
  ⟨t,precision outcomes,recallRate outcomes,f1Score outcomes⟩

-- the first component is bestF1
def sweepStep (scores : List CalibrateScore) (best : Float × CalibrateResponse) (i : ℕ) :
    Float × CalibrateResponse :=
  let here := measured scores (gridThreshold i)
  if here.f1 ≥ best.1 then (here.f1,here) else best

def sweepThresholds (scores : List CalibrateScore) : CalibrateResponse :=
  ((List.range 101).foldl (sweepStep scores) (-1.0,⟨0,0,0,0⟩)).2

def Backend.calibrateSemanticThreshold (b : Backend) (tenantID : String)
    (dataset : List CalibrateItem) : Except Refusal CalibrateResponse := do
  match datasetRefusal dataset with
  | some refusal => .error refusal
  | none =>
    let scores ← dataset.mapM (b.scoreItem tenantID)
    if scores.any (·.found) then .ok (sweepThresholds scores)
    else .error (422,"no anchors found for this tenant")

-- what PATCH /admin/tenants/{tenant_id}/semantic-threshold stores of a value
def storedThreshold (v : Float) : Except Refusal Float :=
  if v < 0 ∨ v > 1 then .error (400,"threshold_default must be between 0.0 and 1.0") else .ok v

-- live routing asks the same provider and the same table; every failure is a miss
def Backend.deps (b : Backend) : SemanticDeps where
  embeddingFunc text :=
    match b.createEmbedding text with
    | .ok (embedding :: _) => some embedding
    | _ => none
  semanticLookup tenantID embedding :=
    match b.nearestAnchor tenantID embedding with
    | .ok anchor => anchor
    | .error _ => none

def Backend.evaluator (b : Backend) (config : SmartConfig) (tenantID : String) (stored : Float)
    (item : CalibrateItem) : StageEvaluator :=
  ⟨config,[item.text],tenantID,some b.deps,stored⟩

def Backend.liveMatch (b : Backend) (config : SmartConfig) (tenantID : String) (stored : Float)
    (cond : SemanticSimilarityCondition) (item : CalibrateItem) : Option SemanticAnchorResult :=
  let se := b.evaluator config tenantID stored item
  se.evaluateSemantic (se.threshold cond)

def Backend.liveOutcome (b : Backend) (config : SmartConfig) (tenantID : String) (stored : Float)
    (cond : SemanticSimilarityCondition) (item : CalibrateItem) : Outcome :=
  (b.liveMatch config tenantID stored cond item).map fun anchor => anchor.routeGroup = item.route

theorem counts_le (outcomes : List Outcome) :
    truePositives outcomes + falsePositives outcomes ≤ outcomes.length ∧
      truePositives outcomes + falseNegatives outcomes ≤ outcomes.length := by
  have htrue := List.length_eq_countP_add_countP (l := outcomes) (· == some true)
  have hfalse : falsePositives outcomes ≤ outcomes.countP fun o => ¬(o == some true) = true :=
    List.countP_mono_left fun o _ ho => by
      rw [beq_iff_eq.mp ho]
      rfl
  have hnone : falseNegatives outcomes ≤ outcomes.countP fun o => ¬(o == some true) = true :=
    List.countP_mono_left fun o _ ho => by
      rw [beq_iff_eq.mp ho]
      rfl
  have hcount : truePositives outcomes = outcomes.countP (· == some true) := rfl
  omega

theorem precision_tame {outcomes : List Outcome} (h : outcomes.length < 2 ^ 53) :
    Tame (-108) 4 (precision outcomes) := by
  unfold precision
  split_ifs with hpos
  · exact tame_ratio (Nat.le_add_right _ _) hpos ((counts_le outcomes).1.trans_lt h)
  · exact .inr ⟨by decide,by decide,by decide,by decide⟩

theorem recallRate_tame {outcomes : List Outcome} (h : outcomes.length < 2 ^ 53) :
    Tame (-108) 4 (recallRate outcomes) := by
  unfold recallRate
  split_ifs with hpos
  · exact tame_ratio (Nat.le_add_right _ _) hpos ((counts_le outcomes).2.trans_lt h)
  · exact .inl rfl

theorem f1_nonnegative {outcomes : List Outcome} (h : outcomes.length < 2 ^ 53) :
    Nonnegative (unpacked (f1Score outcomes)) := by
  unfold f1Score
  dsimp only
  have hp : Tame (-108) 4 (precision outcomes) := precision_tame h
  have hr : Tame (-108) 4 (recallRate outcomes) := recallRate_tame h
  split_ifs with hpos
  · have htwo : Tame (-51) (-51) 2 := .inr ⟨by decide,by decide,by decide,by decide⟩
    have hnum := tame_mul (tame_mul htwo hp (by decide) (by decide)) hr (by decide) (by decide)
    exact nonnegative_quotient hnum (nonnegative_sum hp.nonnegative hr.nonnegative) hpos
  · exact trivial

theorem measured_number {scores : List CalibrateScore} (h : scores.length < 2 ^ 53) (t : Float) :
    (measured scores t).f1.isNaN = false :=
  (f1_nonnegative ((List.length_map (outcomeAt t)).trans_lt h)).number

structure Highest (scores : List CalibrateScore) (m : ℕ) : Prop where
  onGrid : m < 101
  best : ∀ i < 101, (measured scores (gridThreshold i)).f1 ≤ (measured scores (gridThreshold m)).f1
  last : ∀ i < 101, m < i →
    (measured scores (gridThreshold i)).f1 < (measured scores (gridThreshold m)).f1

section Sweep

variable {scores : List CalibrateScore}

def gridKey (scores : List CalibrateScore) (i : ℕ) :=
  floatKey (measured scores (gridThreshold i)).f1

theorem measured_le_iff (h : scores.length < 2 ^ 53) {t u : Float} :
    (measured scores t).f1 ≤ (measured scores u).f1 ↔
      floatKey (measured scores t).f1 ≤ floatKey (measured scores u).f1 :=
  float_le_iff (measured_number h t) (measured_number h u)

theorem sweep_prefix (h : scores.length < 2 ^ 53) (n : ℕ) :
    let best := (List.range n).foldl (sweepStep scores) (-1.0,⟨0,0,0,0⟩)
    n = 0 ∧ best = (-1.0,⟨0,0,0,0⟩) ∨
      ∃ m < n, best = ((measured scores (gridThreshold m)).f1,measured scores (gridThreshold m)) ∧
        (∀ i < n, gridKey scores i ≤ gridKey scores m) ∧
        ∀ i < n, m < i → gridKey scores i < gridKey scores m := by
  induction n with
  | zero => exact .inl ⟨rfl,rfl⟩
  | succ n ih =>
    rw [List.range_succ,List.foldl_append]
    generalize (List.range n).foldl (sweepStep scores) (-1.0,⟨0,0,0,0⟩) = best at ih ⊢
    right
    change ∃ m < n + 1, (if (measured scores (gridThreshold n)).f1 ≥ best.1 then _ else best) = _ ∧ _
    rcases ih with ⟨rfl,rfl⟩ | ⟨m,hm,rfl,hbest,hlast⟩
    · have hfirst : (measured scores (gridThreshold 0)).f1 ≥ -1.0 :=
        minus_one_le (f1_nonnegative ((List.length_map _).trans_lt h))
      rw [if_pos hfirst]
      refine ⟨0,Nat.one_pos,rfl,fun i hi => ?_,fun i hi hlt => ?_⟩
      · rw [Nat.lt_one_iff.mp hi]
      · omega
    · split_ifs with hge
      · have hkey : gridKey scores m ≤ gridKey scores n := (measured_le_iff h).mp hge
        refine ⟨n,Nat.lt_succ_self n,rfl,fun i hi => ?_,fun i hi hlt => ?_⟩
        · rcases (Nat.lt_succ_iff_lt_or_eq.mp hi) with hi | rfl
          · exact (hbest i hi).trans hkey
          · exact le_rfl
        · omega
      · have hkey : gridKey scores n < gridKey scores m :=
          not_le.mp fun hle => hge ((measured_le_iff h).mpr hle)
        refine ⟨m,hm.trans (Nat.lt_succ_self n),rfl,fun i hi => ?_,fun i hi hlt => ?_⟩
        · rcases (Nat.lt_succ_iff_lt_or_eq.mp hi) with hi | rfl
          · exact hbest i hi
          · exact hkey.le
        · rcases (Nat.lt_succ_iff_lt_or_eq.mp hi) with hi | rfl
          · exact hlast i hi hlt
          · exact hkey

theorem sweepThresholds_highest (h : scores.length < 2 ^ 53) :
    ∃ m, sweepThresholds scores = measured scores (gridThreshold m) ∧ Highest scores m := by
  rcases sweep_prefix h 101 with ⟨hzero,-⟩ | ⟨m,hm,heq,hbest,hlast⟩
  · cases hzero
  · exact ⟨m,congrArg Prod.snd heq,hm,fun i hi => (measured_le_iff h).mpr (hbest i hi),
      fun i hi hlt => (float_lt_iff (measured_number h _) (measured_number h _)).mpr (hlast i hi hlt)⟩

end Sweep

theorem scored_pairs {α β ε : Type} {f : α → Except ε β} {items : List α} :
    ∀ {values : List β}, items.mapM f = .ok values →
      List.Forall₂ (fun x y => f x = .ok y) items values := by
  induction items with
  | nil =>
    intro values h
    cases h
    exact .nil
  | cons x items ih =>
    intro values h
    rw [List.mapM_cons] at h
    cases hx : f x with
    | error err =>
      rw [hx] at h
      cases h
    | ok y =>
      rw [hx] at h
      cases hrest : items.mapM f with
      | error err =>
        rw [hrest] at h
        cases h
      | ok rest =>
        rw [hrest] at h
        cases h
        exact .cons hx (ih hrest)

theorem calibrate_sweeps {b : Backend} {tenantID : String} {dataset : List CalibrateItem}
    {r : CalibrateResponse} (h : b.calibrateSemanticThreshold tenantID dataset = .ok r) :
    ∃ scores, dataset.mapM (b.scoreItem tenantID) = .ok scores ∧ scores.length ≤ 200 ∧
      r = sweepThresholds scores := by
  unfold Backend.calibrateSemanticThreshold at h
  cases hrefusal : datasetRefusal dataset with
  | some refusal =>
    rw [hrefusal] at h
    cases h
  | none =>
    have hlength : ¬200 < dataset.length := by
      intro hlong
      unfold datasetRefusal at hrefusal
      rw [if_pos hlong] at hrefusal
      split at hrefusal
      · cases hrefusal
      · cases hrefusal
    rw [hrefusal] at h
    cases hscored : dataset.mapM (b.scoreItem tenantID) with
    | error err =>
      rw [hscored] at h
      cases h
    | ok scores =>
      rw [hscored] at h
      change (if scores.any (·.found) then _ else _) = _ at h
      refine ⟨scores,rfl,?_,?_⟩
      · rw [← (scored_pairs hscored).length_eq]
        exact not_lt.mp hlength
      · split at h
        · cases h
          rfl
        · cases h

section Live

variable {b : Backend} {tenantID : String} {item : CalibrateItem} {s : CalibrateScore}

theorem live_lookup (h : b.scoreItem tenantID item = .ok s) (config : SmartConfig) (stored t : Float) :
    (∃ anchor, s = ⟨1.0 - anchor.distance,anchor.routeGroup,item.route,true⟩ ∧
      (b.evaluator config tenantID stored item).evaluateSemantic t =
        if s.similarity.isNaN || s.similarity.isInf then none
        else if s.similarity ≥ t then some anchor else none) ∨
      s.found = false ∧ (b.evaluator config tenantID stored item).evaluateSemantic t = none := by
  have hlive : (b.evaluator config tenantID stored item).evaluateSemantic t =
      (b.deps.embeddingFunc item.text).bind fun embedding =>
        (b.deps.semanticLookup tenantID embedding).bind fun anchor =>
          if (1.0 - anchor.distance).isNaN || (1.0 - anchor.distance).isInf then none
          else if 1.0 - anchor.distance ≥ t then some anchor else none := rfl
  rw [hlive]
  unfold Backend.scoreItem at h
  simp only [Backend.deps]
  cases hembed : b.createEmbedding item.text with
  | error err =>
    rw [hembed] at h
    cases h
  | ok data =>
    rw [hembed] at h
    cases data with
    | nil => cases h
    | cons embedding data =>
      dsimp only at h ⊢
      rw [Option.bind_some]
      cases hnear : b.nearestAnchor tenantID embedding with
      | error err =>
        rw [hnear] at h
        cases h
      | ok found =>
        rw [hnear] at h
        cases found with
        | none =>
          cases h
          exact .inr ⟨rfl,rfl⟩
        | some anchor =>
          cases h
          exact .inl ⟨anchor,rfl,rfl⟩

theorem live_isSome_iff (h : b.scoreItem tenantID item = .ok s) (config : SmartConfig)
    (stored t : Float) :
    ((b.evaluator config tenantID stored item).evaluateSemantic t).isSome ↔
      s.found ∧ s.similarity ≥ t ∧ s.similarity.isInf = false := by
  rcases live_lookup h config stored t with ⟨anchor,rfl,hlive⟩ | ⟨hfound,hlive⟩
  · rw [hlive]
    split_ifs with hguard hmatch
    · refine iff_of_false Bool.noConfusion fun ⟨_,hge,hinf⟩ => ?_
      rcases Bool.or_eq_true_iff.mp hguard with hnan | hinf'
      · rw [(numbers_of_le hge).2] at hnan
        cases hnan
      · rw [hinf] at hinf'
        cases hinf'
    · refine iff_of_true rfl ⟨rfl,hmatch,?_⟩
      exact (Bool.or_eq_false_iff.mp (Bool.eq_false_iff.mpr hguard)).2
    · exact iff_of_false Bool.noConfusion fun ⟨_,hge,_⟩ => hmatch hge
  · rw [hlive,hfound]
    exact iff_of_false Bool.noConfusion fun ⟨hf,_⟩ => Bool.noConfusion hf

theorem live_outcome (h : b.scoreItem tenantID item = .ok s)
    (hfinite : s.found → s.similarity.isInf = false) (config : SmartConfig) (stored t : Float) :
    (((b.evaluator config tenantID stored item).evaluateSemantic t).map
      fun anchor => decide (anchor.routeGroup = item.route)) = outcomeAt t s := by
  unfold outcomeAt
  rcases live_lookup h config stored t with ⟨anchor,rfl,hlive⟩ | ⟨hfound,hlive⟩
  · rw [hlive,hfinite rfl,Bool.or_false]
    by_cases hmatch : 1.0 - anchor.distance ≥ t
    · rw [if_neg (Bool.eq_false_iff.mp (numbers_of_le hmatch).2),if_pos hmatch,if_pos ⟨rfl,hmatch⟩]
      rfl
    · rw [if_neg hmatch,ite_self,if_neg fun hc => hmatch hc.2]
      rfl
  · rw [hlive,if_neg fun hc => Bool.noConfusion (hfound.symm.trans hc.1)]
    rfl

theorem live_outcomes {dataset : List CalibrateItem} {scores : List CalibrateScore}
    (h : List.Forall₂ (fun item s => b.scoreItem tenantID item = .ok s) dataset scores)
    (hfinite : ∀ s ∈ scores, s.found → s.similarity.isInf = false) (config : SmartConfig)
    (stored t : Float) :
    (dataset.map fun item => ((b.evaluator config tenantID stored item).evaluateSemantic t).map
      fun anchor => decide (anchor.routeGroup = item.route)) = scores.map (outcomeAt t) := by
  induction h with
  | nil => rfl
  | cons hs _ ih =>
    rw [List.map_cons,List.map_cons,live_outcome hs (hfinite _ List.mem_cons_self),
      ih fun s hmem => hfinite s (List.mem_cons_of_mem _ hmem)]

theorem threshold_of_unset {cond : SemanticSimilarityCondition} (hcond : cond.threshold ≤ 0)
    (config : SmartConfig) (stored : Float) :
    (b.evaluator config tenantID stored item).threshold cond =
      if 0 < stored then stored else defaultSemanticThreshold :=
  if_pos hcond

end Live

theorem stored_grid : ∀ m < 101, storedThreshold (gridThreshold m) = .ok (gridThreshold m) := by
  decide +kernel

theorem calibration_agrees {scores : List CalibrateScore} (h : scores.length < 2 ^ 53) :
    ∃ m, sweepThresholds scores = measured scores (gridThreshold m) ∧ Highest scores m ∧
      storedThreshold (gridThreshold m) = .ok (gridThreshold m) ∧
      ∀ (b : Backend) (tenantID : String) (dataset : List CalibrateItem) (config : SmartConfig)
        (cond : SemanticSimilarityCondition), dataset.mapM (b.scoreItem tenantID) = .ok scores →
        cond.threshold ≤ 0 → 0 < gridThreshold m →
        let live := dataset.map (b.liveOutcome config tenantID (gridThreshold m) cond)
        List.Forall₂ (fun item s =>
          (b.liveMatch config tenantID (gridThreshold m) cond item).isSome ↔
            s.found ∧ s.similarity ≥ gridThreshold m ∧ s.similarity.isInf = false) dataset scores ∧
        ((∀ s ∈ scores, s.found → s.similarity.isInf = false) →
          precision live = (sweepThresholds scores).precision ∧
            recallRate live = (sweepThresholds scores).recallRate) := by
  obtain ⟨m,hr,hhighest⟩ := sweepThresholds_highest h
  refine ⟨m,hr,hhighest,stored_grid m hhighest.onGrid,?_⟩
  intro b tenantID dataset config cond hscored hcond hpos live
  have hpairs := scored_pairs hscored
  have hthreshold : ∀ item, (b.evaluator config tenantID (gridThreshold m) item).threshold cond =
      gridThreshold m := fun item => (threshold_of_unset hcond config _).trans (if_pos hpos)
  constructor
  · refine hpairs.imp fun item s hs => ?_
    unfold Backend.liveMatch
    dsimp only
    rw [hthreshold item]
    exact live_isSome_iff hs config _ _
  · intro hfinite
    have hlive : live = scores.map (outcomeAt (gridThreshold m)) := by
      rw [← live_outcomes hpairs hfinite config (gridThreshold m) (gridThreshold m)]
      refine List.map_congr_left fun item _ => ?_
      unfold Backend.liveOutcome Backend.liveMatch
      dsimp only
      rw [hthreshold item]
    rw [hlive,hr]
    exact ⟨rfl,rfl⟩

def oneAnchor (distance : Float) : Backend where
  createEmbedding _ := .ok [[1]]
  queryAnchors _ _ := .ok (some { name := "invoices", routeGroup := "billing", distance := distance })

def invoiceItem : CalibrateItem := ⟨"Where is my invoice?","billing"⟩

def anchorScores (similarity : Float) : List CalibrateScore :=
  [⟨similarity,"billing","billing",true⟩]

theorem measured_reached {similarity t : Float} (h : similarity ≥ t) :
    measured (anchorScores similarity) t = ⟨t,1,1,1⟩ := by
  have hone : precision [some true] = 1 ∧ recallRate [some true] = 1 ∧ f1Score [some true] = 1 := by
    decide
  have hout : (anchorScores similarity).map (outcomeAt t) = [some true] :=
    congrArg (· :: []) (if_pos ⟨rfl,h⟩)
  unfold measured
  rw [hout]
  dsimp only
  rw [hone.1,hone.2.1,hone.2.2]

theorem measured_missed {similarity t : Float} (h : ¬similarity ≥ t) :
    (measured (anchorScores similarity) t).f1 = 0 := by
  have hout : (anchorScores similarity).map (outcomeAt t) = [none] :=
    congrArg (· :: []) (if_neg fun hc => h hc.2)
  have hzero : f1Score [none] = 0 := by decide
  unfold measured
  rw [hout]
  exact hzero

theorem recommended_reached {similarity : Float} {m : ℕ} (h : Highest (anchorScores similarity) m)
    (hzero : similarity ≥ gridThreshold 0) : similarity ≥ gridThreshold m := by
  by_contra hnot
  have hbest := h.best 0 (by decide)
  rw [measured_reached hzero,measured_missed hnot] at hbest
  exact absurd hbest (by decide)

theorem recommended_least {similarity : Float} {i m : ℕ} (h : Highest (anchorScores similarity) m)
    (hi : i < 101) (hreached : similarity ≥ gridThreshold i) : i ≤ m := by
  by_contra hlt
  have hlast := h.last i hi (not_le.mp hlt)
  rw [measured_reached hreached] at hlast
  by_cases hm : similarity ≥ gridThreshold m
  · rw [measured_reached hm] at hlast
    exact absurd hlast (by decide : ¬(1 : Float) < 1)
  · rw [measured_missed hm] at hlast
    exact absurd hlast (by decide : ¬(1 : Float) < 0)

theorem grid_positive {m : ℕ} (hpos : 0 < m) (hm : m < 101) : 0 < gridThreshold m :=
  positive_of_normal (normal_ratio (Nat.le_of_lt_succ hm) hpos (by decide))

theorem close_anchor_agrees : ∃ m, Highest (anchorScores 0.75) m ∧
    recallRate ([invoiceItem].map ((oneAnchor 0.25).liveOutcome {} "acme" (gridThreshold m) {})) =
      (sweepThresholds (anchorScores 0.75)).recallRate := by
  obtain ⟨m,-,hhighest,-,hlive⟩ := @calibration_agrees (anchorScores 0.75) (by decide)
  have hscored : [invoiceItem].mapM ((oneAnchor 0.25).scoreItem "acme") = .ok (anchorScores 0.75) := by
    decide
  have hpos : 0 < m := recommended_least (i := 1) hhighest (by decide) (by decide)
  exact ⟨m,hhighest,((hlive (oneAnchor 0.25) "acme" [invoiceItem] {} {} hscored (by decide)
    (grid_positive hpos hhighest.onGrid)).2 (by decide)).2⟩

theorem sweep_zero : sweepThresholds (anchorScores (1.0 - 1.0)) = ⟨0,1,1,1⟩ := by
  obtain ⟨m,hr,hhighest⟩ := @sweepThresholds_highest (anchorScores (1.0 - 1.0)) (by decide)
  have hreached := recommended_reached hhighest (by decide)
  have hm : m = 0 := by
    by_contra hne
    have hpos := grid_positive (Nat.pos_of_ne_zero hne) hhighest.onGrid
    exact absurd hpos (not_below_of_le hreached)
  rw [hr,hm,measured_reached (by decide)]
  decide

def infinite : Float := 1.0 / 0

theorem sweep_infinite : sweepThresholds (anchorScores (1.0 - -infinite)) = ⟨1,1,1,1⟩ := by
  obtain ⟨m,hr,hhighest⟩ := @sweepThresholds_highest (anchorScores (1.0 - -infinite)) (by decide)
  have hlast : 100 ≤ m := recommended_least hhighest (by decide) (by decide)
  have hm : m = 100 := le_antisymm (Nat.le_of_lt_succ hhighest.onGrid) hlast
  rw [hr,hm,measured_reached (by decide)]
  decide

theorem calibrate_oneAnchor (distance : Float) :
    (oneAnchor distance).calibrateSemanticThreshold "acme" [invoiceItem] =
      .ok (sweepThresholds (anchorScores (1.0 - distance))) := rfl

theorem ends_disagree :
    ((oneAnchor 1.0).calibrateSemanticThreshold "acme" [invoiceItem] = .ok ⟨0,1,1,1⟩ ∧
      storedThreshold 0 = .ok 0 ∧
      (oneAnchor 1.0).scoreItem "acme" invoiceItem = .ok ⟨0,"billing","billing",true⟩ ∧
      (oneAnchor 1.0).liveMatch {} "acme" 0 {} invoiceItem = none ∧
      recallRate [(oneAnchor 1.0).liveOutcome {} "acme" 0 {} invoiceItem] = 0) ∧
    (oneAnchor (-infinite)).calibrateSemanticThreshold "acme" [invoiceItem] = .ok ⟨1,1,1,1⟩ ∧
      (oneAnchor (-infinite)).scoreItem "acme" invoiceItem =
        .ok ⟨infinite,"billing","billing",true⟩ ∧
      infinite ≥ 1 ∧ (oneAnchor (-infinite)).liveMatch {} "acme" 1 {} invoiceItem = none ∧
      recallRate [(oneAnchor (-infinite)).liveOutcome {} "acme" 1 {} invoiceItem] = 0 := by
  rw [calibrate_oneAnchor,calibrate_oneAnchor,sweep_zero,sweep_infinite]
  refine ⟨⟨rfl,?_⟩,rfl,?_⟩
  · decide
  · decide

end PrismGateway.Admin.Calibration
