import PrismGateway.Lib.TokenBucket
import Mathlib.Data.Rat.Floor
import Mathlib.Logic.Function.Basic
import Mathlib.Tactic.NormNum
import Mathlib.Tactic.Positivity

namespace PrismGateway.RateLimit.InMemory

open Lib

def second : Int := 1000000000

def maxDuration : Int := 2 ^ 63 - 1

def sub (t u : Int) : Int := max (-maxDuration - 1) (min maxDuration (t - u))

structure Bucket where
  rpm : Int
  capacity : ℚ
  tokens : ℚ
  lastRefill : Int

def newTokenBucket (rpm burst now : Int) : Bucket := ⟨rpm,burst,burst,now⟩

namespace Bucket

variable (b : Bucket) (now : Int)

def refill : Bucket :=
  let elapsed : ℚ := sub now b.lastRefill / second
  if 0 < elapsed then
    let refillRate : ℚ := b.rpm / 60
    let tokens := b.tokens + elapsed * refillRate
    { b with tokens := if b.capacity < tokens then b.capacity else tokens, lastRefill := now }
  else b

def take : Bool × Bucket :=
  let b := b.refill now
  if 1 ≤ b.tokens then (true,{ b with tokens := b.tokens - 1 }) else (false,b)

end Bucket

/-- A call of `Allow` with what its readings of the clock give, in nanoseconds: for a new bucket, for the
take and for the reset time. -/
structure Call where
  key : String
  rpm : Int
  burst : Int
  created : Int
  now : Int
  reset : Int

def Call.reads (c : Call) : List Int := [c.created,c.now,c.reset]

structure Reply where
  allowed : Bool
  remaining : Int
  resetAt : Int

abbrev Limiter := String → Option Bucket

def empty : Limiter := fun _ => none

def bucketOf (o : Option Bucket) (c : Call) : Bucket :=
  let bucket := o.getD (newTokenBucket c.rpm c.burst c.created)
  { bucket with rpm := c.rpm, capacity := c.burst }

def allow (l : Limiter) (c : Call) : Reply × Limiter :=
  let taken := (bucketOf (l c.key) c).take c.now
  let remaining := Int.tdiv taken.2.tokens.num taken.2.tokens.den
  (⟨taken.1,if remaining < 0 then 0 else remaining,c.reset + 60 * second⟩,
    Function.update l c.key (some taken.2))

def replies : Limiter → List Call → List (Call × Reply)
  | _, [] => []
  | l, c :: calls => (c,(allow l c).1) :: replies (allow l c).2 calls

def after (l : Limiter) (calls : List Call) : Limiter := calls.foldl (fun l c => (allow l c).2) l

def Call.at (c : Call) : ℚ := c.now / second

def admittedIn (key : String) (start stop : ℚ) (calls : List Call) : ℕ :=
  (replies empty calls).countP (fun x =>
    x.1.key = key && x.2.allowed && start ≤ x.1.at && x.1.at ≤ stop)

structure Run (key : String) (R B : ℚ) where
  calls : List Call
  ordered : (calls.flatMap Call.reads).Pairwise (fun t u => t ≤ u)
  rates : ∀ c ∈ calls, c.key = key → 0 ≤ c.rpm ∧ (c.rpm : ℚ) ≤ R
  bursts : ∀ c ∈ calls, c.key = key → 0 ≤ c.burst ∧ (c.burst : ℚ) ≤ B

structure Limits (key : String) (R B : ℚ) (calls : List Call) : Prop where
  admitted : ∀ start length : ℚ, 0 ≤ length →
    admittedIn key start (start + length) calls ≤ B + R * length / 60
  stored : ∀ earlier, earlier <+: calls → ∀ b, after empty earlier key = some b →
    0 ≤ b.tokens ∧ b.tokens ≤ B
  independent : (replies empty calls).filter (fun x => x.1.key = key) =
    replies empty (calls.filter (fun c => c.key = key))

theorem sub_of_le {now since : Int} (h : since ≤ now) :
    (sub now since = 0 ↔ since = now) ∧ 0 ≤ sub now since ∧ sub now since ≤ now - since := by
  have hmax : maxDuration = 9223372036854775807 := by decide
  unfold sub
  omega

section Step

variable {b : Bucket} {now : Int}

theorem refill_of_eq (h : b.lastRefill = now) : b.refill now = b := by
  rw [Bucket.refill,(sub_of_le h.le).1.mpr h]
  simp

theorem refill_of_lt (h : b.lastRefill < now) : (b.refill now).lastRefill = now ∧
    (b.refill now).tokens =
      min (b.tokens + (sub now b.lastRefill : ℚ) / second * (b.rpm / 60)) b.capacity := by
  obtain ⟨hzero,hnonneg,-⟩ := sub_of_le h.le
  have hpos : (0 : ℚ) < sub now b.lastRefill / second := by
    have : 0 < sub now b.lastRefill := lt_of_le_of_ne hnonneg fun he => h.ne (hzero.mp he.symm)
    have hcast : (0 : ℚ) < sub now b.lastRefill := by exact_mod_cast this
    exact div_pos hcast (by norm_num [second])
  rw [Bucket.refill]
  simp only [if_pos hpos,min_def]
  refine ⟨trivial,?_⟩
  split_ifs with hover hle hle
  · exact le_antisymm (hover.le) hle |>.symm ▸ rfl
  · rfl
  · rfl
  · exact absurd (not_lt.mp hover) hle

theorem refill_spec (hnow : b.lastRefill ≤ now) (htokens : 0 ≤ b.tokens) (hrpm : 0 ≤ b.rpm)
    (hcapacity : 0 ≤ b.capacity) : (b.refill now).lastRefill = now ∧ 0 ≤ (b.refill now).tokens ∧
      (b.refill now).tokens ≤ max b.tokens b.capacity ∧ (b.refill now).tokens ≤
        b.tokens + b.rpm / 60 * ((now : ℚ) / second - b.lastRefill / second) := by
  have hrate : (0 : ℚ) ≤ b.rpm / 60 := by
    have : (0 : ℚ) ≤ b.rpm := by exact_mod_cast hrpm
    positivity
  rcases eq_or_lt_of_le hnow with heq | hlt
  · rw [refill_of_eq heq,heq,sub_self,mul_zero,add_zero]
    exact ⟨rfl,htokens,le_max_left _ _,le_refl _⟩
  · obtain ⟨htime,hfound⟩ := refill_of_lt hlt
    obtain ⟨-,hnonneg,hle⟩ := sub_of_le hnow
    have helapsed : (0 : ℚ) ≤ sub now b.lastRefill / second := by
      have : (0 : ℚ) ≤ sub now b.lastRefill := by exact_mod_cast hnonneg
      exact div_nonneg this (by norm_num [second])
    have hshort : (sub now b.lastRefill : ℚ) / second ≤ (now : ℚ) / second - b.lastRefill / second := by
      rw [← sub_div]
      refine div_le_div_of_nonneg_right ?_ (by norm_num [second])
      exact_mod_cast hle
    rw [hfound]
    refine ⟨htime,le_min (by positivity) hcapacity,(min_le_right _ _).trans (le_max_right _ _),?_⟩
    refine (min_le_left _ _).trans (add_le_add_right ?_ _)
    rw [mul_comm]
    exact mul_le_mul_of_nonneg_left hshort hrate

def takeAt (time level : ℚ) : TokenBucket.Take ℚ := ⟨time,level,decide (1 ≤ level)⟩

theorem take_eq : b.take now = (decide (1 ≤ (b.refill now).tokens),
    { b.refill now with
      tokens := (b.refill now).tokens - (takeAt 0 (b.refill now).tokens).cost }) := by
  rw [Bucket.take]
  by_cases h : 1 ≤ (b.refill now).tokens
  · simp [h,takeAt,TokenBucket.Take.cost]
  · simp [h,takeAt,TokenBucket.Take.cost]

theorem cost_le {time level : ℚ} (h : 0 ≤ level) : (takeAt time level).cost ≤ level := by
  rw [takeAt,TokenBucket.Take.cost]
  split_ifs with h1
  · exact of_decide_eq_true h1
  · exact h

theorem cost_nonneg (time level : ℚ) : 0 ≤ (takeAt time level).cost := by
  rw [takeAt,TokenBucket.Take.cost]
  split_ifs <;> norm_num

end Step

section Runs

variable {key : String} {R B : ℚ} {l : Limiter} {c : Call} {calls : List Call}

@[simp] theorem allow_of_ne (h : c.key ≠ key) : (allow l c).2 key = l key :=
  Function.update_of_ne (Ne.symm h) _ _

@[simp] theorem allow_self : (allow l c).2 c.key = some ((bucketOf (l c.key) c).take c.now).2 :=
  Function.update_self _ _ _

theorem reply_congr {l' : Limiter} (h : l c.key = l' c.key) : (allow l c).1 = (allow l' c).1 := by
  rw [allow,allow,h]

theorem replies_filter (calls : List Call) : ∀ l l' : Limiter, l key = l' key →
    (replies l calls).filter (fun x => x.1.key = key) =
      replies l' (calls.filter (fun c => c.key = key)) := by
  induction calls with
  | nil => exact fun _ _ _ => rfl
  | cons c calls ih =>
    intro l l' h
    by_cases hkey : c.key = key
    · subst hkey
      have hnext : (allow l c).2 c.key = (allow l' c).2 c.key := by rw [allow_self,allow_self,h]
      rw [replies,List.filter_cons_of_pos (by simp),List.filter_cons_of_pos (by simp),replies,
        ih _ _ hnext,reply_congr h]
    · rw [replies,List.filter_cons_of_neg (by simpa using hkey),
        List.filter_cons_of_neg (by simpa using hkey)]
      exact ih _ _ ((allow_of_ne hkey).trans h)

/-- The bucket of the key, if there is one, as the take before the time `since` left it. -/
def Stands (B : ℚ) (since : Int) : Option Bucket → Prop
  | none => True
  | some b => 0 ≤ b.tokens ∧ b.tokens ≤ B ∧ b.lastRefill = since

def left (B : ℚ) : Option Bucket → ℚ
  | none => B
  | some b => b.tokens

def found (l : Limiter) (c : Call) : ℚ := ((bucketOf (l c.key) c).refill c.now).tokens

theorem allow_spec (hR : 0 ≤ R) {since : Int} (hstands : Stands B since (l c.key))
    (hsince : since ≤ c.created) (hnow : c.created ≤ c.now) (hrpm : 0 ≤ c.rpm ∧ (c.rpm : ℚ) ≤ R)
    (hburst : 0 ≤ c.burst ∧ (c.burst : ℚ) ≤ B) :
    Stands B c.now ((allow l c).2 c.key) ∧ 0 ≤ found l c ∧ found l c ≤ B ∧
      found l c ≤ left B (l c.key) + R / 60 * (c.at - since / second) ∧
        left B ((allow l c).2 c.key) = found l c - (takeAt c.at (found l c)).cost := by
  have hcapacity : (0 : ℚ) ≤ c.burst := by exact_mod_cast hburst.1
  have helapsed : (0 : ℚ) ≤ c.at - since / second := by
    rw [Call.at,← sub_div]
    refine div_nonneg (sub_nonneg.mpr ?_) (by norm_num [second])
    exact_mod_cast hsince.trans hnow
  have hrefill : 0 ≤ R / 60 * (c.at - since / second) := mul_nonneg (by positivity) helapsed
  have hfound : ((bucketOf (l c.key) c).refill c.now).lastRefill = c.now ∧ 0 ≤ found l c ∧
      found l c ≤ B ∧ found l c ≤ left B (l c.key) + R / 60 * (c.at - since / second) := by
    unfold found
    cases hl : l c.key with
    | none =>
      obtain ⟨htime,hnonneg,hle,-⟩ := refill_spec (b := bucketOf none c) hnow hcapacity hrpm.1 hcapacity
      have hfull : ((bucketOf none c).refill c.now).tokens ≤ B :=
        hle.trans ((max_self _).le.trans hburst.2)
      exact ⟨htime,hnonneg,hfull,hfull.trans (le_add_of_nonneg_right hrefill)⟩
    | some b =>
      rw [hl] at hstands
      obtain ⟨htokens,hfits,htime⟩ := hstands
      have hlast : b.lastRefill ≤ c.now := htime ▸ hsince.trans hnow
      obtain ⟨htime',hnonneg,hle,hrate⟩ :=
        refill_spec (b := bucketOf (some b) c) hlast htokens hrpm.1 hcapacity
      refine ⟨htime',hnonneg,hle.trans (max_le hfits hburst.2),hrate.trans (add_le_add_right ?_ _)⟩
      change (c.rpm : ℚ) / 60 * (c.at - b.lastRefill / second) ≤ _
      rw [htime]
      exact mul_le_mul_of_nonneg_right (div_le_div_of_nonneg_right hrpm.2 (by norm_num)) helapsed
  obtain ⟨htime,hnonneg,hle,hrate⟩ := hfound
  refine ⟨?_,hnonneg,hle,hrate,?_⟩
  · rw [allow_self,take_eq]
    refine ⟨sub_nonneg.mpr (cost_le hnonneg),?_,htime⟩
    exact (sub_le_self _ (cost_nonneg _ _)).trans hle
  · rw [allow_self,take_eq]
    rfl

def takes (key : String) : Limiter → List Call → List (TokenBucket.Take ℚ)
  | _, [] => []
  | l, c :: calls =>
    let later := takes key (allow l c).2 calls
    if c.key = key then takeAt c.at (found l c) :: later else later

theorem allowed_eq : (allow l c).1.allowed = decide (1 ≤ found l c) := by
  change ((bucketOf (l c.key) c).take c.now).1 = _
  rw [take_eq]
  rfl

theorem countP_replies (start stop : ℚ) (calls : List Call) : ∀ l : Limiter,
    ((replies l calls).countP (fun x =>
        x.1.key = key && x.2.allowed && start ≤ x.1.at && x.1.at ≤ stop) : ℚ) =
      TokenBucket.takenIn (fun t => start ≤ t && t ≤ stop) (takes key l calls) := by
  induction calls with
  | nil => intro l; rfl
  | cons c calls ih =>
    intro l
    rw [replies,List.countP_cons,takes]
    by_cases hkey : c.key = key
    · rw [if_pos hkey,TokenBucket.takenIn_cons,← ih]
      by_cases h1 : 1 ≤ found l c
      · by_cases hin : start ≤ c.at ∧ c.at ≤ stop
        · simp [hkey,allowed_eq,h1,hin,takeAt,TokenBucket.Take.cost,add_comm]
        · simp [hkey,allowed_eq,h1,hin,takeAt]
      · simp [allowed_eq,h1,takeAt,TokenBucket.Take.cost]
    · simp [hkey,ih]

theorem takes_metered (hR : 0 ≤ R) (calls : List Call) : ∀ (l : Limiter) (since : Int),
    Stands B since (l key) → (calls.flatMap Call.reads).Pairwise (fun t u => t ≤ u) →
    (∀ t ∈ calls.flatMap Call.reads, since ≤ t) →
    (∀ c ∈ calls, c.key = key → 0 ≤ c.rpm ∧ (c.rpm : ℚ) ≤ R) →
    (∀ c ∈ calls, c.key = key → 0 ≤ c.burst ∧ (c.burst : ℚ) ≤ B) →
      TokenBucket.Metered B (R / 60) (left B (l key)) (since / second) (takes key l calls) ∧
        ∀ earlier, earlier <+: calls → ∃ since', Stands B since' (after l earlier key) := by
  induction calls with
  | nil =>
    intro l since hstands _ _ _ _
    refine ⟨trivial,fun earlier h => ⟨since,?_⟩⟩
    rw [List.prefix_nil.mp h]
    exact hstands
  | cons c calls ih =>
    intro l since hstands hordered hsince hrpm hburst
    rw [List.flatMap_cons,List.pairwise_append] at hordered
    obtain ⟨hreads,hlater,hbefore⟩ := hordered
    rw [List.flatMap_cons,List.forall_mem_append] at hsince
    obtain ⟨hrpm,hrpms⟩ := List.forall_mem_cons.mp hrpm
    obtain ⟨hburst,hbursts⟩ := List.forall_mem_cons.mp hburst
    have hcreated : since ≤ c.created := hsince.1 _ (by simp [Call.reads])
    have hnow : c.created ≤ c.now := by
      simp only [Call.reads,List.pairwise_cons] at hreads
      exact hreads.1 _ (by simp)
    have hafter : ∀ t ∈ calls.flatMap Call.reads, c.now ≤ t :=
      fun t ht => hbefore _ (by simp [Call.reads]) t ht
    have hstarts (h : ∀ earlier, earlier <+: calls →
        ∃ since', Stands B since' (after (allow l c).2 earlier key)) :
        ∀ earlier, earlier <+: c :: calls → ∃ since', Stands B since' (after l earlier key) := by
      intro earlier hearlier
      cases earlier with
      | nil => exact ⟨since,hstands⟩
      | cons d earlier =>
        obtain ⟨rfl,hrest⟩ := List.cons_prefix_cons.mp hearlier
        exact h earlier hrest
    rw [takes]
    by_cases hkey : c.key = key
    · subst hkey
      obtain ⟨hstands',hnonneg,hle,hrate,hleft⟩ :=
        allow_spec hR hstands hcreated hnow (hrpm rfl) (hburst rfl)
      obtain ⟨hmetered,hprefixes⟩ := ih _ c.now hstands' hlater hafter hrpms hbursts
      rw [if_pos rfl]
      refine ⟨⟨?_,hle,hrate,cost_le hnonneg,?_⟩,?_⟩
      · refine div_le_div_of_nonneg_right ?_ (by norm_num [second])
        exact_mod_cast hcreated.trans hnow
      · rw [hleft] at hmetered
        exact hmetered
      · exact hstarts hprefixes
    · have hframe : (allow l c).2 key = l key := allow_of_ne hkey
      obtain ⟨hmetered,hprefixes⟩ :=
        ih (allow l c).2 since (hframe.symm ▸ hstands) hlater hsince.2 hrpms hbursts
      rw [if_neg hkey]
      rw [hframe] at hmetered
      exact ⟨hmetered,hstarts hprefixes⟩

theorem limits (hR : 0 ≤ R) (hB : 0 ≤ B) (run : Run key R B) : Limits key R B run.calls := by
  obtain ⟨calls,hordered,hrates,hbursts⟩ := run
  obtain ⟨since,hsince⟩ : ∃ since : Int, ∀ t ∈ calls.flatMap Call.reads, since ≤ t := by
    cases hreads : calls.flatMap Call.reads with
    | nil => exact ⟨0,nofun⟩
    | cons t reads =>
      rw [hreads] at hordered
      exact ⟨t,List.forall_mem_cons.mpr ⟨le_refl _,(List.pairwise_cons.mp hordered).1⟩⟩
  obtain ⟨hmetered,hprefixes⟩ :=
    takes_metered hR calls empty since trivial hordered hsince hrates hbursts
  refine ⟨?_,?_,replies_filter calls empty empty rfl⟩
  · intro start length hlength
    rw [admittedIn,countP_replies]
    have hle := hmetered.taken_between_le hB (div_nonneg hR (by norm_num))
      (show start ≤ start + length by linarith)
    refine hle.trans (le_of_eq ?_)
    ring
  · intro earlier h b hb
    obtain ⟨since',hstands⟩ := hprefixes earlier h
    rw [hb] at hstands
    exact ⟨hstands.1,hstands.2.1⟩

def cutRun : Run "tenant:acme" 60 2 where
  calls := [⟨"tenant:acme",60,2,0,0,0⟩,⟨"tenant:acme",30,1,0,0,0⟩,⟨"tenant:zen",9,9,0,0,0⟩,
    ⟨"tenant:acme",60,2,0,0,0⟩]
  ordered := by decide
  rates := by decide
  bursts := by decide

theorem cutRun_limits : Limits "tenant:acme" 60 2 cutRun.calls :=
  limits (by norm_num) (by norm_num) cutRun

end Runs

end PrismGateway.RateLimit.InMemory
