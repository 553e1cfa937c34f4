import PrismGateway.Config.Tenant
import PrismGateway.Lib.Redis
import PrismGateway.Lib.TokenBucket
import Mathlib.Algebra.Order.Floor.Defs
import Mathlib.Data.Rat.Floor
import Mathlib.Tactic.NormNum
import Mathlib.Tactic.Positivity

namespace PrismGateway.RateLimit

open Lib

inductive Field where
  | tokens
  | lastRefill
  deriving DecidableEq, Repr

abbrev Db := Redis.Db String Field ℚ Empty

structure Reply where
  allowed : Bool
  remaining : Int
  resetAt : Int
  deriving DecidableEq, Repr

def ttlMs : Int := 120 * 1000

def refilled (key : String) (maxTokens refillRate now : ℚ) (clock : Int) (db : Db) : ℚ :=
  let stored := Redis.hget db clock key .tokens
  let lastRefill := if stored = none then now else (Redis.hget db clock key .lastRefill).getD now
  let elapsed := now - lastRefill
  let refill := elapsed * refillRate
  min maxTokens (stored.getD maxTokens + refill)

def spend (tokens : ℚ) : ℚ := if 1 ≤ tokens then tokens - 1 else tokens

/-- `clock` is the Redis server's own time in milliseconds, which expiry goes by; numbers in the
reply are cut to integers on the way out of the script. -/
def luaScript (key : String) (maxTokens refillRate now : ℚ) (clock : Int) (db : Db) : Reply × Db :=
  let tokens := refilled key maxTokens refillRate now clock db
  let allowed := decide (1 ≤ tokens)
  let remaining := spend tokens
  let written := Redis.hmset db clock key [(.tokens,remaining),(.lastRefill,now)] []
  let resetAt := now + ⌈(maxTokens - remaining) / refillRate⌉
  (⟨allowed,Int.tdiv remaining.num remaining.den,⌊resetAt⌋⟩,Redis.expire written clock key ttlMs)

structure Call where
  bucketKey : String
  rpm : Int
  burst : Int
  clock : Int

def Call.now (c : Call) : Int := c.clock / 1000

def allow (keyPrefix : String) (c : Call) (db : Db) : Reply × Db :=
  luaScript (keyPrefix ++ c.bucketKey) c.burst (c.rpm / 60) c.now c.clock db

def replies (keyPrefix : String) : Db → List Call → List (Call × Reply)
  | _, [] => []
  | db, c :: calls => (c,(allow keyPrefix c db).1) :: replies keyPrefix (allow keyPrefix c db).2 calls

def admittedIn (keyPrefix bucketKey : String) (start stop : ℚ) (calls : List Call) : Nat :=
  (replies keyPrefix Redis.Db.empty calls).countP (fun x =>
    x.1.bucketKey = bucketKey && x.2.allowed && start ≤ x.1.now && x.1.now ≤ stop)

structure Run (bucketKey : String) (rpm burst : Int) where
  calls : List Call
  ordered : calls.Pairwise (fun c d => c.clock ≤ d.clock)
  configured : ∀ c ∈ calls, c.bucketKey = bucketKey → c.rpm = rpm ∧ c.burst = burst

def AdmissionBound (rpm burst : Int) : Prop :=
  ∀ (keyPrefix bucketKey : String) (run : Run bucketKey rpm burst) (start length : ℚ), 0 ≤ length →
    admittedIn keyPrefix bucketKey start (start + length) run.calls ≤ burst + rpm * length / 60

structure Holds (db : Db) (key : String) (tokens : ℚ) (clock : Int) : Prop where
  tokens_eq : ∀ t, Redis.hget db t key .tokens = if t < clock + ttlMs then some tokens else none
  lastRefill_eq : ∀ t, Redis.hget db t key .lastRefill =
    if t < clock + ttlMs then some ((clock / 1000 : Int) : ℚ) else none

section Script

variable {key : String} {maxTokens refillRate now tokens : ℚ} {clock since : Int} {db : Db}

theorem luaScript_of_ne {j : String} (h : j ≠ key) :
    (luaScript key maxTokens refillRate now clock db).2 j = db j := by
  simp only [luaScript]
  rw [Redis.expire_of_ne h,Redis.hmset_of_ne h]

theorem Holds.congr {db' : Db} (h : Holds db key tokens clock) (hkey : db' key = db key) :
    Holds db' key tokens clock := by
  have hread (t : Int) (f : Field) : Redis.hget db' t key f = Redis.hget db t key f := by
    rw [Redis.hget,Redis.hashAt_congr hkey,Redis.hget]
  constructor
  · intro t
    rw [hread,h.tokens_eq]
  · intro t
    rw [hread,h.lastRefill_eq]

theorem holds_luaScript (hnow : now = (clock / 1000 : Int)) :
    Holds (luaScript key maxTokens refillRate now clock db).2 key
      (spend (refilled key maxTokens refillRate now clock db)) clock := by
  have hpos : 0 < ttlMs := by decide
  constructor
  · intro t
    rw [luaScript,Redis.hget,Redis.hashAt_expire_hmset db key clock t hpos]
    split_ifs
    · simp [Redis.Hash.setText]
    · rfl
  · intro t
    rw [luaScript,Redis.hget,Redis.hashAt_expire_hmset db key clock t hpos]
    split_ifs
    · simp [Redis.Hash.setText,hnow]
    · rfl

theorem refilled_le : refilled key maxTokens refillRate now clock db ≤ maxTokens :=
  min_le_left _ _

theorem refilled_of_none (h : db key = none) :
    refilled key maxTokens refillRate now clock db = maxTokens := by
  have hnone : Redis.hget db clock key .tokens = none := by
    simp [Redis.hget,Redis.hashAt,Redis.get,h,Redis.Hash.empty]
  simp [refilled,hnone]

theorem Holds.refilled_live (h : Holds db key tokens since) (hlive : clock < since + ttlMs) :
    refilled key maxTokens refillRate now clock db =
      min maxTokens (tokens + (now - (since / 1000 : Int)) * refillRate) := by
  simp [refilled,h.tokens_eq,h.lastRefill_eq,hlive]

theorem Holds.refilled_expired (h : Holds db key tokens since) (hexp : ¬ clock < since + ttlMs) :
    refilled key maxTokens refillRate now clock db = maxTokens := by
  simp [refilled,h.tokens_eq,hexp]

end Script

theorem cost_add_spend (time level : ℚ) :
    (⟨time,level,decide (1 ≤ level)⟩ : TokenBucket.Take ℚ).cost + spend level = level := by
  by_cases h : 1 ≤ level
  · simp [TokenBucket.Take.cost,spend,h]
  · simp [TokenBucket.Take.cost,spend,h]

theorem spend_nonneg {level : ℚ} (h : 0 ≤ level) : 0 ≤ spend level := by
  rw [spend]
  split_ifs with h1
  · linarith
  · exact h

section Runs

variable (keyPrefix bucketKey : String)

def found (c : Call) (db : Db) : ℚ :=
  refilled (keyPrefix ++ c.bucketKey) c.burst (c.rpm / 60) c.now c.clock db

def takes : Db → List Call → List (TokenBucket.Take ℚ)
  | _, [] => []
  | db, c :: calls =>
    let later := takes (allow keyPrefix c db).2 calls
    if c.bucketKey = bucketKey then
      ⟨c.now,found keyPrefix c db,decide (1 ≤ found keyPrefix c db)⟩ :: later
    else later

theorem countP_replies (start stop : ℚ) (calls : List Call) : ∀ db : Db,
    ((replies keyPrefix db calls).countP (fun x =>
        x.1.bucketKey = bucketKey && x.2.allowed && start ≤ x.1.now && x.1.now ≤ stop) : ℚ) =
      TokenBucket.takenIn (fun t => start ≤ t && t ≤ stop) (takes keyPrefix bucketKey db calls) := by
  induction calls with
  | nil => intro db; rfl
  | cons c calls ih =>
    intro db
    have hallowed : (allow keyPrefix c db).1.allowed = decide (1 ≤ found keyPrefix c db) := rfl
    rw [replies,List.countP_cons,takes]
    by_cases hkey : c.bucketKey = bucketKey
    · rw [if_pos hkey,TokenBucket.takenIn_cons,← ih]
      by_cases h1 : 1 ≤ found keyPrefix c db
      · by_cases hin : start ≤ (c.now : ℚ) ∧ (c.now : ℚ) ≤ stop
        · simp [hkey,hallowed,h1,hin,TokenBucket.Take.cost,add_comm]
        · simp [hkey,hallowed,h1,hin]
      · simp [hallowed,h1,TokenBucket.Take.cost]
    · simp [hkey,ih]

def Stands (burst : ℚ) (db : Db) (key : String) (tokens : ℚ) (since : Int) : Prop :=
  0 ≤ tokens ∧ (db key = none ∧ tokens = burst ∨ Holds db key tokens since)

variable {keyPrefix bucketKey} {rpm burst : Int}

theorem Stands.found_bounds {db : Db} {c : Call} {tokens : ℚ} {since : Int}
    (h : Stands burst db (keyPrefix ++ c.bucketKey) tokens since) (hrpm : c.rpm = rpm)
    (hburst : c.burst = burst) (hpos : 0 ≤ burst) (hrate : 0 ≤ rpm) (hfits : burst ≤ 2 * rpm)
    (hsince : since ≤ c.clock) :
    0 ≤ found keyPrefix c db ∧
      found keyPrefix c db ≤ tokens + rpm / 60 * ((c.now : ℚ) - (since / 1000 : Int)) := by
  obtain ⟨htokens,hcase⟩ := h
  have hmono : since / 1000 ≤ c.now := Int.ediv_le_ediv (by decide) hsince
  have helapsed : (0 : ℚ) ≤ (c.now : ℚ) - (since / 1000 : Int) := by
    rw [sub_nonneg]
    exact_mod_cast hmono
  have hr : (0 : ℚ) ≤ rpm / 60 := by positivity
  have hcap : (0 : ℚ) ≤ burst := by exact_mod_cast hpos
  have hrefill := mul_nonneg hr helapsed
  rw [found,hrpm,hburst]
  rcases hcase with ⟨hnone,rfl⟩ | hholds
  · rw [refilled_of_none hnone]
    exact ⟨hcap,by linarith⟩
  · by_cases hlive : c.clock < since + ttlMs
    · rw [hholds.refilled_live hlive,mul_comm _ ((rpm : ℚ) / 60)]
      exact ⟨le_min hcap (add_nonneg htokens hrefill),min_le_right _ _⟩
    · -- an expired bucket had two minutes, enough to refill it
      have hgap : since / 1000 + 120 ≤ c.now := by
        rw [Call.now]
        rw [ttlMs] at hlive
        omega
      have hgap' : (120 : ℚ) ≤ (c.now : ℚ) - (since / 1000 : Int) := by
        rw [le_sub_iff_add_le,add_comm]
        exact_mod_cast hgap
      have hfull : (rpm : ℚ) / 60 * 120 ≤ rpm / 60 * ((c.now : ℚ) - (since / 1000 : Int)) :=
        mul_le_mul_of_nonneg_left hgap' hr
      have hcast : (burst : ℚ) ≤ 2 * rpm := by exact_mod_cast hfits
      rw [hholds.refilled_expired hlive]
      exact ⟨hcap,by linarith⟩

theorem Stands.allow_self {db : Db} {c : Call} (h : 0 ≤ found keyPrefix c db) :
    Stands burst (allow keyPrefix c db).2 (keyPrefix ++ c.bucketKey) (spend (found keyPrefix c db))
      c.clock :=
  ⟨spend_nonneg h,.inr (holds_luaScript rfl)⟩

theorem Stands.allow_of_ne {db : Db} {c : Call} {tokens : ℚ} {since : Int}
    (h : Stands burst db (keyPrefix ++ bucketKey) tokens since) (hc : c.bucketKey ≠ bucketKey) :
    Stands burst (allow keyPrefix c db).2 (keyPrefix ++ bucketKey) tokens since := by
  have hne : keyPrefix ++ bucketKey ≠ keyPrefix ++ c.bucketKey := by
    intro heq
    exact hc ((String.append_right_inj keyPrefix).mp heq).symm
  have hframe : (allow keyPrefix c db).2 (keyPrefix ++ bucketKey) = db (keyPrefix ++ bucketKey) :=
    luaScript_of_ne hne
  obtain ⟨htokens,⟨hnone,hfull⟩ | hholds⟩ := h
  · exact ⟨htokens,.inl ⟨hframe.trans hnone,hfull⟩⟩
  · exact ⟨htokens,.inr (hholds.congr hframe)⟩

theorem metered_takes (hpos : 0 ≤ burst) (hrate : 0 ≤ rpm) (hfits : burst ≤ 2 * rpm)
    {calls : List Call} : ∀ {db : Db} {tokens : ℚ} {since : Int},
    Stands burst db (keyPrefix ++ bucketKey) tokens since →
    calls.Pairwise (fun c d => c.clock ≤ d.clock) → (∀ c ∈ calls, since ≤ c.clock) →
    (∀ c ∈ calls, c.bucketKey = bucketKey → c.rpm = rpm ∧ c.burst = burst) →
      TokenBucket.Metered (burst : ℚ) (rpm / 60) tokens (since / 1000 : Int)
        (takes keyPrefix bucketKey db calls) := by
  induction calls with
  | nil => exact fun _ _ _ _ => trivial
  | cons c calls ih =>
    intro db tokens since hstands hordered hsince hconf
    obtain ⟨hfirst,hordered⟩ := List.pairwise_cons.mp hordered
    obtain ⟨hc,hsince⟩ := List.forall_mem_cons.mp hsince
    obtain ⟨hcconf,hconf⟩ := List.forall_mem_cons.mp hconf
    rw [takes]
    by_cases hkey : c.bucketKey = bucketKey
    · subst hkey
      obtain ⟨hrpm,hburst⟩ := hcconf rfl
      obtain ⟨hnonneg,hrefill⟩ := hstands.found_bounds hrpm hburst hpos hrate hfits hc
      have hrest := ih (Stands.allow_self hnonneg) hordered hfirst hconf
      have hcost := cost_add_spend (c.now : ℚ) (found keyPrefix c db)
      rw [if_pos rfl]
      refine ⟨?_,?_,hrefill,?_,?_⟩
      · exact Int.cast_le.mpr (Int.ediv_le_ediv (by decide) hc)
      · exact hburst ▸ refilled_le
      · have := spend_nonneg hnonneg
        linarith
      · rw [sub_eq_of_eq_add' hcost.symm]
        exact hrest
    · rw [if_neg hkey]
      exact ih (hstands.allow_of_ne hkey) hordered hsince hconf

theorem admissionBound_of_fits (hpos : 0 ≤ burst) (hrate : 0 ≤ rpm) (hfits : burst ≤ 2 * rpm) :
    AdmissionBound rpm burst := by
  intro keyPrefix bucketKey run start length hlength
  obtain ⟨calls,hordered,hconf⟩ := run
  have hcap : (0 : ℚ) ≤ burst := by exact_mod_cast hpos
  have hr : (0 : ℚ) ≤ rpm / 60 := by positivity
  rw [admittedIn,countP_replies]
  cases calls with
  | nil =>
    have hbound : (0 : ℚ) ≤ burst + rpm * length / 60 := by positivity
    exact hbound
  | cons c calls =>
    have hsince : ∀ d ∈ c :: calls, c.clock ≤ d.clock :=
      List.forall_mem_cons.mpr ⟨le_refl _,(List.pairwise_cons.mp hordered).1⟩
    have hstands : Stands burst Redis.Db.empty (keyPrefix ++ bucketKey) burst c.clock :=
      ⟨hcap,.inl ⟨rfl,rfl⟩⟩
    have hmetered := metered_takes hpos hrate hfits hstands hordered hsince hconf
    have hle := hmetered.taken_between_le hcap hr (show start ≤ start + length by linarith)
    refine hle.trans (le_of_eq ?_)
    ring

theorem found_allow_self {db : Db} {c : Call} :
    found keyPrefix c (allow keyPrefix c db).2 = spend (found keyPrefix c db) := by
  have hholds : Holds (allow keyPrefix c db).2 (keyPrefix ++ c.bucketKey)
      (spend (found keyPrefix c db)) c.clock := holds_luaScript rfl
  have hlive : c.clock < c.clock + ttlMs := by
    rw [ttlMs]
    omega
  have hcap : found keyPrefix c db ≤ c.burst := refilled_le
  have hspent : spend (found keyPrefix c db) ≤ c.burst := by
    rw [spend]
    split_ifs
    · linarith
    · exact hcap
  rw [found,hholds.refilled_live hlive,Call.now,sub_self,zero_mul,add_zero]
  exact min_eq_right hspent

def after (keyPrefix : String) (db : Db) (calls : List Call) : Db :=
  calls.foldl (fun db c => (allow keyPrefix c db).2) db

theorem replies_append (calls later : List Call) : ∀ db : Db,
    replies keyPrefix db (calls ++ later) =
      replies keyPrefix db calls ++ replies keyPrefix (after keyPrefix db calls) later := by
  induction calls with
  | nil => exact fun _ => rfl
  | cons c calls ih =>
    intro db
    rw [List.cons_append,replies,ih]
    rfl

theorem holds_after_replicate (keyPrefix : String) (db : Db) (c : Call) (n : Nat) :
    ∃ tokens, Holds (after keyPrefix db (List.replicate (n + 1) c)) (keyPrefix ++ c.bucketKey) tokens
      c.clock := by
  rw [List.replicate_succ',after,List.foldl_append]
  exact ⟨_,holds_luaScript rfl⟩

theorem countP_replicate {c : Call} {p : Call × Reply → Bool}
    (hp : ∀ r : Reply, r.allowed = true → p (c,r) = true) (n : Nat) : ∀ {db : Db},
    (n : ℚ) ≤ found keyPrefix c db →
      (replies keyPrefix db (List.replicate n c)).countP p = n := by
  induction n with
  | zero => exact fun _ => rfl
  | succ n ih =>
    intro db hn
    push_cast at hn
    have hnonneg : (0 : ℚ) ≤ n := Nat.cast_nonneg n
    have hone : 1 ≤ found keyPrefix c db := by linarith
    have hallowed : (allow keyPrefix c db).1.allowed = true := decide_eq_true hone
    have hnext : (n : ℚ) ≤ found keyPrefix c (allow keyPrefix c db).2 := by
      rw [found_allow_self,spend,if_pos hone]
      linarith
    rw [List.replicate_succ,replies,List.countP_cons_of_pos (hp _ hallowed),ih hnext]

end Runs

def twoBursts (bucketKey : String) (rpm burst : Int) : Run bucketKey rpm burst where
  calls := List.replicate burst.toNat ⟨bucketKey,rpm,burst,0⟩ ++
    List.replicate burst.toNat ⟨bucketKey,rpm,burst,ttlMs⟩
  ordered := by
    rw [List.pairwise_append]
    refine ⟨List.pairwise_replicate.mpr (.inr (le_refl _)),
      List.pairwise_replicate.mpr (.inr (le_refl _)),?_⟩
    intro c hc d hd
    rw [List.eq_of_mem_replicate hc,List.eq_of_mem_replicate hd]
    exact (by decide : (0 : Int) ≤ ttlMs)
  configured := by
    intro c hc _
    rcases List.mem_append.mp hc with hc | hc
    · rw [List.eq_of_mem_replicate hc]
      exact ⟨rfl,rfl⟩
    · rw [List.eq_of_mem_replicate hc]
      exact ⟨rfl,rfl⟩

theorem admittedIn_twoBursts (keyPrefix bucketKey : String) (rpm : Int) {burst : Int}
    (hburst : 1 ≤ burst) :
    (admittedIn keyPrefix bucketKey 0 120 (twoBursts bucketKey rpm burst).calls : ℚ) =
      2 * burst := by
  obtain ⟨n,rfl⟩ : ∃ n : Nat, burst = (n + 1 : Nat) := ⟨burst.toNat - 1,by omega⟩
  have hcast : (((n + 1 : Nat) : Int) : ℚ) = ((n + 1 : Nat) : ℚ) := Int.cast_natCast _
  have hfresh : found keyPrefix ⟨bucketKey,rpm,(n + 1 : Nat),0⟩ Redis.Db.empty = ((n + 1 : Nat) : ℚ) :=
    (refilled_of_none rfl).trans hcast
  obtain ⟨tokens,hholds⟩ := holds_after_replicate keyPrefix Redis.Db.empty
    ⟨bucketKey,rpm,(n + 1 : Nat),0⟩ n
  have hexpired : found keyPrefix ⟨bucketKey,rpm,(n + 1 : Nat),ttlMs⟩ (after keyPrefix Redis.Db.empty
      (List.replicate (n + 1) ⟨bucketKey,rpm,(n + 1 : Nat),0⟩)) = ((n + 1 : Nat) : ℚ) :=
    (hholds.refilled_expired (by decide : ¬ ttlMs < 0 + ttlMs)).trans hcast
  have hcalls : (twoBursts bucketKey rpm (n + 1 : Nat)).calls =
      List.replicate (n + 1) ⟨bucketKey,rpm,(n + 1 : Nat),0⟩ ++
        List.replicate (n + 1) ⟨bucketKey,rpm,(n + 1 : Nat),ttlMs⟩ := rfl
  rw [admittedIn,hcalls,replies_append,List.countP_append,
    countP_replicate ?_ (n + 1) hfresh.ge,countP_replicate ?_ (n + 1) hexpired.ge]
  · push_cast
    ring
  · intro r hr
    have hnow : ttlMs / 1000 = 120 := by decide
    simp [hr,Call.now,hnow]
  · intro r hr
    simp [hr,Call.now]

theorem admission_bound_iff {rpm burst : Int} (hrpm : 1 ≤ rpm) (hburst : 1 ≤ burst) :
    AdmissionBound rpm burst ↔ burst ≤ 2 * rpm := by
  constructor
  · intro h
    have hle := h "" "" (twoBursts "" rpm burst) 0 120 (by norm_num)
    rw [zero_add,admittedIn_twoBursts "" "" rpm hburst] at hle
    have hcast : (burst : ℚ) ≤ 2 * rpm := by linarith
    exact_mod_cast hcast
  · exact admissionBound_of_fits (by omega) (by omega)

theorem sixty_rpm_admission_bound : AdmissionBound 60 100 :=
  (admission_bound_iff (by decide) (by decide)).mpr (by decide)

def slowTenant : Config.TenantConfig where
  id := "acme"
  allowedModels := ["gpt-4o"]
  routing := { strategy := "round_robin" }
  budgets := { timezone := "UTC" }
  rateLimit := ⟨1,3⟩
  compliance := ⟨30,"full"⟩

theorem expired_bucket_admits_again :
    Config.validateTenantConfig (fun name => if name = "gpt-4o" then
        some { name := name, provider := "openai" } else none) (· = "UTC") slowTenant = .ok () ∧
    admittedIn "rl:" "tenant:acme" 0 120 (twoBursts "tenant:acme" 1 3).calls = 6 ∧
    ¬ AdmissionBound slowTenant.rateLimit.rpm slowTenant.rateLimit.burst := by
  have hsix : (admittedIn "rl:" "tenant:acme" 0 120 (twoBursts "tenant:acme" 1 3).calls : ℚ) = 6 := by
    rw [admittedIn_twoBursts _ _ _ (by decide)]
    norm_num
  refine ⟨by decide,by exact_mod_cast hsix,fun h => ?_⟩
  have hle := h "rl:" "tenant:acme" (twoBursts "tenant:acme" 1 3) 0 120 (by norm_num)
  rw [zero_add,hsix] at hle
  norm_num [slowTenant] at hle

end PrismGateway.RateLimit
