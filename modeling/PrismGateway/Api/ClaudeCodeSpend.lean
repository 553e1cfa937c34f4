import PrismGateway.Api.ClaudeCodeBudget
import PrismGateway.Lib.Tally

namespace PrismGateway.Api.ClaudeCode

open Lib

/-- A month of a tenant under a hard limit: what the enforced budgets allow at most, what a request costs
at most and how many of its requests run at a time. -/
structure Bounds where
  tenantID : String
  location : Location
  month : Window
  limit : ℚ
  price : ℚ
  slots : ℕ
  is_month : ∀ t, location t = month ↔ month.monthStart ≤ t ∧ t < month.monthEnd
  limit_pos : 0 < limit
  price_nonneg : 0 ≤ price

namespace Stage

def live : Stage → ℕ
  | .ended _ => 0
  | _ => 1

def recorded : Stage → ℕ
  | .ended .recorded => 1
  | _ => 0

def owing (month : Window) (now : ℤ) : Stage → ℕ
  | .checking _ _ m => if m ≠ month ∧ now < month.monthEnd then 1 else 0
  | .admitted | .logging _ => if now < month.monthEnd then 1 else 0
  | .inserting row => if month.monthStart ≤ row.createdAt ∧ row.createdAt < month.monthEnd then 1 else 0
  | .ended _ => 0

theorem owing_le_live (month : Window) (now : ℤ) (stage : Stage) :
    stage.owing month now ≤ stage.live := by
  cases stage <;> simp only [owing,live] <;> (try split_ifs) <;> omega

theorem owing_mono (month : Window) {now later : ℤ} (h : now ≤ later) (stage : Stage) :
    stage.owing month later ≤ stage.owing month now := by
  cases stage with
  | checking cc enf m =>
    simp only [owing]
    split_ifs with hlater hnow
    · exact Nat.le_refl 1
    · exact absurd ⟨hlater.1,lt_of_le_of_lt h hlater.2⟩ hnow
    · exact Nat.zero_le 1
    · exact Nat.le_refl 0
  | admitted | logging cost =>
    simp only [owing]
    split_ifs <;> omega
  | inserting row => exact Nat.le_refl _
  | ended outcome => exact Nat.le_refl 0

end Stage

namespace Request

def live (tenantID : String) (q : Request) : ℕ := if q.tenantID = tenantID then q.stage.live else 0

def owing (tenantID : String) (month : Window) (now : ℤ) (q : Request) : ℕ :=
  if q.tenantID = tenantID then q.stage.owing month now else 0

def recorded (q : Request) : ℕ := q.stage.recorded

theorem owing_le_live (tenantID : String) (month : Window) (now : ℤ) (q : Request) :
    q.owing tenantID month now ≤ q.live tenantID := by
  rw [owing,live]
  split_ifs
  · exact q.stage.owing_le_live month now
  · exact Nat.le_refl 0

theorem owing_mono (tenantID : String) (month : Window) {now later : ℤ} (h : now ≤ later)
    (q : Request) : q.owing tenantID month later ≤ q.owing tenantID month now := by
  rw [owing,owing]
  split_ifs
  · exact q.stage.owing_mono month h
  · exact Nat.le_refl 0

end Request

namespace World

def inFlight (w : World) (tenantID : String) : ℕ := tally (Request.live tenantID) w.requests

def owed (w : World) (tenantID : String) (month : Window) : ℕ :=
  tally (Request.owing tenantID month w.now) w.requests

theorem owed_le_inFlight (w : World) (tenantID : String) (month : Window) :
    w.owed tenantID month ≤ w.inFlight tenantID :=
  tally_mono (Request.owing_le_live tenantID month w.now) w.requests

end World

section Spend

theorem spend_append (tenantID : String) (month : Window) (log : List LogRow) (row : LogRow) :
    getClaudeCodeMonthlySpend tenantID month (log ++ [row]) =
      getClaudeCodeMonthlySpend tenantID month log + row.counted tenantID month := by
  induction log with
  | nil => simp [getClaudeCodeMonthlySpend]
  | cons r log ih =>
    rw [List.cons_append,getClaudeCodeMonthlySpend,getClaudeCodeMonthlySpend,ih,add_assoc]

theorem spend_before {tenantID : String} {month : Window} {now : ℤ} {log : List LogRow}
    (hlog : ∀ row ∈ log, row.createdAt ≤ now) (hnow : now < month.monthStart) :
    getClaudeCodeMonthlySpend tenantID month log = 0 := by
  induction log with
  | nil => rfl
  | cons row log ih =>
    have hrow := hlog row List.mem_cons_self
    rw [getClaudeCodeMonthlySpend,ih (fun r hr => hlog r (List.mem_cons_of_mem _ hr)),LogRow.counted,
      if_neg (by omega),add_zero]

end Spend

inductive Taken (z : TimeZones) (w : World) : Event → World → Prop
  | ticked {now : ℤ} (h : w.now ≤ now) : Taken z w (.tick now) { w with now := now }
  | requested (tenantID : String) (modelRequested : Option String) (resolved : Option TenantConfig) :
      Taken z w (.request tenantID modelRequested resolved)
        { w with requests := w.requests ++ [⟨tenantID,modelRequested,z.gate w.now resolved⟩] }
  | checked {i : ℕ} {q : Request} {cc : ClaudeCodeTenantConfig} {enf : BudgetEnforcement}
      {m : Window} (failed : Bool) (hq : w.requests[i]? = some q)
      (hstage : q.stage = .checking cc enf m) :
      Taken z w (.readSpend i failed) (w.move i q (claudeCodeBudgetCheck q.tenantID cc enf
        (if failed then none else some (w.spend q.tenantID m))))
  | unsupported {i : ℕ} {q : Request} (p : Prices) (hq : w.requests[i]? = some q)
      (hstage : q.stage = .admitted) : Taken z w (.reply i p none) (w.move i q (.ended .unsupported))
  | replied {i : ℕ} {q : Request} (p : Prices) (reply : Reply) (hq : w.requests[i]? = some q)
      (hstage : q.stage = .admitted) :
      Taken z w (.reply i p (some reply)) (w.move i q (.logging (reply.cost p q.modelRequested)))
  | stamped {i : ℕ} {q : Request} {cost : Option ℚ} (hq : w.requests[i]? = some q)
      (hstage : q.stage = .logging cost) :
      Taken z w (.stamp i) (w.move i q (.inserting ⟨q.tenantID,w.now,cost⟩))
  | inserted {i : ℕ} {q : Request} {row : LogRow} (stored : Bool) (hq : w.requests[i]? = some q)
      (hstage : q.stage = .inserting row) : Taken z w (.insert i stored) (w.insert i q row stored)

theorem taken_of_step {z : TimeZones} {w w' : World} {e : Event} (h : z.step w e = some w') :
    Taken z w e w' := by
  cases e with
  | tick now =>
    simp only [TimeZones.step] at h
    split_ifs at h with hnow
    cases h
    exact .ticked hnow
  | request tenantID modelRequested resolved =>
    cases h
    exact .requested tenantID modelRequested resolved
  | readSpend i failed =>
    simp only [TimeZones.step] at h
    split at h
    · cases h
    · next q hq =>
      split at h
      · next hstage =>
        cases h
        exact .checked failed hq hstage
      · cases h
  | reply i p reply =>
    simp only [TimeZones.step] at h
    split at h
    · cases h
    · next q hq =>
      split at h
      · next hstage =>
        cases reply with
        | none =>
          cases h
          exact .unsupported p hq hstage
        | some reply =>
          cases h
          exact .replied p reply hq hstage
      · cases h
  | stamp i =>
    simp only [TimeZones.step] at h
    split at h
    · cases h
    · next q hq =>
      split at h
      · next hstage =>
        cases h
        exact .stamped hq hstage
      · cases h
  | insert i stored =>
    simp only [TimeZones.step] at h
    split at h
    · cases h
    · next q hq =>
      split at h
      · next hstage =>
        cases h
        exact .inserted stored hq hstage
      · cases h

namespace Bounds

variable (b : Bounds)

def Enforces (z : TimeZones) (now : ℤ) (tc : TenantConfig) : Prop :=
  ∀ cc ∈ tc.claudeCode, cc.enabled = true →
    0 < cc.monthlyBudget ∧ tc.budgetEnforcement.enabled = true ∧
    tc.budgetEnforcement.mode = "block" ∧
    tc.budgetEnforcement.hardPctOrDefault * cc.monthlyBudget ≤ b.limit ∧
    z.location cc.timezone now = b.location now

def Guarded (z : TimeZones) (w : World) : Event → Prop
  | .request tenantID _ resolved => tenantID = b.tenantID →
      w.inFlight tenantID < b.slots ∧ ∀ tc ∈ resolved, b.Enforces z w.now tc
  | .readSpend i failed => ∀ q ∈ w.requests[i]?, q.tenantID = b.tenantID → failed = false
  | .reply i p reply => ∀ q ∈ w.requests[i]?, q.tenantID = b.tenantID →
      ∀ r ∈ reply, (r.cost p q.modelRequested).getD 0 ≤ b.price
  | _ => True

instance (z : TimeZones) (now : ℤ) (tc : TenantConfig) : Decidable (b.Enforces z now tc) :=
  inferInstanceAs (Decidable (∀ cc ∈ tc.claudeCode, cc.enabled = true →
    0 < cc.monthlyBudget ∧ tc.budgetEnforcement.enabled = true ∧
    tc.budgetEnforcement.mode = "block" ∧
    tc.budgetEnforcement.hardPctOrDefault * cc.monthlyBudget ≤ b.limit ∧
    z.location cc.timezone now = b.location now))

instance (z : TimeZones) (w : World) : DecidablePred (b.Guarded z w)
  | .request tenantID _ resolved => inferInstanceAs (Decidable (tenantID = b.tenantID →
      w.inFlight tenantID < b.slots ∧ ∀ tc ∈ resolved, b.Enforces z w.now tc))
  | .readSpend i failed => inferInstanceAs (Decidable
      (∀ q ∈ w.requests[i]?, q.tenantID = b.tenantID → failed = false))
  | .reply i p reply => inferInstanceAs (Decidable (∀ q ∈ w.requests[i]?, q.tenantID = b.tenantID →
      ∀ r ∈ reply, (r.cost p q.modelRequested).getD 0 ≤ b.price))
  | .tick _ | .stamp _ | .insert _ _ => inferInstanceAs (Decidable True)

def Honest (now : ℤ) (tenantID : String) : Stage → Prop
  | .checking cc enf _ => tenantID = b.tenantID →
      0 < cc.monthlyBudget ∧ enf.mode = "block" ∧ enf.hardPctOrDefault * cc.monthlyBudget ≤ b.limit
  | .logging cost => tenantID = b.tenantID → cost.getD 0 ≤ b.price
  | .inserting row => row.createdAt ≤ now ∧ row.tenantID = tenantID ∧
      (tenantID = b.tenantID → row.cost.getD 0 ≤ b.price)
  | _ => True

structure Inv (w : World) : Prop where
  past : ∀ row ∈ w.log, row.createdAt ≤ w.now
  honest : ∀ q ∈ w.requests, b.Honest w.now q.tenantID q.stage
  bounded : w.inFlight b.tenantID ≤ b.slots
  covered : w.spend b.tenantID b.month + w.owed b.tenantID b.month * b.price <
    b.limit + b.slots * b.price
  recorded : w.log.length = tally Request.recorded w.requests

variable {b} {z : TimeZones} {w w' : World} {i : ℕ} {q : Request} {e : Event}

theorem Honest.later {now later : ℤ} {tenantID : String} {stage : Stage} (hnow : now ≤ later)
    (h : b.Honest now tenantID stage) : b.Honest later tenantID stage := by
  cases stage with
  | inserting row => exact ⟨le_trans h.1 hnow,h.2⟩
  | _ => exact h

theorem covered_of_spend_lt (hspend : w.spend b.tenantID b.month < b.limit)
    (hslots : w.inFlight b.tenantID ≤ b.slots) :
    w.spend b.tenantID b.month + w.owed b.tenantID b.month * b.price <
      b.limit + b.slots * b.price := by
  have howed : (w.owed b.tenantID b.month : ℚ) ≤ b.slots := by
    exact_mod_cast (w.owed_le_inFlight b.tenantID b.month).trans hslots
  exact add_lt_add_of_lt_of_le hspend (mul_le_mul_of_nonneg_right howed b.price_nonneg)

theorem covered_of_owed_le {spend : ℚ} {owed owed' : ℕ} (howed : owed' ≤ owed)
    (h : spend + owed * b.price < b.limit + b.slots * b.price) :
    spend + owed' * b.price < b.limit + b.slots * b.price := by
  have hle : (owed' : ℚ) * b.price ≤ owed * b.price :=
    mul_le_mul_of_nonneg_right (by exact_mod_cast howed) b.price_nonneg
  exact lt_of_le_of_lt (add_le_add_right hle spend) h

theorem inv_start (now : ℤ) : b.Inv (World.start now) where
  past _ hrow := absurd hrow List.not_mem_nil
  honest _ hq := absurd hq List.not_mem_nil
  bounded := Nat.zero_le b.slots
  covered := covered_of_spend_lt b.limit_pos (Nat.zero_le b.slots)
  recorded := rfl

theorem live_move (hq : w.requests[i]? = some q) (stage : Stage) (hlive : stage.live ≤ q.stage.live)
    (tenantID : String) : (w.move i q stage).inFlight tenantID ≤ w.inFlight tenantID := by
  have htally := tally_set (f := Request.live tenantID) hq { q with stage := stage }
  simp only [World.inFlight,World.move,Request.live] at htally ⊢
  split_ifs at htally <;> omega

theorem honest_move {now : ℤ} (h : ∀ q ∈ w.requests, b.Honest now q.tenantID q.stage)
    {stage : Stage} (hstage : b.Honest now q.tenantID stage) :
    ∀ q' ∈ (w.move i q stage).requests, b.Honest now q'.tenantID q'.stage := by
  intro q' hq'
  rcases List.mem_or_eq_of_mem_set hq' with hmem | rfl
  · exact h q' hmem
  · exact hstage

theorem owed_move (hq : w.requests[i]? = some q) {stage : Stage} {tenantID : String} {month : Window}
    (howing : q.tenantID = tenantID → stage.owing month w.now ≤ q.stage.owing month w.now) :
    (w.move i q stage).owed tenantID month ≤ w.owed tenantID month := by
  have htally := tally_set (f := Request.owing tenantID month w.now) hq { q with stage := stage }
  simp only [World.owed,World.move,Request.owing] at htally ⊢
  split_ifs at htally with htenant
  · have := howing htenant
    omega
  · omega

theorem Inv.move (h : b.Inv w) (hq : w.requests[i]? = some q) {stage : Stage}
    (hhonest : b.Honest w.now q.tenantID stage) (hlive : stage.live ≤ q.stage.live)
    (hcovered : (w.move i q stage).inFlight b.tenantID ≤ b.slots →
      w.spend b.tenantID b.month + (w.move i q stage).owed b.tenantID b.month * b.price <
        b.limit + b.slots * b.price)
    (hrecorded : stage.recorded = q.stage.recorded) : b.Inv (w.move i q stage) := by
  have hbounded := (live_move hq stage hlive b.tenantID).trans h.bounded
  refine ⟨h.past,honest_move h.honest hhonest,hbounded,hcovered hbounded,?_⟩
  have htally := tally_set (f := Request.recorded) hq { q with stage := stage }
  have hlog := h.recorded
  simp only [World.move,Request.recorded] at htally hlog ⊢
  omega

theorem Inv.pass (h : b.Inv w) (hq : w.requests[i]? = some q) {stage : Stage}
    (hhonest : b.Honest w.now q.tenantID stage) (hlive : stage.live ≤ q.stage.live)
    (howing : q.tenantID = b.tenantID → stage.owing b.month w.now ≤ q.stage.owing b.month w.now)
    (hrecorded : stage.recorded = q.stage.recorded) : b.Inv (w.move i q stage) :=
  h.move hq hhonest hlive (fun _ => covered_of_owed_le (owed_move hq howing) h.covered) hrecorded

theorem check_cases (tenantID : String) (cc : ClaudeCodeTenantConfig) (enf : BudgetEnforcement)
    (spend : Option ℚ) : claudeCodeBudgetCheck tenantID cc enf spend = .admitted ∨
      ∃ status message, claudeCodeBudgetCheck tenantID cc enf spend = .ended (.refused status message) := by
  cases spend with
  | none => exact .inl rfl
  | some spend =>
    simp only [claudeCodeBudgetCheck]
    split_ifs
    · exact .inr ⟨_,_,rfl⟩
    · exact .inl rfl
    · exact .inl rfl

theorem lt_of_check_admitted {tenantID : String} {cc : ClaudeCodeTenantConfig}
    {enf : BudgetEnforcement} {spend : ℚ} (hbudget : 0 < cc.monthlyBudget) (hmode : enf.mode = "block")
    (h : claudeCodeBudgetCheck tenantID cc enf (some spend) = .admitted) :
    spend < enf.hardPctOrDefault * cc.monthlyBudget := by
  simp only [claudeCodeBudgetCheck,if_pos hmode] at h
  split_ifs at h with hreached
  exact (div_lt_iff₀ hbudget).mp (not_le.mp hreached)

theorem Inv.checked {cc : ClaudeCodeTenantConfig} {enf : BudgetEnforcement} {m : Window} {failed : Bool}
    (h : b.Inv w) (hq : w.requests[i]? = some q) (hstage : q.stage = .checking cc enf m)
    (hfailed : q.tenantID = b.tenantID → failed = false) :
    b.Inv (w.move i q (claudeCodeBudgetCheck q.tenantID cc enf
      (if failed then none else some (w.spend q.tenantID m)))) := by
  have hhonest := h.honest q (List.mem_of_getElem? hq)
  rw [hstage] at hhonest
  rcases check_cases q.tenantID cc enf (if failed then none else some (w.spend q.tenantID m)) with
    hcheck | ⟨status,message,hcheck⟩
  · rw [hcheck]
    have hlive : Stage.live .admitted ≤ q.stage.live := by rw [hstage]; exact Nat.le_refl 1
    have hrecorded : Stage.recorded .admitted = q.stage.recorded := by rw [hstage]; rfl
    rcases Classical.em (q.tenantID = b.tenantID ∧ m = b.month) with ⟨htenant,rfl⟩ | hother
    · -- the check of this month read a spend below the limit
      obtain ⟨hbudget,hmode,hlimit⟩ := hhonest htenant
      rw [hfailed htenant,if_neg Bool.false_ne_true,htenant] at hcheck
      have hspend := lt_of_lt_of_le (lt_of_check_admitted hbudget hmode hcheck) hlimit
      exact h.move hq trivial hlive (covered_of_spend_lt (w := w.move i q .admitted) hspend) hrecorded
    · refine h.pass hq trivial hlive (fun htenant => ?_) hrecorded
      have hm : m ≠ b.month := fun hm => hother ⟨htenant,hm⟩
      rw [hstage,Stage.owing,Stage.owing]
      split_ifs with hnow hpast
      · exact Nat.le_refl 1
      · exact absurd ⟨hm,hnow⟩ hpast
      · exact Nat.zero_le 1
      · exact Nat.le_refl 0
  · rw [hcheck]
    exact h.pass hq trivial (Nat.zero_le _) (fun _ => Nat.zero_le _) (by rw [hstage]; rfl)

theorem counted_le_owed {row : LogRow} {now : ℤ} (hq : q.stage = .inserting row)
    (hhonest : b.Honest now q.tenantID q.stage) :
    row.counted b.tenantID b.month ≤ q.owing b.tenantID b.month now * b.price := by
  rw [hq] at hhonest
  obtain ⟨-,hrow,hprice⟩ := hhonest
  rw [LogRow.counted,Request.owing,hq,Stage.owing,hrow]
  split_ifs with hcounted htenant hmonth hother hin
  · simpa using hprice htenant
  · exact absurd hcounted.2 hmonth
  · exact absurd hcounted.1 htenant
  · exact absurd ⟨hother,hin⟩ hcounted
  · simp
  · simp

theorem Inv.inserted {row : LogRow} (h : b.Inv w) (hq : w.requests[i]? = some q)
    (hstage : q.stage = .inserting row) (stored : Bool) : b.Inv (w.insert i q row stored) := by
  have hlive : ∀ outcome, Stage.live (.ended outcome) ≤ q.stage.live := fun _ => Nat.zero_le _
  cases stored with
  | false =>
    have hrecorded : Stage.recorded (.ended .unrecorded) = q.stage.recorded := by rw [hstage]; rfl
    exact h.pass hq trivial (hlive _) (fun _ => Nat.zero_le _) hrecorded
  | true =>
    have hhonest := h.honest q (List.mem_of_getElem? hq)
    have hcounted := counted_le_owed hstage hhonest
    have hrow := hhonest
    rw [hstage] at hrow
    have howed := tally_set (f := Request.owing b.tenantID b.month w.now) hq
      { q with stage := .ended .recorded }
    have hrecorded := tally_set (f := Request.recorded) hq { q with stage := .ended .recorded }
    constructor
    · intro r hr
      rcases List.mem_append.mp hr with hr | hr
      · exact h.past r hr
      · rw [List.mem_singleton.mp hr]
        exact hrow.1
    · exact honest_move (w := w) (q := q) h.honest trivial
    · exact (live_move hq _ (hlive _) b.tenantID).trans h.bounded
    · have hcovered := h.covered
      have hsum : ((w.insert i q row true).owed b.tenantID b.month : ℚ) +
          q.owing b.tenantID b.month w.now = w.owed b.tenantID b.month := by
        have hzero : Request.owing b.tenantID b.month w.now { q with stage := .ended .recorded } = 0 := by
          simp [Request.owing,Stage.owing]
        rw [hzero,Nat.add_zero] at howed
        exact_mod_cast howed
      rw [World.spend,show (w.insert i q row true).log = w.log ++ [row] from rfl,spend_append]
      rw [← hsum,add_mul] at hcovered
      rw [World.spend] at hcovered
      linarith
    · have hlog := h.recorded
      have hzero : Request.recorded q = 0 := by rw [Request.recorded,hstage]; rfl
      have hone : Request.recorded { q with stage := .ended .recorded } = 1 := rfl
      simp only [World.insert,World.move,if_true,List.length_append,List.length_singleton]
      omega

theorem Inv.ticked (h : b.Inv w) {now : ℤ} (hnow : w.now ≤ now) : b.Inv { w with now := now } where
  past row hrow := (h.past row hrow).trans hnow
  honest q hq := (h.honest q hq).later hnow
  bounded := h.bounded
  covered := covered_of_owed_le
    (tally_mono (Request.owing_mono b.tenantID b.month hnow) w.requests) h.covered
  recorded := h.recorded

theorem gate_cases {now : ℤ} {resolved : Option TenantConfig}
    (henforces : ∀ tc ∈ resolved, b.Enforces z now tc) :
    z.gate now resolved = .ended .forbidden ∨ ∃ cc enf, z.gate now resolved =
      .checking cc enf (b.location now) ∧ 0 < cc.monthlyBudget ∧ enf.mode = "block" ∧
      enf.hardPctOrDefault * cc.monthlyBudget ≤ b.limit := by
  rcases resolved with _ | tc
  · exact .inl rfl
  · cases hcc : tc.claudeCode with
    | none => exact .inl (by simp only [TimeZones.gate,hcc])
    | some cc =>
      cases henabled : cc.enabled with
      | false => exact .inl (by simp only [TimeZones.gate,hcc,henabled,if_true])
      | true =>
        obtain ⟨hbudget,hon,hmode,hlimit,hlocation⟩ := henforces tc rfl cc hcc henabled
        refine .inr ⟨cc,tc.budgetEnforcement,?_,hbudget,hmode,hlimit⟩
        simp only [TimeZones.gate,hcc,henabled,hon,Bool.true_eq_false,if_false,
          if_neg (not_le.mpr hbudget),hlocation]

theorem live_append (r : Request) (tenantID : String) :
    { w with requests := w.requests ++ [r] }.inFlight tenantID = w.inFlight tenantID + r.live tenantID := by
  simp only [World.inFlight,tally_append,tally,Nat.add_zero]

theorem owed_append (r : Request) (tenantID : String) (month : Window) :
    { w with requests := w.requests ++ [r] }.owed tenantID month =
      w.owed tenantID month + r.owing tenantID month w.now := by
  simp only [World.owed,tally_append,tally,Nat.add_zero]

theorem Inv.join (h : b.Inv w) {r : Request} (hhonest : b.Honest w.now r.tenantID r.stage)
    (hrecorded : r.recorded = 0) (hbounded : w.inFlight b.tenantID + r.live b.tenantID ≤ b.slots)
    (howing : r.owing b.tenantID b.month w.now = 0 ∨ w.now < b.month.monthStart) :
    b.Inv { w with requests := w.requests ++ [r] } := by
  have hslots := hbounded
  rw [← live_append] at hslots
  refine ⟨h.past,?_,hslots,?_,?_⟩
  · intro q hq
    rcases List.mem_append.mp hq with hq | hq
    · exact h.honest q hq
    · rw [List.mem_singleton.mp hq]
      exact hhonest
  · rcases howing with hnone | hearly
    · rw [owed_append,hnone,Nat.add_zero]
      exact h.covered
    · -- no row is of a month to come
      have hspend : w.spend b.tenantID b.month = 0 := spend_before h.past hearly
      exact covered_of_spend_lt (w := { w with requests := w.requests ++ [r] })
        (hspend.trans_lt b.limit_pos) hslots
  · rw [tally_append,tally,hrecorded]
    exact h.recorded

theorem Inv.requested (h : b.Inv w) {tenantID : String} {modelRequested : Option String}
    {resolved : Option TenantConfig}
    (hguard : b.Guarded z w (.request tenantID modelRequested resolved)) :
    b.Inv { w with requests := w.requests ++ [⟨tenantID,modelRequested,z.gate w.now resolved⟩] } := by
  rcases Classical.em (tenantID = b.tenantID) with htenant | hother
  · obtain ⟨hfree,henforces⟩ := hguard htenant
    rw [htenant] at hfree
    have hbounded : ∀ stage : Stage, w.inFlight b.tenantID +
        Request.live b.tenantID ⟨tenantID,modelRequested,stage⟩ ≤ b.slots := by
      intro stage
      have hone : stage.live ≤ 1 := by cases stage <;> simp [Stage.live]
      rw [Request.live,if_pos htenant]
      exact (Nat.add_le_add_left hone _).trans hfree
    rcases gate_cases henforces with hgate | ⟨cc,enf,hgate,hterms⟩
    · rw [hgate]
      exact h.join trivial rfl (hbounded _) (.inl (by simp [Request.owing,Stage.owing]))
    · rw [hgate]
      refine h.join (fun _ => hterms) rfl (hbounded _) ?_
      rcases Nat.eq_zero_or_pos
        (Stage.owing b.month w.now (.checking cc enf (b.location w.now))) with hzero | hpos
      · exact .inl (by rw [Request.owing,hzero,ite_self])
      · rw [Stage.owing] at hpos
        split_ifs at hpos with howing
        · refine .inr (not_le.mp fun hstart => howing.1 ?_)
          exact (b.is_month w.now).mpr ⟨hstart,howing.2⟩
        · exact absurd hpos (Nat.lt_irrefl 0)
  · have hlive : Request.live b.tenantID ⟨tenantID,modelRequested,z.gate w.now resolved⟩ = 0 :=
      if_neg hother
    refine h.join ?_ ?_ (by rw [hlive]; exact h.bounded) (.inl (if_neg hother))
    · rcases resolved with _ | tc
      · exact trivial
      · simp only [TimeZones.gate]
        split
        · exact trivial
        · split_ifs
          · exact trivial
          · exact trivial
          · exact trivial
          · exact fun htenant => absurd htenant hother
    · rcases resolved with _ | tc
      · rfl
      · simp only [Request.recorded,TimeZones.gate]
        split
        · rfl
        · split_ifs <;> rfl

theorem Inv.step (h : b.Inv w) (hguard : b.Guarded z w e) (hs : z.step w e = some w') : b.Inv w' := by
  cases taken_of_step hs with
  | ticked hnow => exact h.ticked hnow
  | requested tenantID modelRequested resolved => exact h.requested hguard
  | checked failed hq hstage => exact h.checked hq hstage (hguard _ hq)
  | unsupported p hq hstage =>
    exact h.pass hq trivial (Nat.zero_le _) (fun _ => Nat.zero_le _) (by rw [hstage]; rfl)
  | replied p reply hq hstage =>
    refine h.pass hq (fun htenant => hguard _ hq htenant _ rfl) ?_ (fun _ => ?_) (by rw [hstage]; rfl)
    · rw [hstage]
      exact Nat.le_refl 1
    · rw [hstage]
      exact Nat.le_refl _
  | stamped hq hstage =>
    have hhonest := h.honest _ (List.mem_of_getElem? hq)
    rw [hstage] at hhonest
    refine h.pass hq ⟨le_refl w.now,rfl,hhonest⟩ ?_ (fun _ => ?_) (by rw [hstage]; rfl)
    · rw [hstage]
      exact Nat.le_refl 1
    · rw [hstage,Stage.owing,Stage.owing]
      split_ifs with hmonth hnow
      · exact Nat.le_refl 1
      · exact absurd hmonth.2 hnow
      · exact Nat.zero_le 1
      · exact Nat.le_refl 0
  | inserted stored hq hstage => exact h.inserted hq hstage stored

end Bounds

section Burst

def january : Window := ⟨1704078000000,1706756400000⟩

def buenosAires (t : ℤ) : Window :=
  if january.monthStart ≤ t ∧ t < january.monthEnd then january
  else if t < january.monthStart then ⟨1701399600000,january.monthStart⟩
  else ⟨january.monthEnd,1709262000000⟩

def zones : TimeZones where
  loadLocation name := if name = "America/Buenos_Aires" then some buenosAires else none
  buenosAires := buenosAires
  loads_default := rfl

def tenDollars : TenantConfig where
  claudeCode := some { enabled := true, monthlyBudget := 10 }
  budgetEnforcement := { enabled := true, mode := "block" }

def sonnetPrices : Prices where
  modelByName _ := none
  claudeCodePricing family := if family = "sonnet" then some ⟨3,15⟩ else none

def tenDollarMonth : Bounds where
  tenantID := "acme"
  location := buenosAires
  month := january
  limit := 10
  price := 6
  slots := 2
  is_month t := by
    constructor
    · intro h
      by_contra hout
      rw [buenosAires,if_neg hout] at h
      split_ifs at h
      · exact absurd h (by decide)
      · exact absurd h (by decide)
    · exact fun h => if_pos h
  limit_pos := by norm_num
  price_nonneg := by norm_num

def burst : List Event :=
  [.request "acme" (some "claude-sonnet-4") (some tenDollars),
   .request "acme" (some "claude-sonnet-4") (some tenDollars),
   .readSpend 0 false,.readSpend 1 false,
   .reply 0 sonnetPrices (some (.message none 1000000 200000)),
   .reply 1 sonnetPrices (some (.message none 1000000 200000)),
   .stamp 0,.stamp 1,.insert 0 true,.insert 1 true]

end Burst

end PrismGateway.Api.ClaudeCode
