import PrismGateway.Lib.Run
import Mathlib.Data.Rat.Defs
import Mathlib.Algebra.Order.Ring.Rat

namespace PrismGateway.Storage.Budget

open Lib

/-- `request` is the reservation made for the request the row bills, if it made one. -/
structure UsageRow where
  tenantID : String
  ts : Int
  costUSD : ℚ
  request : Option Nat
  deriving DecidableEq, Repr

structure Reservation where
  id : Nat
  tenantID : String
  ts : Int
  estimatedCostUSD : ℚ
  expiresAt : Int
  deriving DecidableEq, Repr

inductive Phase where
  | begun
  | locked
  | usageSummed (usage : List UsageRow)
  | summed (usage : List UsageRow) (reserved : List Reservation)
  | exceeded
  | reserved (id : Nat)
  deriving DecidableEq, Repr

/-- A call of `CheckAndReserveBudget`. `now` is `NOW()` in its transaction, `held` the tenant's
unexpired reservations when it began. -/
structure Check where
  tenantID : String
  monthStart : Int
  monthEnd : Int
  limitUSD : ℚ
  estimatedCost : ℚ
  now : Int
  held : List Reservation
  phase : Phase
  deriving DecidableEq, Repr

structure World where
  clock : Int
  nextID : Nat
  usage : List UsageRow
  reservations : List Reservation
  checks : List Check
  deriving DecidableEq, Repr

inductive Event where
  | begin (now : Int) (tenantID : String) (monthStart monthEnd : Int) (limitUSD estimatedCost : ℚ)
  | lock (c : Nat)
  | sumUsage (c : Nat)
  | sumReserved (c : Nat)
  | settle (c : Nat)
  | saveUsage (now : Int) (tenantID : String) (costUSD : ℚ) (request : Option Nat)
  | releaseReservation (id : Nat)
  | purgeExpired (now : Int)
  deriving DecidableEq, Repr

def tenantLockKey (tenantID : String) : UInt64 :=
  tenantID.toByteArray.data.toList.foldl
    (fun h b => (h ^^^ b.toUInt64) * 1099511628211) 14695981039346656037

def expiryMs : Int := 150 * 1000

def Check.inMonth (k : Check) (ts : Int) : Bool := k.monthStart ≤ ts && ts < k.monthEnd

def Check.countsUsage (k : Check) (u : UsageRow) : Bool :=
  u.tenantID = k.tenantID && k.inMonth u.ts

def Check.countsReservation (k : Check) (r : Reservation) : Bool :=
  r.tenantID = k.tenantID && k.inMonth r.ts && k.now < r.expiresAt

def totalSpend (usage : List UsageRow) (reserved : List Reservation) : ℚ :=
  (usage.map UsageRow.costUSD).sum + (reserved.map Reservation.estimatedCostUSD).sum

def Phase.holdsLock : Phase → Bool
  | .locked => true
  | .usageSummed _ => true
  | .summed _ _ => true
  | _ => false

def World.lockFree (w : World) (k : Check) : Bool :=
  w.checks.all (fun k' => !k'.phase.holdsLock || tenantLockKey k'.tenantID ≠ tenantLockKey k.tenantID)

def World.setPhase (w : World) (c : Nat) (k : Check) (phase : Phase) : World :=
  { w with checks := w.checks.set c { k with phase := phase } }

def World.settle (w : World) (c : Nat) (k : Check) (usage : List UsageRow)
    (reserved : List Reservation) : World :=
  if totalSpend usage reserved + k.estimatedCost > k.limitUSD then w.setPhase c k .exceeded
  else
    { w.setPhase c k (.reserved w.nextID) with
      nextID := w.nextID + 1
      reservations := w.reservations ++
        [⟨w.nextID,k.tenantID,k.now,k.estimatedCost,k.now + expiryMs⟩] }

def step (w : World) : Event → Option World
  | .begin now tenantID monthStart monthEnd limitUSD estimatedCost =>
    if w.clock ≤ now then
      let held := w.reservations.filter (fun r => r.tenantID = tenantID && now < r.expiresAt)
      some { w with
        clock := now
        checks := w.checks ++
          [⟨tenantID,monthStart,monthEnd,limitUSD,estimatedCost,now,held,.begun⟩] }
    else none
  | .lock c => match w.checks[c]? with
    | some k => if k.phase = .begun ∧ w.lockFree k = true then some (w.setPhase c k .locked) else none
    | none => none
  | .sumUsage c => match w.checks[c]? with
    | some k =>
      if k.phase = .locked then some (w.setPhase c k (.usageSummed (w.usage.filter k.countsUsage)))
      else none
    | none => none
  | .sumReserved c => match w.checks[c]? with
    | some k => match k.phase with
      | .usageSummed usage =>
        some (w.setPhase c k (.summed usage (w.reservations.filter k.countsReservation)))
      | _ => none
    | none => none
  | .settle c => match w.checks[c]? with
    | some k => match k.phase with
      | .summed usage reserved => some (w.settle c k usage reserved)
      | _ => none
    | none => none
  | .saveUsage now tenantID costUSD request =>
    if w.clock ≤ now then
      some { w with clock := now, usage := w.usage ++ [⟨tenantID,now,costUSD,request⟩] }
    else none
  | .releaseReservation id =>
    if w.usage.any (fun u => u.request = some id) then
      some { w with reservations := w.reservations.filter (fun r => r.id ≠ id) }
    else none
  | .purgeExpired now =>
    if w.clock ≤ now then
      some { w with clock := now, reservations := w.reservations.filter (fun r => now < r.expiresAt) }
    else none

def covered (usage : List UsageRow) (r : Reservation) : Bool :=
  usage.any (fun u => u.request = some r.id)

def Check.Counted (k : Check) : Prop :=
  ∀ usage reserved, k.phase = .summed usage reserved →
    ∀ r ∈ k.held, covered usage r = true ∨ r ∈ reserved

def Check.pending (k : Check) : List Reservation :=
  match k.phase with
  | .usageSummed usage => k.held.filter (fun r => !covered usage r)
  | _ => []

def World.spares (w : World) (gone : Reservation → Bool) : Prop :=
  ∀ k ∈ w.checks, ∀ r ∈ k.pending, gone r = false

def Undisturbed (w : World) : Event → Prop
  | .sumUsage c => ∀ k ∈ w.checks[c]?, ∀ r ∈ k.held,
      covered (w.usage.filter k.countsUsage) r = true ∨ r ∈ w.reservations ∧ k.inMonth r.ts = true
  | .releaseReservation id => w.spares (fun r => r.id = id)
  | .purgeExpired now => w.spares (fun r => r.expiresAt ≤ now)
  | _ => True

structure Check.Sound (reservations : List Reservation) (k : Check) : Prop where
  held_live : ∀ r ∈ k.held, r.tenantID = k.tenantID ∧ k.now < r.expiresAt
  usage_kept : ∀ usage, k.phase = .usageSummed usage → ∀ r ∈ k.held,
    covered usage r = true ∨ r ∈ reservations ∧ k.inMonth r.ts = true
  counted : k.Counted

def Inv (w : World) : Prop := ∀ k ∈ w.checks, k.Sound w.reservations

theorem Check.Sound.mono {reservations later : List Reservation} {k : Check}
    (h : k.Sound reservations) (hsub : reservations ⊆ later) : k.Sound later := by
  refine ⟨h.held_live,?_,h.counted⟩
  intro usage hphase r hr
  rcases h.usage_kept usage hphase r hr with hcov | ⟨hmem,hmonth⟩
  · exact .inl hcov
  · exact .inr ⟨hsub hmem,hmonth⟩

theorem Check.Sound.spared {reservations : List Reservation} {k : Check} {gone : Reservation → Bool}
    (h : k.Sound reservations) (hspare : ∀ r ∈ k.pending, gone r = false) :
    k.Sound (reservations.filter (fun r => !gone r)) := by
  refine ⟨h.held_live,?_,h.counted⟩
  intro usage hphase r hr
  rcases h.usage_kept usage hphase r hr with hcov | ⟨hmem,hmonth⟩
  · exact .inl hcov
  · cases hcov : covered usage r with
    | true => exact .inl rfl
    | false =>
      have hpending : r ∈ k.pending := by
        rw [Check.pending,hphase]
        exact List.mem_filter.mpr ⟨hr,by rw [hcov]; rfl⟩
      exact .inr ⟨List.mem_filter.mpr ⟨hmem,by rw [hspare r hpending]; rfl⟩,hmonth⟩

theorem Inv.setPhase {w : World} {c : Nat} {k : Check} {phase : Phase} (h : Inv w)
    (hk : Check.Sound w.reservations { k with phase := phase }) : Inv (w.setPhase c k phase) := by
  intro k' hk'
  rcases List.mem_or_eq_of_mem_set hk' with hold | rfl
  · exact h k' hold
  · exact hk

theorem Check.Sound.settled {reservations : List Reservation} {k : Check} {phase : Phase}
    (h : k.Sound reservations) (husage : ∀ usage, phase ≠ .usageSummed usage)
    (hsummed : ∀ usage reserved, phase ≠ .summed usage reserved) :
    Check.Sound reservations { k with phase := phase } :=
  ⟨h.held_live,fun usage heq => absurd heq (husage usage),
    fun usage reserved heq => absurd heq (hsummed usage reserved)⟩

theorem Inv.sumUsage {w : World} {c : Nat} {k : Check} (h : Inv w) (hk : w.checks[c]? = some k)
    (hkept : ∀ r ∈ k.held, covered (w.usage.filter k.countsUsage) r = true ∨
      r ∈ w.reservations ∧ k.inMonth r.ts = true) :
    Inv (w.setPhase c k (.usageSummed (w.usage.filter k.countsUsage))) := by
  have hsound := h k (List.mem_of_getElem? hk)
  refine h.setPhase ⟨hsound.held_live,?_,?_⟩
  · intro usage heq r hr
    cases heq
    exact hkept r hr
  · intro usage reserved heq
    cases heq

theorem Inv.sumReserved {w : World} {c : Nat} {k : Check} {usage : List UsageRow} (h : Inv w)
    (hk : w.checks[c]? = some k) (hphase : k.phase = .usageSummed usage) :
    Inv (w.setPhase c k (.summed usage (w.reservations.filter k.countsReservation))) := by
  have hsound := h k (List.mem_of_getElem? hk)
  refine h.setPhase ⟨hsound.held_live,?_,?_⟩
  · intro usage heq
    cases heq
  · intro usage reserved heq r hr
    cases heq
    obtain ⟨htenant,hlive⟩ := hsound.held_live r hr
    rcases hsound.usage_kept usage hphase r hr with hcov | ⟨hmem,hmonth⟩
    · exact .inl hcov
    · refine .inr (List.mem_filter.mpr ⟨hmem,?_⟩)
      simp [Check.countsReservation,htenant,hmonth,hlive]

theorem Inv.settle {w : World} {c : Nat} {k : Check} {usage : List UsageRow}
    {reserved : List Reservation} (h : Inv w) (hk : w.checks[c]? = some k) :
    Inv (w.settle c k usage reserved) := by
  have hsound := h k (List.mem_of_getElem? hk)
  rw [World.settle]
  split_ifs with hlimit
  · exact h.setPhase (hsound.settled (by simp) (by simp))
  · have hset : Inv (w.setPhase c k (.reserved w.nextID)) :=
      h.setPhase (hsound.settled (by simp) (by simp))
    intro k' hk'
    exact (hset k' hk').mono (List.subset_append_left _ _)

theorem Inv.begin {w : World} (h : Inv w) (now : Int) (tenantID : String) (monthStart monthEnd : Int)
    (limitUSD estimatedCost : ℚ) :
    Inv { w with
      clock := now
      checks := w.checks ++ [⟨tenantID,monthStart,monthEnd,limitUSD,estimatedCost,now,
        w.reservations.filter (fun r => r.tenantID = tenantID && now < r.expiresAt),.begun⟩] } := by
  intro k hk
  rcases List.mem_append.mp hk with hk | hk
  · exact h k hk
  · rw [List.mem_singleton.mp hk]
    refine ⟨?_,?_,?_⟩
    · intro r hr
      simpa using (List.mem_filter.mp hr).2
    · intro usage heq
      cases heq
    · intro usage reserved heq
      cases heq

theorem inv_step (w : World) (e : Event) (w' : World) (h : Inv w) (hc : Undisturbed w e)
    (hstep : step w e = some w') : Inv w' := by
  cases e with
  | begin now tenantID monthStart monthEnd limitUSD estimatedCost =>
    simp only [step] at hstep
    split_ifs at hstep
    cases hstep
    exact h.begin now tenantID monthStart monthEnd limitUSD estimatedCost
  | lock c =>
    simp only [step] at hstep
    split at hstep
    · next k hk =>
      split_ifs at hstep
      cases hstep
      exact h.setPhase ((h k (List.mem_of_getElem? hk)).settled (by simp) (by simp))
    · cases hstep
  | sumUsage c =>
    simp only [step] at hstep
    split at hstep
    · next k hk =>
      split_ifs at hstep
      cases hstep
      exact h.sumUsage hk (hc k hk)
    · cases hstep
  | sumReserved c =>
    simp only [step] at hstep
    split at hstep
    · next k hk =>
      split at hstep
      · next usage hphase =>
        cases hstep
        exact h.sumReserved hk hphase
      · cases hstep
    · cases hstep
  | settle c =>
    simp only [step] at hstep
    split at hstep
    · next k hk =>
      split at hstep
      · cases hstep
        exact h.settle hk
      · cases hstep
    · cases hstep
  | saveUsage now tenantID costUSD request =>
    simp only [step] at hstep
    split_ifs at hstep
    cases hstep
    exact h
  | releaseReservation id =>
    simp only [step] at hstep
    split_ifs at hstep
    cases hstep
    intro k hk
    have hsound := (h k hk).spared (hc k hk)
    simpa using hsound
  | purgeExpired now =>
    simp only [step] at hstep
    split_ifs at hstep
    cases hstep
    intro k hk
    have hsound := (h k hk).spared (hc k hk)
    simpa only [← not_lt,decide_not,Bool.not_not] using hsound

def Event.check (w : World) : Event → Option Nat
  | .begin _ _ _ _ _ _ => some w.checks.length
  | .lock c => some c
  | .sumUsage c => some c
  | .sumReserved c => some c
  | .settle c => some c
  | _ => none

def World.reserved (w : World) (c : Nat) : Prop :=
  ∃ id, w.checks[c]?.map Check.phase = some (.reserved id)

theorem settle_reserved {w : World} {c : Nat} {k : Check} {usage : List UsageRow}
    {reserved : List Reservation} (hk : w.checks[c]? = some k)
    (h : ¬ (w.settle c k usage reserved).reserved c) :
    w.settle c k usage reserved = w.setPhase c k .exceeded := by
  rw [World.settle] at h ⊢
  split_ifs at h ⊢ with hlimit
  · rfl
  · have hlt : c < w.checks.length := (List.getElem?_eq_some_iff.mp hk).1
    exact absurd ⟨w.nextID,by simp [World.setPhase,hlt]⟩ h

theorem tables_unchanged {w w' : World} {e : Event} {c : Nat} (he : e.check w = some c)
    (hstep : step w e = some w') (hnot : ¬ w'.reserved c) :
    w'.usage = w.usage ∧ w'.reservations = w.reservations := by
  cases e with
  | begin now tenantID monthStart monthEnd limitUSD estimatedCost =>
    simp only [step] at hstep
    split_ifs at hstep
    cases hstep
    exact ⟨rfl,rfl⟩
  | lock d =>
    simp only [step] at hstep
    split at hstep
    · split_ifs at hstep
      cases hstep
      exact ⟨rfl,rfl⟩
    · cases hstep
  | sumUsage d =>
    simp only [step] at hstep
    split at hstep
    · split_ifs at hstep
      cases hstep
      exact ⟨rfl,rfl⟩
    · cases hstep
  | sumReserved d =>
    simp only [step] at hstep
    split at hstep
    · split at hstep
      · cases hstep
        exact ⟨rfl,rfl⟩
      · cases hstep
    · cases hstep
  | settle d =>
    cases he
    simp only [step] at hstep
    split at hstep
    · next k hk =>
      split at hstep
      · cases hstep
        rw [settle_reserved hk hnot]
        exact ⟨rfl,rfl⟩
      · cases hstep
    · cases hstep
  | _ => cases he

def BudgetSound (w : World) : Prop :=
  (∀ k ∈ w.checks, k.Counted) ∧
    ∀ e w' c, e.check w = some c → step w e = some w' → ¬ w'.reserved c →
      w'.usage = w.usage ∧ w'.reservations = w.reservations

theorem budget_sound_of_undisturbed (w : World) (es : List Event) (w' : World)
    (hstart : w.checks = []) (hc : EveryStep step Undisturbed w es)
    (h : exec step w es = some w') : BudgetSound w' := by
  have hinit : Inv w := by
    intro k hk
    rw [hstart] at hk
    cases hk
  have hinv := exec_invariant_of_steps step inv_step hinit hc h
  exact ⟨fun k hk => (hinv k hk).counted,fun e w'' c he hstep hnot => tables_unchanged he hstep hnot⟩

instance (w : World) (gone : Reservation → Bool) : Decidable (w.spares gone) :=
  inferInstanceAs (Decidable (∀ k ∈ w.checks, ∀ r ∈ k.pending, gone r = false))

instance (w : World) : (e : Event) → Decidable (Undisturbed w e)
  | .begin _ _ _ _ _ _ => .isTrue trivial
  | .lock _ => .isTrue trivial
  | .sumUsage c => inferInstanceAs (Decidable (∀ k ∈ w.checks[c]?, ∀ r ∈ k.held,
      covered (w.usage.filter k.countsUsage) r = true ∨ r ∈ w.reservations ∧ k.inMonth r.ts = true))
  | .sumReserved _ => .isTrue trivial
  | .settle _ => .isTrue trivial
  | .saveUsage _ _ _ _ => .isTrue trivial
  | .releaseReservation id => inferInstanceAs (Decidable (w.spares (fun r => r.id = id)))
  | .purgeExpired now => inferInstanceAs (Decidable (w.spares (fun r => r.expiresAt ≤ now)))

def emptyWorld : World := ⟨0,0,[],[],[]⟩

def secondCheck (es : List Event) : List Event :=
  ([.begin 0 "acme" 0 1000 1 1,.lock 0,.sumUsage 0,.sumReserved 0,.settle 0] : List Event) ++ es

def completedBetweenSums : List Event :=
  secondCheck [.begin 1 "acme" 0 1000 1 1,.lock 1,.sumUsage 1,.saveUsage 2 "acme" 1 (some 0),
    .releaseReservation 0,.sumReserved 1]

def completedBeforeSums : List Event :=
  secondCheck [.begin 1 "acme" 0 1000 1 1,.lock 1,.saveUsage 2 "acme" 1 (some 0),
    .releaseReservation 0,.sumUsage 1,.sumReserved 1]

theorem budget_sound_completed_before :
    ∃ w, exec step emptyWorld completedBeforeSums = some w ∧ BudgetSound w := by
  obtain ⟨w,hw,-⟩ := reaches (o := exec step emptyWorld completedBeforeSums) (P := fun _ => True)
    (by decide +kernel)
  exact ⟨w,hw,budget_sound_of_undisturbed emptyWorld completedBeforeSums w rfl (by decide +kernel) hw⟩

theorem amount_missed_between_sums :
    ∃ w w', exec step emptyWorld completedBetweenSums = some w ∧ ¬ BudgetSound w ∧
      step w (.settle 1) = some w' ∧ w'.reserved 1 ∧ totalSpend w'.usage w'.reservations = 2 := by
  obtain ⟨w,hw,⟨k,hk,hphase,r,hr⟩,hsettle⟩ := reaches
    (o := exec step emptyWorld completedBetweenSums)
    (P := fun w => (∃ k ∈ w.checks, k.phase = .summed [] [] ∧ ∃ r ∈ k.held, r.id = 0) ∧
      (step w (.settle 1)).any (fun w' =>
        decide (w'.checks[1]?.map Check.phase = some (.reserved 1) ∧
          totalSpend w'.usage w'.reservations = 2)) = true) (by decide +kernel)
  obtain ⟨w',hw',hreserved,htotal⟩ := reaches hsettle
  refine ⟨w,w',hw,fun hsound => ?_,hw',⟨1,hreserved⟩,htotal⟩
  rcases hsound.1 k hk [] [] hphase r hr.1 with h | h
  · cases h
  · cases h

end PrismGateway.Storage.Budget
