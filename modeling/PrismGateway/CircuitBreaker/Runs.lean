import PrismGateway.CircuitBreaker.Circuit
import PrismGateway.Lib.Run

namespace PrismGateway.CircuitBreaker
open Lib

structure Call where
  isProbe : Bool
  period : Nat
  deriving DecidableEq, Repr

structure Logged where
  call : Call
  outcome : Outcome
  time : Int
  period : Nat
  state : State
  deriving DecidableEq, Repr

/-- One circuit in the database: `outstanding` are its calls that were admitted and have not reported,
`log` the reports with the period and the state that they met. -/
structure World where
  db : Db
  clock : Int
  period : Nat
  outstanding : List Call
  log : List Logged

inductive Event where
  | allow (now : Int)
  | report (now : Int) (i : Nat) (outcome : Outcome)
  | foreignAllow (q : String) (now : Int)
  | foreignReport (q : String) (now : Int) (outcome : Outcome) (isProbe : Bool)
  deriving DecidableEq, Repr

def Event.now : Event → Int
  | .allow now => now
  | .report now _ _ => now
  | .foreignAllow _ now => now
  | .foreignReport _ now _ _ => now

def Event.foreign : Event → Bool
  | .allow _ => false
  | .report _ _ _ => false
  | .foreignAllow _ _ => true
  | .foreignReport _ _ _ _ => true

namespace World

def start : World := ⟨Redis.Db.empty,0,0,[],[]⟩

variable (cfg : Config) (p : String)

def circuit (w : World) : Circuit := circuitAt w.db w.clock (stateKey cfg p)

def nextPeriod (w : World) (c : Circuit) : Nat :=
  if (w.circuit cfg p).state = .open ∧ c.state = .halfOpen then w.period + 1 else w.period

def admitted (w : World) (answer : Bool × Bool) (period : Nat) : List Call :=
  if answer.1 then w.outstanding ++ [⟨answer.2,period⟩] else w.outstanding

def apply (w : World) : Event → Option World
  | .allow now =>
    let r := cfg.allow p now w.db
    let period := w.nextPeriod cfg p (circuitAt r.2 now (stateKey cfg p))
    some { w with
      db := r.2
      clock := now
      period := period
      outstanding := w.admitted r.1 period }
  | .report now i outcome =>
    match w.outstanding[i]? with
    | none => none
    | some call =>
      (cfg.report p now outcome call.isProbe w.db).map fun db =>
        { w with
          db := db
          clock := now
          outstanding := w.outstanding.eraseIdx i
          log := w.log ++ [⟨call,outcome,now,w.period,(w.circuit cfg p).state⟩] }
  | .foreignAllow q now =>
    if q = p then none else some { w with db := (cfg.allow q now w.db).2, clock := now }
  | .foreignReport q now outcome isProbe =>
    if q = p then none
    else (cfg.report q now outcome isProbe w.db).map fun db => { w with db := db, clock := now }

def step (w : World) (e : Event) : Option World :=
  if w.clock ≤ e.now then w.apply cfg p e else none

end World

section Steps

variable {cfg : Config} {p : String} {w w' : World}

def Stable (cfg : Config) (p : String) (w : World) : Prop :=
  Redis.Persistent w.db (stateKey cfg p)

theorem stable_start (cfg : Config) (p : String) : Stable cfg p .start := by
  intro h hk
  simp [World.start,Redis.Db.empty] at hk

theorem circuit_at (hs : Stable cfg p w) (now : Int) :
    circuitAt w.db now (stateKey cfg p) = w.circuit cfg p := circuitAt_persistent hs _

theorem step_clock {e : Event} (h : w.step cfg p e = some w') : w.clock ≤ e.now := by
  by_contra hn
  simp [World.step,hn] at h

theorem step_apply {e : Event} (h : w.step cfg p e = some w') : w.apply cfg p e = some w' := by
  simpa [World.step,step_clock h] using h

theorem step_allow {now : Int} (hs : Stable cfg p w)
    (h : w.step cfg p (.allow now) = some w') :
    let r := (w.circuit cfg p).ask (cfg.providerConfig p) now
    Stable cfg p w' ∧ w'.circuit cfg p = r.2 ∧ w'.period = w.nextPeriod cfg p r.2 ∧
      w'.outstanding = w.admitted r.1 (w.nextPeriod cfg p r.2) ∧ w'.log = w.log := by
  have ha := step_apply h
  obtain ⟨h1,h2,h3⟩ := allow_refines now hs
  rw [circuit_at hs] at h1 h2
  simp only [World.apply,Option.some.injEq] at ha
  subst ha
  exact ⟨h3,h2,by simp only [h2],by simp only [h1,h2],rfl⟩

theorem step_report {now : Int} {i : Nat} {outcome : Outcome} (hs : Stable cfg p w)
    (h : w.step cfg p (.report now i outcome) = some w') :
    ∃ call, w.outstanding[i]? = some call ∧ Stable cfg p w' ∧
      w'.circuit cfg p = (w.circuit cfg p).settle (cfg.providerConfig p)
        (cfg.reportArgs p now outcome call.isProbe)
        (cfg.trips p now outcome call.isProbe w.db) ∧
      w'.period = w.period ∧ w'.outstanding = w.outstanding.eraseIdx i ∧
      w'.log = w.log ++ [⟨call,outcome,now,w.period,(w.circuit cfg p).state⟩] ∧
      cfg.report p now outcome call.isProbe w.db = some w'.db ∧ w'.clock = now := by
  have ha := step_apply h
  simp only [World.apply] at ha
  split at ha
  · cases ha
  · next call hcall =>
    obtain ⟨db,hdb,hw⟩ := Option.map_eq_some_iff.mp ha
    obtain ⟨hv,hq⟩ := report_refines hs hdb
    rw [circuit_at hs] at hv
    subst hw
    exact ⟨call,hcall,hq,hv,rfl,rfl,rfl,hdb,rfl⟩

theorem foreign_keys {q : String} (hq : q ≠ p) {k : String}
    (hk : k = stateKey cfg p ∨ ∃ ts, k = winKey cfg p ts) :
    k ≠ stateKey cfg q ∧ ∀ us, k ≠ winKey cfg q us := by
  rcases hk with rfl | ⟨ts,rfl⟩
  · refine ⟨fun h => hq (stateKey_injective h).symm,?_⟩
    intro us h
    exact winKey_ne_stateKey cfg q p us h.symm
  · refine ⟨winKey_ne_stateKey cfg p q ts,?_⟩
    intro us h
    exact hq (winKey_injective h).1.symm

theorem step_foreign {e : Event} (he : e.foreign = true) (h : w.step cfg p e = some w') :
    (∀ k, (k = stateKey cfg p ∨ ∃ ts, k = winKey cfg p ts) → w'.db k = w.db k) ∧
      w'.clock = e.now ∧ w'.period = w.period ∧ w'.outstanding = w.outstanding ∧
      w'.log = w.log := by
  have ha := step_apply h
  cases e with
  | allow now => cases he
  | report now i outcome => cases he
  | foreignAllow q now =>
    simp only [World.apply] at ha
    split_ifs at ha with hq
    cases ha
    refine ⟨?_,rfl,rfl,rfl,rfl⟩
    intro k hk
    exact allow_frame (foreign_keys hq hk).1
  | foreignReport q now outcome isProbe =>
    simp only [World.apply] at ha
    split_ifs at ha with hq
    obtain ⟨db,hdb,hw⟩ := Option.map_eq_some_iff.mp ha
    subst hw
    refine ⟨?_,rfl,rfl,rfl,rfl⟩
    intro k hk
    have hf := foreign_keys hq hk
    exact report_frame hf.1 hf.2 hdb

theorem foreign_circuit {e : Event} (he : e.foreign = true) (hs : Stable cfg p w)
    (h : w.step cfg p e = some w') :
    Stable cfg p w' ∧ w'.circuit cfg p = w.circuit cfg p := by
  have hf := (step_foreign he h).1 _ (.inl rfl)
  have hs' : Stable cfg p w' := Redis.Persistent.congr hs hf
  refine ⟨hs',?_⟩
  rw [← circuit_at hs' w.clock]
  exact circuitAt_congr hf

theorem step_stable {e : Event} (hs : Stable cfg p w) (h : w.step cfg p e = some w') :
    Stable cfg p w' := by
  cases e with
  | allow now => exact (step_allow hs h).1
  | report now i outcome =>
    obtain ⟨call,_,hq,_⟩ := step_report hs h
    exact hq
  | foreignAllow q now => exact (foreign_circuit rfl hs h).1
  | foreignReport q now outcome isProbe => exact (foreign_circuit rfl hs h).1

end Steps

end PrismGateway.CircuitBreaker
