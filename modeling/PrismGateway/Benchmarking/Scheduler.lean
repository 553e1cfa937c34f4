import PrismGateway.Lib.Redis
import PrismGateway.Lib.Run
import Mathlib.Tactic.Linarith
import Mathlib.Tactic.Ring

namespace PrismGateway.Benchmarking.Scheduler

open Lib
open Lib.Redis (Lock Locked setNX locked_of_setNX)

inductive Admission where
  | granted
  | failedOpen
  | unlocked
  | heldByAnother
  deriving DecidableEq, Repr

def tryAcquire : Option Bool → Admission
  | none => .failedOpen
  | some true => .granted
  | some false => .heldByAnother

inductive Reply where
  | answered
  | lost (transient : Bool)
  deriving DecidableEq, Repr

-- The default of the client, which `main` leaves as it is: it repeats a command after a transient error.
def maxRetries : ℕ := 3

structure BenchmarkingConfig where
  intervalMinutes : ℤ

def minute : ℤ := 60000000000

def millisecond : ℤ := 1000000

namespace BenchmarkingConfig

variable (cfg : BenchmarkingConfig)

-- A `time.Duration` is an int64.
def ttl : ℤ := (cfg.intervalMinutes * minute).bmod (2 ^ 64)

def expiry : ℤ :=
  if cfg.ttl ≤ 0 then cfg.ttl
  else if cfg.ttl < millisecond then millisecond
  else cfg.ttl / millisecond * millisecond

def interval : ℤ := if cfg.ttl ≤ 0 then 30 * minute else cfg.ttl

theorem interval_pos : 0 < cfg.interval := by
  rw [interval]
  split_ifs with h
  · decide
  · exact not_le.mp h

end BenchmarkingConfig

/-- `begun` is when the server carries out the command that lets the round in, and `epoch` how often it had
lost the key by then. -/
structure Round where
  pod : ℕ
  begun : ℤ
  granted : Bool
  epoch : ℕ
  deriving DecidableEq, Repr

structure Skip where
  pod : ℕ
  time : ℤ
  deriving DecidableEq, Repr

inductive Stage where
  | idle
  | attempting (retries : ℕ)
  | running
  | ended
  deriving DecidableEq, Repr

structure Pod where
  client : Bool
  started : ℤ
  initial : Stage
  loop : Stage
  nextTick : ℤ
  ticked : Bool
  stopped : Bool
  deriving DecidableEq, Repr

inductive Caller where
  | initial
  | loop
  deriving DecidableEq, Repr

namespace Pod

def start (cfg : BenchmarkingConfig) (client : Bool) (now : ℤ) : Pod where
  client := client
  started := now
  initial := .attempting maxRetries
  loop := .idle
  nextTick := now + cfg.interval
  ticked := false
  stopped := false

def stage (pod : Pod) : Caller → Stage
  | .initial => pod.initial
  | .loop => pod.loop

def move (pod : Pod) (stage : Stage) : Caller → Pod
  | .initial => { pod with initial := stage }
  | .loop => { pod with loop := stage }

def enter (pod : Pod) : Caller → Pod := pod.move .running

def retry (pod : Pod) (retries : ℕ) : Caller → Pod := pod.move (.attempting retries)

def leave (pod : Pod) : Caller → Pod
  | .initial => pod.move .ended .initial
  | .loop => pod.move .idle .loop

def tick (pod : Pod) (period now : ℤ) : Pod :=
  { pod with ticked := true, nextTick := pod.nextTick + period * (1 + (now - pod.nextTick) / period) }

end Pod

structure World where
  now : ℤ
  lock : Lock
  losses : ℕ
  -- commands whose reply is lost and which the server has not seen
  inFlight : ℕ
  -- when the server set the key
  sets : List ℤ
  pods : List Pod
  rounds : List Round
  skips : List Skip
  deriving DecidableEq, Repr

inductive Event where
  | advance (d : ℕ)
  | start (client : Bool)
  | tick (p : ℕ)
  | receive (p : ℕ)
  | acquire (p : ℕ) (caller : Caller) (reply : Reply)
  | finish (p : ℕ) (caller : Caller)
  | stop (p : ℕ)
  | done (p : ℕ)
  -- a command in flight reaches the server
  | land
  -- the server loses the key
  | lose
  deriving DecidableEq, Repr

namespace World

def boot (now : ℤ) : World := ⟨now,none,0,0,[],[],[],[]⟩

def put (w : World) (p : ℕ) (pod : Pod) : World := { w with pods := w.pods.set p pod }

def runOnce (w : World) (p : ℕ) (pod : Pod) (caller : Caller) : Admission → World
  | .heldByAnother => { w.put p (pod.leave caller) with skips := w.skips ++ [⟨p,w.now⟩] }
  | admission =>
    { w.put p (pod.enter caller) with
      rounds := w.rounds ++ [⟨p,w.now,decide (admission = .granted),w.losses⟩] }

/-- The server carries out a command: whether it set the key, `none` if it refuses the expiry. -/
def serve (expiry : ℤ) (w : World) : World × Option Bool :=
  match setNX w.lock w.now expiry with
  | none => (w,none)
  | some (lock,set) => ({ w with lock := lock, sets := if set then w.sets ++ [w.now] else w.sets },some set)

def attempt (expiry : ℤ) (w : World) (p : ℕ) (pod : Pod) (caller : Caller) (retries : ℕ) : Reply → World
  | .answered =>
    let (w,ok) := w.serve expiry
    w.runOnce p pod caller (tryAcquire ok)
  | .lost transient =>
    let w := { w with inFlight := w.inFlight + 1 }
    match transient,retries with
    | true,retries + 1 => w.put p (pod.retry retries caller)
    | _,_ => w.runOnce p pod caller (tryAcquire none)

end World

variable (cfg : BenchmarkingConfig)

def step (w : World) : Event → Option World
  | .advance d => some { w with now := w.now + d }
  | .start client => some { w with pods := w.pods ++ [.start cfg client w.now] }
  | .tick p =>
    match w.pods[p]? with
    | none => none
    | some pod =>
      if pod.stopped = false ∧ pod.nextTick ≤ w.now then some (w.put p (pod.tick cfg.interval w.now)) else none
  | .receive p =>
    match w.pods[p]? with
    | none => none
    | some pod =>
      if pod.loop = .idle ∧ pod.ticked = true then
        some (w.put p { pod with loop := .attempting maxRetries, ticked := false })
      else none
  | .acquire p caller reply =>
    match w.pods[p]? with
    | none => none
    | some pod =>
      match pod.stage caller with
      | .attempting retries =>
        if pod.client then some (w.attempt cfg.expiry p pod caller retries reply)
        else some (w.runOnce p pod caller .unlocked)
      | _ => none
  | .finish p caller =>
    match w.pods[p]? with
    | none => none
    | some pod => if pod.stage caller = .running then some (w.put p (pod.leave caller)) else none
  | .stop p =>
    match w.pods[p]? with
    | none => none
    | some pod => if pod.stopped = false then some (w.put p { pod with stopped := true }) else none
  | .done p =>
    match w.pods[p]? with
    | none => none
    | some pod =>
      if pod.loop = .idle ∧ pod.stopped = true then some (w.put p { pod with loop := .ended }) else none
  | .land =>
    if w.inFlight = 0 then none else some { (w.serve cfg.expiry).1 with inFlight := w.inFlight - 1 }
  | .lose => some { w with lock := none, losses := w.losses + 1 }

section Steps

def Stage.due : Stage → ℕ
  | .attempting _ => 1
  | _ => 0

namespace Pod

def due (pod : Pod) : ℕ := pod.initial.due + pod.loop.due + pod.ticked.toNat

structure Fits (period now : ℤ) (attempts : ℕ) (pod : Pod) : Prop where
  owed : ((attempts + pod.due : ℕ) : ℤ) * period ≤ pod.nextTick - pod.started
  near : pod.nextTick ≤ now + period

variable {period now : ℤ} {n : ℕ} {pod pod' : Pod}

theorem Fits.later (h : pod.Fits period now n) (d : ℕ) : pod.Fits period (now + d) n :=
  ⟨h.owed,by have := h.near; omega⟩

theorem Fits.of_due_le (h : pod.Fits period now n) {m : ℕ} (hperiod : 0 < period)
    (hdue : m + pod'.due ≤ n + pod.due) (htick : pod'.nextTick = pod.nextTick)
    (hstarted : pod'.started = pod.started) : pod'.Fits period now m := by
  refine ⟨?_,htick ▸ h.near⟩
  rw [htick,hstarted]
  have hle : ((m + pod'.due : ℕ) : ℤ) ≤ ((n + pod.due : ℕ) : ℤ) := Int.ofNat_le.mpr hdue
  exact (mul_le_mul_of_nonneg_right hle hperiod.le).trans h.owed

theorem due_tick (pod : Pod) (period now : ℤ) : (pod.tick period now).due ≤ pod.due + 1 := by
  have hticked : pod.ticked.toNat ≤ 1 := Bool.toNat_le pod.ticked
  simp only [due,tick,Bool.toNat_true]
  omega

theorem Fits.tick (h : pod.Fits period now n) (hperiod : 0 < period) (hnow : pod.nextTick ≤ now) :
    (pod.tick period now).Fits period now n := by
  have hquot : 0 ≤ (now - pod.nextTick) / period := Int.ediv_nonneg (by omega) hperiod.le
  have hback : period * ((now - pod.nextTick) / period) ≤ now - pod.nextTick := Int.mul_ediv_self_le hperiod.ne'
  have hskipped : 0 ≤ period * ((now - pod.nextTick) / period) := mul_nonneg hperiod.le hquot
  constructor
  · have hdue : ((n + (pod.tick period now).due : ℕ) : ℤ) ≤ ((n + pod.due : ℕ) : ℤ) + 1 := by
      have := due_tick pod period now
      omega
    calc ((n + (pod.tick period now).due : ℕ) : ℤ) * period
        ≤ (((n + pod.due : ℕ) : ℤ) + 1) * period := mul_le_mul_of_nonneg_right hdue hperiod.le
      _ = ((n + pod.due : ℕ) : ℤ) * period + period := by ring
      _ ≤ pod.nextTick - pod.started + period := by have := h.owed; omega
      _ ≤ (pod.tick period now).nextTick - (pod.tick period now).started := by
        simp only [Pod.tick]
        linarith
  · simp only [Pod.tick]
    linarith

theorem fits_start (cfg : BenchmarkingConfig) (client : Bool) (now : ℤ) :
    (start cfg client now).Fits cfg.interval now 0 := by
  constructor
  · simp [start,due,Stage.due]
  · exact le_refl _

theorem due_move (pod : Pod) (stage : Stage) (caller : Caller) :
    (pod.move stage caller).due + (pod.stage caller).due = pod.due + stage.due := by
  cases caller with
  | initial | loop =>
    simp only [due,move,Pod.stage]
    omega

theorem due_enter {caller : Caller} {n : ℕ} (h : pod.stage caller = .attempting n) :
    (pod.enter caller).due + 1 = pod.due := by
  have hmove := due_move pod .running caller
  rwa [h] at hmove

theorem due_leave {caller : Caller} {n : ℕ} (h : pod.stage caller = .attempting n) :
    (pod.leave caller).due + 1 = pod.due := by
  cases caller with
  | initial =>
    have hmove := due_move pod .ended .initial
    rwa [h] at hmove
  | loop =>
    have hmove := due_move pod .idle .loop
    rwa [h] at hmove

theorem due_finish {caller : Caller} (h : pod.stage caller = .running) : (pod.leave caller).due = pod.due := by
  cases caller with
  | initial =>
    have hmove := due_move pod .ended .initial
    rwa [h] at hmove
  | loop =>
    have hmove := due_move pod .idle .loop
    rwa [h] at hmove

theorem due_retry {caller : Caller} {n : ℕ} (h : pod.stage caller = .attempting n) (m : ℕ) :
    (pod.retry m caller).due = pod.due := by
  have hmove := due_move pod (.attempting m) caller
  rw [h] at hmove
  exact Nat.add_right_cancel hmove

theorem move_clock (pod : Pod) (stage : Stage) (caller : Caller) :
    (pod.move stage caller).nextTick = pod.nextTick ∧ (pod.move stage caller).started = pod.started := by
  cases caller <;> exact ⟨rfl,rfl⟩

theorem leave_clock (pod : Pod) (caller : Caller) :
    (pod.leave caller).nextTick = pod.nextTick ∧ (pod.leave caller).started = pod.started := by
  cases caller <;> exact ⟨rfl,rfl⟩

end Pod

inductive Served (w : World) : World → Option Bool → Prop
  | refused : Served w w none
  | kept (hheld : w.lock.held w.now = true) : Served w w (some false)
  | set {lock : Lock} (hlocked : Locked w.lock w.now cfg.expiry lock true) :
    Served w { w with lock := lock, sets := w.sets ++ [w.now] } (some true)

theorem served (w : World) : Served cfg w (w.serve cfg.expiry).1 (w.serve cfg.expiry).2 := by
  rw [World.serve]
  cases hset : setNX w.lock w.now cfg.expiry with
  | none => exact .refused
  | some out =>
    obtain ⟨lock,set⟩ := out
    have hlocked := locked_of_setNX hset
    cases set with
    | true => exact .set hlocked
    | false =>
      cases hlocked with
      | kept hheld => exact .kept hheld

inductive Taken (w : World) : Event → World → Prop
  | advanced (d : ℕ) : Taken w (.advance d) { w with now := w.now + d }
  | started (client : Bool) : Taken w (.start client) { w with pods := w.pods ++ [.start cfg client w.now] }
  | moved {e : Event} {p : ℕ} {pod pod' : Pod} (hp : w.pods[p]? = some pod) (inFlight : ℕ)
      (hfits : ∀ n, pod.Fits cfg.interval w.now n → pod'.Fits cfg.interval w.now n) :
      Taken w e { w.put p pod' with inFlight := inFlight }
  | answered {p : ℕ} {caller : Caller} {reply : Reply} {pod : Pod} {n : ℕ} {w' : World} {ok : Option Bool}
      (hp : w.pods[p]? = some pod) (hstage : pod.stage caller = .attempting n)
      (hserved : Served cfg w w' ok) :
      Taken w (.acquire p caller reply) (w'.runOnce p pod caller (tryAcquire ok))
  | opened {p : ℕ} {caller : Caller} {reply : Reply} {pod : Pod} {n : ℕ} {admission : Admission}
      (hp : w.pods[p]? = some pod) (hstage : pod.stage caller = .attempting n) (inFlight : ℕ)
      (hadmission : admission = .unlocked ∨ admission = .failedOpen) :
      Taken w (.acquire p caller reply) ({ w with inFlight := inFlight }.runOnce p pod caller admission)
  | landed {w' : World} {ok : Option Bool} (hserved : Served cfg w w' ok) (inFlight : ℕ) :
      Taken w .land { w' with inFlight := inFlight }
  | lost : Taken w .lose { w with lock := none, losses := w.losses + 1 }

theorem taken_of_attempt {w : World} {p : ℕ} {pod : Pod} {caller : Caller} {n : ℕ} {reply : Reply}
    (hp : w.pods[p]? = some pod) (hstage : pod.stage caller = .attempting n) :
    Taken cfg w (.acquire p caller reply) (w.attempt cfg.expiry p pod caller n reply) := by
  cases reply with
  | answered => exact .answered hp hstage (served cfg w)
  | lost transient =>
    cases transient with
    | false => exact .opened hp hstage (w.inFlight + 1) (.inr rfl)
    | true =>
      cases n with
      | zero => exact .opened hp hstage (w.inFlight + 1) (.inr rfl)
      | succ n =>
        refine .moved hp (w.inFlight + 1) (fun m hfits => ?_)
        obtain ⟨htick,hstarted⟩ := pod.move_clock (.attempting n) caller
        exact hfits.of_due_le cfg.interval_pos
          (Nat.add_le_add_left (Pod.due_retry hstage n).le m) htick hstarted

theorem taken_of_acquire {w w' : World} {p : ℕ} {caller : Caller} {reply : Reply}
    (h : step cfg w (.acquire p caller reply) = some w') : Taken cfg w (.acquire p caller reply) w' := by
  rw [step] at h
  cases hp : w.pods[p]? with
  | none =>
    rw [hp] at h
    cases h
  | some pod =>
    simp only [hp] at h
    cases hstage : pod.stage caller with
    | idle | running | ended =>
      rw [hstage] at h
      cases h
    | attempting n =>
      simp only [hstage] at h
      split_ifs at h with hclient
      · cases h
        exact taken_of_attempt cfg hp hstage
      · cases h
        exact .opened hp hstage w.inFlight (.inl rfl)

theorem taken_of_step {w w' : World} {e : Event} (h : step cfg w e = some w') : Taken cfg w e w' := by
  have hpos := cfg.interval_pos
  cases e with
  | advance d =>
    cases h
    exact .advanced d
  | start client =>
    cases h
    exact .started client
  | lose =>
    cases h
    exact .lost
  | land =>
    rw [step] at h
    split_ifs at h
    cases h
    exact .landed (served cfg w) (w.inFlight - 1)
  | acquire p caller reply => exact taken_of_acquire cfg h
  | tick p | receive p | finish p caller | stop p | done p =>
    rw [step] at h
    cases hp : w.pods[p]? with
    | none =>
      rw [hp] at h
      cases h
    | some pod =>
      simp only [hp] at h
      split_ifs at h with hguard
      cases h
      refine .moved hp w.inFlight (fun n hfits => ?_)
      first
      | exact hfits.tick hpos hguard.2
      | exact hfits.of_due_le hpos (by simp [Pod.due,Stage.due,hguard]) rfl rfl
      | exact hfits.of_due_le hpos (Nat.add_le_add_left (Pod.due_finish hguard).le n)
          (pod.leave_clock caller).1 (pod.leave_clock caller).2

end Steps

section Spacing

def World.grants (w : World) : ℕ := w.rounds.countP Round.granted

def horizon (now : ℤ) : Lock → ℤ
  | some (some e) => max now e
  | _ => now

def SetAt (time : ℤ) (expiry : Option ℤ) : Prop :=
  (cfg.expiry = 0 ∧ expiry = none) ∨ (0 < cfg.expiry ∧ expiry = some (time + cfg.expiry))

def Apart (x y : Round) : Prop :=
  x.granted = true → y.granted = true → x.epoch = y.epoch → 0 < cfg.expiry ∧ x.begun + cfg.expiry ≤ y.begun

def Justified (sets : List ℤ) (time : ℤ) : Prop :=
  ∃ s ∈ sets, s ≤ time ∧ (0 < cfg.expiry → time < s + cfg.expiry)

structure Spaced (boot : ℤ) (w : World) : Prop where
  booted : boot ≤ w.now
  past : ∀ r ∈ w.rounds, r.begun ≤ w.now ∧ r.epoch ≤ w.losses
  setPast : ∀ s ∈ w.sets, s ≤ w.now
  apart : w.rounds.Pairwise (Apart cfg)
  covered : ∀ r ∈ w.rounds, r.granted = true → r.epoch = w.losses → w.lock.Outlives (r.begun + cfg.expiry)
  owner : ∀ expiry, w.lock = some expiry → ∃ s ∈ w.sets, SetAt cfg s expiry
  justified : ∀ k ∈ w.skips, Justified cfg w.sets k.time
  budget : 0 < cfg.expiry →
    (w.grants : ℤ) * cfg.expiry ≤ horizon w.now w.lock - boot + w.losses * cfg.expiry

variable {cfg} {boot : ℤ} {w w' : World}

theorem spaced_boot (now : ℤ) : Spaced cfg now (.boot now) where
  booted := le_refl _
  past _ hr := absurd hr List.not_mem_nil
  setPast _ hs := absurd hs List.not_mem_nil
  apart := .nil
  covered _ hr := absurd hr List.not_mem_nil
  owner _ h := by cases h
  justified _ hk := absurd hk List.not_mem_nil
  budget _ := by simp [World.grants,World.boot,horizon]

theorem horizon_of_free {now : ℤ} {lock : Lock} (h : lock.held now = false) : horizon now lock = now := by
  cases lock with
  | none => rfl
  | some expiry =>
    cases expiry with
    | none => rfl
    | some e => exact max_eq_left (not_lt.mp (of_decide_eq_false h))

theorem Spaced.horizon_le (h : Spaced cfg boot w) (hpos : 0 < cfg.expiry) :
    horizon w.now w.lock ≤ w.now + cfg.expiry := by
  cases hlock : w.lock with
  | none => exact Int.le_add_of_nonneg_right hpos.le
  | some expiry =>
    obtain ⟨s,hs,hset⟩ := h.owner expiry hlock
    have hpast := h.setPast s hs
    rcases hset with ⟨-,rfl⟩ | ⟨-,rfl⟩
    · exact Int.le_add_of_nonneg_right hpos.le
    · exact max_le (by omega) (by omega)

theorem Justified.append {sets : List ℤ} {time : ℤ} (h : Justified cfg sets time) (more : List ℤ) :
    Justified cfg (sets ++ more) time := by
  obtain ⟨s,hs,hset⟩ := h
  exact ⟨s,List.mem_append_left _ hs,hset⟩

theorem Spaced.advanced (h : Spaced cfg boot w) (d : ℕ) : Spaced cfg boot { w with now := w.now + d } where
  booted := by have := h.booted; show boot ≤ w.now + d; omega
  past r hr := by
    obtain ⟨hbegun,hepoch⟩ := h.past r hr
    exact ⟨by show r.begun ≤ w.now + d; omega,hepoch⟩
  setPast s hs := by
    have := h.setPast s hs
    show s ≤ w.now + d
    omega
  apart := h.apart
  covered := h.covered
  owner := h.owner
  justified := h.justified
  budget hpos := by
    have hmono : horizon w.now w.lock ≤ horizon (w.now + d) w.lock := by
      unfold horizon
      split
      · exact max_le_max_right _ (by omega)
      · omega
    have hbudget := h.budget hpos
    exact hbudget.trans (by linarith)

theorem Spaced.lost (h : Spaced cfg boot w) :
    Spaced cfg boot { w with lock := none, losses := w.losses + 1 } where
  booted := h.booted
  past r hr := ⟨(h.past r hr).1,(h.past r hr).2.trans (Nat.le_succ _)⟩
  setPast := h.setPast
  apart := h.apart
  covered r hr _ hepoch := by
    have hle := (h.past r hr).2
    exact absurd hepoch (by show r.epoch ≠ w.losses + 1; omega)
  owner _ hlock := by cases hlock
  justified := h.justified
  budget hpos := by
    have hbudget := h.budget hpos
    have hnear := h.horizon_le hpos
    have hlosses : ((w.losses + 1 : ℕ) : ℤ) * cfg.expiry = w.losses * cfg.expiry + cfg.expiry := by
      push_cast
      ring
    show (w.grants : ℤ) * cfg.expiry ≤ w.now - boot + ((w.losses + 1 : ℕ) : ℤ) * cfg.expiry
    linarith

theorem Spaced.justified_of_held (h : Spaced cfg boot w) (hheld : w.lock.held w.now = true) :
    Justified cfg w.sets w.now := by
  cases hlock : w.lock with
  | none =>
    rw [hlock] at hheld
    cases hheld
  | some expiry =>
    obtain ⟨s,hs,hset⟩ := h.owner expiry hlock
    refine ⟨s,hs,h.setPast s hs,fun hpos => ?_⟩
    rcases hset with ⟨hzero,-⟩ | ⟨-,rfl⟩
    · omega
    · rw [hlock] at hheld
      exact of_decide_eq_true hheld

theorem Spaced.repod (h : Spaced cfg boot w) (pods : List Pod) (inFlight : ℕ) :
    Spaced cfg boot { w with pods := pods, inFlight := inFlight } :=
  ⟨h.booted,h.past,h.setPast,h.apart,h.covered,h.owner,h.justified,h.budget⟩

theorem Spaced.left (h : Spaced cfg boot w) (hheld : w.lock.held w.now = true) (p : ℕ) :
    Spaced cfg boot { w with skips := w.skips ++ [⟨p,w.now⟩] } where
  booted := h.booted
  past := h.past
  setPast := h.setPast
  apart := h.apart
  covered := h.covered
  owner := h.owner
  justified k hk := by
    rcases List.mem_append.mp hk with hk | hk
    · exact h.justified k hk
    · rw [List.mem_singleton.mp hk]
      exact h.justified_of_held hheld
  budget := h.budget

theorem Spaced.ungoverned (h : Spaced cfg boot w) (p : ℕ) :
    Spaced cfg boot { w with rounds := w.rounds ++ [⟨p,w.now,false,w.losses⟩] } where
  booted := h.booted
  past r hr := by
    rcases List.mem_append.mp hr with hr | hr
    · exact h.past r hr
    · rw [List.mem_singleton.mp hr]
      exact ⟨le_refl _,le_refl _⟩
  setPast := h.setPast
  apart := by
    refine List.pairwise_append.mpr ⟨h.apart,List.pairwise_singleton _ _,?_⟩
    intro x _ y hy _ hgranted
    rw [List.mem_singleton.mp hy] at hgranted
    cases hgranted
  covered r hr hgranted := by
    rcases List.mem_append.mp hr with hr | hr
    · exact h.covered r hr hgranted
    · rw [List.mem_singleton.mp hr] at hgranted
      cases hgranted
  owner := h.owner
  justified := h.justified
  budget hpos := by
    have hsame : (w.rounds ++ [Round.mk p w.now false w.losses]).countP Round.granted = w.grants := by
      rw [List.countP_append]
      rfl
    have hbudget := h.budget hpos
    rwa [World.grants,hsame]

theorem Spaced.apart_of_free (h : Spaced cfg boot w) (hfree : w.lock.held w.now = false) {x y : Round}
    (hx : x ∈ w.rounds) (hbegun : y.begun = w.now) (hepoch : y.epoch = w.losses) : Apart cfg x y := by
  intro hgranted _ hsame
  have hcovered := h.covered x hx hgranted (hsame.trans hepoch)
  refine ⟨?_,hbegun.symm ▸ hcovered.le_of_free hfree⟩
  cases hlock : w.lock with
  | none =>
    rw [hlock] at hcovered
    exact hcovered.elim
  | some expiry =>
    obtain ⟨s,-,hset⟩ := h.owner expiry hlock
    rcases hset with ⟨-,rfl⟩ | ⟨hpos,-⟩
    · rw [hlock] at hfree
      cases hfree
    · exact hpos

theorem Spaced.keyed (h : Spaced cfg boot w) {lock : Lock}
    (hlocked : Locked w.lock w.now cfg.expiry lock true) {more : List Round} (hone : more.length ≤ 1)
    (hmore : ∀ r ∈ more, r.begun = w.now ∧ r.epoch = w.losses) :
    Spaced cfg boot { w with lock := lock, sets := w.sets ++ [w.now], rounds := w.rounds ++ more } := by
  have hfree : w.lock.held w.now = false := by
    cases hlocked with
    | forever hfree _ => exact hfree
    | lasting hfree _ => exact hfree
  have hset : ∃ expiry, lock = some expiry ∧ SetAt cfg w.now expiry := by
    cases hlocked with
    | forever _ hzero => exact ⟨none,rfl,.inl ⟨hzero,rfl⟩⟩
    | lasting _ hpos => exact ⟨_,rfl,.inr ⟨hpos,rfl⟩⟩
  have hreach : lock.Outlives (w.now + cfg.expiry) := by
    cases hlocked with
    | forever _ _ => trivial
    | lasting _ _ => exact le_refl (w.now + cfg.expiry)
  have hpast : ∀ r ∈ w.rounds ++ more, r.begun ≤ w.now ∧ r.epoch ≤ w.losses := by
    intro r hr
    rcases List.mem_append.mp hr with hr | hr
    · exact h.past r hr
    · exact ⟨(hmore r hr).1.le,(hmore r hr).2.le⟩
  constructor
  · exact h.booted
  · exact hpast
  · intro s hs
    rcases List.mem_append.mp hs with hs | hs
    · exact h.setPast s hs
    · rw [List.mem_singleton.mp hs]
  · have hmorePairwise : more.Pairwise (Apart cfg) := by
      match more with
      | [] => exact .nil
      | [r] => exact List.pairwise_singleton _ _
      | _ :: _ :: _ => simp at hone
    refine List.pairwise_append.mpr ⟨h.apart,hmorePairwise,?_⟩
    intro x hx y hy
    exact h.apart_of_free hfree hx (hmore y hy).1 (hmore y hy).2
  · intro r hr _ _
    have hbegun := (hpast r hr).1
    exact hreach.mono (by omega)
  · intro expiry hlock
    obtain ⟨expiry',hlock',hset⟩ := hset
    have hsame : some expiry' = some expiry := hlock'.symm.trans hlock
    cases hsame
    exact ⟨_,List.mem_append_right _ (List.mem_singleton.mpr rfl),hset⟩
  · intro k hk
    exact (h.justified k hk).append _
  · intro hpos
    have hbudget := h.budget hpos
    rw [horizon_of_free hfree] at hbudget
    have hcount : ((w.rounds ++ more).countP Round.granted : ℤ) ≤ w.grants + 1 := by
      have hle : more.countP Round.granted ≤ more.length := List.countP_le_length
      rw [List.countP_append,World.grants]
      omega
    have hgrown := mul_le_mul_of_nonneg_right hcount hpos.le
    have hfar : w.now + cfg.expiry ≤ horizon w.now lock := by
      cases hlocked with
      | forever _ hzero => omega
      | lasting _ _ => exact le_max_right _ _
    rw [World.grants]
    linarith

theorem Spaced.answered (h : Spaced cfg boot w) {ok : Option Bool} (hserved : Served cfg w w' ok) (p : ℕ)
    (pod : Pod) (caller : Caller) : Spaced cfg boot (w'.runOnce p pod caller (tryAcquire ok)) := by
  cases hserved with
  | refused => exact (h.ungoverned p).repod _ _
  | kept hheld => exact (h.left hheld p).repod _ _
  | set hlocked =>
    have hround : ∀ r ∈ [(⟨p,w.now,true,w.losses⟩ : Round)], r.begun = w.now ∧ r.epoch = w.losses := by
      intro r hr
      rw [List.mem_singleton.mp hr]
      exact ⟨rfl,rfl⟩
    exact (h.keyed hlocked (le_refl 1) hround).repod _ _

theorem Spaced.landed (h : Spaced cfg boot w) {ok : Option Bool} (hserved : Served cfg w w' ok) :
    Spaced cfg boot w' := by
  cases hserved with
  | refused => exact h
  | kept _ => exact h
  | set hlocked =>
    have hkeyed := @Spaced.keyed _ _ _ h _ hlocked [] (Nat.zero_le 1) (fun _ hr => absurd hr List.not_mem_nil)
    rwa [List.append_nil] at hkeyed

theorem Spaced.step (h : Spaced cfg boot w) {e : Event} (ht : Taken cfg w e w') : Spaced cfg boot w' := by
  cases ht with
  | advanced d => exact h.advanced d
  | started client => exact h.repod _ _
  | moved hp inFlight hfits => exact h.repod _ _
  | lost => exact h.lost
  | answered hp hstage hserved => exact h.answered hserved _ _ _
  | @opened p _ _ _ _ _ _ _ _ hadmission =>
    rcases hadmission with rfl | rfl
    · exact (h.ungoverned p).repod _ _
    · exact (h.ungoverned p).repod _ _
  | landed hserved inFlight => exact (h.landed hserved).repod _ inFlight

end Spacing

section Pacing

def World.attempts (w : World) (p : ℕ) : ℕ :=
  w.rounds.countP (fun r => r.pod = p) + w.skips.countP (fun k => k.pod = p)

structure Paced (w : World) : Prop where
  rounds : ∀ r ∈ w.rounds, r.pod < w.pods.length
  skips : ∀ k ∈ w.skips, k.pod < w.pods.length
  fits : ∀ (p : ℕ) (pod : Pod), w.pods[p]? = some pod → pod.Fits cfg.interval w.now (w.attempts p)

variable {cfg} {w w' : World}

theorem paced_boot (now : ℤ) : Paced cfg (.boot now) where
  rounds _ hr := absurd hr List.not_mem_nil
  skips _ hk := absurd hk List.not_mem_nil
  fits _ _ hp := by cases hp

theorem Paced.attempts_of_length_le (h : Paced cfg w) {p : ℕ} (hp : w.pods.length ≤ p) : w.attempts p = 0 := by
  rw [World.attempts,Nat.add_eq_zero_iff,List.countP_eq_zero,List.countP_eq_zero]
  refine ⟨fun r hr => ?_,fun k hk => ?_⟩
  · have := h.rounds r hr
    simp
    omega
  · have := h.skips k hk
    simp
    omega

theorem Paced.put (h : Paced cfg w) {p : ℕ} {pod pod' : Pod} (hp : w.pods[p]? = some pod)
    (hfits : ∀ n, pod.Fits cfg.interval w.now n → pod'.Fits cfg.interval w.now n) : Paced cfg (w.put p pod') := by
  refine ⟨?_,?_,?_⟩
  · intro r hr
    rw [World.put,List.length_set]
    exact h.rounds r hr
  · intro k hk
    rw [World.put,List.length_set]
    exact h.skips k hk
  · intro q other hq
    rw [World.put,List.getElem?_set] at hq
    split_ifs at hq with hsame hlt
    · cases hq
      subst hsame
      exact hfits _ (h.fits p pod hp)
    · exact h.fits q other hq

theorem Paced.started (h : Paced cfg w) (client : Bool) :
    Paced cfg { w with pods := w.pods ++ [.start cfg client w.now] } where
  rounds r hr := by
    rw [List.length_append]
    exact (h.rounds r hr).trans_le (Nat.le_add_right _ _)
  skips k hk := by
    rw [List.length_append]
    exact (h.skips k hk).trans_le (Nat.le_add_right _ _)
  fits q pod hq := by
    rcases lt_trichotomy q w.pods.length with hlt | heq | hgt
    · rw [List.getElem?_append_left hlt] at hq
      exact h.fits q pod hq
    · subst heq
      rw [List.getElem?_concat_length] at hq
      cases hq
      have hnone := h.attempts_of_length_le (le_refl w.pods.length)
      rw [World.attempts] at hnone ⊢
      rw [hnone]
      exact Pod.fits_start cfg client w.now
    · rw [List.getElem?_eq_none (by simp; omega)] at hq
      cases hq

theorem attempts_runOnce (w : World) (p : ℕ) (pod : Pod) (caller : Caller) (admission : Admission) (q : ℕ) :
    (w.runOnce p pod caller admission).attempts q = w.attempts q + (if p = q then 1 else 0) := by
  cases admission with
  | heldByAnother =>
    simp only [World.runOnce,World.put,World.attempts,List.countP_append,List.countP_singleton,decide_eq_true_eq]
    omega
  | granted | failedOpen | unlocked =>
    simp only [World.runOnce,World.put,World.attempts,List.countP_append,List.countP_singleton,decide_eq_true_eq]
    omega

theorem pods_runOnce (w : World) (p : ℕ) (pod : Pod) (caller : Caller) (admission : Admission) :
    ∃ pod', (w.runOnce p pod caller admission).pods = w.pods.set p pod' ∧
      (∀ n, pod.stage caller = .attempting n → pod'.due + 1 = pod.due) ∧
      pod'.nextTick = pod.nextTick ∧ pod'.started = pod.started := by
  cases admission with
  | heldByAnother => exact ⟨pod.leave caller,rfl,fun _ => Pod.due_leave,pod.leave_clock caller⟩
  | granted | failedOpen | unlocked =>
    exact ⟨pod.enter caller,rfl,fun _ => Pod.due_enter,pod.move_clock .running caller⟩

theorem Paced.admitted (h : Paced cfg w) {p : ℕ} {pod : Pod} {caller : Caller} {n : ℕ}
    (hp : w.pods[p]? = some pod) (hstage : pod.stage caller = .attempting n) (admission : Admission) :
    Paced cfg (w.runOnce p pod caller admission) := by
  obtain ⟨pod',hpods,hdue,htick,hstarted⟩ := pods_runOnce w p pod caller admission
  have hlt : p < w.pods.length := (List.getElem?_eq_some_iff.mp hp).1
  have hnow : (w.runOnce p pod caller admission).now = w.now := by cases admission <;> rfl
  have hrounds : ∀ r ∈ (w.runOnce p pod caller admission).rounds, r ∈ w.rounds ∨ r.pod = p := by
    intro r hr
    cases admission with
    | heldByAnother => exact .inl hr
    | granted | failedOpen | unlocked =>
      rcases List.mem_append.mp hr with hr | hr
      · exact .inl hr
      · exact .inr (by rw [List.mem_singleton.mp hr])
  have hskips : ∀ k ∈ (w.runOnce p pod caller admission).skips, k ∈ w.skips ∨ k.pod = p := by
    intro k hk
    cases admission with
    | heldByAnother =>
      rcases List.mem_append.mp hk with hk | hk
      · exact .inl hk
      · exact .inr (by rw [List.mem_singleton.mp hk])
    | granted | failedOpen | unlocked => exact .inl hk
  refine ⟨?_,?_,?_⟩
  · intro r hr
    rw [hpods,List.length_set]
    rcases hrounds r hr with hr | hr
    · exact h.rounds r hr
    · exact hr ▸ hlt
  · intro k hk
    rw [hpods,List.length_set]
    rcases hskips k hk with hk | hk
    · exact h.skips k hk
    · exact hk ▸ hlt
  · intro q other hq
    rw [hnow,attempts_runOnce]
    rw [hpods,List.getElem?_set] at hq
    split_ifs at hq with hsame
    · cases hq
      subst hsame
      have hone := hdue n hstage
      rw [if_pos rfl]
      exact (h.fits p pod hp).of_due_le cfg.interval_pos (by omega) htick hstarted
    · rw [if_neg hsame]
      exact h.fits q other hq

theorem Paced.served (h : Paced cfg w) {ok : Option Bool} (hserved : Served cfg w w' ok) :
    Paced cfg w' ∧ w'.pods = w.pods := by
  cases hserved with
  | refused => exact ⟨h,rfl⟩
  | kept _ => exact ⟨h,rfl⟩
  | set _ => exact ⟨⟨h.rounds,h.skips,h.fits⟩,rfl⟩

theorem Paced.step (h : Paced cfg w) {e : Event} (ht : Taken cfg w e w') : Paced cfg w' := by
  cases ht with
  | advanced d => exact ⟨h.rounds,h.skips,fun p pod hp => (h.fits p pod hp).later d⟩
  | started client => exact h.started client
  | moved hp inFlight hfits =>
    have hput := h.put hp hfits
    exact ⟨hput.rounds,hput.skips,hput.fits⟩
  | lost => exact ⟨h.rounds,h.skips,h.fits⟩
  | answered hp hstage hserved =>
    obtain ⟨hpaced,hpods⟩ := h.served hserved
    exact hpaced.admitted (hpods.symm ▸ hp) hstage _
  | opened hp hstage inFlight hadmission =>
    have hpaced : Paced cfg { w with inFlight := inFlight } := ⟨h.rounds,h.skips,h.fits⟩
    exact hpaced.admitted hp hstage _
  | landed hserved inFlight =>
    have hpaced := (h.served hserved).1
    exact ⟨hpaced.rounds,hpaced.skips,hpaced.fits⟩

theorem Pod.Fits.attempts_le {period now : ℤ} {n : ℕ} {pod : Pod} (h : pod.Fits period now n)
    (hperiod : 0 < period) : (n : ℤ) * period ≤ now - pod.started + period := by
  have hle : (n : ℤ) ≤ ((n + pod.due : ℕ) : ℤ) := Int.ofNat_le.mpr (Nat.le_add_right _ _)
  calc (n : ℤ) * period ≤ ((n + pod.due : ℕ) : ℤ) * period := mul_le_mul_of_nonneg_right hle hperiod.le
    _ ≤ pod.nextTick - pod.started := h.owed
    _ ≤ now - pod.started + period := by have := h.near; omega

end Pacing

theorem scheduled_rounds (cfg : BenchmarkingConfig) (boot : ℤ) {es : List Event} {w : World}
    (h : exec (step cfg) (.boot boot) es = some w) :
    w.rounds.Pairwise (Apart cfg) ∧
    (0 < cfg.expiry → (w.grants : ℤ) * cfg.expiry ≤ w.now - boot + (w.losses + 1) * cfg.expiry) ∧
    (∀ k ∈ w.skips, Justified cfg w.sets k.time) ∧
    ∀ (p : ℕ) (pod : Pod), w.pods[p]? = some pod →
      (w.attempts p : ℤ) * cfg.interval ≤ w.now - pod.started + cfg.interval := by
  have hspaced : Spaced cfg boot w := exec_invariant (step cfg)
    (fun _ _ _ hs ht => hs.step (taken_of_step cfg ht)) (spaced_boot boot) h
  have hpaced : Paced cfg w := exec_invariant (step cfg)
    (fun _ _ _ hs ht => hs.step (taken_of_step cfg ht)) (paced_boot boot) h
  refine ⟨hspaced.apart,fun hpos => ?_,hspaced.justified,?_⟩
  · have hbudget := hspaced.budget hpos
    have hnear := hspaced.horizon_le hpos
    linarith
  · intro p pod hp
    exact (hpaced.fits p pod hp).attempts_le cfg.interval_pos

section TwoReplicas

def halfHourly : BenchmarkingConfig := ⟨30⟩

def twoReplicas : List Event :=
  [.start true,.start true,.acquire 0 .initial .answered,.acquire 1 .initial .answered,.finish 0 .initial,
    .advance 1800000000000,.tick 0,.tick 1,.receive 0,.receive 1,.acquire 1 .loop .answered,
    .acquire 0 .loop .answered]

theorem two_replicas_take_turns : ∃ w, exec (step halfHourly) (.boot 0) twoReplicas = some w ∧
    w.rounds.map (fun r => (r.pod,r.begun)) = [(0,0),(1,1800000000000)] ∧
    w.rounds.Pairwise (Apart halfHourly) ∧ ∀ k ∈ w.skips, Justified halfHourly w.sets k.time := by
  obtain ⟨w,hw,hrounds⟩ := reaches (o := exec (step halfHourly) (.boot 0) twoReplicas)
    (P := fun w => w.rounds.map (fun r => (r.pod,r.begun)) = [(0,0),(1,1800000000000)]) (by decide)
  have hscheduled := scheduled_rounds halfHourly 0 hw
  exact ⟨w,hw,hrounds,hscheduled.1,hscheduled.2.2.1⟩

-- The command takes effect behind a lost reply: the attempt after it finds the key of its own call.
example : (exec (step halfHourly) (.boot 0)
    [.start true,.acquire 0 .initial (.lost true),.land,.acquire 0 .initial .answered]).map
      (fun w => (w.rounds,w.skips,w.sets)) = some ([],[⟨0,0⟩],[0]) := by decide

end TwoReplicas

end PrismGateway.Benchmarking.Scheduler
