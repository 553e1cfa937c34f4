import PrismGateway.CircuitBreaker.Probes

namespace PrismGateway.CircuitBreaker
open Lib

section Definitions

variable (cfg : Config) (p : String)

def Config.bucketSize : Int := (cfg.providerConfig p).bucketSizeSeconds

def Config.bucketTTL : Int := (cfg.providerConfig p).windowSeconds + cfg.bucketSize p

def Config.windowBuckets : Int := (cfg.providerConfig p).windowSeconds.tdiv (cfg.bucketSize p)

def Logged.inBucket (k : Int) (r : Logged) : Bool := decide (r.time / cfg.bucketSize p = k)

def Logged.inWindow (n : Nat) (now : Int) (r : Logged) : Bool :=
  decide (now / cfg.bucketSize p - n < r.time / cfg.bucketSize p) &&
    decide (r.time / cfg.bucketSize p ≤ now / cfg.bucketSize p)

def World.bucketCount (w : World) (k : Int) (o : Outcome) : Nat :=
  w.log.countP (fun r => r.inBucket cfg p k && r.outcome == o)

def World.windowCount (keep : Logged → Bool) (w : World) (now : Int) (o : Outcome) : Nat :=
  w.log.countP (fun r => r.inWindow cfg p (cfg.windowBuckets p).toNat now && r.outcome == o &&
    keep r)

def FailureRatioReached (keep : Logged → Bool) (w : World) (now : Int) : Prop :=
  let ok : Int := w.windowCount cfg p keep now .success
  let fail : Int := w.windowCount cfg p keep now .failure
  (cfg.providerConfig p).minRequests ≤ ok + fail ∧
    (cfg.providerConfig p).failureRateThreshold ≤ Float.ofInt fail / Float.ofInt (ok + fail)

def OpeningLaw (keep : Logged → Bool) (w : World) : Prop :=
  ∀ e w', e.now < luaNumberLimit → w.step cfg p e = some w' →
    (w.circuit cfg p).state = .closed →
    ((w'.circuit cfg p).state = .open ↔ (cfg.providerConfig p).enabled = true ∧
      ∃ now i, e = .report now i .failure ∧ FailureRatioReached cfg p keep w' now)

def WindowKept (w : World) : Prop :=
  (cfg.providerConfig p).enabled = true → ∀ now k o, w.clock ≤ now →
    now / cfg.bucketSize p - cfg.windowBuckets p < k → k ≤ now / cfg.bucketSize p →
    (Redis.hgetNum w.db now (winKey cfg p (k * cfg.bucketSize p)) (outcomeField o)).getD 0 =
      w.bucketCount cfg p k o

def StaysOpen (w : World) : Prop :=
  (w.circuit cfg p).state = .open → ∀ es v now, exec (World.step cfg p) w es = some v →
    v.clock ≤ now → now < (w.circuit cfg p).openUntil → (cfg.allow p now v.db).1.1 = false

end Definitions

structure WindowInv (cfg : Config) (p : String) (w : World) : Prop extends Sound cfg p w where
  clock : 0 ≤ w.clock
  counts : (cfg.providerConfig p).enabled = true → ∀ now k o, w.clock ≤ now →
    now < k * cfg.bucketSize p + cfg.bucketTTL p →
    (Redis.hgetNum w.db now (winKey cfg p (k * cfg.bucketSize p)) (outcomeField o)).getD 0 =
      w.bucketCount cfg p k o

section Buckets

variable {cfg : Config} {p : String} {w w' : World}

theorem step_clock_eq {e : Event} (h : w.step cfg p e = some w') : w'.clock = e.now := by
  cases he : e.foreign with
  | true => exact (step_foreign he h).2.1
  | false =>
    have ha := step_apply h
    cases e with
    | allow now =>
      simp only [World.apply,Option.some.injEq] at ha
      exact ha ▸ rfl
    | report now i outcome =>
      simp only [World.apply] at ha
      split at ha
      · cases ha
      · obtain ⟨db,-,hw⟩ := Option.map_eq_some_iff.mp ha
        exact hw ▸ rfl
    | foreignAllow q now => cases he
    | foreignReport q now outcome isProbe => cases he

theorem windowInv_start (cfg : Config) (p : String) : WindowInv cfg p .start := by
  refine ⟨sound_start cfg p,le_refl _,?_⟩
  intro _ now k o _ _
  simp [World.start,World.bucketCount,Redis.Db.empty,Redis.hgetNum,Redis.hashAt,Redis.get,
    Redis.Hash.empty]

theorem WindowInv.of_frame (h : WindowInv cfg p w) (hs : Sound cfg p w')
    (hc : w.clock ≤ w'.clock) (hl : w'.log = w.log)
    (hdb : ∀ ts, w'.db (winKey cfg p ts) = w.db (winKey cfg p ts)) : WindowInv cfg p w' := by
  refine ⟨hs,le_trans h.clock hc,?_⟩
  intro he now k o hnow hlt
  rw [Redis.hgetNum_congr (hdb _),World.bucketCount,hl]
  exact h.counts he now k o (le_trans hc hnow) hlt

theorem report_other_keys {key j : String} (wkey : String) (a : ReportArgs) (db : Db) (hj : j ≠ key) :
    (luaCBReport key wkey a db).2 j = recordOutcome key wkey a db j := by
  simp only [luaCBReport,openCircuit]
  cases (Redis.hget db a.now key .state).getD .closed <;> cases a.outcome <;> dsimp only
  case halfOpen.success => split_ifs <;> simp [hj]
  case halfOpen.failure => simp [hj]
  case closed.failure => split_ifs <;> simp [hj]

theorem recordOutcome_count {key wkey : String} {a : ReportArgs} {db : Db} (hw : wkey ≠ key)
    {now' : Int} (hnow : a.now ≤ now') (httl : now' < a.now + a.bucketTTL) (o : Outcome) :
    (Redis.hgetNum (recordOutcome key wkey a db) now' wkey (outcomeField o)).getD 0 =
      (Redis.hgetNum db a.now wkey (outcomeField o)).getD 0 + (if a.outcome = o then 1 else 0) := by
  have hbase : ∀ f, Redis.hgetNum
      (if a.isProbe then Redis.hincrby db a.now key .inflight (-1) else db) a.now wkey f =
      Redis.hgetNum db a.now wkey f := by
    intro f
    apply Redis.hgetNum_congr
    split_ifs
    · simp [hw]
    · rfl
  simp only [recordOutcome]
  rw [Redis.hgetNum_expire_hincrby _ _ _ hnow httl,hbase,hbase]
  cases a.outcome <;> cases o <;> simp [outcomeField]

theorem bucketTS_eq {now : Int} (hnow : 0 ≤ now) :
    cfg.bucketTS p now = now / cfg.bucketSize p * cfg.bucketSize p := by
  simp only [Config.bucketTS,Config.bucketSize,Int.tdiv_eq_ediv_of_nonneg hnow]

theorem bucket_le (hb : 0 < cfg.bucketSize p) (now : Int) :
    now / cfg.bucketSize p * cfg.bucketSize p ≤ now :=
  Int.ediv_mul_le _ (by omega)

theorem bucketCount_snoc {r : Logged} (hl : w'.log = w.log ++ [r]) (k : Int) (o : Outcome) :
    (w'.bucketCount cfg p k o : Int) = w.bucketCount cfg p k o +
      (if r.time / cfg.bucketSize p = k ∧ r.outcome = o then 1 else 0) := by
  rw [World.bucketCount,hl,List.countP_append,List.countP_singleton,World.bucketCount]
  simp only [Logged.inBucket,Bool.and_eq_true,decide_eq_true_eq,beq_iff_eq]
  push_cast
  rfl

theorem WindowInv.report {now : Int} {i : Nat} {outcome : Outcome} (hb : 0 < cfg.bucketSize p)
    (h : WindowInv cfg p w) (hs : w.step cfg p (.report now i outcome) = some w') :
    WindowInv cfg p w' := by
  have hst := h.toSound.step hs
  have hle : w.clock ≤ now := step_clock hs
  obtain ⟨call,hi,-,-,-,-,hlog,hdb,hclock⟩ := step_report h.stable hs
  have hnow : 0 ≤ now := le_trans h.clock hle
  refine ⟨hst,by omega,?_⟩
  intro he now' k o hn' hlt
  rw [hclock] at hn'
  have hbz : ¬ (cfg.providerConfig p).bucketSizeSeconds = 0 := by
    have : cfg.bucketSize p = (cfg.providerConfig p).bucketSizeSeconds := rfl
    omega
  simp only [Config.report,he,hbz,Bool.not_true,Bool.false_eq_true,if_false,
    Option.some.injEq] at hdb
  have hkey := report_other_keys (winKey cfg p (cfg.bucketTS p now))
    (cfg.reportArgs p now outcome call.isProbe) w.db
    (winKey_ne_stateKey cfg p p (k * cfg.bucketSize p))
  rw [hdb] at hkey
  rw [Redis.hgetNum_congr hkey,bucketCount_snoc hlog]
  rw [bucketTS_eq hnow]
  by_cases hk : now / cfg.bucketSize p = k
  · subst hk
    have hbl := bucket_le hb now
    rw [recordOutcome_count (winKey_ne_stateKey cfg p p _) hn'
      (show now' < now + cfg.bucketTTL p by omega)]
    change (Redis.hgetNum w.db now _ _).getD 0 + (if outcome = o then 1 else 0) = _
    rw [h.counts he now _ o hle (by omega)]
    simp
  · have hne : winKey cfg p (k * cfg.bucketSize p) ≠
        winKey cfg p (now / cfg.bucketSize p * cfg.bucketSize p) := by
      intro hx
      have hmul := (winKey_injective hx).2
      exact hk (Int.eq_of_mul_eq_mul_right (by omega) hmul).symm
    rw [Redis.hgetNum_congr (recordOutcome_frame _ (winKey_ne_stateKey cfg p p _) hne)]
    rw [h.counts he now' k o (by omega) hlt]
    simp [hk]

theorem WindowInv.step {e : Event} (hb : 0 < cfg.bucketSize p) (h : WindowInv cfg p w)
    (hs : w.step cfg p e = some w') : WindowInv cfg p w' := by
  have hst := h.toSound.step hs
  have hc : w.clock ≤ w'.clock := by
    rw [step_clock_eq hs]
    exact step_clock hs
  have foreign (he : e.foreign = true) : WindowInv cfg p w' := by
    obtain ⟨hf,-,-,-,hlog⟩ := step_foreign he hs
    exact h.of_frame hst hc hlog (fun ts => hf _ (.inr ⟨ts,rfl⟩))
  cases e with
  | allow now =>
    obtain ⟨-,-,-,-,hlog⟩ := step_allow h.stable hs
    have ha := step_apply hs
    simp only [World.apply,Option.some.injEq] at ha
    refine h.of_frame hst hc hlog (fun ts => ?_)
    rw [← ha]
    exact allow_frame (winKey_ne_stateKey cfg p p ts)
  | report now i outcome => exact h.report hb hs
  | foreignAllow q now => exact foreign rfl
  | foreignReport q now outcome isProbe => exact foreign rfl

end Buckets

section Totals

variable {cfg : Config} {p : String} {w w' : World}

theorem window_reach (hb : 0 < cfg.bucketSize p) {n : Nat} (hn : n < (cfg.windowBuckets p).toNat) :
    n * cfg.bucketSize p ≤ (cfg.providerConfig p).windowSeconds - cfg.bucketSize p := by
  have hlt : (n : Int) + 1 ≤ cfg.windowBuckets p := by omega
  have hpos : 0 ≤ (cfg.providerConfig p).windowSeconds := by
    by_contra hneg
    have hneg' : cfg.windowBuckets p = -(-(cfg.providerConfig p).windowSeconds).tdiv
        (cfg.bucketSize p) := by
      rw [Int.neg_tdiv,neg_neg,Config.windowBuckets]
    have := Int.tdiv_nonneg (a := -(cfg.providerConfig p).windowSeconds) (by omega) hb.le
    omega
  rw [Config.windowBuckets,Int.tdiv_eq_ediv_of_nonneg hpos] at hlt
  have hm := (Int.le_ediv_iff_mul_le hb).mp hlt
  linarith

theorem WindowInv.kept (hb : 0 < cfg.bucketSize p) (h : WindowInv cfg p w) :
    WindowKept cfg p w := by
  intro he now k o hc hlo hhi
  apply h.counts he now k o hc
  have hx : (now / cfg.bucketSize p - k).toNat < (cfg.windowBuckets p).toNat := by omega
  have hr := window_reach hb hx
  have hmod := Int.lt_ediv_add_one_mul_self now hb
  have hcast : ((now / cfg.bucketSize p - k).toNat : Int) = now / cfg.bucketSize p - k := by omega
  rw [hcast] at hr
  unfold Config.bucketTTL
  nlinarith

theorem luaWinKey_eq {now : Int} (hnow : 0 ≤ now) (hlim : now < luaNumberLimit)
    (hb : 0 < cfg.bucketSize p) (hw : (cfg.providerConfig p).windowSeconds ≤ luaNumberLimit)
    {n : Nat} (hn : n < (cfg.windowBuckets p).toNat) (o : Outcome) (b : Bool) :
    luaWinKey (cfg.reportArgs p now o b) n =
      winKey cfg p ((now / cfg.bucketSize p - n) * cfg.bucketSize p) := by
  have hts : Int.fdiv now (cfg.bucketSize p) * cfg.bucketSize p - n * cfg.bucketSize p =
      (now / cfg.bucketSize p - n) * cfg.bucketSize p := by
    rw [Int.fdiv_eq_ediv_of_nonneg _ (by omega)]
    ring
  have hr := window_reach hb hn
  have hbl : now / cfg.bucketSize p * cfg.bucketSize p ≤ now := bucket_le hb now
  have hge : 0 ≤ now / cfg.bucketSize p * cfg.bucketSize p :=
    Int.mul_nonneg (Int.ediv_nonneg hnow (by omega)) (by omega)
  have hsmall : (((now / cfg.bucketSize p - n) * cfg.bucketSize p).natAbs : Int) <
      luaNumberLimit := by
    rw [Int.sub_mul]
    have hnn : 0 ≤ (n : Int) * cfg.bucketSize p := Int.mul_nonneg (by omega) (by omega)
    omega
  change baseKey cfg p ++ ":win:" ++ luaNumberToString (Int.fdiv now (cfg.bucketSize p) *
    cfg.bucketSize p - n * cfg.bucketSize p) = _
  rw [hts,luaNumberToString,if_pos hsmall]
  unfold baseKey winKey
  congr 1
  rw [String.append_assoc]
  rfl

theorem countP_window_succ (log : List Logged) (now : Int) (n : Nat) (o : Outcome) :
    log.countP (fun r => r.inWindow cfg p (n + 1) now && r.outcome == o) =
      log.countP (fun r => r.inWindow cfg p n now && r.outcome == o) +
      log.countP (fun r => r.inBucket cfg p (now / cfg.bucketSize p - n) && r.outcome == o) := by
  induction log with
  | nil => rfl
  | cons r log ih =>
    simp only [List.countP_cons,ih]
    have hsplit : (if (r.inWindow cfg p (n + 1) now && r.outcome == o) = true then 1 else 0) =
        (if (r.inWindow cfg p n now && r.outcome == o) = true then 1 else 0) +
        (if (r.inBucket cfg p (now / cfg.bucketSize p - n) && r.outcome == o) = true
          then 1 else 0) := by
      cases hro : r.outcome == o with
      | false => simp
      | true =>
        simp only [Logged.inWindow,Logged.inBucket,Bool.and_true,Bool.and_eq_true,
          decide_eq_true_eq]
        push_cast
        split_ifs <;> omega
    omega

theorem windowTotal_eq {now : Int} {o : Outcome} {b : Bool} (h : WindowInv cfg p w)
    (hcl : w.clock = now) (hlim : now < luaNumberLimit) (hb : 0 < cfg.bucketSize p)
    (hw : (cfg.providerConfig p).windowSeconds ≤ luaNumberLimit)
    (he : (cfg.providerConfig p).enabled = true) (o' : Outcome) :
    windowTotal (cfg.reportArgs p now o b) (outcomeField o') w.db =
      w.windowCount cfg p (fun _ => true) now o' := by
  have hnow : 0 ≤ now := hcl ▸ h.clock
  have hkept := h.kept hb he now
  have partials (n : Nat) (hn : n ≤ (cfg.windowBuckets p).toNat) :
      (List.range n).foldl (fun total i => total +
        (Redis.hgetNum w.db now (luaWinKey (cfg.reportArgs p now o b) i)
          (outcomeField o')).getD 0) 0 =
      w.log.countP (fun r => r.inWindow cfg p n now && r.outcome == o') := by
    induction n with
    | zero =>
      have hz : w.log.countP (fun r => r.inWindow cfg p 0 now && r.outcome == o') = 0 := by
        rw [List.countP_eq_zero]
        intro r _ hr
        simp only [Logged.inWindow,Bool.and_eq_true,decide_eq_true_eq] at hr
        omega
      simp [hz]
    | succ n ih =>
      rw [List.range_succ,List.foldl_append,ih (by omega),countP_window_succ]
      simp only [List.foldl_cons,List.foldl_nil]
      rw [luaWinKey_eq hnow hlim hb hw (by omega),hkept _ o' (by omega) (by omega) (by omega)]
      push_cast
      rfl
  have hall := partials _ le_rfl
  unfold windowTotal World.windowCount
  simp only [Bool.and_true]
  exact hall

theorem trips_iff {now : Int} {i : Nat} {o : Outcome} {call : Call} (h : WindowInv cfg p w')
    (hst : Stable cfg p w) (hs : w.step cfg p (.report now i o) = some w')
    (hi : w.outstanding[i]? = some call) (hlim : now < luaNumberLimit)
    (hb : 0 < cfg.bucketSize p)
    (hw : (cfg.providerConfig p).windowSeconds ≤ luaNumberLimit)
    (he : (cfg.providerConfig p).enabled = true) :
    cfg.trips p now o call.isProbe w.db = true ↔
      FailureRatioReached cfg p (fun _ => true) w' now := by
  obtain ⟨call',hi',-,-,-,-,-,hdb,hclock⟩ := step_report hst hs
  rw [hi,Option.some.injEq] at hi'
  subst hi'
  have hbz : ¬ (cfg.providerConfig p).bucketSizeSeconds = 0 := by
    have : cfg.bucketSize p = (cfg.providerConfig p).bucketSizeSeconds := rfl
    omega
  simp only [Config.report,he,hbz,Bool.not_true,Bool.false_eq_true,if_false,
    Option.some.injEq] at hdb
  have total (o' : Outcome) :
      windowTotal (cfg.reportArgs p now o call.isProbe) (outcomeField o')
        (recordOutcome (stateKey cfg p) (winKey cfg p (cfg.bucketTS p now))
          (cfg.reportArgs p now o call.isProbe) w.db) =
      w'.windowCount cfg p (fun _ => true) now o' := by
    rw [← windowTotal_eq (o := o) (b := call.isProbe) h hclock hlim hb hw he]
    unfold windowTotal
    apply List.foldl_ext
    intro total n hn
    congr 2
    apply Redis.hgetNum_congr
    have hn' : n < (cfg.windowBuckets p).toNat := List.mem_range.mp hn
    have hnow : 0 ≤ now := hclock ▸ h.clock
    rw [luaWinKey_eq hnow hlim hb hw hn',← hdb]
    exact (report_other_keys _ _ _ (winKey_ne_stateKey cfg p p _)).symm
  have hok := total .success
  have hfail := total .failure
  simp only [outcomeField] at hok hfail
  rw [Config.trips,tripsAt,hok,hfail]
  simp only [tripsOpen,Bool.and_eq_true,decide_eq_true_eq]
  rfl

end Totals

section Opening

variable {cfg : Config} {p : String} {w w' : World}

theorem settle_closed {d : ProviderDefaults} {c : Circuit} {a : ReportArgs} {trips : Bool}
    (h : c.state = .closed) :
    (c.settle d a trips).state = .open ↔
      d.enabled = true ∧ a.outcome = .failure ∧ trips = true := by
  unfold Circuit.settle Circuit.report
  cases hd : d.enabled with
  | false => simp [h]
  | true => cases ho : a.outcome <;> cases trips <;> simp [h,Circuit.opened]

theorem ask_closed (d : ProviderDefaults) {c : Circuit} (now : Int) (h : c.state = .closed) :
    (c.ask d now).2 = c := by
  rcases ask_cases d c now with ⟨hc,-⟩ | ⟨-,ho,-⟩ | ⟨-,ho,-⟩ | ⟨-,ho,-⟩
  · exact hc
  all_goals
    rw [h] at ho
    cases ho

theorem WindowInv.opening (hb : 0 < cfg.bucketSize p)
    (hw : (cfg.providerConfig p).windowSeconds ≤ luaNumberLimit) (h : WindowInv cfg p w) :
    OpeningLaw cfg p (fun _ => true) w := by
  intro e w' hlim hs hclosed
  have hinv := h.step hb hs
  have unchanged (hc : w'.circuit cfg p = w.circuit cfg p)
      (hne : ∀ now i, e ≠ .report now i .failure) :
      (w'.circuit cfg p).state = .open ↔ (cfg.providerConfig p).enabled = true ∧
        ∃ now i, e = .report now i .failure ∧
          FailureRatioReached cfg p (fun _ => true) w' now := by
    rw [hc,hclosed]
    constructor
    · intro hx
      cases hx
    · rintro ⟨-,now,i,he,-⟩
      exact absurd he (hne now i)
  cases e with
  | allow now =>
    obtain ⟨-,hcirc,-⟩ := step_allow h.stable hs
    exact unchanged (hcirc.trans (ask_closed _ now hclosed)) (by rintro _ _ ⟨⟩)
  | foreignAllow q now =>
    exact unchanged (foreign_circuit rfl h.stable hs).2 (by rintro _ _ ⟨⟩)
  | foreignReport q now outcome isProbe =>
    exact unchanged (foreign_circuit rfl h.stable hs).2 (by rintro _ _ ⟨⟩)
  | report now i outcome =>
    obtain ⟨call,hi,-,hcirc,-⟩ := step_report h.stable hs
    rw [hcirc,settle_closed hclosed]
    constructor
    · rintro ⟨he,ho,ht⟩
      have ho' : outcome = .failure := ho
      refine ⟨he,now,i,by rw [ho'],?_⟩
      exact (trips_iff hinv h.stable hs hi hlim hb hw he).mp ht
    · rintro ⟨he,now',i',heq,hr⟩
      cases heq
      exact ⟨he,rfl,(trips_iff hinv h.stable hs hi hlim hb hw he).mpr hr⟩

theorem open_step {e : Event} {u : Int} (h : Sound cfg p w)
    (ho : (w.circuit cfg p).state = .open) (hu : (w.circuit cfg p).openUntil = u)
    (hs : w.step cfg p e = some w') (ht : w'.clock < u) :
    (w'.circuit cfg p).state = .open ∧ (w'.circuit cfg p).openUntil = u := by
  cases e with
  | allow now =>
    have hnow : now < u := by
      rw [step_clock_eq hs] at ht
      exact ht
    obtain ⟨-,hcirc,-⟩ := step_allow h.stable hs
    rw [hcirc]
    rcases ask_cases (cfg.providerConfig p) (w.circuit cfg p) now with
      ⟨hc,-⟩ | ⟨-,-,hx,-⟩ | ⟨-,-,hx,-⟩ | ⟨-,hx,-⟩
    · rw [hc]
      exact ⟨ho,hu⟩
    · omega
    · omega
    · rw [ho] at hx
      cases hx
  | report now i outcome =>
    obtain ⟨call,-,-,hcirc,-⟩ := step_report h.stable hs
    rw [hcirc]
    have he := h.enabled (by rw [ho]; decide)
    simp only [Circuit.settle,he,Circuit.report,ho,Bool.not_true,Bool.false_eq_true,if_false]
    cases outcome <;> exact ⟨(Circuit.release_state _ _).trans ho,
      (Circuit.release_openUntil _ _).trans hu⟩
  | foreignAllow q now =>
    rw [(foreign_circuit rfl h.stable hs).2]
    exact ⟨ho,hu⟩
  | foreignReport q now outcome isProbe =>
    rw [(foreign_circuit rfl h.stable hs).2]
    exact ⟨ho,hu⟩

theorem exec_clock {es : List Event} (h : exec (World.step cfg p) w es = some w') :
    w.clock ≤ w'.clock := by
  refine exec_invariant (World.step cfg p) (I := fun v => w.clock ≤ v.clock) ?_ le_rfl h
  intro s e t hle hs
  have hc := step_clock hs
  rw [step_clock_eq hs]
  omega

theorem stays_open {es : List Event} {u : Int} (h : Sound cfg p w)
    (ho : (w.circuit cfg p).state = .open) (hu : (w.circuit cfg p).openUntil = u)
    (hx : exec (World.step cfg p) w es = some w') (ht : w'.clock < u) :
    Sound cfg p w' ∧ (w'.circuit cfg p).state = .open ∧ (w'.circuit cfg p).openUntil = u := by
  induction es generalizing w with
  | nil =>
    simp only [exec,Option.some.injEq] at hx
    exact hx ▸ ⟨h,ho,hu⟩
  | cons e es ih =>
    obtain ⟨v,hv,hrest⟩ := Option.bind_eq_some_iff.mp hx
    have hclock := exec_clock hrest
    have hopen := open_step h ho hu hv (by omega)
    exact ih (h.step hv) hopen.1 hopen.2 hrest

theorem Sound.staysOpen (h : Sound cfg p w) : StaysOpen cfg p w := by
  intro ho es v now hx hc hnow
  obtain ⟨hv,hopen,huntil⟩ := stays_open h ho rfl hx (by omega)
  obtain ⟨ha,-⟩ := allow_refines now hv.stable
  rw [ha,circuit_at hv.stable]
  have he := hv.enabled (by rw [hopen]; decide)
  simp [Circuit.ask,he,Circuit.allow,hopen,huntil,hnow]

end Opening

theorem opening_law (cfg : Config) (p : String) (es : List Event) (w : World)
    (hb : 0 < (cfg.providerConfig p).bucketSizeSeconds)
    (hw : (cfg.providerConfig p).windowSeconds ≤ luaNumberLimit)
    (h : exec (World.step cfg p) .start es = some w) :
    OpeningLaw cfg p (fun _ => true) w ∧ WindowKept cfg p w ∧ StaysOpen cfg p w := by
  have hinv : WindowInv cfg p w :=
    exec_invariant _ (fun _ _ _ hi hs => hi.step hb hs) (windowInv_start cfg p) h
  exact ⟨hinv.opening hb hw,hinv.kept hb,hinv.toSound.staysOpen⟩

def strictConfig : Config :=
  { keyPrefix := "cb:"
    defaults :=
      { enabled := true
        windowSeconds := 60
        bucketSizeSeconds := 5
        minRequests := 3
        failureRateThreshold := 0.9
        openCooldownSeconds := 1
        halfOpenMaxInflight := 1
        halfOpenSuccessesToClose := 1 }
    providers := [] }

def reclosed : List Event :=
  [.allow 0,.allow 0,.allow 0,.report 0 0 .failure,.report 0 0 .failure,.report 0 0 .failure,
    .allow 1,.report 1 0 .success,.allow 1]

instance (cfg : Config) (p : String) (keep : Logged → Bool) (w : World) (now : Int) :
    Decidable (FailureRatioReached cfg p keep w now) :=
  inferInstanceAs (Decidable (_ ∧ _))

theorem half_open_success_counts :
    ¬ ∀ cfg p es w, 0 < (cfg.providerConfig p).bucketSizeSeconds →
      (cfg.providerConfig p).windowSeconds ≤ luaNumberLimit →
      exec (World.step cfg p) .start es = some w →
      OpeningLaw cfg p (fun r => r.state == .closed) w := by
  intro h
  obtain ⟨w,hw,hc,ho⟩ := reaches
    (o := exec (World.step strictConfig "openai") .start reclosed)
    (P := fun w => (w.circuit strictConfig "openai").state = .closed ∧
      (w.step strictConfig "openai" (.report 1 0 .failure)).any (fun w' =>
        decide ((w'.circuit strictConfig "openai").state = .closed ∧
          FailureRatioReached strictConfig "openai" (fun r => r.state == .closed) w' 1)) = true)
    (by decide +kernel)
  obtain ⟨w',hs,hclosed,hreached⟩ := reaches ho
  have hlaw := h strictConfig "openai" reclosed w (by decide) (by decide) hw
    (.report 1 0 .failure) w' (by decide) hs hc
  have hopen := hlaw.mpr ⟨rfl,1,0,rfl,hreached⟩
  rw [hclosed] at hopen
  cases hopen

theorem opening_law_reclosed :
    ∃ w, exec (World.step strictConfig "openai") .start reclosed = some w ∧
      OpeningLaw strictConfig "openai" (fun _ => true) w ∧ WindowKept strictConfig "openai" w ∧
      StaysOpen strictConfig "openai" w := by
  obtain ⟨w,hw,-⟩ := reaches
    (o := exec (World.step strictConfig "openai") .start reclosed) (P := fun _ => True)
    (by decide +kernel)
  exact ⟨w,hw,opening_law strictConfig "openai" reclosed w (by decide) (by decide) hw⟩

end PrismGateway.CircuitBreaker
