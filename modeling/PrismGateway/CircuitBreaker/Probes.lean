import PrismGateway.CircuitBreaker.Runs

namespace PrismGateway.CircuitBreaker
open Lib

section Transitions

variable {d : ProviderDefaults} {c : Circuit} {now : Int} {a : ReportArgs} {trips : Bool}

theorem ask_cases (d : ProviderDefaults) (c : Circuit) (now : Int) :
    ((c.ask d now).2 = c ∧ (c.ask d now).1.2 = false) ∨
    (d.enabled = true ∧ c.state = .open ∧ c.openUntil ≤ now ∧ d.halfOpenMaxInflight ≤ 0 ∧
      c.ask d now = ((false,false),{ c with state := .halfOpen, inflight := 0, successes := 0 })) ∨
    (d.enabled = true ∧ c.state = .open ∧ c.openUntil ≤ now ∧ 0 < d.halfOpenMaxInflight ∧
      c.ask d now = ((true,true),{ c with state := .halfOpen, inflight := 1, successes := 0 })) ∨
    (d.enabled = true ∧ c.state = .halfOpen ∧ c.inflight < d.halfOpenMaxInflight ∧
      c.ask d now = ((true,true),{ c with inflight := c.inflight + 1 })) := by
  by_cases he : d.enabled = true
  · cases hc : c.state with
    | closed => exact .inl (by simp [Circuit.ask,Circuit.allow,he,hc])
    | halfOpen =>
      by_cases hi : c.inflight ≥ d.halfOpenMaxInflight
      · exact .inl (by simp [Circuit.ask,Circuit.allow,Circuit.gate,he,hc,hi])
      · refine .inr (.inr (.inr ⟨he,rfl,by omega,?_⟩))
        simp [Circuit.ask,Circuit.allow,Circuit.gate,he,hc,hi]
    | «open» =>
      by_cases hu : now < c.openUntil
      · exact .inl (by simp [Circuit.ask,Circuit.allow,he,hc,hu])
      · by_cases hm : d.halfOpenMaxInflight ≤ 0
        · refine .inr (.inl ⟨he,rfl,by omega,hm,?_⟩)
          simp [Circuit.ask,Circuit.allow,Circuit.gate,he,hc,hu,hm]
        · refine .inr (.inr (.inl ⟨he,rfl,by omega,by omega,?_⟩))
          simp [Circuit.ask,Circuit.allow,Circuit.gate,he,hc,hu,hm]
  · exact .inl (by simp [Circuit.ask,he])

theorem settle_of_not_halfOpen (h : c.state ≠ .halfOpen) :
    (c.settle d a trips).state ≠ .halfOpen := by
  unfold Circuit.settle
  split_ifs
  · exact h
  · unfold Circuit.report
    cases hc : c.state <;> cases ho : a.outcome <;> dsimp only
    case closed.failure =>
      split_ifs
      · simp [Circuit.opened]
      · rw [Circuit.release_state,hc]
        decide
    case halfOpen.success => exact absurd hc h
    case halfOpen.failure => exact absurd hc h
    all_goals
      rw [Circuit.release_state,hc]
      decide

theorem settle_halfOpen (a : ReportArgs) (trips : Bool) (he : d.enabled = true) (h : c.state = .halfOpen) :
    (a.outcome = .success ∧ c.successes + 1 < a.successesToClose ∧
      c.settle d a trips = { c.release a.isProbe with successes := c.successes + 1 }) ∨
    (a.outcome = .success ∧ a.successesToClose ≤ c.successes + 1 ∧
      c.settle d a trips = Circuit.initial) ∨
    (a.outcome = .failure ∧ c.settle d a trips = Circuit.opened a) := by
  cases ho : a.outcome with
  | failure => exact .inr (.inr ⟨rfl,by simp [Circuit.settle,Circuit.report,he,h,ho]⟩)
  | success =>
    by_cases hs : a.successesToClose ≤ c.successes + 1
    · exact .inr (.inl ⟨rfl,hs,by simp [Circuit.settle,Circuit.report,he,h,ho,hs]⟩)
    · exact .inl ⟨rfl,by omega,by simp [Circuit.settle,Circuit.report,he,h,ho,hs]⟩

end Transitions

def World.probes (w : World) : List Call := w.outstanding.filter Call.isProbe

def World.currentProbes (w : World) : List Call :=
  w.outstanding.filter (fun c => c.isProbe && c.period == w.period)

def ProbeAccounting (cfg : Config) (p : String) (w : World) : Prop :=
  (w.circuit cfg p).state = .halfOpen →
    (w.probes.length : Int) ≤ (cfg.providerConfig p).halfOpenMaxInflight ∧
    (w.circuit cfg p).inflight = w.currentProbes.length

def NoCarriedProbe (cfg : Config) (p : String) (w : World) : Event → Prop
  | .allow now => 0 ≤ (cfg.providerConfig p).halfOpenMaxInflight ∧
    ((w.circuit cfg p).state = .open → (w.circuit cfg p).openUntil ≤ now → w.probes = [])
  | _ => True

instance (cfg : Config) (p : String) (w : World) : DecidablePred (NoCarriedProbe cfg p w)
  | .allow _ => inferInstanceAs (Decidable (_ ∧ (_ → _ → _)))
  | .report _ _ _ => .isTrue trivial
  | .foreignAllow _ _ => .isTrue trivial
  | .foreignReport _ _ _ _ => .isTrue trivial

structure Sound (cfg : Config) (p : String) (w : World) : Prop where
  stable : Stable cfg p w
  enabled : (w.circuit cfg p).state ≠ .closed → (cfg.providerConfig p).enabled = true

structure ProbeInv (cfg : Config) (p : String) (w : World) : Prop extends Sound cfg p w where
  current : (w.circuit cfg p).state = .halfOpen → ∀ c ∈ w.probes, c.period = w.period
  counted : (w.circuit cfg p).state = .halfOpen →
    (w.circuit cfg p).inflight = w.probes.length
  bounded : (w.circuit cfg p).state = .halfOpen →
    (w.probes.length : Int) ≤ (cfg.providerConfig p).halfOpenMaxInflight

section Sound

variable {cfg : Config} {p : String} {w w' : World}

theorem sound_start (cfg : Config) (p : String) : Sound cfg p .start := by
  refine ⟨stable_start cfg p,?_⟩
  intro h
  exact absurd rfl h

theorem Sound.step {e : Event} (h : Sound cfg p w) (hs : w.step cfg p e = some w') :
    Sound cfg p w' := by
  refine ⟨step_stable h.stable hs,?_⟩
  intro hx
  by_contra he
  have hoff : (cfg.providerConfig p).enabled = false := by simpa using he
  have hsame : w'.circuit cfg p = w.circuit cfg p := by
    cases e with
    | allow now =>
      obtain ⟨-,hcirc,-⟩ := step_allow h.stable hs
      rw [hcirc]
      simp [Circuit.ask,hoff]
    | report now i outcome =>
      obtain ⟨call,-,-,hcirc,-⟩ := step_report h.stable hs
      rw [hcirc]
      simp [Circuit.settle,hoff]
    | foreignAllow q now => exact (foreign_circuit rfl h.stable hs).2
    | foreignReport q now outcome isProbe => exact (foreign_circuit rfl h.stable hs).2
  exact he (h.enabled (hsame ▸ hx))

end Sound

section Accounting

variable {cfg : Config} {p : String} {w w' : World}

theorem currentProbes_eq (h : ∀ c ∈ w.probes, c.period = w.period) :
    w.currentProbes = w.probes := by
  apply List.filter_congr
  intro c hc
  cases hp : c.isProbe with
  | false => rfl
  | true =>
    have := h c (List.mem_filter.mpr ⟨hc,hp⟩)
    simp [this]

theorem ProbeInv.accounting (h : ProbeInv cfg p w) : ProbeAccounting cfg p w := by
  intro hh
  refine ⟨h.bounded hh,?_⟩
  rw [currentProbes_eq (h.current hh)]
  exact h.counted hh

theorem ProbeInv.of_not_halfOpen (h : Sound cfg p w) (hn : (w.circuit cfg p).state ≠ .halfOpen) :
    ProbeInv cfg p w :=
  ⟨h,fun hx => absurd hx hn,fun hx => absurd hx hn,fun hx => absurd hx hn⟩

theorem probeInv_start (cfg : Config) (p : String) : ProbeInv cfg p .start := by
  apply ProbeInv.of_not_halfOpen (sound_start cfg p)
  have hc : (World.start.circuit cfg p) = Circuit.initial := rfl
  rw [hc]
  decide

theorem eraseIdx_perm {α : Type} {l : List α} {i : Nat} {x : α} (h : l[i]? = some x) :
    (x :: l.eraseIdx i).Perm l := by
  obtain ⟨hi,rfl⟩ := List.getElem?_eq_some_iff.mp h
  exact List.getElem_cons_eraseIdx_perm hi

theorem probes_admitted (w : World) (answer : Bool × Bool) (period : Nat)
    (h : answer.2 = false ∨ answer.1 = false) :
    (w.admitted answer period).filter Call.isProbe = w.probes := by
  unfold World.admitted World.probes
  split_ifs with ha
  · rcases h with h | h
    · simp [h]
    · simp [ha] at h
  · rfl

theorem nextPeriod_of_same {c : Circuit} (h : c = w.circuit cfg p) :
    w.nextPeriod cfg p c = w.period := by
  unfold World.nextPeriod
  rw [h,if_neg]
  rintro ⟨ho,hh⟩
  rw [ho] at hh
  cases hh

theorem ProbeInv.of_same (h : ProbeInv cfg p w) (hs : Sound cfg p w')
    (hc : w'.circuit cfg p = w.circuit cfg p) (hp : w'.period = w.period)
    (hq : w'.probes = w.probes) : ProbeInv cfg p w' := by
  refine ⟨hs,?_,?_,?_⟩ <;> rw [hc]
  · rw [hp,hq]
    exact h.current
  · rw [hq]
    exact h.counted
  · rw [hq]
    exact h.bounded

theorem ProbeInv.allow {now : Int} (h : ProbeInv cfg p w)
    (hn : NoCarriedProbe cfg p w (.allow now)) (hs : w.step cfg p (.allow now) = some w') :
    ProbeInv cfg p w' := by
  have hst := h.toSound.step hs
  obtain ⟨-,hcirc,hper,hout,-⟩ := step_allow h.stable hs
  have hprobes : w'.probes = (w.admitted ((w.circuit cfg p).ask (cfg.providerConfig p) now).1
      (w.nextPeriod cfg p ((w.circuit cfg p).ask (cfg.providerConfig p) now).2)).filter
      Call.isProbe := by
    rw [World.probes,hout]
  rcases ask_cases (cfg.providerConfig p) (w.circuit cfg p) now with
    ⟨hc,ha⟩ | ⟨he,ho,hu,hm,hr⟩ | ⟨he,ho,hu,hm,hr⟩ | ⟨he,ho,hi,hr⟩
  · refine h.of_same hst (hcirc.trans hc) (hper.trans (nextPeriod_of_same hc)) ?_
    rw [hprobes]
    exact probes_admitted w _ _ (.inl ha)
  · have hnone : w.probes = [] := hn.2 ho hu
    rw [hr] at hcirc hprobes
    rw [probes_admitted w _ _ (.inr rfl),hnone] at hprobes
    refine ⟨hst,?_,?_,?_⟩ <;> intro _ <;> rw [hprobes]
    · simp
    · rw [hcirc]
      rfl
    · simpa using hn.1
  · have hnone : w.probes = [] := hn.2 ho hu
    rw [hr] at hcirc hprobes hper
    have hnew : w'.probes = [⟨true,w'.period⟩] := by
      rw [hprobes,hper]
      simp only [World.admitted,if_true,List.filter_append]
      rw [show w.outstanding.filter Call.isProbe = [] from hnone]
      rfl
    refine ⟨hst,?_,?_,?_⟩ <;> intro _ <;> rw [hnew]
    · simp
    · rw [hcirc]
      rfl
    · simp only [List.length_singleton,Nat.cast_one]
      omega
  · rw [hr] at hcirc hprobes hper
    have hsame : w'.period = w.period := by
      rw [hper,World.nextPeriod,if_neg]
      rintro ⟨hx,-⟩
      rw [ho] at hx
      cases hx
    have hnew : w'.probes = w.probes ++ [⟨true,w'.period⟩] := by
      rw [hprobes,hper]
      simp [World.admitted,World.probes]
    have hcount := h.counted ho
    refine ⟨hst,?_,?_,?_⟩ <;> intro _ <;> rw [hnew]
    · intro c hc
      rcases List.mem_append.mp hc with hc | hc
      · rw [hsame]
        exact h.current ho c hc
      · rw [List.mem_singleton.mp hc]
    · rw [hcirc]
      simp only [List.length_append,List.length_singleton]
      push_cast
      omega
    · simp only [List.length_append,List.length_singleton]
      push_cast
      omega

theorem probes_released {i : Nat} {call : Call} (hi : w.outstanding[i]? = some call)
    (ho : w'.outstanding = w.outstanding.eraseIdx i) :
    (w'.probes.length : Int) = w.probes.length - (if call.isProbe then 1 else 0) := by
  have hperm := ((eraseIdx_perm hi).filter Call.isProbe).length_eq
  rw [← ho] at hperm
  unfold World.probes
  cases hb : call.isProbe with
  | false => simp_all
  | true =>
    simp only [List.filter_cons,hb,if_true,List.length_cons] at hperm ⊢
    omega

theorem ProbeInv.report {now : Int} {i : Nat} {outcome : Outcome} (h : ProbeInv cfg p w)
    (hs : w.step cfg p (.report now i outcome) = some w') : ProbeInv cfg p w' := by
  have hst := h.toSound.step hs
  obtain ⟨call,hi,-,hcirc,hper,hout,-,-,-⟩ := step_report h.stable hs
  by_cases hh : (w.circuit cfg p).state = .halfOpen
  · have he : (cfg.providerConfig p).enabled = true := h.enabled (by rw [hh]; decide)
    have hlen := probes_released hi hout
    rcases settle_halfOpen (cfg.reportArgs p now outcome call.isProbe)
        (cfg.trips p now outcome call.isProbe w.db) he hh with
      ⟨-,-,hr⟩ | ⟨-,-,hr⟩ | ⟨-,hr⟩
    · rw [hr] at hcirc
      have hinfl : (w'.circuit cfg p).inflight =
          (w.circuit cfg p).inflight - (if call.isProbe then 1 else 0) := by
        rw [hcirc]
        change ((w.circuit cfg p).release call.isProbe).inflight = _
        unfold Circuit.release
        split_ifs <;> simp
      have hb := h.bounded hh
      have hc := h.counted hh
      refine ⟨hst,?_,?_,?_⟩ <;> intro _
      · intro c hcm
        rw [hper]
        apply h.current hh
        rw [World.probes,List.mem_filter,hout] at hcm
        exact List.mem_filter.mpr ⟨List.mem_of_mem_eraseIdx hcm.1,hcm.2⟩
      · rw [hinfl,hlen,hc]
      · rw [hlen]
        split_ifs <;> omega
    · apply ProbeInv.of_not_halfOpen hst
      rw [hcirc,hr]
      decide
    · apply ProbeInv.of_not_halfOpen hst
      rw [hcirc,hr]
      simp [Circuit.opened]
  · apply ProbeInv.of_not_halfOpen hst
    rw [hcirc]
    exact settle_of_not_halfOpen hh

theorem ProbeInv.step {e : Event} (h : ProbeInv cfg p w) (hn : NoCarriedProbe cfg p w e)
    (hs : w.step cfg p e = some w') : ProbeInv cfg p w' := by
  have foreign (he : e.foreign = true) : ProbeInv cfg p w' := by
    obtain ⟨-,hc⟩ := foreign_circuit he h.stable hs
    obtain ⟨-,-,hper,hout,-⟩ := step_foreign he hs
    exact h.of_same (h.toSound.step hs) hc hper (by rw [World.probes,hout,World.probes])
  cases e with
  | allow now => exact h.allow hn hs
  | report now i outcome => exact h.report hs
  | foreignAllow q now => exact foreign rfl
  | foreignReport q now outcome isProbe => exact foreign rfl

end Accounting

def lateConfig : Config :=
  { keyPrefix := "cb:"
    defaults :=
      { enabled := true
        windowSeconds := 60
        bucketSizeSeconds := 5
        minRequests := 1
        failureRateThreshold := 0.5
        openCooldownSeconds := 1
        halfOpenMaxInflight := 1
        halfOpenSuccessesToClose := 2 }
    providers := [] }

theorem probe_accounting (cfg : Config) (p : String) (es : List Event) (w : World)
    (hc : EveryStep (World.step cfg p) (NoCarriedProbe cfg p) .start es)
    (h : exec (World.step cfg p) .start es = some w) : ProbeAccounting cfg p w := by
  have hinv : ProbeInv cfg p w :=
    exec_invariant_of_steps _ (fun _ _ _ hi hn hs => hi.step hn hs) (probeInv_start cfg p) hc h
  exact hinv.accounting

def carriedProbe : List Event :=
  [.allow 0,.allow 0,.report 0 0 .failure,.allow 1,.report 1 0 .failure,.allow 2]

instance (cfg : Config) (p : String) (w : World) : Decidable (ProbeAccounting cfg p w) :=
  inferInstanceAs (Decidable (_ → _ ∧ _))

theorem carried_probe_breaks_accounting :
    ¬ ∀ cfg p es w, exec (World.step cfg p) .start es = some w → ProbeAccounting cfg p w := by
  intro h
  obtain ⟨w,hw,hn⟩ := reaches
    (o := exec (World.step lateConfig "openai") .start carriedProbe) (P := fun w => ¬ ProbeAccounting lateConfig "openai" w)
    (by decide +kernel)
  exact hn (h lateConfig "openai" carriedProbe w hw)

theorem probe_accounting_single_probe :
    ∃ w, exec (World.step lateConfig "openai") .start
        [.allow 0,.report 0 0 .failure,.allow 1] = some w ∧
      (w.circuit lateConfig "openai").state = .halfOpen ∧ ProbeAccounting lateConfig "openai" w := by
  obtain ⟨w,hw,hn⟩ := reaches
    (o := exec (World.step lateConfig "openai") .start [.allow 0,.report 0 0 .failure,.allow 1])
    (P := fun w => (w.circuit lateConfig "openai").state = .halfOpen) (by decide +kernel)
  exact ⟨w,hw,hn,probe_accounting lateConfig "openai" _ w (by decide +kernel) hw⟩

end PrismGateway.CircuitBreaker
