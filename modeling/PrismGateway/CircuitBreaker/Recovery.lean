import PrismGateway.CircuitBreaker.Probes

namespace PrismGateway.CircuitBreaker
open Lib

def Logged.provesRecovery (k : Nat) (r : Logged) : Bool :=
  r.state == .halfOpen && r.period == k && r.call.isProbe && r.call.period == k &&
    r.outcome == .success

def World.recoveries (w : World) (k : Nat) : Nat := w.log.countP (Logged.provesRecovery k)

def RecoveryByProbes (cfg : Config) (p : String) (w : World) (e : Event) (w' : World) : Prop :=
  (w.circuit cfg p).state = .halfOpen →
    ((w'.circuit cfg p).state = .closed →
      (cfg.providerConfig p).halfOpenSuccessesToClose ≤ w'.recoveries w.period) ∧
    ((w'.circuit cfg p).state = .open →
      ∃ now i call, e = .report now i .failure ∧ w.outstanding[i]? = some call ∧
        call.isProbe = true ∧ call.period = w.period)

def OnlyCurrentProbesReport (cfg : Config) (p : String) (w : World) : Event → Prop
  | .report _ i _ => (w.circuit cfg p).state = .halfOpen →
      ∀ call ∈ w.outstanding[i]?, call.isProbe = true ∧ call.period = w.period
  | _ => True

instance (cfg : Config) (p : String) (w : World) :
    DecidablePred (OnlyCurrentProbesReport cfg p w)
  | .allow _ => .isTrue trivial
  | .report _ _ _ => inferInstanceAs (Decidable (_ → ∀ call ∈ _, _ ∧ _))
  | .foreignAllow _ _ => .isTrue trivial
  | .foreignReport _ _ _ _ => .isTrue trivial

structure RecoveryInv (cfg : Config) (p : String) (w : World) : Prop extends Sound cfg p w where
  periods : ∀ r ∈ w.log, r.period ≤ w.period
  counted : (w.circuit cfg p).state = .halfOpen →
    (w.circuit cfg p).successes = w.recoveries w.period

section Recovery

variable {cfg : Config} {p : String} {w w' : World}

theorem recoveries_fresh (h : ∀ r ∈ w.log, r.period ≤ w.period) : w.recoveries (w.period + 1) = 0 := by
  rw [World.recoveries,List.countP_eq_zero]
  intro r hr hp
  have hle := h r hr
  simp only [Logged.provesRecovery,Bool.and_eq_true,beq_iff_eq] at hp
  omega

theorem recoveryInv_start (cfg : Config) (p : String) : RecoveryInv cfg p .start := by
  have hc : (World.start.circuit cfg p) = Circuit.initial := rfl
  refine ⟨sound_start cfg p,?_,?_⟩
  · simp [World.start]
  · rw [hc]
    intro h
    cases h

theorem RecoveryInv.of_same (h : RecoveryInv cfg p w) (hs : Sound cfg p w')
    (hc : w'.circuit cfg p = w.circuit cfg p) (hp : w'.period = w.period)
    (hl : w'.log = w.log) : RecoveryInv cfg p w' := by
  refine ⟨hs,?_,?_⟩
  · rw [hl,hp]
    exact h.periods
  · rw [hc,hp,World.recoveries,hl]
    exact h.counted

theorem RecoveryInv.allow {now : Int} (h : RecoveryInv cfg p w)
    (hs : w.step cfg p (.allow now) = some w') : RecoveryInv cfg p w' := by
  have hst := h.toSound.step hs
  obtain ⟨-,hcirc,hper,-,hlog⟩ := step_allow h.stable hs
  have opens {c : Circuit} (ho : (w.circuit cfg p).state = .open) (hh : c.state = .halfOpen) (hz : c.successes = 0)
      (hr : ((w.circuit cfg p).ask (cfg.providerConfig p) now).2 = c) : RecoveryInv cfg p w' := by
    have hnext : w'.period = w.period + 1 := by
      rw [hper,hr,World.nextPeriod,if_pos ⟨ho,hh⟩]
    refine ⟨hst,?_,?_⟩
    · intro r hm
      have := h.periods r (hlog ▸ hm)
      omega
    · intro _
      rw [hcirc,hr,hz,hnext,World.recoveries,hlog]
      exact_mod_cast (recoveries_fresh h.periods).symm
  rcases ask_cases (cfg.providerConfig p) (w.circuit cfg p) now with
    ⟨hc,-⟩ | ⟨-,ho,-,-,hr⟩ | ⟨-,ho,-,-,hr⟩ | ⟨-,ho,-,hr⟩
  · exact h.of_same hst (hcirc.trans hc) (hper.trans (nextPeriod_of_same hc)) hlog
  · exact opens ho rfl rfl (congrArg Prod.snd hr)
  · exact opens ho rfl rfl (congrArg Prod.snd hr)
  · rw [hr] at hcirc hper
    have hsame : w'.period = w.period := by
      rw [hper,World.nextPeriod,if_neg]
      rintro ⟨hx,-⟩
      rw [ho] at hx
      cases hx
    refine ⟨hst,?_,?_⟩
    · rw [hlog,hsame]
      exact h.periods
    · intro _
      rw [hcirc,hsame,World.recoveries,hlog]
      exact h.counted ho

theorem recoveries_snoc (r : Logged) (k : Nat) (hl : w'.log = w.log ++ [r]) :
    w'.recoveries k = w.recoveries k + (if r.provesRecovery k then 1 else 0) := by
  rw [World.recoveries,hl,List.countP_append,List.countP_singleton,World.recoveries]

theorem report_recovery {now : Int} {i : Nat} {outcome : Outcome} {call : Call}
    (h : RecoveryInv cfg p w) (hn : OnlyCurrentProbesReport cfg p w (.report now i outcome))
    (hh : (w.circuit cfg p).state = .halfOpen) (hi : w.outstanding[i]? = some call)
    (ho : outcome = .success)
    (hl : w'.log = w.log ++ [⟨call,outcome,now,w.period,(w.circuit cfg p).state⟩]) :
    (w'.recoveries w.period : Int) = (w.circuit cfg p).successes + 1 := by
  obtain ⟨hprobe,hperiod⟩ := hn hh call (by rw [hi]; rfl)
  have hrec := recoveries_snoc _ w.period hl
  rw [if_pos (by simp [Logged.provesRecovery,hh,hprobe,hperiod,ho])] at hrec
  rw [h.counted hh,hrec]
  push_cast
  rfl

theorem same_state_recovery {e : Event} (hc : (w'.circuit cfg p).state = .halfOpen ∨
    (w.circuit cfg p).state ≠ .halfOpen) : RecoveryByProbes cfg p w e w' := by
  intro hh
  rcases hc with hc | hc
  · rw [hc]
    exact ⟨nofun,nofun⟩
  · exact absurd hh hc

theorem RecoveryInv.report {now : Int} {i : Nat} {outcome : Outcome} (h : RecoveryInv cfg p w)
    (hn : OnlyCurrentProbesReport cfg p w (.report now i outcome))
    (hs : w.step cfg p (.report now i outcome) = some w') :
    RecoveryInv cfg p w' ∧ RecoveryByProbes cfg p w (.report now i outcome) w' := by
  have hst := h.toSound.step hs
  obtain ⟨call,hi,-,hcirc,hper,-,hlog,-,-⟩ := step_report h.stable hs
  have hperiods : ∀ r ∈ w'.log, r.period ≤ w'.period := by
    intro r hr
    rw [hlog,List.mem_append,List.mem_singleton] at hr
    rw [hper]
    rcases hr with hr | rfl
    · exact h.periods r hr
    · exact le_refl _
  by_cases hh : (w.circuit cfg p).state = .halfOpen
  · have he : (cfg.providerConfig p).enabled = true := h.enabled (by rw [hh]; decide)
    rcases settle_halfOpen (cfg.reportArgs p now outcome call.isProbe)
        (cfg.trips p now outcome call.isProbe w.db) he hh with
      ⟨ho,-,hr⟩ | ⟨ho,hk,hr⟩ | ⟨ho,hr⟩
    · have hrec := report_recovery h hn hh hi ho hlog
      rw [hr] at hcirc
      have hstate : (w'.circuit cfg p).state = .halfOpen := by
        rw [hcirc]
        exact (Circuit.release_state _ _).trans hh
      refine ⟨⟨hst,hperiods,?_⟩,?_⟩
      · intro _
        rw [hper,hrec,hcirc]
      · exact same_state_recovery (.inl hstate)
    · have hrec := report_recovery h hn hh hi ho hlog
      rw [hr] at hcirc
      have hstate : (w'.circuit cfg p).state = .closed := by rw [hcirc]; rfl
      refine ⟨⟨hst,hperiods,?_⟩,?_⟩
      · intro hx
        rw [hstate] at hx
        cases hx
      · intro _
        refine ⟨fun _ => ?_,fun hx => ?_⟩
        · rw [hrec]
          exact hk
        · rw [hstate] at hx
          cases hx
    · rw [hr] at hcirc
      have hstate : (w'.circuit cfg p).state = .open := by rw [hcirc]; rfl
      refine ⟨⟨hst,hperiods,?_⟩,?_⟩
      · intro hx
        rw [hstate] at hx
        cases hx
      · intro _
        refine ⟨fun hx => ?_,fun _ => ?_⟩
        · rw [hstate] at hx
          cases hx
        · obtain ⟨hprobe,hperiod⟩ := hn hh call (by rw [hi]; rfl)
          have hf : outcome = .failure := ho
          exact ⟨now,i,call,by rw [hf],hi,hprobe,hperiod⟩
  · have hno : (w'.circuit cfg p).state ≠ .halfOpen := by
      rw [hcirc]
      exact settle_of_not_halfOpen hh
    exact ⟨⟨hst,hperiods,fun hx => absurd hx hno⟩,same_state_recovery (.inr hh)⟩

theorem allow_keeps_halfOpen {now : Int} (hs : Stable cfg p w)
    (h : w.step cfg p (.allow now) = some w') (hh : (w.circuit cfg p).state = .halfOpen) :
    (w'.circuit cfg p).state = .halfOpen := by
  obtain ⟨-,hcirc,-⟩ := step_allow hs h
  rw [hcirc]
  rcases ask_cases (cfg.providerConfig p) (w.circuit cfg p) now with
    ⟨hc,-⟩ | ⟨-,ho,-⟩ | ⟨-,ho,-⟩ | ⟨-,-,-,hr⟩
  · rw [hc,hh]
  · rw [hh] at ho
    cases ho
  · rw [hh] at ho
    cases ho
  · rw [hr]
    exact hh

theorem RecoveryInv.step {e : Event} (h : RecoveryInv cfg p w)
    (hn : OnlyCurrentProbesReport cfg p w e) (hs : w.step cfg p e = some w') :
    RecoveryInv cfg p w' ∧ RecoveryByProbes cfg p w e w' := by
  have foreign (he : e.foreign = true) :
      RecoveryInv cfg p w' ∧ RecoveryByProbes cfg p w e w' := by
    obtain ⟨-,hc⟩ := foreign_circuit he h.stable hs
    obtain ⟨-,-,hper,-,hlog⟩ := step_foreign he hs
    refine ⟨h.of_same (h.toSound.step hs) hc hper hlog,same_state_recovery ?_⟩
    rw [hc]
    exact em _
  cases e with
  | allow now =>
    refine ⟨h.allow hs,?_⟩
    by_cases hh : (w.circuit cfg p).state = .halfOpen
    · exact same_state_recovery (.inl (allow_keeps_halfOpen h.stable hs hh))
    · exact same_state_recovery (.inr hh)
  | report now i outcome => exact h.report hn hs
  | foreignAllow q now => exact foreign rfl
  | foreignReport q now outcome isProbe => exact foreign rfl

end Recovery

theorem recovery_by_current_probes (cfg : Config) (p : String) (es : List Event) (e : Event)
    (w w' : World)
    (hc : EveryStep (World.step cfg p) (OnlyCurrentProbesReport cfg p) .start (es ++ [e]))
    (h : exec (World.step cfg p) .start es = some w) (hs : w.step cfg p e = some w') :
    RecoveryByProbes cfg p w e w' := by
  obtain ⟨hes,he⟩ := everyStep_append _ h hc
  have hinv : RecoveryInv cfg p w :=
    exec_invariant_of_steps _ (fun _ _ _ hi hn hs => (hi.step hn hs).1) (recoveryInv_start cfg p)
      hes h
  exact (hinv.step he.head hs).2

def beforeStaleReport : List Event := [.allow 0,.allow 0,.report 0 0 .failure,.allow 1]

theorem stale_report_reopens :
    ¬ ∀ cfg p es e w w', exec (World.step cfg p) .start es = some w →
      w.step cfg p e = some w' → RecoveryByProbes cfg p w e w' := by
  intro h
  obtain ⟨w,hw,hh,hi,ho⟩ := reaches
    (o := exec (World.step lateConfig "openai") .start beforeStaleReport)
    (P := fun w => (w.circuit lateConfig "openai").state = .halfOpen ∧
      w.outstanding[0]? = some ⟨false,0⟩ ∧
      (w.step lateConfig "openai" (.report 1 0 .failure)).any (fun w' =>
        decide ((w'.circuit lateConfig "openai").state = .open)) = true) (by decide +kernel)
  obtain ⟨w',hs,hopen⟩ := reaches ho
  obtain ⟨now,i,call,he,hcall,hprobe,-⟩ := (h _ _ _ _ _ _ hw hs hh).2 hopen
  cases he
  rw [hi] at hcall
  cases hcall
  cases hprobe

def probedRecovery : List Event :=
  [.allow 0,.report 0 0 .failure,.allow 1,.report 1 0 .success,.allow 1]

theorem recovery_by_two_probes :
    ∃ w w', exec (World.step lateConfig "openai") .start probedRecovery = some w ∧
      w.step lateConfig "openai" (.report 2 0 .success) = some w' ∧
      (w.circuit lateConfig "openai").state = .halfOpen ∧
      (w'.circuit lateConfig "openai").state = .closed ∧
      RecoveryByProbes lateConfig "openai" w (.report 2 0 .success) w' := by
  obtain ⟨w,hw,hh,ho⟩ := reaches
    (o := exec (World.step lateConfig "openai") .start probedRecovery)
    (P := fun w => (w.circuit lateConfig "openai").state = .halfOpen ∧
      (w.step lateConfig "openai" (.report 2 0 .success)).any (fun w' =>
        decide ((w'.circuit lateConfig "openai").state = .closed)) = true) (by decide +kernel)
  obtain ⟨w',hs,hclosed⟩ := reaches ho
  refine ⟨w,w',hw,hs,hh,hclosed,?_⟩
  exact recovery_by_current_probes lateConfig "openai" _ _ w w' (by decide +kernel) hw hs

end PrismGateway.CircuitBreaker
