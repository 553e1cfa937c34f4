import PrismGateway.Orchestrator.Courses

namespace PrismGateway.Orchestrator

open Lib Config Router Providers
open Prog

inductive Delivery where
  | success (events : List StreamEvent)
  | failedBefore (err : GoError)
  | failedAfter (tokens : List StreamEvent) (err : GoError)

namespace Delivery

def buffered : Delivery → Option GoError
  | .success _ => none
  | .failedBefore err => some err
  | .failedAfter _ err => some err

-- what `ChatCompletionStream` returns, and what then comes over its channel
def opened : Delivery → Option GoError
  | .success _ => none
  | .failedBefore err => some err
  | .failedAfter _ _ => none

def run : Delivery → StreamRun
  | .success events => { events := events }
  | .failedBefore _ => {}
  | .failedAfter tokens err => { events := tokens ++ [.error err.message] }

end Delivery

def Effect.accounting : Effect → Bool
  | .event (.call (.report _ _ _)) => true
  | .recordLatency _ _ => true
  | .updateModelStats _ _ => true
  | .submitStat _ => true
  | _ => false

def accounted {α : Type} (p : Step α) : List Effect := p.effects.filter Effect.accounting

section Branches

variable (g : Gateway) (s : Setting) (virtualAlias : Option String) (routeGroup : String) (i : ℕ)
  (m : ModelConfig) (key : String) (isProbe : Bool) (st : LoopState)

def streamedAccounts (d : Delivery) : List Effect :=
  accounted (Gateway.streamedAttempt { s with stream := fun _ => d.run } i m key isProbe st d.opened)

def bufferedAccounts (d : Delivery) : List Effect :=
  accounted (g.bufferedAttempt s virtualAlias routeGroup i m key isProbe st d.buffered)

theorem accounted_releases : s.releases.filter Effect.accounting = [] := by
  simp [Setting.releases,Effect.accounting]

theorem streamedAccounts_eq (d : Delivery) :
    streamedAccounts s i m key isProbe st d =
      match d.opened with
      | none => [called (.report key .success isProbe)]
      | some err =>
        if err.streamingNotSupported then []
        else if isCBFailure (classify err) then [called (.report key .failure isProbe)] else [] := by
  unfold streamedAccounts accounted
  cases d.opened with
  | none =>
    have hreleases := accounted_releases { s with stream := fun _ => d.run }
    simp only [Gateway.streamedAttempt,Setting.writeSSEStream,Setting.logStreamRequest,emit_bind,emits,
      mk_bind,ret]
    split_ifs
    · simp [List.filter_cons,called,Effect.accounting,hreleases]
    · simp [List.filter_cons,called,Effect.accounting]
  | some err =>
    simp only [Gateway.streamedAttempt]
    split_ifs
    · simp [fail,emit_bind,Effect.accounting]
    · simp [emits_bind,List.filter_cons,called,Effect.accounting]
    · simp [emits_bind,giveUp,emit_bind,List.filter_cons,called,Effect.accounting]
    · simp [emits_bind]
    · simp [emits_bind,giveUp,emit_bind,Effect.accounting]

theorem bufferedAccounts_eq (d : Delivery) :
    bufferedAccounts g s virtualAlias routeGroup i m key isProbe st d =
      match d.buffered with
      | none =>
        [.recordLatency m.name (s.latencyMs i),called (.report key .success isProbe),
          .updateModelStats m.name true,
          .submitStat ⟨m.name,1,0,s.latencyMs i,s.cost m (s.usage i)⟩]
      | some err =>
        [called (.report key (if isCBFailure (classify err) then .failure else .success) isProbe),
          .updateModelStats m.name false,.submitStat ⟨m.name,0,1,s.latencyMs i,0⟩] := by
  unfold bufferedAccounts accounted
  cases d.buffered with
  | none =>
    simp [Gateway.bufferedAttempt,emit_bind,emits_bind,List.filter_cons,called,Effect.accounting,
      accounted_releases]
  | some err =>
    simp only [Gateway.bufferedAttempt]
    split_ifs
    · simp [emit_bind,List.filter_cons,called,Effect.accounting]
    · simp [emit_bind,giveUp,List.filter_cons,called,Effect.accounting]
    · simp [emit_bind,List.filter_cons,called,Effect.accounting]
    · simp [emit_bind,giveUp,List.filter_cons,called,Effect.accounting]

theorem streamed_never_accounted_alike (d : Delivery) :
    streamedAccounts s i m key isProbe st d ≠
      bufferedAccounts g s virtualAlias routeGroup i m key isProbe st d := by
  have hstreamed : (streamedAccounts s i m key isProbe st d).length ≤ 1 := by
    rw [streamedAccounts_eq]
    split
    · simp
    · split_ifs
      · simp
      · simp
      · simp
  have hbuffered : 3 ≤ (bufferedAccounts g s virtualAlias routeGroup i m key isProbe st d).length := by
    rw [bufferedAccounts_eq]
    split
    · simp
    · simp
  intro h
  rw [h] at hstreamed
  omega

end Branches

theorem streamed_success_unrecorded :
    ¬ ∀ d, streamedAccounts quietSetting 0 { name := "opus", provider := "anthropic" } "anthropic:acme"
        false ⟨{},none⟩ d =
      bufferedAccounts plainGateway quietSetting none "" 0 { name := "opus", provider := "anthropic" }
        "anthropic:acme" false ⟨{},none⟩ d := by
  intro h
  have hlength := congrArg List.length (h (.success [.delta "hi" "" none,.done none none]))
  rw [streamedAccounts_eq,bufferedAccounts_eq] at hlength
  simp [Delivery.opened,Delivery.buffered] at hlength

end PrismGateway.Orchestrator
