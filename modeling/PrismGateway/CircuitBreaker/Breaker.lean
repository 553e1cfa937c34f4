import PrismGateway.CircuitBreaker.Script
import PrismGateway.Lib.Text

namespace PrismGateway.CircuitBreaker
open Lib

structure ProviderDefaults where
  enabled : Bool
  windowSeconds : Int
  bucketSizeSeconds : Int
  minRequests : Int
  failureRateThreshold : Float
  openCooldownSeconds : Int
  halfOpenMaxInflight : Int
  halfOpenSuccessesToClose : Int
  deriving DecidableEq

structure ProviderOverride where
  enabled : Option Bool
  windowSeconds : Option Int
  minRequests : Option Int
  failureRateThreshold : Option Float
  openCooldownSeconds : Option Int
  halfOpenMaxInflight : Option Int
  halfOpenSuccessesToClose : Option Int
  deriving DecidableEq

structure Config where
  keyPrefix : String
  defaults : ProviderDefaults
  providers : List (String × ProviderOverride)

def ProviderDefaults.override (d : ProviderDefaults) (o : ProviderOverride) : ProviderDefaults :=
  { d with
    enabled := o.enabled.getD d.enabled
    windowSeconds := o.windowSeconds.getD d.windowSeconds
    minRequests := o.minRequests.getD d.minRequests
    failureRateThreshold := o.failureRateThreshold.getD d.failureRateThreshold
    openCooldownSeconds := o.openCooldownSeconds.getD d.openCooldownSeconds
    halfOpenMaxInflight := o.halfOpenMaxInflight.getD d.halfOpenMaxInflight
    halfOpenSuccessesToClose := o.halfOpenSuccessesToClose.getD d.halfOpenSuccessesToClose }

def Config.providerConfig (cfg : Config) (provider : String) : ProviderDefaults :=
  match cfg.providers.lookup provider with
  | none => cfg.defaults
  | some o => cfg.defaults.override o

def baseKey (cfg : Config) (provider : String) : String :=
  cfg.keyPrefix ++ "\x7b" ++ provider ++ "\x7d"

def stateKey (cfg : Config) (provider : String) : String :=
  cfg.keyPrefix ++ "\x7b" ++ provider ++ "\x7d:state"

def winKey (cfg : Config) (provider : String) (bucketTS : Int) : String :=
  cfg.keyPrefix ++ "\x7b" ++ provider ++ "\x7d:win:" ++ toString bucketTS

theorem winKey_toList (cfg : Config) (p : String) (ts : Int) :
    (winKey cfg p ts).toList =
      (cfg.keyPrefix ++ "\x7b" ++ p ++ "\x7d:win").toList ++ ':' :: (toString ts).toList := by
  simp [winKey,String.toList_append]

theorem stateKey_toList (cfg : Config) (p : String) :
    (stateKey cfg p).toList = (cfg.keyPrefix ++ "\x7b" ++ p ++ "\x7d").toList ++ ':' :: "state".toList := by
  simp [stateKey,String.toList_append]

theorem colon_not_mem_toString (ts : Int) : ':' ∉ (toString ts).toList := by
  intro h
  rcases mem_toString_int h with h | h
  · exact absurd h (by decide)
  · exact absurd h (by decide)

theorem winKey_ne_stateKey (cfg : Config) (p q : String) (ts : Int) :
    winKey cfg p ts ≠ stateKey cfg q := by
  intro h
  have hl := congrArg String.toList h
  rw [winKey_toList,stateKey_toList] at hl
  have hd := (split_at_last (colon_not_mem_toString ts) (by decide) hl).2
  have hs : 's' ∈ (toString ts).toList := by
    rw [hd]
    decide
  rcases mem_toString_int hs with h | h
  · exact absurd h (by decide)
  · exact absurd h (by decide)

theorem winKey_injective {cfg : Config} {p q : String} {ts us : Int}
    (h : winKey cfg p ts = winKey cfg q us) : p = q ∧ ts = us := by
  have hl := congrArg String.toList h
  rw [winKey_toList,winKey_toList] at hl
  obtain ⟨hp,ht⟩ := split_at_last (colon_not_mem_toString ts) (colon_not_mem_toString us) hl
  refine ⟨?_,toString_int_injective (String.toList_inj.mp ht)⟩
  have hs := String.toList_inj.mp hp
  rw [String.append_left_inj,String.append_right_inj] at hs
  exact hs

theorem stateKey_injective {cfg : Config} {p q : String} (h : stateKey cfg p = stateKey cfg q) :
    p = q := by
  rw [stateKey,stateKey,String.append_left_inj,String.append_right_inj] at h
  exact h

def Config.allow (cfg : Config) (provider : String) (now : Int) (db : Db) : (Bool × Bool) × Db :=
  let pcfg := cfg.providerConfig provider
  if !pcfg.enabled then ((true,false),db)
  else
    let (reply,db) := luaCBAllow (stateKey cfg provider) now pcfg.halfOpenMaxInflight db
    ((reply.allowed,reply.isProbe),db)

def Config.reportArgs (cfg : Config) (provider : String) (now : Int) (outcome : Outcome)
    (isProbe : Bool) : ReportArgs :=
  let pcfg := cfg.providerConfig provider
  { now := now
    outcome := outcome
    isProbe := isProbe
    cooldown := pcfg.openCooldownSeconds
    successesToClose := pcfg.halfOpenSuccessesToClose
    bucketTTL := pcfg.windowSeconds + pcfg.bucketSizeSeconds
    windowBuckets := pcfg.windowSeconds.tdiv pcfg.bucketSizeSeconds
    bucketSize := pcfg.bucketSizeSeconds
    minRequests := pcfg.minRequests
    failureThreshold := pcfg.failureRateThreshold
    baseKey := baseKey cfg provider }

def Config.bucketTS (cfg : Config) (provider : String) (now : Int) : Int :=
  let bucketSize := (cfg.providerConfig provider).bucketSizeSeconds
  now.tdiv bucketSize * bucketSize

def Config.report (cfg : Config) (provider : String) (now : Int) (outcome : Outcome)
    (isProbe : Bool) (db : Db) : Option Db :=
  let pcfg := cfg.providerConfig provider
  if !pcfg.enabled then some db
  else if pcfg.bucketSizeSeconds = 0 then none
  else
    some (luaCBReport (stateKey cfg provider) (winKey cfg provider (cfg.bucketTS provider now))
      (cfg.reportArgs provider now outcome isProbe) db).2

end PrismGateway.CircuitBreaker
