import PrismGateway.Lib.Redis
import Mathlib.Algebra.Group.Nat.Defs
import Mathlib.Data.Int.Basic
import Mathlib.Data.List.Basic

namespace PrismGateway.CircuitBreaker
open Lib

inductive State where
  | closed
  | open
  | halfOpen
  deriving DecidableEq, Repr

inductive Outcome where
  | success
  | failure
  deriving DecidableEq, Repr

inductive TextField where
  | state
  deriving DecidableEq, Repr

inductive NumField where
  | openUntil
  | inflight
  | successes
  | ok
  | fail
  deriving DecidableEq, Repr

abbrev Db := Redis.Db String TextField State NumField

inductive Reason where
  | none
  | probeSuccess
  | halfOpenFailure
  | failureRate
  deriving DecidableEq, Repr

structure AllowReply where
  allowed : Bool
  state : State
  isProbe : Bool
  deriving DecidableEq, Repr

structure ReportReply where
  transitioned : Bool
  fromState : State
  toState : State
  reason : Reason
  deriving DecidableEq, Repr

def halfOpenGate (stateKey : String) (now maxInflight inflight : Int) (db : Db) :
    AllowReply × Db :=
  if inflight ≥ maxInflight then (⟨false,.halfOpen,false⟩,db)
  else (⟨true,.halfOpen,true⟩,Redis.hincrby db now stateKey .inflight 1)

def luaCBAllow (stateKey : String) (now maxInflight : Int) (db : Db) : AllowReply × Db :=
  let state := (Redis.hget db now stateKey .state).getD .closed
  let openUntil := (Redis.hgetNum db now stateKey .openUntil).getD 0
  let inflight := (Redis.hgetNum db now stateKey .inflight).getD 0
  match state with
  | .open =>
    if now < openUntil then (⟨false,.open,false⟩,db)
    else
      let db := Redis.hmset db now stateKey [(.state,.halfOpen)] [(.inflight,0),(.successes,0)]
      let db := Redis.persist db now stateKey
      halfOpenGate stateKey now maxInflight 0 db
  | .halfOpen => halfOpenGate stateKey now maxInflight inflight db
  | .closed => (⟨true,.closed,false⟩,db)

def pow10 (n : Nat) : Nat := 10 ^ n

def trimZeros (cs : List Char) : List Char := (cs.reverse.dropWhile (· = '0')).reverse

def luaScientific (n : Nat) : String :=
  let e := (Nat.repr n).length - 1
  let unit := pow10 (e - 13)
  let q := n / unit
  let r := n % unit
  let m := if 2 * r > unit ∨ (2 * r = unit ∧ q % 2 = 1) then q + 1 else q
  let e := if m = pow10 14 then e + 1 else e
  let digits := (Nat.repr m).toList
  let frac := trimZeros (digits.tail.take 13)
  let point := if frac = [] then "" else "."
  String.ofList (digits.take 1) ++ point ++ String.ofList frac ++ "e+" ++ toString e

def luaNumberLimit : Int := 100000000000000

def luaNumberToString (n : Int) : String :=
  if n.natAbs < luaNumberLimit then toString n
  else if n < 0 then "-" ++ luaScientific n.natAbs
  else luaScientific n.natAbs

structure ReportArgs where
  now : Int
  outcome : Outcome
  isProbe : Bool
  cooldown : Int
  successesToClose : Int
  bucketTTL : Int
  windowBuckets : Int
  bucketSize : Int
  minRequests : Int
  failureThreshold : Float
  baseKey : String

def outcomeField : Outcome → NumField
  | .success => .ok
  | .failure => .fail

def recordOutcome (stateKey winKey : String) (a : ReportArgs) (db : Db) : Db :=
  let db := if a.isProbe then Redis.hincrby db a.now stateKey .inflight (-1) else db
  let db := Redis.hincrby db a.now winKey (outcomeField a.outcome) 1
  Redis.expire db a.now winKey a.bucketTTL

def luaWinKey (a : ReportArgs) (i : Nat) : String :=
  let currentBucketTS := Int.fdiv a.now a.bucketSize * a.bucketSize
  a.baseKey ++ ":win:" ++ luaNumberToString (currentBucketTS - i * a.bucketSize)

def windowTotal (a : ReportArgs) (f : NumField) (db : Db) : Int :=
  (List.range a.windowBuckets.toNat).foldl
    (fun total i => total + (Redis.hgetNum db a.now (luaWinKey a i) f).getD 0) 0

def tripsOpen (a : ReportArgs) (totalOk totalFail : Int) : Bool :=
  let total := totalOk + totalFail
  decide (total ≥ a.minRequests) &&
    decide (Float.ofInt totalFail / Float.ofInt total ≥ a.failureThreshold)

def openCircuit (stateKey : String) (a : ReportArgs) (db : Db) : Db :=
  Redis.hmset db a.now stateKey [(.state,.open)]
    [(.openUntil,a.now + a.cooldown),(.inflight,0),(.successes,0)]

def luaCBReport (stateKey winKey : String) (a : ReportArgs) (db : Db) : ReportReply × Db :=
  let state := (Redis.hget db a.now stateKey .state).getD .closed
  let db := recordOutcome stateKey winKey a db
  match state, a.outcome with
  | .halfOpen, .success =>
    let db := Redis.hincrby db a.now stateKey .successes 1
    let successes := (Redis.hgetNum db a.now stateKey .successes).getD 0
    if successes ≥ a.successesToClose then
      (⟨true,.halfOpen,.closed,.probeSuccess⟩,Redis.del db stateKey)
    else (⟨false,.halfOpen,.halfOpen,.none⟩,db)
  | .halfOpen, .failure =>
    (⟨true,.halfOpen,.open,.halfOpenFailure⟩,openCircuit stateKey a db)
  | .closed, .failure =>
    if tripsOpen a (windowTotal a .ok db) (windowTotal a .fail db) then
      (⟨true,.closed,.open,.failureRate⟩,openCircuit stateKey a db)
    else (⟨false,.closed,.closed,.none⟩,db)
  | state, _ => (⟨false,state,state,.none⟩,db)

end PrismGateway.CircuitBreaker
