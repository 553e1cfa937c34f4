import PrismGateway.Api.MessagesPassthrough
import PrismGateway.Lib.GoStrings
import PrismGateway.Lib.Run
import Mathlib.Algebra.Order.Field.Rat

namespace PrismGateway.Api.ClaudeCode

open Lib MessagesPassthrough

structure ClaudeCodeTenantConfig where
  enabled : Bool := false
  monthlyBudget : ℚ := 0
  timezone : String := ""

structure BudgetEnforcement where
  enabled : Bool := false
  mode : String := ""
  blockStatus : ℕ := 0
  hardPct : ℚ := 0

structure TenantConfig where
  claudeCode : Option ClaudeCodeTenantConfig := none
  budgetEnforcement : BudgetEnforcement := {}

namespace BudgetEnforcement

variable (enf : BudgetEnforcement)

def hardPctOrDefault : ℚ := if enf.hardPct ≤ 0 then 1 else enf.hardPct

def blockStatusOrDefault : ℕ := if enf.blockStatus = 0 then 402 else enf.blockStatus

end BudgetEnforcement

structure Window where
  monthStart : ℤ
  monthEnd : ℤ
  deriving DecidableEq

abbrev Location := ℤ → Window

structure TimeZones where
  loadLocation : String → Option Location
  buenosAires : Location
  loads_default : loadLocation "America/Buenos_Aires" = some buenosAires

def TimeZones.location (z : TimeZones) (timezone : String) : Location :=
  (z.loadLocation (if timezone = "" then "America/Buenos_Aires" else timezone)).getD z.buenosAires

structure LogRow where
  tenantID : String
  createdAt : ℤ
  cost : Option ℚ
  deriving DecidableEq

def LogRow.counted (tenantID : String) (month : Window) (row : LogRow) : ℚ :=
  if row.tenantID = tenantID ∧ month.monthStart ≤ row.createdAt ∧ row.createdAt < month.monthEnd then
    row.cost.getD 0
  else 0

def getClaudeCodeMonthlySpend (tenantID : String) (month : Window) : List LogRow → ℚ
  | [] => 0
  | row :: log => row.counted tenantID month + getClaudeCodeMonthlySpend tenantID month log

section Cost

structure ClaudeCodeFamilyPricing where
  input : ℚ := 0
  output : ℚ := 0

structure ModelPricing where
  promptPer1M : ℚ := 0
  completionPer1M : ℚ := 0

structure Prices where
  modelByName : String → Option ModelPricing
  claudeCodePricing : String → Option ClaudeCodeFamilyPricing

def claudeCodeModelFamily (name : String) : String :=
  let lower := GoStrings.toLower name
  if GoStrings.contains lower "haiku" then "haiku"
  else if GoStrings.contains lower "sonnet" then "sonnet"
  else if GoStrings.contains lower "opus" then "opus"
  else ""

def tokenCost (inputTokens outputTokens : ℤ) (input output : ℚ) : ℚ :=
  inputTokens / 1000000 * input + outputTokens / 1000000 * output

namespace Prices

variable (p : Prices)

def familyCost (name : String) (inputTokens outputTokens : ℤ) : Option ℚ :=
  if claudeCodeModelFamily name = "" then none
  else match p.claudeCodePricing (claudeCodeModelFamily name) with
    | none => none
    | some fp =>
      if fp.input = 0 ∧ fp.output = 0 then none
      else some (tokenCost inputTokens outputTokens fp.input fp.output)

def computeAnthropicCost (modelUsed modelRequested : Option String) (inputTokens outputTokens : ℤ) :
    Option ℚ :=
  if inputTokens = 0 ∧ outputTokens = 0 then none
  else
    let name := if modelUsed.getD "" = "" then modelRequested.getD "" else modelUsed.getD ""
    if name = "" then none
    else match p.modelByName name with
      | some mc =>
        if mc.promptPer1M ≠ 0 ∨ mc.completionPer1M ≠ 0 then
          some (tokenCost inputTokens outputTokens mc.promptPer1M mc.completionPer1M)
        -- an unpriced entry of the catalog leaves the price to the family
        else p.familyCost name inputTokens outputTokens
      | none => p.familyCost name inputTokens outputTokens

end Prices

inductive Reply where
  | failed
  | message (model : Option String) (inputTokens outputTokens : ℤ)
  | stream (bytes : List UInt8)

def Reply.cost (p : Prices) (modelRequested : Option String) : Reply → Option ℚ
  | .failed => none
  | .message model inputTokens outputTokens =>
    p.computeAnthropicCost model modelRequested inputTokens outputTokens
  | .stream bytes =>
    let a := (LineScanner.scan maxScanTokenSize bytes).foldl Audit.readLine {}
    p.computeAnthropicCost (stringPtr a.modelUsed) modelRequested a.inputTokens a.outputTokens

end Cost

inductive Outcome where
  | forbidden
  | refused (status : ℕ) (message : String)
  | unsupported
  | recorded
  | unrecorded
  deriving DecidableEq

inductive Stage where
  | checking (cc : ClaudeCodeTenantConfig) (enf : BudgetEnforcement) (month : Window)
  | admitted
  | logging (cost : Option ℚ)
  | inserting (row : LogRow)
  | ended (outcome : Outcome)

structure Request where
  tenantID : String
  modelRequested : Option String
  stage : Stage

structure World where
  now : ℤ
  log : List LogRow
  requests : List Request

/-- `resolved` is what `ResolveTenantConfig` answers, `failed` that the spend query fails, and no reply
that there is no provider for native messages. -/
inductive Event where
  | tick (now : ℤ)
  | request (tenantID : String) (modelRequested : Option String) (resolved : Option TenantConfig)
  | readSpend (i : ℕ) (failed : Bool)
  | reply (i : ℕ) (p : Prices) (reply : Option Reply)
  | stamp (i : ℕ)
  | insert (i : ℕ) (stored : Bool)

def TimeZones.gate (z : TimeZones) (now : ℤ) (resolved : Option TenantConfig) : Stage :=
  match resolved with
  | none => .ended .forbidden
  | some tc => match tc.claudeCode with
    | none => .ended .forbidden
    | some cc =>
      if cc.enabled = false then .ended .forbidden
      else if cc.monthlyBudget ≤ 0 then .admitted
      else if tc.budgetEnforcement.enabled = false then .admitted
      else .checking cc tc.budgetEnforcement (z.location cc.timezone now)

def claudeCodeBudgetCheck (tenantID : String) (cc : ClaudeCodeTenantConfig) (enf : BudgetEnforcement) :
    Option ℚ → Stage
  | none => .admitted
  | some spend =>
    if enf.hardPctOrDefault ≤ spend / cc.monthlyBudget then
      if enf.mode = "block" then
        .ended (.refused enf.blockStatusOrDefault
          ("monthly Claude Code budget exceeded for tenant '" ++ tenantID ++ "'"))
      -- degrade and report_only let the request through
      else .admitted
    else .admitted

namespace World

variable (w : World)

def start (now : ℤ) : World := ⟨now,[],[]⟩

def move (i : ℕ) (q : Request) (stage : Stage) : World :=
  { w with requests := w.requests.set i { q with stage := stage } }

def spend (tenantID : String) (month : Window) : ℚ := getClaudeCodeMonthlySpend tenantID month w.log

def insert (i : ℕ) (q : Request) (row : LogRow) (stored : Bool) : World :=
  if stored then { w.move i q (.ended .recorded) with log := w.log ++ [row] }
  else w.move i q (.ended .unrecorded)

end World

def TimeZones.step (z : TimeZones) (w : World) : Event → Option World
  | .tick now => if w.now ≤ now then some { w with now := now } else none
  | .request tenantID modelRequested resolved =>
    some { w with requests := w.requests ++ [⟨tenantID,modelRequested,z.gate w.now resolved⟩] }
  | .readSpend i failed => match w.requests[i]? with
    | none => none
    | some q => match q.stage with
      | .checking cc enf month => some (w.move i q (claudeCodeBudgetCheck q.tenantID cc enf
          (if failed then none else some (w.spend q.tenantID month))))
      | _ => none
  | .reply i p reply => match w.requests[i]? with
    | none => none
    | some q => match q.stage with
      | .admitted => match reply with
        | none => some (w.move i q (.ended .unsupported))
        | some reply => some (w.move i q (.logging (reply.cost p q.modelRequested)))
      | _ => none
  | .stamp i => match w.requests[i]? with
    | none => none
    | some q => match q.stage with
      | .logging cost => some (w.move i q (.inserting ⟨q.tenantID,w.now,cost⟩))
      | _ => none
  | .insert i stored => match w.requests[i]? with
    | none => none
    | some q => match q.stage with
      | .inserting row => some (w.insert i q row stored)
      | _ => none

end PrismGateway.Api.ClaudeCode
