import Mathlib.Algebra.Order.Ring.Rat
import PrismGateway.Lib.Sql

namespace PrismGateway.Storage.Billing

open Lib.Sql

structure Uuid where
  string : String
  deriving DecidableEq, Repr

def Uuid.nil : Uuid := ⟨"00000000-0000-0000-0000-000000000000"⟩

/-- The object in a `metadata` column, each key with the text that `->>` reads there. -/
abbrev Metadata := List (String × String)

structure RequestLog where
  requestID : String
  attempt : ℕ
  ts : ℤ
  tenantID : String
  model : String
  provider : String
  status : String
  metadata : Option Metadata
  deriving DecidableEq, Repr

structure UsageRecord where
  ts : ℤ
  tenantID : String
  model : String
  provider : String
  promptTokens : ℤ
  completionTokens : ℤ
  totalTokens : ℤ
  costUSD : ℚ
  requestID : String
  deriving DecidableEq, Repr

def RequestLog.tag (rl : RequestLog) (key : String) : Option String :=
  rl.metadata.bind (fun metadata => metadata.lookup key)

def migrations : List Ddl :=
  [.createTable "request_log" [("id",.uuid),("ts",.timestamptz),("tenant_id",.text),("model",.text),
      ("provider",.text),("strategy",.text),("status",.text),("latency_ms",.integer),("error",.text),
      ("fallback_used",.boolean)],
    .createTable "usage" [("id",.uuid),("ts",.timestamptz),("tenant_id",.text),("model",.text),
      ("provider",.text),("prompt_tokens",.integer),("completion_tokens",.integer),
      ("total_tokens",.integer),("cost_usd",.numeric),("request_id",.uuid)],
    .addColumn "request_log" "request_id" .uuid,
    .addColumn "request_log" "attempt" .integer,
    .addColumn "request_log" "metadata" .jsonb,
    .alterType "request_log" "request_id" .text,
    .alterType "usage" "request_id" .text,
    .alterType "usage" "cost_usd" .numeric]

structure Database where
  schema : Schema
  requestLog : List (Uuid × RequestLog)
  usage : List (Uuid × UsageRecord)

namespace Database

def empty : Database := ⟨[],[],[]⟩

def start (db : Database) : Database := { db with schema := migrate migrations db.schema }

def saveUsage (db : Database) (row : Uuid × UsageRecord) : Database :=
  { db with usage := insertRow db.usage row }

def within (since before ts : ℤ) : Bool := since ≤ ts && ts < before

def billedRows (db : Database) (tenantID : String) (since before : ℤ) :
    List ((Uuid × RequestLog) × Option (Uuid × UsageRecord)) :=
  (leftJoin (fun rl u => rl.1.string = u.2.requestID) db.requestLog db.usage).filter
    (fun row => row.1.2.tenantID = tenantID && within since before row.1.2.ts)

structure BillingLineItem where
  timestamp : ℤ
  requestID : String
  tenantID : String
  model : String
  provider : String
  status : String
  totalTokens : ℤ
  promptTokens : ℤ
  completionTokens : ℤ
  costUSD : ℚ
  project : String
  costCenter : String
  env : String
  application : String

def lineItem (row : (Uuid × RequestLog) × Option (Uuid × UsageRecord)) : BillingLineItem where
  timestamp := row.1.2.ts
  requestID := row.1.2.requestID
  tenantID := row.1.2.tenantID
  model := row.1.2.model
  provider := row.1.2.provider
  status := row.1.2.status
  totalTokens := rightValue (fun u => u.2.totalTokens) row
  promptTokens := rightValue (fun u => u.2.promptTokens) row
  completionTokens := rightValue (fun u => u.2.completionTokens) row
  costUSD := rightValue (fun u => u.2.costUSD) row
  project := (row.1.2.tag "project").getD ""
  costCenter := (row.1.2.tag "cost_center").getD ""
  env := (row.1.2.tag "env").getD ""
  application := (row.1.2.tag "application").getD ""

def streamBillingLineItems (db : Database) (tenantID : String) (since before : ℤ) :
    Except String (List BillingLineItem) :=
  match analyzeEquality db.schema ("request_log","id") ("usage","request_id") with
  | .error e => .error ("query billing line items: " ++ e.message)
  | .ok () =>
      .ok (((db.billedRows tenantID since before).mergeSort
        (fun a b => a.1.2.ts ≤ b.1.2.ts)).map lineItem)

def groupExpr : String → Option (RequestLog → String)
  | "model" => some (fun rl => rl.model)
  | "provider" => some (fun rl => rl.provider)
  | "project" => some (fun rl => (rl.tag "project").getD "")
  | "cost_center" => some (fun rl => (rl.tag "cost_center").getD "")
  | "env" => some (fun rl => (rl.tag "env").getD "")
  | "application" => some (fun rl => (rl.tag "application").getD "")
  | _ => none

structure BillingGroupedRow where
  groupKey : String
  requestsCount : ℕ
  promptTokens : ℤ
  completionTokens : ℤ
  totalTokens : ℤ
  costUSD : ℚ

def groupedRow (group : String × List ((Uuid × RequestLog) × Option (Uuid × UsageRecord))) :
    BillingGroupedRow where
  groupKey := group.1
  requestsCount := group.2.length
  promptTokens := (group.2.map (rightValue (fun u => u.2.promptTokens))).sum
  completionTokens := (group.2.map (rightValue (fun u => u.2.completionTokens))).sum
  totalTokens := (group.2.map (rightValue (fun u => u.2.totalTokens))).sum
  costUSD := (group.2.map (rightValue (fun u => u.2.costUSD))).sum

def getBillingGrouped (db : Database) (tenantID : String) (since before : ℤ) (group : String) :
    Except String (List BillingGroupedRow) :=
  match groupExpr group with
  | none => .error ("unsupported group_by: " ++ group)
  | some expr =>
      match analyzeEquality db.schema ("request_log","id") ("usage","request_id") with
      | .error e => .error ("query billing grouped: " ++ e.message)
      | .ok () =>
          .ok (((groupBy (fun row => expr row.1.2) (db.billedRows tenantID since before)).mergeSort
            (fun a b => a.1 ≤ b.1)).map groupedRow)

def getMonthlySpend (db : Database) (tenantID : String) (since before : ℤ) : ℚ :=
  ((db.usage.filter (fun u => u.2.tenantID = tenantID && within since before u.2.ts)).map
    (fun u => u.2.costUSD)).sum

def tagged (tenantID tagKey tagValue : String) (since before : ℤ) (rl : RequestLog) : Bool :=
  rl.tenantID = tenantID && within since before rl.ts && rl.status = "ok" &&
    rl.tag tagKey = some tagValue

def getTagMonthlySpend (db : Database) (tenantID tagKey tagValue : String) (since before : ℤ) :
    Except String ℚ :=
  match analyzeEquality db.schema ("request_log","request_id") ("usage","request_id") with
  | .error e => .error ("get tag monthly spend: " ++ e.message)
  | .ok () =>
      .ok (((leftJoin (fun rl u => rl.2.requestID = u.2.requestID) db.requestLog db.usage).filter
        (fun row => tagged tenantID tagKey tagValue since before row.1.2)).map
          (rightValue (fun u => u.2.costUSD))).sum

section Types

def Started (db : Database) : Prop := db.schema = migrate migrations []

variable {db : Database}

theorem started_start (h : db.Started) : db.start.Started := by
  have hfix : migrate migrations (migrate migrations []) = migrate migrations [] := by decide
  unfold Started start
  rw [h]
  exact hfix

theorem Started.id_error (h : db.Started) :
    analyzeEquality db.schema ("request_log","id") ("usage","request_id") =
      .error (.undefinedOperator .uuid .text) := by
  rw [h]
  rfl

theorem Started.request_id_ok (h : db.Started) :
    analyzeEquality db.schema ("request_log","request_id") ("usage","request_id") = .ok () := by
  rw [h]
  rfl

theorem streamBillingLineItems_error (h : db.Started) (tenantID : String) (since before : ℤ) :
    db.streamBillingLineItems tenantID since before = .error
      "query billing line items: ERROR: operator does not exist: uuid = text (SQLSTATE 42883)" := by
  unfold streamBillingLineItems
  rw [h.id_error]
  rfl

theorem getBillingGrouped_error (h : db.Started) (tenantID : String) (since before : ℤ)
    (group : String) :
    ∃ e, db.getBillingGrouped tenantID since before group = .error e := by
  unfold getBillingGrouped
  rw [h.id_error]
  cases groupExpr group with
  | none => exact ⟨_,rfl⟩
  | some expr => exact ⟨_,rfl⟩

theorem getTagMonthlySpend_eq (h : db.Started) (tenantID tagKey tagValue : String)
    (since before : ℤ) :
    db.getTagMonthlySpend tenantID tagKey tagValue since before =
      .ok ((db.usage.map (fun u =>
        (db.requestLog.filter (fun rl => tagged tenantID tagKey tagValue since before rl.2)).countP
          (fun rl => rl.2.requestID = u.2.requestID) • u.2.costUSD)).sum) := by
  unfold getTagMonthlySpend
  rw [h.request_id_ok]
  simp only
  rw [filter_leftJoin _ (fun rl : Uuid × RequestLog =>
    tagged tenantID tagKey tagValue since before rl.2),sum_leftJoin]

theorem getTagMonthlySpend_unlogged (h : db.Started) (hlog : db.requestLog = [])
    (tenantID tagKey tagValue : String) (since before : ℤ) :
    db.getTagMonthlySpend tenantID tagKey tagValue since before = .ok 0 := by
  rw [getTagMonthlySpend_eq h,hlog]
  simp

end Types

end Database

end PrismGateway.Storage.Billing
