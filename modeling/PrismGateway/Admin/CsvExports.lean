import PrismGateway.Admin.Isolation
import PrismGateway.Admin.Monetization
import PrismGateway.Lib.Csv
import PrismGateway.Storage.Billing

namespace PrismGateway.Admin.CsvExports

open Lib Monetization Storage.Billing.Database

structure AuditRecord where
  requestID : String
  timestamp : ℤ
  tenantID : String
  model : String
  provider : String
  strategy : String
  status : String
  latencyMs : ℤ
  promptTokens : ℤ
  completionTokens : ℤ
  totalTokens : ℤ
  costUSD : ℚ
  fallbackUsed : Bool
  piiWebhookRequestDecision : Option String
  piiWebhookResponseDecision : Option String

structure APIKeyUsageRow where
  apiKeyID : String
  apiKeyName : String
  tenantID : String
  requests : ℤ
  topModel : String

structure JWTSubUsageRow where
  jwtSub : String
  tenantID : String
  requests : ℤ

structure JWTSubModelUsageRow where
  jwtSub : String
  tenantID : String
  model : String
  requests : ℤ
  spend : ℚ

/-- How times and amounts are printed: `time.RFC3339`, `%.6f` and `formatCSVFloat`. -/
structure Format where
  rfc3339 : ℤ → String
  fixed6 : ℚ → String
  formatCSVFloat : ℚ → String

structure Store where
  getAuditRecords : String → ℤ → ℤ → Except String (List AuditRecord)
  streamBillingLineItems : String → ℤ → ℤ → List BillingLineItem × Option String
  getBillingGrouped : String → ℤ → ℤ → String → Except String (List BillingGroupedRow)
  getAPIKeyUsage : ℕ → Except String (List APIKeyUsageRow)
  getAPIKeyModelBreakdown : ℕ → Except String (List (String × APIKeyModelUsageRow))
  getJWTSubUsage : ℕ → Except String (List JWTSubUsageRow)
  getJWTSubModelBreakdown : ℕ → Except String (List JWTSubModelUsageRow)
  getTenantModelRequestCounts : ℕ → String → ℤ

inductive Reply where
  | failed (status : ℕ) (message type : String)
  | csv (text : List Char)
  | auditRecords (records : List AuditRecord)
  | lineItems (items : List BillingLineItem)
  | groupedRows (rows : List BillingGroupedRow)

def writeCSV (header : List String) (records : List (List String)) : List Char :=
  Csv.writeAll ((header :: records).map (fun record => record.map String.toList))

def Shows (text : List Char) (header : List String) (records : List (List String)) : Prop :=
  Csv.readAll text =
    .ok ((header :: records).map (fun record => record.map (fun s => Csv.crlf s.toList)))

theorem shows_writeCSV {header : List String} {records : List (List String)}
    (hheader : 2 ≤ header.length) (h : ∀ record ∈ records, record.length = header.length) :
    Shows (writeCSV header records) header records := by
  have hwidth : ∀ record ∈ header :: records, record.length = header.length :=
    List.forall_mem_cons.mpr ⟨rfl,h⟩
  rw [Shows,writeCSV,Csv.readAll_writeAll]
  · simp [Function.comp_def]
  · intro record hrecord
    obtain ⟨r,hr,rfl⟩ := List.mem_map.mp hrecord
    have hr := hwidth r hr
    constructor
    · intro hempty
      rw [List.map_eq_nil_iff.mp hempty] at hr
      simp only [List.length_nil] at hr
      omega
    · intro hsingle
      have hlength := congrArg List.length hsingle
      simp only [List.length_map,List.length_singleton] at hlength
      omega
  · intro record hrecord
    obtain ⟨r,hr,rfl⟩ := List.mem_map.mp hrecord
    rw [List.length_map]
    exact hwidth r hr

section Rows

variable (fmt : Format)

def auditHeader : List String :=
  ["request_id","timestamp","tenant_id","model","provider","strategy","status","latency_ms",
    "prompt_tokens","completion_tokens","total_tokens","cost_usd","fallback_used",
    "pii_webhook_request_decision","pii_webhook_response_decision"]

def auditRow (r : AuditRecord) : List String :=
  [r.requestID,fmt.rfc3339 r.timestamp,r.tenantID,r.model,r.provider,r.strategy,r.status,
    toString r.latencyMs,toString r.promptTokens,toString r.completionTokens,
    toString r.totalTokens,fmt.fixed6 r.costUSD,toString r.fallbackUsed,
    r.piiWebhookRequestDecision.getD "",r.piiWebhookResponseDecision.getD ""]

def billingHeader : List String :=
  ["timestamp","request_id","tenant_id","model","provider","status","total_tokens",
    "prompt_tokens","completion_tokens","cost_usd","project","cost_center","env","application"]

def billingRow (item : BillingLineItem) : List String :=
  [fmt.rfc3339 item.timestamp,item.requestID,item.tenantID,item.model,item.provider,item.status,
    toString item.totalTokens,toString item.promptTokens,toString item.completionTokens,
    fmt.fixed6 item.costUSD,item.project,item.costCenter,item.env,item.application]

def groupedHeader : List String :=
  ["month","tenant_id","group_by","group_key","requests_count","total_tokens","prompt_tokens",
    "completion_tokens","cost_usd"]

def groupedCSVRow (tenantID month group : String) (row : BillingGroupedRow) : List String :=
  [month,tenantID,group,row.groupKey,toString row.requestsCount,toString row.totalTokens,
    toString row.promptTokens,toString row.completionTokens,fmt.fixed6 row.costUSD]

-- Amounts are exact, where the source adds and divides float64.
structure ReportRow where
  identityType : String
  identityID : String
  identityName : String
  tenantID : String
  requests : ℤ
  monetization : MonetizationResult
  topModel : String

def reportHeader : List String :=
  ["identity_type","identity_id","identity_name","tenant_id","requests","effective_cost_total",
    "avg_cost_per_request","avg_price_per_request","total_price","margin","margin_pct","top_model",
    "window_hours","generated_at"]

def reportRow (windowHours : ℕ) (generatedAt : ℤ) (r : ReportRow) : List String :=
  [r.identityType,r.identityID,r.identityName,r.tenantID,toString r.requests,
    fmt.formatCSVFloat r.monetization.totalEffectiveCost,
    fmt.formatCSVFloat r.monetization.avgCostPerRequest,
    fmt.formatCSVFloat r.monetization.avgPricePerRequest,
    fmt.formatCSVFloat r.monetization.totalPrice,fmt.formatCSVFloat r.monetization.margin,
    fmt.formatCSVFloat r.monetization.marginPct,r.topModel,toString windowHours,
    fmt.rfc3339 generatedAt]

end Rows

section AuditExport

structure AuditQuery where
  tenantID : String
  start : Option ℤ
  stop : Option ℤ
  format : String

def day : ℤ := 24 * 3600

def adminAuditExport (fmt : Format) (store : Store) (tenants : List String) (q : AuditQuery) : Reply :=
  match q.start, q.stop with
  | none, _ => .failed 400 "invalid 'from' date, expected YYYY-MM-DD" "invalid_request_error"
  | some _, none => .failed 400 "invalid 'to' date, expected YYYY-MM-DD" "invalid_request_error"
  | some start, some stop =>
    if stop + day - start > 90 * day then
      .failed 400 "date range cannot exceed 90 days" "invalid_request_error"
    else if q.format ≠ "json" ∧ q.format ≠ "csv" then
      .failed 400 "format must be 'json' or 'csv'" "invalid_request_error"
    else if q.tenantID ∉ tenants then .failed 404 "tenant not found" "not_found"
    else match store.getAuditRecords q.tenantID start (stop + day) with
      | .error _ => .failed 500 "failed to retrieve audit records" "internal_error"
      | .ok records =>
        if q.format = "csv" then .csv (writeCSV auditHeader (records.map (auditRow fmt)))
        else .auditRecords records

end AuditExport

section BillingExport

def validGroupBy : List String :=
  ["none","model","provider","project","cost_center","env","application"]

/-- `window` is the month as `time.Parse` reads it, to the first instant of the next. -/
structure BillingQuery where
  tenantID : String
  month : String
  window : Option (ℤ × ℤ)
  format : String
  groupBy : String

def orElse (s fallback : String) : String := if s = "" then fallback else s

def adminBillingExport (fmt : Format) (store : Store) (q : BillingQuery) : Reply :=
  match q.window with
  | none => .failed 400 "invalid 'month' param, expected YYYY-MM" "invalid_request_error"
  | some (start,stop) =>
    let format := orElse q.format "csv"
    let group := orElse q.groupBy "none"
    if format ≠ "csv" ∧ format ≠ "json" then
      .failed 400 "format must be 'csv' or 'json'" "invalid_request_error"
    else if group ∉ validGroupBy then
      .failed 400 ("group_by must be one of: none, model, provider, project, cost_center, env, " ++
        "application") "invalid_request_error"
    else if group = "none" then
      let streamed := store.streamBillingLineItems q.tenantID start stop
      -- the header of a CSV has been written by the time the query fails
      if format = "csv" then .csv (writeCSV billingHeader (streamed.1.map (billingRow fmt)))
      else match streamed.2 with
        | some _ => .failed 500 "failed to retrieve billing data" "internal_error"
        | none => .lineItems streamed.1
    else match store.getBillingGrouped q.tenantID start stop group with
      | .error _ => .failed 500 "failed to retrieve billing data" "internal_error"
      | .ok rows =>
        if format = "csv" then
          .csv (writeCSV groupedHeader (rows.map (groupedCSVRow fmt q.tenantID q.month group)))
        else .groupedRows rows

end BillingExport

section BillingReport

structure ReportRequest where
  method : String
  authType : String
  roles : List String
  windowHours : String

def billingReportAllowed (req : ReportRequest) : Bool :=
  req.authType = "admin_token" || req.authType = "api_key" ||
    (req.authType = "jwt" && Isolation.hasAnyRole req.roles ["admin","audit"])

def parseWindowHours (v : String) : Option ℕ :=
  if v = "" then some 720
  else match GoStrings.atoi v with
    | some n => if n < 1 ∨ n > 720 then none else some n.toNat
    | none => none

def topJWTModel (rows : List JWTSubModelUsageRow) (jwtSub tenantID : String) : String :=
  (rows.foldl (fun best r =>
    if r.jwtSub ≠ jwtSub ∨ r.tenantID ≠ tenantID then best
    else if r.requests > best.2 then (r.model,r.requests) else best) ("",(0 : ℤ))).1

def apiKeyRow (requestCounts : String → ℤ) (allModels : List ModelConfig)
    (breakdown : List (String × APIKeyModelUsageRow)) (kr : APIKeyUsageRow) : ReportRow where
  identityType := "api_key"
  identityID := kr.apiKeyID
  identityName := kr.apiKeyName
  tenantID := kr.tenantID
  requests := kr.requests
  monetization := computeMonetization requestCounts allModels
    ((breakdown.filter (fun b => b.1 = kr.apiKeyID)).map Prod.snd)
  topModel := kr.topModel

def jwtSubRow (requestCounts : String → ℤ) (allModels : List ModelConfig)
    (breakdown : List JWTSubModelUsageRow) (jr : JWTSubUsageRow) : ReportRow where
  identityType := "jwt_sub"
  identityID := jr.jwtSub
  identityName := jr.jwtSub
  tenantID := jr.tenantID
  requests := jr.requests
  monetization := computeMonetization requestCounts allModels
    ((breakdown.filter (fun b => b.jwtSub = jr.jwtSub ∧ b.tenantID = jr.tenantID)).map
      (fun b => ⟨b.model,b.requests,b.spend⟩))
  topModel := topJWTModel breakdown jr.jwtSub jr.tenantID

def reportRows (requestCounts : String → ℤ) (allModels : List ModelConfig)
    (apiRows : List APIKeyUsageRow) (apiBreakdown : List (String × APIKeyModelUsageRow))
    (jwtRows : List JWTSubUsageRow) (jwtBreakdown : List JWTSubModelUsageRow) : List ReportRow :=
  (apiRows.filter (fun kr => 0 < kr.requests)).map
      (apiKeyRow requestCounts allModels apiBreakdown) ++
    (jwtRows.filter (fun jr => 0 < jr.requests)).map
      (jwtSubRow requestCounts allModels jwtBreakdown)

structure SortsByPrice (sort : List ReportRow → List ReportRow) : Prop where
  perm : ∀ rows, (sort rows).Perm rows
  dearestFirst : ∀ rows, (sort rows).Pairwise
    (fun a b => b.monetization.totalPrice ≤ a.monetization.totalPrice)

def adminBillingReportCSV (fmt : Format) (store : Store) (sort : List ReportRow → List ReportRow)
    (allModels : List ModelConfig) (now : ℤ) (req : ReportRequest) : Reply :=
  if req.method ≠ "GET" then .failed 405 "method not allowed" "invalid_request_error"
  else if billingReportAllowed req = false then .failed 403 "forbidden" "authorization_error"
  else match parseWindowHours req.windowHours with
  | none => .failed 400 "window_hours must be 1-720" "invalid_request_error"
  | some hours =>
    match store.getAPIKeyUsage hours, store.getAPIKeyModelBreakdown hours with
    | .ok apiRows, .ok apiBreakdown =>
      match store.getJWTSubUsage hours, store.getJWTSubModelBreakdown hours with
      | .ok jwtRows, .ok jwtBreakdown =>
        .csv (writeCSV reportHeader ((sort (reportRows (store.getTenantModelRequestCounts hours)
          allModels apiRows apiBreakdown jwtRows jwtBreakdown)).map (reportRow fmt hours now)))
      | _, _ => .failed 500 "failed to retrieve jwt_sub usage" "internal_error"
    | _, _ => .failed 500 "failed to retrieve API key usage" "internal_error"

end BillingReport

section Readable

inductive ExportRequest where
  | audit (tenants : List String) (q : AuditQuery)
  | billing (q : BillingQuery)
  | report (allModels : List ModelConfig) (now : ℤ) (req : ReportRequest)

def answer (fmt : Format) (store : Store) (sort : List ReportRow → List ReportRow) :
    ExportRequest → Reply
  | .audit tenants q => adminAuditExport fmt store tenants q
  | .billing q => adminBillingExport fmt store q
  | .report allModels now req => adminBillingReportCSV fmt store sort allModels now req

inductive Exported (fmt : Format) (store : Store) :
    ExportRequest → List String → List (List String) → Prop
  | audit {tenants : List String} {q : AuditQuery} {start stop : ℤ} {records : List AuditRecord}
      (hstart : q.start = some start) (hstop : q.stop = some stop)
      (hwindow : stop + day - start ≤ 90 * day) (htenant : q.tenantID ∈ tenants)
      (hrecords : store.getAuditRecords q.tenantID start (stop + day) = .ok records) :
      Exported fmt store (.audit tenants q) auditHeader (records.map (auditRow fmt))
  | lineItems {q : BillingQuery} {start stop : ℤ} (hwindow : q.window = some (start,stop))
      (hgroup : orElse q.groupBy "none" = "none") :
      Exported fmt store (.billing q) billingHeader
        ((store.streamBillingLineItems q.tenantID start stop).1.map (billingRow fmt))
  | grouped {q : BillingQuery} {start stop : ℤ} {rows : List BillingGroupedRow}
      (hwindow : q.window = some (start,stop)) (hgroup : q.groupBy ∈ validGroupBy)
      (hrows : store.getBillingGrouped q.tenantID start stop q.groupBy = .ok rows) :
      Exported fmt store (.billing q) groupedHeader
        (rows.map (groupedCSVRow fmt q.tenantID q.month q.groupBy))
  | report {allModels : List ModelConfig} {now : ℤ} {req : ReportRequest} {hours : ℕ}
      {apiRows : List APIKeyUsageRow} {apiBreakdown : List (String × APIKeyModelUsageRow)}
      {jwtRows : List JWTSubUsageRow} {jwtBreakdown : List JWTSubModelUsageRow}
      {rows : List ReportRow} (hallowed : billingReportAllowed req = true)
      (hhours : parseWindowHours req.windowHours = some hours)
      (hapi : store.getAPIKeyUsage hours = .ok apiRows)
      (hapiBreakdown : store.getAPIKeyModelBreakdown hours = .ok apiBreakdown)
      (hjwt : store.getJWTSubUsage hours = .ok jwtRows)
      (hjwtBreakdown : store.getJWTSubModelBreakdown hours = .ok jwtBreakdown)
      (hrows : rows.Perm (reportRows (store.getTenantModelRequestCounts hours) allModels
        apiRows apiBreakdown jwtRows jwtBreakdown))
      (hsorted : rows.Pairwise (fun a b => b.monetization.totalPrice ≤ a.monetization.totalPrice)) :
      Exported fmt store (.report allModels now req) reportHeader
        (rows.map (reportRow fmt hours now))

variable {fmt : Format} {store : Store} {sort : List ReportRow → List ReportRow} {text : List Char}

theorem shows_map {α : Type} {header : List String} {row : α → List String} (rows : List α)
    (hheader : 2 ≤ header.length) (h : ∀ a, (row a).length = header.length) :
    Shows (writeCSV header (rows.map row)) header (rows.map row) := by
  apply shows_writeCSV hheader
  intro record hrecord
  obtain ⟨a,-,rfl⟩ := List.mem_map.mp hrecord
  exact h a

theorem audit_readable {tenants : List String} {q : AuditQuery}
    (h : adminAuditExport fmt store tenants q = .csv text) : ∃ header records,
      Exported fmt store (.audit tenants q) header records ∧ Shows text header records := by
  unfold adminAuditExport at h
  split at h
  · cases h
  · cases h
  · next start stop hstart hstop =>
    split_ifs at h with hwindow hformat htenant hcsv
    · split at h
      · cases h
      · next records hrecords =>
        cases h
        exact ⟨_,_,.audit hstart hstop (by omega) (by simpa using htenant) hrecords,
          shows_map records (by decide) (fun _ => rfl)⟩
    · split at h <;> cases h

theorem billing_readable {q : BillingQuery} (h : adminBillingExport fmt store q = .csv text) :
    ∃ header records, Exported fmt store (.billing q) header records ∧
      Shows text header records := by
  unfold adminBillingExport at h
  split at h
  · cases h
  · next start stop hwindow =>
    simp only at h
    split_ifs at h with hformat hvalid hnone hcsv hcsv
    · cases h
      exact ⟨_,_,.lineItems hwindow hnone,shows_map _ (by decide) (fun _ => rfl)⟩
    · split at h <;> cases h
    · split at h
      · cases h
      · next rows hrows =>
        have hgroup : orElse q.groupBy "none" = q.groupBy := by
          rw [orElse] at hnone ⊢
          split_ifs at hnone ⊢ with hempty
          · exact absurd rfl hnone
          · rfl
        rw [hgroup] at hvalid hrows h
        cases h
        exact ⟨_,_,.grouped hwindow (by simpa using hvalid) hrows,
          shows_map rows (by decide) (fun _ => rfl)⟩
    · split at h <;> cases h

theorem report_readable (hsort : SortsByPrice sort) {allModels : List ModelConfig} {now : ℤ}
    {req : ReportRequest}
    (h : adminBillingReportCSV fmt store sort allModels now req = .csv text) : ∃ header records,
      Exported fmt store (.report allModels now req) header records ∧ Shows text header records := by
  unfold adminBillingReportCSV at h
  split_ifs at h with hmethod hallowed
  split at h
  · cases h
  · next hours hhours =>
    split at h
    · next apiRows apiBreakdown hapi hapiBreakdown =>
      split at h
      · next jwtRows jwtBreakdown hjwt hjwtBreakdown =>
        cases h
        exact ⟨_,_,.report (by simpa using hallowed) hhours hapi hapiBreakdown hjwt hjwtBreakdown
          (hsort.perm _) (hsort.dearestFirst _),shows_map _ (by decide) (fun _ => rfl)⟩
      · cases h
    · cases h

theorem csv_exports_readable (hsort : SortsByPrice sort) {req : ExportRequest}
    (h : answer fmt store sort req = .csv text) : ∃ header records,
      Exported fmt store req header records ∧ Shows text header records := by
  cases req with
  | audit tenants q => exact audit_readable h
  | billing q => exact billing_readable h
  | report allModels now req => exact report_readable hsort h

end Readable

def plainFormat : Format := ⟨fun _ => "2026-03-01T00:00:00Z",fun _ => "0.000100",fun _ => "0"⟩

def hostileStore : Store where
  getAuditRecords _ _ _ := .ok []
  streamBillingLineItems tenant start _ := ([{
    timestamp := start
    requestID := "r1"
    tenantID := tenant
    model := "gpt-4o"
    provider := "openai"
    status := "ok"
    totalTokens := 3
    promptTokens := 1
    completionTokens := 2
    costUSD := 0
    project := "a\",\r\n\"b"
    costCenter := ""
    env := " prod"
    application := "=1,2" }],none)
  getBillingGrouped _ _ _ _ := .ok []
  getAPIKeyUsage _ := .ok []
  getAPIKeyModelBreakdown _ := .ok []
  getJWTSubUsage _ := .ok []
  getJWTSubModelBreakdown _ := .ok []
  getTenantModelRequestCounts _ _ := 0

def marchQuery : BillingQuery := ⟨"acme","2026-03",some (0,100),"",""⟩

def dearer (a b : ReportRow) : Bool :=
  decide (b.monetization.totalPrice ≤ a.monetization.totalPrice)

def byPrice (rows : List ReportRow) : List ReportRow := rows.mergeSort dearer

theorem sortsByPrice_byPrice : SortsByPrice byPrice where
  perm rows := List.mergeSort_perm rows _
  dearestFirst rows := by
    have htrans (a b c : ReportRow) : dearer a b = true → dearer b c = true → dearer a c = true := by
      simp only [dearer,decide_eq_true_eq]
      exact fun hab hbc => hbc.trans hab
    have htotal (a b : ReportRow) : (dearer a b || dearer b a) = true := by
      simp only [dearer,Bool.or_eq_true,decide_eq_true_eq]
      exact le_total _ _
    exact (List.pairwise_mergeSort htrans htotal rows).imp of_decide_eq_true

theorem hostile_tag_stays_in_its_cell : ∃ text header records,
    answer plainFormat hostileStore byPrice (.billing marchQuery) = .csv text ∧
      Exported plainFormat hostileStore (.billing marchQuery) header records ∧
      Shows text header records := by
  obtain ⟨header,records,hexported,hshows⟩ :=
    @csv_exports_readable plainFormat hostileStore byPrice _ sortsByPrice_byPrice
      (.billing marchQuery) rfl
  exact ⟨_,header,records,rfl,hexported,hshows⟩

end PrismGateway.Admin.CsvExports
