import PrismGateway.Storage.RequestLog

namespace PrismGateway.Orchestrator.Accounting

open Lib.Sql Storage Billing
open RequestLogging (insertRequestLog mended)

/-- A failed upstream call, which leaves one row in `request_log`. -/
structure FailedAttempt where
  id : Uuid
  ts : ℤ
  attempt : ℕ
  model : String
  provider : String

structure Served where
  attempt : ℕ
  model : String
  provider : String
  promptTokens : ℤ
  completionTokens : ℤ
  totalTokens : ℤ
  costUSD : ℚ
  usageID : Uuid
  usageTs : ℤ
  logID : Uuid
  logTs : ℤ

inductive StreamErrorType where
  | timeout
  | clientDisconnect
  | upstreamDisconnect
  | providerError

def StreamErrorType.status : StreamErrorType → String
  | clientDisconnect => "cancelled"
  | timeout | upstreamDisconnect | providerError => "error"

def StreamErrorType.text : StreamErrorType → String
  | timeout => "timeout"
  | clientDisconnect => "client_disconnect"
  | upstreamDisconnect => "upstream_disconnect"
  | providerError => "provider_error"

structure Stream where
  served : Served
  error : Option StreamErrorType
  durationMs : ℕ
  chunkCount : ℕ
  firstTokenLatencyMs : Option ℕ

structure Embedding where
  model : String
  provider : String
  tokens : ℤ
  costUSD : ℚ
  usageID : Uuid
  usageTs : ℤ
  logID : Uuid
  logTs : ℤ

/-- How `Run` ends. `refused` leaves no row: a tool route, a spent budget, no model left to try. -/
inductive Ending where
  | refused
  | rejected (ts : ℤ)
  | cacheHit (id : Uuid) (ts : ℤ) (model provider similarity routeGroup : String)
  | answered (responseID : String) (served : Served)
  | streamed (stream : Stream)

structure Request where
  tenantID : String
  requestID : Uuid
  metadata : Option Metadata
  failures : List FailedAttempt
  ending : Ending
  embedding : Option Embedding

def gatewayKeys : List String :=
  ["streaming_enabled","stream_duration_ms","chunk_count","stream_completed",
    "first_token_latency_ms","stream_error_type","semantic_cache","similarity","route_group"]

def Stream.meta (s : Stream) : Metadata :=
  [("streaming_enabled","true"),("stream_duration_ms",toString s.durationMs),
    ("chunk_count",toString s.chunkCount),("stream_completed",toString s.error.isNone)] ++
    (s.firstTokenLatencyMs.map (fun ms => ("first_token_latency_ms",toString ms))).toList ++
    (s.error.map (fun e => ("stream_error_type",e.text))).toList

def Stream.status (s : Stream) : String :=
  match s.error with
  | none => "ok"
  | some e => e.status

namespace Request

def clientRequestID (r : Request) (responseID : String) : String :=
  if responseID = "" then r.requestID.string else responseID

def sharedRequestID (r : Request) : String :=
  match r.ending with
  | .answered responseID _ => r.clientRequestID responseID
  | _ => r.requestID.string

def failureRow (r : Request) (f : FailedAttempt) : Uuid × RequestLog :=
  (f.id,
    { requestID := r.requestID.string
      attempt := f.attempt
      ts := f.ts
      tenantID := r.tenantID
      model := f.model
      provider := f.provider
      status := "error"
      metadata := r.metadata })

def servedRow (r : Request) (s : Served) (status : String) (metadata : Option Metadata) :
    Uuid × RequestLog :=
  (s.logID,
    { requestID := r.sharedRequestID
      attempt := s.attempt
      ts := s.logTs
      tenantID := r.tenantID
      model := s.model
      provider := s.provider
      status := status
      metadata := metadata })

def cacheHitRow (r : Request) (id : Uuid) (ts : ℤ) (model provider similarity routeGroup : String) :
    Uuid × RequestLog :=
  (id,
    { requestID := r.requestID.string
      attempt := 1
      ts := ts
      tenantID := r.tenantID
      model := model
      provider := provider
      status := "ok"
      metadata := some
        [("semantic_cache","hit"),("similarity",similarity),("route_group",routeGroup)] })

def rejectionRow (r : Request) (ts : ℤ) : Uuid × RequestLog :=
  (Uuid.nil,
    { requestID := r.requestID.string
      attempt := 1
      ts := ts
      tenantID := r.tenantID
      model := ""
      provider := ""
      status := "error"
      metadata := none })

def endingRows (r : Request) : List (Uuid × RequestLog) :=
  match r.ending with
  | .refused => []
  | .rejected ts => [r.rejectionRow ts]
  | .cacheHit id ts model provider similarity routeGroup =>
      [r.cacheHitRow id ts model provider similarity routeGroup]
  | .answered _ s => [r.servedRow s "ok" r.metadata]
  | .streamed s => [r.servedRow s.served s.status (some (s.meta ++ r.metadata.getD []))]

def embeddingLogRow (r : Request) (e : Embedding) : Uuid × RequestLog :=
  (e.logID,
    { requestID := r.sharedRequestID
      attempt := 1
      ts := e.logTs
      tenantID := r.tenantID
      model := e.model
      provider := e.provider
      status := "ok"
      metadata := none })

def logRows (r : Request) : List (Uuid × RequestLog) :=
  r.failures.map r.failureRow ++ r.endingRows ++ (r.embedding.map r.embeddingLogRow).toList

def servedUsage (r : Request) (s : Served) : Uuid × UsageRecord :=
  (s.usageID,
    { ts := s.usageTs
      tenantID := r.tenantID
      model := s.model
      provider := s.provider
      promptTokens := s.promptTokens
      completionTokens := s.completionTokens
      totalTokens := s.totalTokens
      costUSD := s.costUSD
      requestID := r.sharedRequestID })

def embeddingUsage (r : Request) (e : Embedding) : Uuid × UsageRecord :=
  (e.usageID,
    { ts := e.usageTs
      tenantID := r.tenantID
      model := e.model
      provider := e.provider
      promptTokens := e.tokens
      completionTokens := 0
      totalTokens := e.tokens
      costUSD := e.costUSD
      requestID := r.sharedRequestID })

def usageRows (r : Request) : List (Uuid × UsageRecord) :=
  (match r.ending with
    | .answered _ s => [r.servedUsage s]
    | .streamed s => [r.servedUsage s.served]
    | _ => []) ++ (r.embedding.map r.embeddingUsage).toList

def carries (r : Request) (key value : String) : Bool :=
  (r.metadata.bind (fun metadata => metadata.lookup key)) = some value

def answeredAt (r : Request) : Option ℤ :=
  match r.ending with
  | .answered _ s => some s.logTs
  | .streamed s => if s.error.isNone then some s.served.logTs else none
  | _ => none

def ids (r : Request) : List String := [r.requestID.string,r.sharedRequestID]

end Request

inductive Event where
  | start
  | log (row : Uuid × RequestLog) (rest : RequestLogging.RequestLog)
  | usage (row : Uuid × UsageRecord)

def Event.log? : Event → Option (Uuid × RequestLog)
  | .log row _ => some row
  | _ => none

def Event.usage? : Event → Option (Uuid × UsageRecord)
  | .usage row => some row
  | _ => none

def entry (row : Uuid × RequestLog) (rest : RequestLogging.RequestLog) : RequestLogging.RequestLog :=
  { rest with
    id := row.1
    requestID := row.2.requestID
    attempt := row.2.attempt
    tenantID := row.2.tenantID
    model := row.2.model
    provider := row.2.provider
    status := row.2.status }

-- Of the rows that stand in the table the statement looks at the key only.
def logRequest (statement : Insert) (db : Database) (row : Uuid × RequestLog)
    (rest : RequestLogging.RequestLog) : Database :=
  match RequestLogging.logRequest statement (entry row rest)
      (db.requestLog.map (fun row => (entry row {}).row)) with
  | .ok _ => { db with requestLog := db.requestLog ++ [row] }
  | .error _ => db

def step (statement : Insert) (db : Database) : Event → Database
  | .start => db.start
  | .log row rest => logRequest statement db row rest
  | .usage row => db.saveUsage row

structure Run where
  requests : List Request
  events : List Event
  logs : (events.filterMap Event.log?).Perm (requests.flatMap Request.logRows)
  usages : (events.filterMap Event.usage?).Perm (requests.flatMap Request.usageRows)

namespace Run

variable (statement : Insert) (run : Run)

def database : Database := run.events.foldl (step statement) Database.empty.start

def LineItemsConserved (tenantID : String) (since before : ℤ) : Prop :=
  ∃ items, (run.database statement).streamBillingLineItems tenantID since before = .ok items ∧
    (items.map (fun item => item.costUSD)).sum =
      (run.database statement).getMonthlySpend tenantID since before

def GroupedConserved (tenantID : String) (since before : ℤ) (group : String) : Prop :=
  ∃ rows, (run.database statement).getBillingGrouped tenantID since before group = .ok rows ∧
    (rows.map (fun row => row.costUSD)).sum =
      (run.database statement).getMonthlySpend tenantID since before

def forTag (key value : String) (u : Uuid × UsageRecord) : Bool :=
  run.requests.any (fun r => r.carries key value && r.usageRows.contains u)

def tagSpend (tenantID key value : String) (since before : ℤ) : ℚ :=
  (((run.database statement).usage.filter (fun u => u.2.tenantID = tenantID &&
    Database.within since before u.2.ts && run.forTag key value u)).map (fun u => u.2.costUSD)).sum

def TagSpendConserved (tenantID key value : String) (since before : ℤ) : Prop :=
  (run.database statement).getTagMonthlySpend tenantID key value since before =
    .ok (run.tagSpend statement tenantID key value since before)

structure Tracked (run : Run) (tenantID key value : String) (since before : ℤ) : Prop where
  key_free : key ∉ gatewayKeys
  usage_ids : ((run.requests.flatMap Request.usageRows).map Prod.fst).Nodup
  log_ids : (run.requests.flatMap Request.logRows).Pairwise (fun a b => a.1 = b.1 → a.1 = Uuid.nil)
  drawn : ∀ r ∈ run.requests, ∀ row ∈ r.logRows, row.2.status = "ok" → row.1 ≠ Uuid.nil
  apart : run.requests.Pairwise (fun r r' => r.ids.Disjoint r'.ids)
  answered : ∀ r ∈ run.requests, r.tenantID = tenantID → r.carries key value = true →
    ∀ u ∈ r.usageRows, ∃ ts, r.answeredAt = some ts ∧
      Database.within since before ts = Database.within since before u.2.ts

end Run

theorem logRequest_refused (db : Database) (row : Uuid × RequestLog)
    (rest : RequestLogging.RequestLog) : logRequest insertRequestLog db row rest = db := by
  have hslip : insertRequestLog.columns.length < insertRequestLog.placeholders.length := by decide
  unfold logRequest RequestLogging.logRequest
  rw [Insert.run_moreExpressions hslip]

theorem logRequest_mended (db : Database) (row : Uuid × RequestLog)
    (rest : RequestLogging.RequestLog) :
    logRequest mended db row rest = { db with requestLog := insertRow db.requestLog row } := by
  have hrun := @Insert.run_numbered _ _ _ "id" _ (db.requestLog.map (fun row => (entry row {}).row))
    (RequestLogging.arguments_length (entry row rest))
  have hid : (RequestLogging.columns.zip (entry row rest).arguments).lookup "id" =
      some (.uuid row.1) := rfl
  have hkey : (db.requestLog.map (fun row => (entry row {}).row)).any
      (fun r => r.lookup "id" = some (.uuid row.1)) = db.requestLog.any (fun r => r.1 = row.1) := by
    rw [List.any_map]
    refine List.any_congr rfl fun r => ?_
    simp [RequestLogging.row_id,entry]
  rw [hid,hkey] at hrun
  unfold logRequest RequestLogging.logRequest mended insertRow
  rw [hrun]
  cases db.requestLog.any (fun r => r.1 = row.1) with
  | true => rfl
  | false => rfl

theorem logRequest_frame (statement : Insert) (db : Database) (row : Uuid × RequestLog)
    (rest : RequestLogging.RequestLog) : (logRequest statement db row rest).schema = db.schema ∧
      (logRequest statement db row rest).usage = db.usage := by
  unfold logRequest
  split
  · exact ⟨rfl,rfl⟩
  · exact ⟨rfl,rfl⟩

variable {statement : Insert}

theorem started_foldl (events : List Event) {db : Database} (h : db.Started) :
    (events.foldl (step statement) db).Started := by
  induction events generalizing db with
  | nil => exact h
  | cons event events ih =>
    refine ih ?_
    cases event with
    | start => exact Database.started_start h
    | log row rest => exact (logRequest_frame statement db row rest).1.trans h
    | usage row => exact h

theorem requestLog_foldl_refused (events : List Event) (db : Database) :
    (events.foldl (step insertRequestLog) db).requestLog = db.requestLog := by
  induction events generalizing db with
  | nil => rfl
  | cons event events ih =>
    rw [List.foldl_cons,ih]
    cases event with
    | start => rfl
    | log row rest => exact congrArg Database.requestLog (logRequest_refused db row rest)
    | usage row => rfl

theorem requestLog_foldl_mended (events : List Event) (db : Database) :
    (events.foldl (step mended) db).requestLog =
      (events.filterMap Event.log?).foldl insertRow db.requestLog := by
  induction events generalizing db with
  | nil => rfl
  | cons event events ih =>
    rw [List.foldl_cons,ih]
    cases event with
    | start => rfl
    | log row rest =>
      simp only [step,logRequest_mended]
      rfl
    | usage row => rfl

theorem usage_foldl (events : List Event) (db : Database) :
    (events.foldl (step statement) db).usage =
      (events.filterMap Event.usage?).foldl insertRow db.usage := by
  induction events generalizing db with
  | nil => rfl
  | cons event events ih =>
    rw [List.foldl_cons,ih]
    cases event with
    | start => rfl
    | log row rest =>
      simp only [step,(logRequest_frame statement db row rest).2]
      rfl
    | usage row => rfl

namespace Run

variable (run : Run) {tenantID key value : String} {since before : ℤ}

theorem started_database : (run.database statement).Started := started_foldl run.events rfl

theorem not_lineItemsConserved : ¬run.LineItemsConserved statement tenantID since before := by
  rintro ⟨items,hitems,-⟩
  rw [Database.streamBillingLineItems_error run.started_database] at hitems
  cases hitems

theorem not_groupedConserved (group : String) :
    ¬run.GroupedConserved statement tenantID since before group := by
  rintro ⟨rows,hrows,-⟩
  obtain ⟨e,he⟩ := Database.getBillingGrouped_error run.started_database tenantID since before group
  rw [he] at hrows
  cases hrows

theorem getTagMonthlySpend_refused :
    (run.database insertRequestLog).getTagMonthlySpend tenantID key value since before = .ok 0 := by
  have hlog : (run.database insertRequestLog).requestLog = [] :=
    requestLog_foldl_refused run.events Database.empty.start
  exact Database.getTagMonthlySpend_unlogged run.started_database hlog tenantID key value since before

end Run

section Rows

variable {r : Request} {tenantID key value : String} {since before : ℤ}

theorem requestID_of_mem_logRows {row : Uuid × RequestLog} (h : row ∈ r.logRows) :
    row.2.requestID ∈ r.ids := by
  simp only [Request.logRows,List.mem_append,List.mem_map,Option.mem_toList,Option.map_eq_some_iff]
    at h
  rcases h with (⟨f,-,rfl⟩ | h) | ⟨e,-,rfl⟩
  · exact List.mem_cons_self
  · unfold Request.endingRows at h
    split at h
    · cases h
    · rw [List.mem_singleton.mp h]
      exact List.mem_cons_self
    · rw [List.mem_singleton.mp h]
      exact List.mem_cons_self
    · rw [List.mem_singleton.mp h]
      exact List.mem_cons_of_mem _ List.mem_cons_self
    · rw [List.mem_singleton.mp h]
      exact List.mem_cons_of_mem _ List.mem_cons_self
  · exact List.mem_cons_of_mem _ List.mem_cons_self

theorem usageRows_spec {u : Uuid × UsageRecord} (h : u ∈ r.usageRows) :
    u.2.requestID = r.sharedRequestID ∧ u.2.tenantID = r.tenantID := by
  simp only [Request.usageRows,List.mem_append,Option.mem_toList,Option.map_eq_some_iff] at h
  rcases h with h | ⟨e,-,rfl⟩
  · split at h
    · rw [List.mem_singleton.mp h]
      exact ⟨rfl,rfl⟩
    · rw [List.mem_singleton.mp h]
      exact ⟨rfl,rfl⟩
    · cases h
  · exact ⟨rfl,rfl⟩

theorem lookup_append_of_forall {l m : Metadata} (h : ∀ e ∈ l, e.1 ≠ key) :
    (l ++ m).lookup key = m.lookup key := by
  induction l with
  | nil => rfl
  | cons e l ih =>
    have he : (key == e.1) = false := beq_eq_false_iff_ne.mpr (h e List.mem_cons_self).symm
    rw [List.cons_append,List.lookup_cons,he]
    exact ih (fun e he => h e (List.mem_cons_of_mem _ he))

theorem lookup_stream (hkey : key ∉ gatewayKeys) (s : Stream) (m : Metadata) :
    (s.meta ++ m).lookup key = m.lookup key := by
  refine lookup_append_of_forall fun e he => ?_
  rintro rfl
  refine hkey ?_
  simp only [Stream.meta,List.mem_append,List.mem_cons,Option.mem_toList,Option.map_eq_some_iff] at he
  rcases he with ((rfl | rfl | rfl | rfl | he) | ⟨_,-,rfl⟩) | ⟨_,-,rfl⟩
  · simp [gatewayKeys]
  · simp [gatewayKeys]
  · simp [gatewayKeys]
  · simp [gatewayKeys]
  · cases he
  · simp [gatewayKeys]
  · simp [gatewayKeys]

def counted (tenantID key value : String) (since before : ℤ) (id : String) (row : Uuid × RequestLog) :
    Bool :=
  row.2.requestID = id && Database.tagged tenantID key value since before row.2

theorem counted_failureRow (id : String) (f : FailedAttempt) :
    counted tenantID key value since before id (r.failureRow f) = false := by
  simp [counted,Database.tagged,Request.failureRow]

theorem counted_embeddingLogRow (id : String) (e : Embedding) :
    counted tenantID key value since before id (r.embeddingLogRow e) = false := by
  simp [counted,Database.tagged,RequestLog.tag,Request.embeddingLogRow]

theorem counted_servedRow (s : Served) {metadata : Option Metadata}
    (h : metadata.bind (fun m => m.lookup key) = r.metadata.bind (fun m => m.lookup key)) :
    counted tenantID key value since before r.sharedRequestID (r.servedRow s "ok" metadata) =
      (r.tenantID = tenantID && r.carries key value && Database.within since before s.logTs) := by
  have htag : (r.servedRow s "ok" metadata).2.tag key = r.metadata.bind (fun m => m.lookup key) := h
  rw [Bool.eq_iff_iff]
  simp only [counted,Database.tagged,Request.carries,htag,Bool.and_eq_true,decide_eq_true_eq]
  constructor
  · rintro ⟨-,⟨⟨htenant,hts⟩,-⟩,hvalue⟩
    exact ⟨⟨htenant,hvalue⟩,hts⟩
  · rintro ⟨⟨htenant,hvalue⟩,hts⟩
    exact ⟨rfl,⟨⟨htenant,hts⟩,rfl⟩,hvalue⟩

theorem countP_endingRows (hkey : key ∉ gatewayKeys) :
    r.endingRows.countP (counted tenantID key value since before r.sharedRequestID) =
      (r.tenantID = tenantID && r.carries key value &&
        r.answeredAt.any (Database.within since before)).toNat := by
  unfold Request.endingRows Request.answeredAt
  cases r.ending with
  | refused => simp
  | rejected ts => simp [counted,Database.tagged,Request.rejectionRow]
  | cacheHit id ts model provider similarity routeGroup =>
    have hnone : ((r.cacheHitRow id ts model provider similarity routeGroup).2.tag key) = none := by
      simp only [gatewayKeys,List.mem_cons,not_or] at hkey
      simp [RequestLog.tag,Request.cacheHitRow,List.lookup_eq_none_iff,hkey]
    simp [counted,Database.tagged,hnone]
  | answered responseID s =>
    simp only [List.countP_singleton,counted_servedRow s rfl,Option.any_some]
    cases _ && _ && _ <;> rfl
  | streamed s =>
    simp only [List.countP_singleton]
    cases herror : s.error with
    | none =>
      have htag : (some (s.meta ++ r.metadata.getD [])).bind (fun m => m.lookup key) =
          r.metadata.bind (fun m => m.lookup key) := by
        rw [Option.bind_some,lookup_stream hkey]
        cases r.metadata <;> rfl
      simp only [Stream.status,herror,counted_servedRow s.served htag,Option.isNone_none,if_true,
        Option.any_some]
      cases _ && _ && _ <;> rfl
    | some e =>
      have hstatus : s.status ≠ "ok" := by
        simp only [Stream.status,herror]
        cases e <;> decide
      simp [counted,Database.tagged,Request.servedRow,hstatus]

theorem countP_logRows (hkey : key ∉ gatewayKeys) :
    r.logRows.countP (counted tenantID key value since before r.sharedRequestID) =
      (r.tenantID = tenantID && r.carries key value &&
        r.answeredAt.any (Database.within since before)).toNat := by
  have hfailures : (r.failures.map r.failureRow).countP
      (counted tenantID key value since before r.sharedRequestID) = 0 := by
    refine List.countP_eq_zero.mpr fun row hrow => ?_
    obtain ⟨f,-,rfl⟩ := List.mem_map.mp hrow
    simp [counted_failureRow]
  have hembedding : (r.embedding.map r.embeddingLogRow).toList.countP
      (counted tenantID key value since before r.sharedRequestID) = 0 := by
    refine List.countP_eq_zero.mpr fun row hrow => ?_
    obtain ⟨e,-,rfl⟩ := Option.map_eq_some_iff.mp (Option.mem_toList.mp hrow)
    simp [counted_embeddingLogRow]
  rw [Request.logRows,List.countP_append,List.countP_append,hfailures,hembedding,
    countP_endingRows hkey,Nat.zero_add,Nat.add_zero]

end Rows

namespace Run

variable {run : Run} {tenantID key value : String} {since before : ℤ}

theorem Tracked.usage_perm (h : run.Tracked tenantID key value since before) :
    (run.database mended).usage.Perm (run.requests.flatMap Request.usageRows) := by
  have hnodup : ((run.events.filterMap Event.usage?).map Prod.fst).Nodup :=
    (run.usages.map Prod.fst).nodup_iff.mpr h.usage_ids
  have hfilter := filter_foldl_insertRow (p := fun _ => true) (run.events.filterMap Event.usage?)
    [] (by simp) ((List.pairwise_map.mp hnodup).imp fun hne _ => hne)
  have hrows : (run.database mended).usage = run.events.filterMap Event.usage? := by
    have hdb := @usage_foldl mended run.events Database.empty.start
    simp only [List.filter_true] at hfilter
    exact hdb.trans hfilter
  rw [hrows]
  exact run.usages

theorem Tracked.tagged_perm (h : run.Tracked tenantID key value since before) :
    ((run.database mended).requestLog.filter
      (fun rl => Database.tagged tenantID key value since before rl.2)).Perm
      ((run.requests.flatMap Request.logRows).filter
        (fun rl => Database.tagged tenantID key value since before rl.2)) := by
  have hids : (run.events.filterMap Event.log?).Pairwise (fun a b => a.1 = b.1 → a.1 = Uuid.nil) := by
    refine (run.logs.pairwise_iff ?_).mpr h.log_ids
    intro a b hab heq
    rw [heq]
    exact hab heq.symm
  have hnew : (run.events.filterMap Event.log?).Pairwise (fun a b =>
      Database.tagged tenantID key value since before b.2 = true → a.1 ≠ b.1) := by
    refine hids.imp_of_mem ?_
    intro a b _ hb hab htagged heq
    obtain ⟨r,hr,hrow⟩ := List.mem_flatMap.mp (run.logs.subset hb)
    have hok : b.2.status = "ok" := by
      simp only [Database.tagged,Bool.and_eq_true,decide_eq_true_eq] at htagged
      exact htagged.1.2
    exact h.drawn r hr b hrow hok (heq ▸ hab heq)
  have hfilter := filter_foldl_insertRow (p := fun rl : Uuid × RequestLog =>
    Database.tagged tenantID key value since before rl.2) (run.events.filterMap Event.log?)
    [] (by simp) hnew
  have hdb := requestLog_foldl_mended run.events Database.empty.start
  unfold Run.database
  rw [hdb]
  refine List.Perm.trans (List.Perm.of_eq hfilter) ?_
  exact run.logs.filter _

theorem Tracked.count (h : run.Tracked tenantID key value since before) {r : Request}
    (hr : r ∈ run.requests) {u : Uuid × UsageRecord} (hu : u ∈ r.usageRows) :
    ((run.database mended).requestLog.filter
      (fun rl => Database.tagged tenantID key value since before rl.2)).countP
        (fun rl => rl.2.requestID = u.2.requestID) =
      (r.tenantID = tenantID && r.carries key value &&
        r.answeredAt.any (Database.within since before)).toNat := by
  obtain ⟨hid,-⟩ := usageRows_spec hu
  rw [h.tagged_perm.countP_eq,List.countP_filter,hid,← countP_logRows h.key_free]
  refine countP_flatMap_of_pairwise h.apart hr ?_
  intro r' hdisjoint row hrow hcounted
  have hmem : row.2.requestID ∈ r'.ids := requestID_of_mem_logRows hrow
  have heq : row.2.requestID = r.sharedRequestID := by
    simp only [Bool.and_eq_true,decide_eq_true_eq] at hcounted
    exact hcounted.1
  have hown : row.2.requestID ∈ r.ids := heq ▸ List.mem_cons_of_mem _ List.mem_cons_self
  rcases hdisjoint with hd | hd
  · exact hd hown hmem
  · exact hd hmem hown

theorem Tracked.owner_unique (h : run.Tracked tenantID key value since before) {r r' : Request}
    (hr : r ∈ run.requests) (hr' : r' ∈ run.requests) {u : Uuid × UsageRecord}
    (hu : u ∈ r.usageRows) (hu' : u ∈ r'.usageRows) : r = r' := by
  by_contra hne
  have hsymm : Std.Symm (fun r r' : Request => r.ids.Disjoint r'.ids) := ⟨fun _ _ hd => hd.symm⟩
  have hdisjoint : r.ids.Disjoint r'.ids := h.apart.forall hr hr' hne
  have hid : u.2.requestID ∈ r.ids :=
    (usageRows_spec hu).1 ▸ List.mem_cons_of_mem _ List.mem_cons_self
  have hid' : u.2.requestID ∈ r'.ids :=
    (usageRows_spec hu').1 ▸ List.mem_cons_of_mem _ List.mem_cons_self
  exact hdisjoint hid hid'

theorem Tracked.forTag_eq (h : run.Tracked tenantID key value since before) {r : Request}
    (hr : r ∈ run.requests) {u : Uuid × UsageRecord} (hu : u ∈ r.usageRows) :
    run.forTag key value u = r.carries key value := by
  rw [Bool.eq_iff_iff]
  constructor
  · intro hany
    obtain ⟨r',hr',hmem⟩ := List.any_eq_true.mp hany
    obtain ⟨hcarries,hcontains⟩ := Bool.and_eq_true_iff.mp hmem
    obtain rfl := h.owner_unique hr hr' hu (List.contains_iff_mem.mp hcontains)
    exact hcarries
  · intro hcarries
    exact List.any_eq_true.mpr
      ⟨r,hr,Bool.and_eq_true_iff.mpr ⟨hcarries,List.contains_iff_mem.mpr hu⟩⟩

theorem Tracked.counted_once (h : run.Tracked tenantID key value since before) {r : Request}
    (hr : r ∈ run.requests) {u : Uuid × UsageRecord} (hu : u ∈ r.usageRows) :
    (r.tenantID = tenantID && r.carries key value &&
      r.answeredAt.any (Database.within since before)) =
      (u.2.tenantID = tenantID && Database.within since before u.2.ts && run.forTag key value u) := by
  rw [h.forTag_eq hr hu,(usageRows_spec hu).2]
  by_cases htenant : r.tenantID = tenantID
  · cases hcarries : r.carries key value with
    | false => simp
    | true =>
      obtain ⟨ts,hts,hwithin⟩ := h.answered r hr htenant hcarries u hu
      simp [htenant,hts,hwithin]
  · simp [htenant]

theorem Tracked.tagSpendConserved (h : run.Tracked tenantID key value since before) :
    run.TagSpendConserved mended tenantID key value since before := by
  unfold TagSpendConserved tagSpend
  rw [Database.getTagMonthlySpend_eq run.started_database,sum_filter_map]
  refine congrArg Except.ok (congrArg List.sum (List.map_congr_left fun u hu => ?_))
  obtain ⟨r,hr,hrow⟩ := List.mem_flatMap.mp (h.usage_perm.subset hu)
  rw [h.count hr hrow,h.counted_once hr hrow]
  cases u.2.tenantID = tenantID && Database.within since before u.2.ts && run.forTag key value u with
  | false => simp
  | true => simp

end Run

theorem billing_reports_never_conserved (run : Run) (tenantID : String) (since before : ℤ) :
    ¬run.LineItemsConserved insertRequestLog tenantID since before ∧
      (∀ group, ¬run.GroupedConserved insertRequestLog tenantID since before group) ∧
      ∀ key value, run.TagSpendConserved insertRequestLog tenantID key value since before ↔
        run.tagSpend insertRequestLog tenantID key value since before = 0 := by
  refine ⟨run.not_lineItemsConserved,run.not_groupedConserved,fun key value => ?_⟩
  unfold Run.TagSpendConserved
  rw [run.getTagMonthlySpend_refused,Except.ok.injEq]
  exact eq_comm

def searchServed : Served where
  attempt := 1
  model := "gpt-4o"
  provider := "openai"
  promptTokens := 10
  completionTokens := 5
  totalTokens := 15
  costUSD := 1
  usageID := ⟨"u1"⟩
  usageTs := 1772923005
  logID := ⟨"l1"⟩
  logTs := 1772923005

def searchRequest : Request where
  tenantID := "acme"
  requestID := ⟨"q1"⟩
  metadata := some [("project","search")]
  failures := []
  ending := .answered "chatcmpl-1" searchServed
  embedding := none

def searchRun : Run where
  requests := [searchRequest]
  events := searchRequest.usageRows.map .usage ++ searchRequest.logRows.map (.log · {})
  logs := List.Perm.refl _
  usages := List.Perm.refl _

theorem search_answer_unbilled :
    ¬searchRun.LineItemsConserved insertRequestLog "acme" 1772323200 1775001600 ∧
      ¬searchRun.GroupedConserved insertRequestLog "acme" 1772323200 1775001600 "project" ∧
      ¬searchRun.TagSpendConserved insertRequestLog "acme" "project" "search" 1772323200 1775001600 ∧
      searchRun.tagSpend insertRequestLog "acme" "project" "search" 1772323200 1775001600 = 1 ∧
      (searchRun.database insertRequestLog).getTagMonthlySpend "acme" "project" "search" 1772323200
        1775001600 = .ok 0 := by
  have hspend : searchRun.tagSpend insertRequestLog "acme" "project" "search" 1772323200 1775001600 =
      1 := by decide +kernel
  have hquery := @Run.getTagMonthlySpend_refused searchRun "acme" "project" "search" 1772323200
    1775001600
  refine ⟨searchRun.not_lineItemsConserved,searchRun.not_groupedConserved "project",?_,hspend,hquery⟩
  unfold Run.TagSpendConserved
  rw [hspend,hquery]
  decide

end PrismGateway.Orchestrator.Accounting
