import PrismGateway.CircuitBreaker.Breaker

namespace PrismGateway.CircuitBreaker
open Lib

structure Circuit where
  state : State
  openUntil : Int
  inflight : Int
  successes : Int
  deriving DecidableEq, Repr

namespace Circuit

def initial : Circuit := ⟨.closed,0,0,0⟩

def gate (max : Int) (c : Circuit) : AllowReply × Circuit :=
  if c.inflight ≥ max then (⟨false,.halfOpen,false⟩,c)
  else (⟨true,.halfOpen,true⟩,{ c with inflight := c.inflight + 1 })

def allow (max now : Int) (c : Circuit) : AllowReply × Circuit :=
  match c.state with
  | .open =>
    if now < c.openUntil then (⟨false,.open,false⟩,c)
    else gate max { c with state := .halfOpen, inflight := 0, successes := 0 }
  | .halfOpen => gate max c
  | .closed => (⟨true,.closed,false⟩,c)

def release (isProbe : Bool) (c : Circuit) : Circuit :=
  if isProbe then { c with inflight := c.inflight - 1 } else c

@[simp] theorem release_state (b : Bool) (c : Circuit) : (c.release b).state = c.state := by
  unfold release
  split <;> rfl

@[simp] theorem release_openUntil (b : Bool) (c : Circuit) :
    (c.release b).openUntil = c.openUntil := by
  unfold release
  split <;> rfl

@[simp] theorem release_successes (b : Bool) (c : Circuit) :
    (c.release b).successes = c.successes := by
  unfold release
  split <;> rfl

def opened (a : ReportArgs) : Circuit := ⟨.open,a.now + a.cooldown,0,0⟩

def report (a : ReportArgs) (trips : Bool) (c : Circuit) : Circuit :=
  match c.state, a.outcome with
  | .halfOpen, .success =>
    if c.successes + 1 ≥ a.successesToClose then initial
    else { c.release a.isProbe with successes := c.successes + 1 }
  | .halfOpen, .failure => opened a
  | .closed, .failure => if trips then opened a else c.release a.isProbe
  | _, _ => c.release a.isProbe

end Circuit

def circuitAt (db : Db) (now : Int) (key : String) : Circuit :=
  let h := Redis.hashAt db now key
  ⟨(h.text .state).getD .closed,(h.num .openUntil).getD 0,(h.num .inflight).getD 0,
    (h.num .successes).getD 0⟩

section Refinement

variable {db : Db} {key wkey : String} {now : Int}

theorem circuitAt_congr {db' : Db} (h : db key = db' key) :
    circuitAt db now key = circuitAt db' now key := by
  simp only [circuitAt,Redis.hashAt_congr h]

theorem circuitAt_persistent (hp : Redis.Persistent db key) (now' : Int) :
    circuitAt db now key = circuitAt db now' key := by
  simp only [circuitAt,Redis.hashAt,hp.get_eq]

theorem circuitAt_hincrby_inflight (hp : Redis.Persistent db key) (d now' : Int) :
    circuitAt (Redis.hincrby db now key .inflight d) now' key =
      { circuitAt db now' key with inflight := (circuitAt db now' key).inflight + d } := by
  simp [circuitAt,hp.hashAt_hincrby,Redis.Hash.setNum,Redis.hgetNum]

theorem circuitAt_hincrby_successes (hp : Redis.Persistent db key) (d now' : Int) :
    circuitAt (Redis.hincrby db now key .successes d) now' key =
      { circuitAt db now' key with successes := (circuitAt db now' key).successes + d } := by
  simp [circuitAt,hp.hashAt_hincrby,Redis.Hash.setNum,Redis.hgetNum]

theorem halfOpenGate_refines (hp : Redis.Persistent db key) (max now' : Int) {inflight : Int}
    (hi : inflight = (circuitAt db now' key).inflight) :
    let r := halfOpenGate key now max inflight db
    r.1 = ((circuitAt db now' key).gate max).1 ∧
      circuitAt r.2 now' key = ((circuitAt db now' key).gate max).2 ∧
      Redis.Persistent r.2 key := by
  unfold halfOpenGate Circuit.gate
  rw [hi]
  split
  · exact ⟨rfl,rfl,hp⟩
  · exact ⟨rfl,circuitAt_hincrby_inflight hp 1 now',hp.hincrby _ _⟩

theorem luaCBAllow_refines (now : Int) (hp : Redis.Persistent db key) (max : Int) :
    let r := luaCBAllow key now max db
    r.1 = ((circuitAt db now key).allow max now).1 ∧
      circuitAt r.2 now key = ((circuitAt db now key).allow max now).2 ∧
      Redis.Persistent r.2 key := by
  have hs : (Redis.hget db now key .state).getD .closed = (circuitAt db now key).state := rfl
  have hu : (Redis.hgetNum db now key .openUntil).getD 0 = (circuitAt db now key).openUntil := rfl
  have hi : (Redis.hgetNum db now key .inflight).getD 0 = (circuitAt db now key).inflight := rfl
  simp only [luaCBAllow,Circuit.allow,hs,hu,hi]
  cases hc : (circuitAt db now key).state with
  | closed => exact ⟨rfl,rfl,hp⟩
  | halfOpen => exact halfOpenGate_refines hp max now rfl
  | «open» =>
    dsimp only
    split
    · exact ⟨rfl,rfl,hp⟩
    · have hq : Redis.Persistent (Redis.hmset db now key [(TextField.state,State.halfOpen)]
          [(NumField.inflight,0),(NumField.successes,0)]) key := hp.hmset _ _
      have hview : circuitAt (Redis.hmset db now key [(TextField.state,State.halfOpen)]
          [(NumField.inflight,0),(NumField.successes,0)]) now key =
          { circuitAt db now key with state := .halfOpen, inflight := 0, successes := 0 } := by
        simp [circuitAt,hp.hashAt_hmset,Redis.Hash.setNum,Redis.Hash.setText]
      rw [Redis.persist_of_persistent hq,← hview]
      exact halfOpenGate_refines hq max now (by rw [hview])

theorem recordOutcome_stateKey (hw : key ≠ wkey) (a : ReportArgs) :
    recordOutcome key wkey a db key =
      (if a.isProbe then Redis.hincrby db a.now key .inflight (-1) else db) key := by
  simp [recordOutcome,hw]

theorem recordOutcome_refines (hp : Redis.Persistent db key) (hw : key ≠ wkey)
    (a : ReportArgs) (now' : Int) :
    circuitAt (recordOutcome key wkey a db) now' key =
        (circuitAt db now' key).release a.isProbe ∧
      Redis.Persistent (recordOutcome key wkey a db) key := by
  have he : recordOutcome key wkey a db key =
      (if a.isProbe then Redis.hincrby db a.now key .inflight (-1) else db) key :=
    recordOutcome_stateKey hw a
  rw [circuitAt_congr he]
  cases hb : a.isProbe with
  | false =>
    rw [hb] at he
    exact ⟨rfl,hp.congr he⟩
  | true =>
    rw [hb] at he
    exact ⟨circuitAt_hincrby_inflight hp (-1) now',(hp.hincrby _ _).congr he⟩

theorem openCircuit_refines (hp : Redis.Persistent db key) (a : ReportArgs) (now' : Int) :
    circuitAt (openCircuit key a db) now' key = Circuit.opened a ∧
      Redis.Persistent (openCircuit key a db) key := by
  refine ⟨?_,hp.hmset _ _⟩
  simp [circuitAt,openCircuit,hp.hashAt_hmset,Redis.Hash.setNum,Redis.Hash.setText,Circuit.opened]

def tripsAt (wkey key : String) (a : ReportArgs) (db : Db) : Bool :=
  tripsOpen a (windowTotal a .ok (recordOutcome key wkey a db))
    (windowTotal a .fail (recordOutcome key wkey a db))

theorem luaCBReport_refines (hp : Redis.Persistent db key) (hw : key ≠ wkey)
    (a : ReportArgs) (ha : a.now = now) :
    let r := luaCBReport key wkey a db
    circuitAt r.2 now key =
        (circuitAt db now key).report a (tripsAt wkey key a db) ∧
      Redis.Persistent r.2 key := by
  subst ha
  have hs : (Redis.hget db a.now key .state).getD .closed = (circuitAt db a.now key).state := rfl
  obtain ⟨hr,hq⟩ := recordOutcome_refines hp hw a a.now
  simp only [luaCBReport,Circuit.report,hs]
  cases hc : (circuitAt db a.now key).state <;> cases ho : a.outcome <;> dsimp only
  case closed.success => exact ⟨hr,hq⟩
  case closed.failure =>
    change (let r : ReportReply × Db := if tripsAt wkey key a db then _ else _
      circuitAt r.2 a.now key = _ ∧ Redis.Persistent r.2 key)
    split_ifs
    · exact openCircuit_refines hq a a.now
    · exact ⟨hr,hq⟩
  case open.success => exact ⟨hr,hq⟩
  case open.failure => exact ⟨hr,hq⟩
  case halfOpen.failure => exact openCircuit_refines hq a a.now
  case halfOpen.success =>
    have hv : circuitAt (Redis.hincrby (recordOutcome key wkey a db) a.now key .successes 1) a.now key =
        { circuitAt (recordOutcome key wkey a db) a.now key with successes :=
          (circuitAt (recordOutcome key wkey a db) a.now key).successes + 1 } :=
      circuitAt_hincrby_successes hq 1 a.now
    have hn : (Redis.hgetNum (Redis.hincrby (recordOutcome key wkey a db) a.now key .successes 1)
        a.now key .successes).getD 0 = (circuitAt db a.now key).successes + 1 := by
      change (circuitAt (Redis.hincrby (recordOutcome key wkey a db) a.now key .successes 1)
        a.now key).successes = _
      rw [hv,hr,Circuit.release_successes]
    rw [hn]
    split_ifs
    · refine ⟨?_,Redis.persistent_del⟩
      simp only [circuitAt,Redis.hashAt_del]
      rfl
    · refine ⟨?_,hq.hincrby _ _⟩
      rw [hv,hr,Circuit.release_successes]

end Refinement

section Frame

variable {db : Db} {key wkey j : String}

theorem luaCBAllow_frame (now max : Int) (hj : j ≠ key) :
    (luaCBAllow key now max db).2 j = db j := by
  simp only [luaCBAllow]
  cases (Redis.hget db now key .state).getD .closed with
  | closed => rfl
  | halfOpen =>
    simp only [halfOpenGate]
    split_ifs <;> simp [hj]
  | «open» =>
    simp only [halfOpenGate]
    split_ifs <;> simp [hj]

theorem recordOutcome_frame (a : ReportArgs) (hj : j ≠ key) (hw : j ≠ wkey) :
    recordOutcome key wkey a db j = db j := by
  simp only [recordOutcome]
  split_ifs <;> simp [hj,hw]

theorem luaCBReport_frame (a : ReportArgs) (hj : j ≠ key) (hw : j ≠ wkey) :
    (luaCBReport key wkey a db).2 j = db j := by
  have hr : recordOutcome key wkey a db j = db j := recordOutcome_frame a hj hw
  simp only [luaCBReport,openCircuit]
  cases (Redis.hget db a.now key .state).getD .closed <;> cases a.outcome <;> dsimp only
  case halfOpen.success => split_ifs <;> simp [hj,hr]
  case halfOpen.failure => simp [hj,hr]
  case closed.failure => split_ifs <;> simp [hj,hr]
  all_goals exact hr

end Frame

section Breaker

variable {cfg : Config} {p q : String} {now : Int} {db db' : Db}

def Circuit.ask (d : ProviderDefaults) (now : Int) (c : Circuit) : (Bool × Bool) × Circuit :=
  if !d.enabled then ((true,false),c)
  else
    let (reply,c) := c.allow d.halfOpenMaxInflight now
    ((reply.allowed,reply.isProbe),c)

def Circuit.settle (d : ProviderDefaults) (a : ReportArgs) (trips : Bool) (c : Circuit) : Circuit :=
  if !d.enabled then c else c.report a trips

def Config.trips (cfg : Config) (p : String) (now : Int) (outcome : Outcome) (isProbe : Bool)
    (db : Db) : Bool :=
  tripsAt (winKey cfg p (cfg.bucketTS p now)) (stateKey cfg p)
    (cfg.reportArgs p now outcome isProbe) db

theorem allow_refines (now : Int) (hp : Redis.Persistent db (stateKey cfg p)) :
    let r := cfg.allow p now db
    let s := (circuitAt db now (stateKey cfg p)).ask (cfg.providerConfig p) now
    r.1 = s.1 ∧ circuitAt r.2 now (stateKey cfg p) = s.2 ∧
      Redis.Persistent r.2 (stateKey cfg p) := by
  obtain ⟨hr,hc,hq⟩ := luaCBAllow_refines now hp (cfg.providerConfig p).halfOpenMaxInflight
  simp only [Config.allow,Circuit.ask]
  split_ifs
  · exact ⟨rfl,rfl,hp⟩
  · exact ⟨by rw [hr],hc,hq⟩

theorem report_refines {outcome : Outcome} {isProbe : Bool}
    (hp : Redis.Persistent db (stateKey cfg p))
    (h : cfg.report p now outcome isProbe db = some db') :
    circuitAt db' now (stateKey cfg p) = (circuitAt db now (stateKey cfg p)).settle
        (cfg.providerConfig p) (cfg.reportArgs p now outcome isProbe)
        (cfg.trips p now outcome isProbe db) ∧
      Redis.Persistent db' (stateKey cfg p) := by
  simp only [Config.report] at h
  simp only [Circuit.settle]
  split_ifs at h ⊢ with he hb
  · cases h
    exact ⟨rfl,hp⟩
  · cases h
    exact luaCBReport_refines hp (winKey_ne_stateKey cfg p p _).symm _ rfl

theorem allow_frame {j : String} (hj : j ≠ stateKey cfg q) :
    (cfg.allow q now db).2 j = db j := by
  simp only [Config.allow]
  split_ifs
  · rfl
  · exact luaCBAllow_frame _ _ hj

theorem report_frame {j : String} {outcome : Outcome} {isProbe : Bool}
    (hj : j ≠ stateKey cfg q) (hw : ∀ ts, j ≠ winKey cfg q ts)
    (h : cfg.report q now outcome isProbe db = some db') : db' j = db j := by
  simp only [Config.report] at h
  split_ifs at h
  · cases h
    rfl
  · cases h
    exact luaCBReport_frame _ hj (hw _)

end Breaker

end PrismGateway.CircuitBreaker
