import PrismGateway.Orchestrator.Courses
import PrismGateway.Storage.BudgetReservations
import Mathlib.Algebra.BigOperators.Group.List.Basic
import Mathlib.Tactic.Linarith

namespace PrismGateway.Orchestrator

open Lib Config
open Storage.Budget (UsageRow Reservation totalSpend expiryMs)
open Api (ParsedRequest)

/-- A run whose budget check made the reservation `id`: its month, when it reserved and when it
returned. -/
structure ReservedRun where
  id : ℕ
  monthStart : Int
  monthEnd : Int
  reservedAt : Int
  returnedAt : Int
  started : monthStart ≤ reservedAt
  ordered : reservedAt ≤ returnedAt
  ended : returnedAt < monthEnd

structure Books where
  usage : List UsageRow
  reservations : List Reservation

section Posting

variable (tenantID : String) (t : ReservedRun)

def ReservedRun.inMonth (ts : Int) : Bool := t.monthStart ≤ ts && ts < t.monthEnd

def estimatedCostUSD : ℚ := 1 / 100

def reservationOf (id : ℕ) : Reservation :=
  ⟨id,tenantID,t.reservedAt,estimatedCostUSD,t.reservedAt + expiryMs⟩

def usageOf (costUSD : ℚ) : UsageRow := ⟨tenantID,t.returnedAt,costUSD,some t.id⟩

def Books.post (b : Books) : Effect → Books
  | .reserve id => { b with reservations := b.reservations ++ [reservationOf tenantID t id] }
  | .releaseReservation id => { b with reservations := b.reservations.filter (fun r => r.id ≠ id) }
  | .saveUsage row => { b with usage := b.usage ++ [usageOf tenantID t row.costUSD] }
  | .saveEmbeddingUsage row => { b with usage := b.usage ++ [usageOf tenantID t row.costUSD] }
  | _ => b

def Books.after (b : Books) (es : List Effect) : Books := es.foldl (Books.post tenantID t) b

def Books.monthTotal (b : Books) : ℚ :=
  totalSpend (b.usage.filter (fun u => u.tenantID = tenantID && t.inMonth u.ts))
    (b.reservations.filter (fun r => r.tenantID = tenantID && t.inMonth r.ts && t.returnedAt < r.expiresAt))

def Effect.cost? : Effect → Option ℚ
  | .saveUsage row => some row.costUSD
  | .saveEmbeddingUsage row => some row.costUSD
  | _ => none

def Effect.released? : Effect → Option ℕ
  | .releaseReservation id => some id
  | _ => none

def Effect.reserved? : Effect → Option ℕ
  | .reserve id => some id
  | _ => none

def costs (es : List Effect) : List ℚ := es.filterMap Effect.cost?

def released (es : List Effect) : List ℕ := es.filterMap Effect.released?

def reserved (es : List Effect) : List ℕ := es.filterMap Effect.reserved?

def Settles (b : Books) (es : List Effect) : Prop :=
  (b.after tenantID t es).monthTotal tenantID t - b.monthTotal tenantID t = (costs es).sum

variable {tenantID t}

theorem after_append (b : Books) (es es' : List Effect) :
    b.after tenantID t (es ++ es') = (b.after tenantID t es).after tenantID t es' := by
  simp [Books.after]

theorem after_of_unreserved (es : List Effect) (b : Books) (h : reserved es = []) :
    b.after tenantID t es = ⟨b.usage ++ (costs es).map (usageOf tenantID t),
      b.reservations.filter (fun r => r.id ∉ released es)⟩ := by
  induction es generalizing b with
  | nil => simp [Books.after,costs,released]
  | cons e es ih =>
    have hes : reserved es = [] := by
      cases e with
      | reserve id => simp [reserved,Effect.reserved?] at h
      | _ => exact h
    have hstep : b.after tenantID t (e :: es) = (b.post tenantID t e).after tenantID t es := rfl
    rw [hstep,ih _ hes]
    cases e with
    | reserve id => simp [reserved,Effect.reserved?] at h
    | releaseReservation id =>
      simp only [Books.post,costs,released,List.filterMap_cons,Effect.cost?,Effect.released?,
        List.filter_filter]
      congr 1
      refine List.filter_congr fun r _ => ?_
      simp only [List.mem_cons,not_or,Bool.decide_and,Bool.and_comm]
      rfl
    | saveUsage row => simp [Books.post,costs,released,Effect.cost?,Effect.released?]
    | saveEmbeddingUsage row => simp [Books.post,costs,released,Effect.cost?,Effect.released?]
    | _ => rfl

theorem totalSpend_append (usage usage' : List UsageRow) (rs rs' : List Reservation) :
    totalSpend (usage ++ usage') (rs ++ rs') = totalSpend usage rs + totalSpend usage' rs' := by
  simp only [totalSpend,List.map_append,List.sum_append]
  ring

theorem inMonth_returned : t.inMonth t.returnedAt = true := by
  have hstarted := t.started
  have hordered := t.ordered
  have hended := t.ended
  simp only [ReservedRun.inMonth,Bool.and_eq_true,decide_eq_true_eq]
  omega

theorem inMonth_reserved : t.inMonth t.reservedAt = true := by
  have hstarted := t.started
  have hordered := t.ordered
  have hended := t.ended
  simp only [ReservedRun.inMonth,Bool.and_eq_true,decide_eq_true_eq]
  omega

theorem totalSpend_usageOf (cs : List ℚ) :
    totalSpend ((cs.map (usageOf tenantID t)).filter
      (fun u => u.tenantID = tenantID && t.inMonth u.ts)) [] = cs.sum := by
  have hall : (cs.map (usageOf tenantID t)).filter (fun u => u.tenantID = tenantID && t.inMonth u.ts) =
      cs.map (usageOf tenantID t) := by
    refine List.filter_eq_self.mpr fun u hu => ?_
    obtain ⟨c,-,rfl⟩ := List.mem_map.mp hu
    simp [usageOf,inMonth_returned]
  rw [hall]
  have hcosts : (cs.map (usageOf tenantID t)).map UsageRow.costUSD = cs := by
    rw [List.map_map]
    exact List.map_id cs
  simp [totalSpend,hcosts]

theorem settles_iff {before rest : List Effect} {b : Books} (hbefore : reserved before = [])
    (hreleased : released before = []) (hrest : reserved rest = [])
    (hfresh : ∀ r ∈ b.reservations, r.id ≠ t.id) (hown : ∀ id ∈ released rest, id = t.id) :
    Settles tenantID t b (before ++ Effect.reserve t.id :: rest) ↔
      t.id ∈ released rest ∨ t.reservedAt + expiryMs ≤ t.returnedAt := by
  have hkept : b.reservations.filter (fun r => r.id ∉ released rest) = b.reservations := by
    refine List.filter_eq_self.mpr fun r hr => ?_
    have hne : r.id ∉ released rest := fun hmem => hfresh r hr (hown _ hmem)
    simpa using hne
  have hcosts : costs (before ++ Effect.reserve t.id :: rest) = costs before ++ costs rest := by
    simp [costs,List.filterMap_cons,Effect.cost?]
  have hafter : b.after tenantID t (before ++ Effect.reserve t.id :: rest) =
      ⟨b.usage ++ (costs before ++ costs rest).map (usageOf tenantID t),
        b.reservations ++ [reservationOf tenantID t t.id].filter (fun r => r.id ∉ released rest)⟩ := by
    have hsplit : before ++ Effect.reserve t.id :: rest = (before ++ [Effect.reserve t.id]) ++ rest := by simp
    have hmid : b.after tenantID t (before ++ [Effect.reserve t.id]) =
        ⟨b.usage ++ (costs before).map (usageOf tenantID t),
          b.reservations ++ [reservationOf tenantID t t.id]⟩ := by
      rw [after_append,after_of_unreserved before b hbefore,hreleased]
      simp [Books.after,Books.post]
    rw [hsplit,after_append,hmid,after_of_unreserved rest _ hrest,List.filter_append,hkept]
    simp
  unfold Settles Books.monthTotal
  rw [hafter,hcosts,List.filter_append,List.filter_append,totalSpend_append,add_sub_cancel_left]
  have husage := @totalSpend_usageOf tenantID t (costs before ++ costs rest)
  by_cases hmem : t.id ∈ released rest
  · have hgone : [reservationOf tenantID t t.id].filter (fun r => r.id ∉ released rest) = [] := by
      simp [reservationOf,hmem]
    rw [hgone]
    exact iff_of_true husage (.inl hmem)
  · have hleft : [reservationOf tenantID t t.id].filter (fun r => r.id ∉ released rest) =
        [reservationOf tenantID t t.id] := by
      simp [reservationOf,hmem]
    rw [hleft]
    by_cases hlive : t.returnedAt < t.reservedAt + expiryMs
    · have hcounted : [reservationOf tenantID t t.id].filter (fun r => r.tenantID = tenantID &&
          t.inMonth r.ts && t.returnedAt < r.expiresAt) = [reservationOf tenantID t t.id] := by
        simp [reservationOf,inMonth_reserved,hlive]
      rw [hcounted]
      refine iff_of_false ?_ (not_or.mpr ⟨hmem,by omega⟩)
      intro heq
      rw [totalSpend] at heq husage
      simp [reservationOf,estimatedCostUSD] at heq husage
      linarith
    · have hexpired : [reservationOf tenantID t t.id].filter (fun r => r.tenantID = tenantID &&
          t.inMonth r.ts && t.returnedAt < r.expiresAt) = [] := by
        simp [reservationOf,hlive]
      rw [hexpired]
      exact iff_of_true husage (.inr (by omega))

end Posting

section Releases

variable {g : Gateway} {s : Setting} {pr : ParsedRequest} {env : Env} {i : ℕ} {n : String}
  {l : List String} {es es' : List Effect} {out : Output}

theorem released_append : released (es ++ es') = released es ++ released es' := by
  simp [released]

theorem reserved_append : reserved (es ++ es') = reserved es ++ reserved es' := by
  simp [reserved]

def Untouched (es : List Effect) : Prop := released es = [] ∧ reserved es = []

theorem untouched_iff : Untouched es ↔ ∀ e ∈ es, e.released? = none ∧ e.reserved? = none := by
  simp only [Untouched,released,reserved,List.filterMap_eq_nil_iff]
  exact ⟨fun h e he => ⟨h.1 e he,h.2 e he⟩,fun h => ⟨fun e he => (h e he).1,fun e he => (h e he).2⟩⟩

theorem Untouched.append (h : Untouched es) (h' : Untouched es') : Untouched (es ++ es') :=
  ⟨by rw [released_append,h.1,h'.1]; rfl,by rw [reserved_append,h.2,h'.2]; rfl⟩

theorem untouched_early (h : ∀ e ∈ es, e.early = true) : Untouched es := by
  refine untouched_iff.mpr fun e he => ?_
  have hearly := h e he
  cases e with
  | event _ | recordLatency _ _ => exact ⟨rfl,rfl⟩
  | _ => simp [Effect.early] at hearly

theorem untouched_bookkeeping (h : ∀ e ∈ es, e.bookkeeping = true) : Untouched es := by
  refine untouched_iff.mpr fun e he => ?_
  have hbook := h e he
  cases e with
  | event _ | updateModelStats _ _ | submitStat _ => exact ⟨rfl,rfl⟩
  | _ => simp [Effect.bookkeeping] at hbook

theorem released_releases : released s.releases = s.reservation.toList := by
  unfold Setting.releases
  cases s.reservation with
  | none => rfl
  | some id => rfl

theorem reserved_releases : reserved s.releases = [] := by
  unfold Setting.releases
  cases s.reservation with
  | none => rfl
  | some id => rfl

theorem untouched_passing (h : Gateway.Passing g env i n es) : Untouched es := by
  cases h with
  | skipped h => exact ⟨rfl,rfl⟩
  | denied m h ha => exact ⟨rfl,rfl⟩
  | retried m sent err es h ha hr hes =>
    have hcall : Untouched [called (.allow (env.cbKey m) (g.outcomes.allow i)),called (.send n sent),
        .replied (some err)] := ⟨rfl,rfl⟩
    exact hcall.append (untouched_bookkeeping hes)

theorem untouched_passed (h : Gateway.Passed g env i l es) : Untouched es := by
  induction h with
  | nil i => exact ⟨rfl,rfl⟩
  | cons h hl ih => exact (untouched_passing h).append ih

def Completes (g : Gateway) (s : Setting) (env : Env) (i : ℕ) (n : String) : Bool :=
  env.succeedsAt g.outcomes i n && (!env.stream || (s.stream i).completed)

theorem closing_releases (h : Gateway.Closing g s env i n es out) :
    reserved es = [] ∧
      released es = if Completes g s env i n then s.reservation.toList else [] := by
  cases h with
  | stopped a h =>
    have hoff : Completes g s env i n = false := by simp [Completes,Env.succeedsAt,Env.usableAt,h]
    rw [hoff]
    exact ⟨rfl,rfl⟩
  | refused m sent err es a h ha hreply hr hes =>
    have hoff : Completes g s env i n = false := by
      simp [Completes,Env.succeedsAt,Env.usableAt_eq_some.mpr ⟨h,ha⟩,hreply]
    have huntouched : Untouched ([called (.allow (env.cbKey m) (g.outcomes.allow i)),
        called (.send n sent),.replied (some err)] ++ (es ++ [Effect.answer a])) :=
      Untouched.append ⟨rfl,rfl⟩ ((untouched_bookkeeping hes).append ⟨rfl,rfl⟩)
    rw [hoff]
    exact ⟨huntouched.2,huntouched.1⟩
  | streamed m sent row h ha hs hr =>
    have hends : Completes g s env i n = (s.stream i).completed := by simp [Completes,hr,hs]
    rw [hends]
    cases (s.stream i).completed with
    | true =>
      simp only [if_true]
      refine ⟨?_,?_⟩
      · change reserved (s.releases ++ [called _]) = []
        rw [reserved_append,reserved_releases]
        rfl
      · change released (s.releases ++ [called _]) = _
        rw [released_append,released_releases]
        exact List.append_nil _
    | false => exact ⟨rfl,rfl⟩
  | answered m sent stats row response h ha hs hr hstats =>
    have hends : Completes g s env i n = true := by simp [Completes,hr,hs]
    have huntouched : Untouched stats := by
      refine untouched_iff.mpr fun e he => ?_
      rcases hstats e he with hbook | ⟨latencyMs,rfl⟩
      · exact untouched_iff.mp (@untouched_bookkeeping [e] (by simpa using hbook)) e (by simp)
      · exact ⟨rfl,rfl⟩
    rw [hends]
    refine ⟨?_,?_⟩
    · change reserved (stats ++ ([Effect.saveUsage row] ++ s.releases)) = []
      rw [reserved_append,huntouched.2,reserved_append,reserved_releases]
      rfl
    · change released (stats ++ ([Effect.saveUsage row] ++ s.releases)) = _
      rw [released_append,huntouched.1,released_append,released_releases]
      rfl

def CompletesPlan (g : Gateway) (s : Setting) (pr : ParsedRequest) (p : ChatRequest × List String) :
    Prop :=
  ∃ k n, ((g.env pr p.1).tried p.2)[k]? = some n ∧ Completes g s (g.env pr p.1) k n = true ∧
    Entered ((g.env pr p.1).goesOn g.outcomes) ((g.env pr p.1).tried p.2) k

theorem not_goesOn_of_completes {k : ℕ} (h : Completes g s env k n = true) :
    ¬ env.goesOn g.outcomes k n := by
  unfold Completes at h
  rw [Bool.and_eq_true] at h
  exact Env.not_goesOn_of_succeedsAt h.1

theorem attemptSteps_releases (virtualAlias : Option String) (routeGroup : String)
    (p : ChatRequest × List String) :
    reserved (g.attemptSteps s pr virtualAlias routeGroup p.1 p.2).effects = [] ∧
      (released (g.attemptSteps s pr virtualAlias routeGroup p.1 p.2).effects = s.reservation.toList ∧
          CompletesPlan g s pr p ∨
        released (g.attemptSteps s pr virtualAlias routeGroup p.1 p.2).effects = [] ∧
          ¬ CompletesPlan g s pr p) := by
  rcases Gateway.attemptSteps_cases s virtualAlias routeGroup pr p.1 p.2 with
    ⟨es,a,hrun,hpassed,hall⟩ | ⟨k,n,es,es',out,hrun,hpassed,hclose,hk,hentered,hoff⟩
  · have huntouched : Untouched (es ++ [Effect.answer a]) := (untouched_passed hpassed).append ⟨rfl,rfl⟩
    rw [hrun]
    refine ⟨huntouched.2,.inr ⟨huntouched.1,?_⟩⟩
    rintro ⟨k,n,hk,hcompletes,-⟩
    exact not_goesOn_of_completes hcompletes (hall k n hk)
  · obtain ⟨hreserved,hreleased⟩ := closing_releases hclose
    have hbefore := untouched_passed hpassed
    rw [hrun]
    dsimp only
    rw [reserved_append,released_append,hbefore.1,hbefore.2,hreserved,hreleased,List.nil_append]
    refine ⟨rfl,?_⟩
    cases hcompletes : Completes g s (g.env pr p.1) k n with
    | true => exact .inl ⟨rfl,k,n,hk,hcompletes,hentered⟩
    | false =>
      refine .inr ⟨rfl,?_⟩
      rintro ⟨k',n',hk',hcompletes',hentered'⟩
      have hle : ¬ k < k' := fun hlt => hoff (hentered' k n hlt hk)
      have hge : ¬ k' < k := fun hlt => not_goesOn_of_completes hcompletes' (hentered k' n' hlt hk')
      obtain rfl : k' = k := by omega
      rw [hk] at hk'
      obtain rfl := Option.some.inj hk'
      rw [hcompletes] at hcompletes'
      cases hcompletes'

theorem not_ml_of_plan {p : ChatRequest × List String} (h : g.plan pr = some p) :
    ¬(pr.rawBody.isSome ∧ pr.headers "X-Model-Type" = "ml") := by
  intro hml
  have haccepted : g.accepted pr = none := by
    unfold Gateway.accepted
    rw [if_pos (.inl hml)]
  simp [Gateway.plan,Gateway.selected,haccepted] at h

theorem settles_course {t : ReservedRun} {b : Books} {virtualAlias : Option String}
    {routeGroup tenantID : String} {p : ChatRequest × List String} {result : Except Output Empty}
    (h : Gateway.Course g s pr virtualAlias routeGroup (some p) es result)
    (hid : s.reservation = some t.id) (hfresh : ∀ r ∈ b.reservations, r.id ≠ t.id)
    {deferred : List Effect} (hdeferred : Untouched deferred) :
    Settles tenantID t b (es ++ deferred) ↔
      g.cacheFound pr routeGroup p.2 = none ∧ CompletesPlan g s pr p ∨
        t.reservedAt + expiryMs ≤ t.returnedAt := by
  have hreserve : s.reservation.toList.map Effect.reserve = [.reserve t.id] := by rw [hid]; rfl
  cases h with
  | attempted p es lookup hes hlookup hmiss =>
    obtain ⟨hreserved,hreleased⟩ := @attemptSteps_releases g s pr virtualAlias routeGroup p
    have hfind := untouched_early hlookup
    have hbefore := untouched_early hes
    have hsplit : es ++ (s.reservation.toList.map Effect.reserve ++ (lookup ++
        (g.attemptSteps s pr virtualAlias routeGroup p.1 p.2).effects)) ++ deferred =
        es ++ Effect.reserve t.id :: (lookup ++
          (g.attemptSteps s pr virtualAlias routeGroup p.1 p.2).effects ++ deferred) := by
      rw [hreserve]
      simp
    have hrest : released (lookup ++ (g.attemptSteps s pr virtualAlias routeGroup p.1 p.2).effects ++
        deferred) = released (g.attemptSteps s pr virtualAlias routeGroup p.1 p.2).effects := by
      rw [released_append,released_append,hfind.1,hdeferred.1]
      simp
    rw [hsplit,settles_iff hbefore.2 hbefore.1 ?_ hfresh ?_,hrest]
    · rcases hreleased with ⟨hall,hcompletes⟩ | ⟨hnone,hcompletes⟩
      · simp [hall,hid,hmiss,hcompletes]
      · simp [hnone,hcompletes]
    · rw [reserved_append,reserved_append,hfind.2,hreserved,hdeferred.2]
      rfl
    · intro id hmem
      rw [hrest] at hmem
      rcases hreleased with ⟨hall,-⟩ | ⟨hnone,-⟩
      · simpa [hall,hid] using hmem
      · simp [hnone] at hmem
  | cached p es lookup a hes hlookup hhit =>
    have hbefore := untouched_early hes
    have hrest : Untouched (lookup ++ [Effect.answer a] ++ deferred) :=
      ((untouched_early hlookup).append ⟨rfl,rfl⟩).append hdeferred
    have hsplit : es ++ (s.reservation.toList.map Effect.reserve ++ (lookup ++ [Effect.answer a])) ++ deferred =
        es ++ Effect.reserve t.id :: (lookup ++ [Effect.answer a] ++ deferred) := by
      rw [hreserve]
      simp
    have hmiss : g.cacheFound pr routeGroup p.2 ≠ none := by
      rw [← Option.isSome_iff_ne_none]
      exact hhit
    rw [hsplit,settles_iff hbefore.2 hbefore.1 hrest.2 hfresh (by rw [hrest.1]; simp),hrest.1]
    simp [hmiss]

theorem reservation_settled_iff {t : ReservedRun} {b : Books} {p : ChatRequest × List String}
    (hplan : g.plan pr = some p) (hid : s.reservation = some t.id)
    (hfresh : ∀ r ∈ b.reservations, r.id ≠ t.id) :
    Settles g.tenant.id t b (g.steps s pr).effects ↔
      g.cacheFound pr (g.groupUsed pr) p.2 = none ∧ CompletesPlan g s pr p ∨
        t.reservedAt + expiryMs ≤ t.returnedAt := by
  obtain ⟨es,deferred,heffects,hcourse,hdeferred⟩ := Gateway.steps_course s (not_ml_of_plan hplan)
  have huntouched : Untouched deferred := by
    refine untouched_iff.mpr fun e he => ?_
    obtain ⟨row,rfl⟩ := hdeferred e he
    exact ⟨rfl,rfl⟩
  rw [hplan] at hcourse
  rw [heffects]
  exact settles_course hcourse hid hfresh huntouched

end Releases

def oneSecond : ReservedRun where
  id := 7
  monthStart := 0
  monthEnd := 2678400000
  reservedAt := 1000
  returnedAt := 2000
  started := by decide
  ordered := by decide
  ended := by decide

def reserving : Setting := { quietSetting with reservation := some 7 }

theorem buffered_answer_settles :
    Settles "acme" oneSecond ⟨[],[]⟩ (plainGateway.steps reserving (asking "hello")).effects := by
  have hchoice : (plainGateway.plan (asking "hello")).map Prod.snd = some ["opus","mini"] := rfl
  obtain ⟨req,hplan⟩ := exists_plan hchoice
  refine (reservation_settled_iff hplan rfl (by simp)).mpr (.inl ⟨rfl,0,"opus",rfl,rfl,?_⟩)
  exact entered_zero _ _

def brokenOff : Setting :=
  { reserving with stream := fun _ => { events := [.delta "hi" "" none,.error "connection reset"] } }

def streaming (text : String) : ParsedRequest := { asking text with stream := true }

theorem broken_stream_counted_twice :
    ¬ Settles "acme" oneSecond ⟨[],[]⟩ (plainGateway.steps brokenOff (streaming "hello")).effects := by
  unfold Settles
  decide +kernel

end PrismGateway.Orchestrator
