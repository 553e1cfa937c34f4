import PrismGateway.Orchestrator.Courses

namespace PrismGateway.Orchestrator

open Lib Config Router
open Api (ParsedRequest)

namespace Effect

def isAnswer : Effect → Bool
  | .answer _ => true
  | _ => false

def isSaveUsage : Effect → Bool
  | .saveUsage _ => true
  | _ => false

-- a success, or an error after which no other provider is asked
def isFinal : Effect → Bool
  | .replied none => true
  | .replied (some err) => !isRetryable (classify err)
  | _ => false

def plain (e : Effect) : Bool := !e.isAnswer && !e.isSaveUsage && !e.isFinal && !e.isSend

end Effect

def Follows (g : Gateway) (a b : Effect) : Prop :=
  (∀ n req, b = called (.send n req) → ∃ m admission, g.globalConfig.modelByName n = some m ∧
    m.isEnabled = true ∧ a = called (.allow (m.provider ++ ":" ++ g.tenant.id) admission) ∧
    admission.allowed = true) ∧
  ∀ n req, a = called (.send n req) → ∃ err, b = .replied err

structure WellCalled (g : Gateway) (es : List Effect) : Prop where
  chain : es.IsChain (Follows g)
  head : ∀ e ∈ es.head?, e.isSend = false
  last : ∀ e ∈ es.getLast?, e.isSend = false

def StopsAtFinal (es : List Effect) : Prop :=
  es.Pairwise (fun a b => a.isFinal = true → b.isSend = false)

def Answers (es : List Effect) (out : Output) : Prop :=
  es.countP Effect.isAnswer = 1 ∧ out.response = none ∨
    es.countP Effect.isAnswer = 0 ∧ out.response.isSome = true

def Gateway.callLimit (g : Gateway) (pr : ParsedRequest) : ℕ :=
  match g.plan pr with
  | none => 0
  | some p => (g.env pr p.1).maxAttempts p.2.length

structure OneAnswer (g : Gateway) (pr : ParsedRequest) (es : List Effect) (out : Output) : Prop where
  answers : Answers es out
  usage : es.countP Effect.isSaveUsage ≤ 1
  limit : es.countP Effect.isSend ≤ g.callLimit pr
  single : g.tenant.routing.fallback.enabled = false → es.countP Effect.isSend ≤ 1
  bounded : g.tenant.routing.fallback.enabled = true → 0 < g.tenant.routing.fallback.maxAttempts →
    es.countP Effect.isSend ≤ g.tenant.routing.fallback.maxAttempts.toNat
  admitted : WellCalled g es
  stops : StopsAtFinal es

section Lists

variable {g : Gateway} {es es' : List Effect}

theorem follows_of_sendless {a b : Effect} (ha : a.isSend = false) (hb : b.isSend = false) :
    Follows g a b := by
  constructor
  · rintro n req rfl
    cases hb
  · rintro n req rfl
    cases ha

theorem WellCalled.append (h : WellCalled g es) (h' : WellCalled g es') : WellCalled g (es ++ es') := by
  refine ⟨List.isChain_append.mpr ⟨h.chain,h'.chain,?_⟩,?_,?_⟩
  · intro a ha b hb
    exact follows_of_sendless (h.last a ha) (h'.head b hb)
  · cases es with
    | nil => exact h'.head
    | cons a es => exact h.head
  · cases hlast : es'.getLast? with
    | none =>
      rw [List.getLast?_eq_none_iff.mp hlast,List.append_nil]
      exact h.last
    | some b =>
      rw [List.getLast?_append_of_ne_nil _ (by rintro rfl; cases hlast)]
      exact h'.last

theorem wellCalled_of_sendless (h : ∀ e ∈ es, e.isSend = false) : WellCalled g es := by
  refine ⟨?_,fun e he => h e (List.mem_of_mem_head? he),fun e he => h e (List.mem_of_mem_getLast? he)⟩
  induction es with
  | nil => exact .nil
  | cons a es ih =>
    have hes := ih (fun e he => h e (List.mem_cons_of_mem _ he))
    cases es with
    | nil => exact .singleton a
    | cons b es =>
      exact .cons_cons (follows_of_sendless (h a (by simp)) (h b (by simp))) hes

theorem StopsAtFinal.append_left (h : ∀ e ∈ es, e.isFinal = false) (hes : StopsAtFinal es)
    (h' : StopsAtFinal es') : StopsAtFinal (es ++ es') := by
  refine List.pairwise_append.mpr ⟨hes,h',?_⟩
  intro a ha b _ hfinal
  rw [h a ha] at hfinal
  cases hfinal

theorem StopsAtFinal.append_right (hes : StopsAtFinal es) (h : ∀ e ∈ es', e.isSend = false) :
    StopsAtFinal (es ++ es') := by
  refine List.pairwise_append.mpr ⟨hes,?_,fun a _ b hb _ => h b hb⟩
  exact List.pairwise_of_forall_mem_list (fun a _ b hb _ => h b hb)

end Lists

section Plain

variable {e : Effect} {es : List Effect}

theorem plain_iff : e.plain = true ↔
    e.isAnswer = false ∧ e.isSaveUsage = false ∧ e.isFinal = false ∧ e.isSend = false := by
  simp [Effect.plain,and_assoc]

theorem plain_of_bookkeeping (h : e.bookkeeping = true) : e.plain = true := by
  unfold Effect.bookkeeping at h
  split at h
  · rfl
  · rfl
  · rfl
  · cases h

theorem plain_of_early (h : e.early = true) : e.plain = true := by
  unfold Effect.early at h
  split at h
  · cases h
  · next e' hcall => cases e' with
    | call a => exact absurd rfl (hcall a)
    | _ => rfl
  · rfl
  · cases h

theorem plain_releases (s : Setting) : ∀ e ∈ s.releases, e.plain = true := by
  intro e he
  obtain ⟨id,-,rfl⟩ := List.mem_map.mp he
  rfl

theorem sendless_of_plain (h : ∀ e ∈ es, e.plain = true) : ∀ e ∈ es, e.isSend = false :=
  fun e he => (plain_iff.mp (h e he)).2.2.2

theorem countP_of_plain (h : ∀ e ∈ es, e.plain = true) :
    es.countP Effect.isAnswer = 0 ∧ es.countP Effect.isSaveUsage = 0 ∧ es.countP Effect.isSend = 0 := by
  refine ⟨?_,?_,?_⟩
  · exact List.countP_eq_zero.mpr (fun e he => by simp [(plain_iff.mp (h e he)).1])
  · exact List.countP_eq_zero.mpr (fun e he => by simp [(plain_iff.mp (h e he)).2.1])
  · exact List.countP_eq_zero.mpr (fun e he => by simp [(plain_iff.mp (h e he)).2.2.2])

end Plain

section Attempts

variable {g : Gateway} {s : Setting} {pr : ParsedRequest} {req : ChatRequest} {i : ℕ} {n : String}
  {m : ModelConfig} {es : List Effect} {out : Output}

theorem wellCalled_round (hn : (g.env pr req).sendable n = some m)
    (ha : (g.outcomes.allow i).allowed = true) (sent : ChatRequest) (reply : Option GoError)
    (hes : ∀ e ∈ es, e.isSend = false) :
    WellCalled g (called (.allow ((g.env pr req).cbKey m) (g.outcomes.allow i)) ::
      called (.send n sent) :: .replied reply :: es) := by
  obtain ⟨hm,he,-⟩ := Env.usable_eq_some.mp (Env.sendable_eq_some.mp hn).1
  have hrest : WellCalled g (.replied reply :: es) :=
    wellCalled_of_sendless (List.forall_mem_cons.mpr ⟨rfl,hes⟩)
  refine ⟨.cons_cons ?_ (.cons_cons ?_ hrest.chain),by simp [called,Effect.isSend],?_⟩
  · constructor
    · intro n' sent' heq
      cases heq
      exact ⟨m,_,hm,he,rfl,ha⟩
    · intro n' sent' heq
      cases heq
  · constructor
    · intro n' sent' heq
      cases heq
    · intro n' sent' heq
      exact ⟨reply,rfl⟩
  · intro e hlast
    rw [List.getLast?_cons_cons,List.getLast?_cons_cons] at hlast
    exact hrest.last e hlast

theorem stopsAtFinal_round (key : String) (admission : Admission) (sent : ChatRequest)
    (reply : Option GoError) (hes : ∀ e ∈ es, e.isSend = false) :
    StopsAtFinal (called (.allow key admission) :: called (.send n sent) :: .replied reply :: es) := by
  refine List.pairwise_cons.mpr ⟨?_,List.pairwise_cons.mpr ⟨?_,List.pairwise_cons.mpr ⟨?_,?_⟩⟩⟩
  · intro e _ hfinal
    cases hfinal
  · intro e _ hfinal
    cases hfinal
  · intro e he _
    exact hes e he
  · exact List.pairwise_of_forall_mem_list (fun _ _ b hb _ => hes b hb)

/-- What every attempt leaves in place: `calls` bounds its calls of a provider. -/
structure Careful (g : Gateway) (calls : ℕ) (es : List Effect) : Prop where
  limit : es.countP Effect.isSend ≤ calls
  admitted : WellCalled g es
  stops : StopsAtFinal es

structure Unanswered (es : List Effect) : Prop where
  answers : es.countP Effect.isAnswer = 0
  usage : es.countP Effect.isSaveUsage = 0
  final : ∀ e ∈ es, e.isFinal = false

theorem careful_plain (h : ∀ e ∈ es, e.plain = true) : Careful g 0 es :=
  ⟨(countP_of_plain h).2.2.le,wellCalled_of_sendless (sendless_of_plain h),
    List.pairwise_of_forall_mem_list (fun _ _ b hb _ => sendless_of_plain h b hb)⟩

theorem unanswered_plain (h : ∀ e ∈ es, e.plain = true) : Unanswered es :=
  ⟨(countP_of_plain h).1,(countP_of_plain h).2.1,fun e he => (plain_iff.mp (h e he)).2.2.1⟩

theorem Careful.mono {k k' : ℕ} (h : Careful g k es) (hk : k ≤ k') : Careful g k' es :=
  ⟨h.limit.trans hk,h.admitted,h.stops⟩

theorem Careful.after {es' : List Effect} {k k' : ℕ} (h : Careful g k es) (hes : Unanswered es)
    (h' : Careful g k' es') : Careful g (k + k') (es ++ es') where
  limit := by
    rw [List.countP_append]
    exact Nat.add_le_add h.limit h'.limit
  admitted := h.admitted.append h'.admitted
  stops := h.stops.append_left hes.final h'.stops

theorem Unanswered.append {es' : List Effect} (h : Unanswered es) (h' : Unanswered es') :
    Unanswered (es ++ es') where
  answers := by rw [List.countP_append,h.answers,h'.answers]
  usage := by rw [List.countP_append,h.usage,h'.usage]
  final e he := (List.mem_append.mp he).elim (h.final e) (h'.final e)

theorem careful_round (hn : (g.env pr req).sendable n = some m)
    (ha : (g.outcomes.allow i).allowed = true) (sent : ChatRequest) (reply : Option GoError)
    (hes : ∀ e ∈ es, e.isSend = false) :
    Careful g 1 (called (.allow ((g.env pr req).cbKey m) (g.outcomes.allow i)) ::
      called (.send n sent) :: .replied reply :: es) where
  limit := by
    have hrest : es.countP Effect.isSend = 0 :=
      List.countP_eq_zero.mpr (fun e he => by simp [hes e he])
    simp [List.countP_cons,called,Effect.isSend,hrest]
  admitted := wellCalled_round hn ha sent reply hes
  stops := stopsAtFinal_round _ _ sent reply hes

theorem passing_careful (h : Gateway.Passing g (g.env pr req) i n es) :
    Careful g 1 es ∧ Unanswered es := by
  cases h with
  | skipped h =>
    have hnil : ∀ e ∈ ([] : List Effect), e.plain = true := by simp
    exact ⟨(careful_plain hnil).mono (by omega),unanswered_plain hnil⟩
  | denied m h ha =>
    have hallow : ∀ e ∈ [called (.allow ((g.env pr req).cbKey m) (g.outcomes.allow i))],
        e.plain = true := by
      intro e he
      rw [List.mem_singleton.mp he]
      rfl
    exact ⟨(careful_plain hallow).mono (by omega),unanswered_plain hallow⟩
  | retried m sent err es h ha hr hes =>
    have hplain : ∀ e ∈ es, e.plain = true := fun e he => plain_of_bookkeeping (hes e he)
    have hretry : isRetryable (classify err) = true := by
      simp only [Env.retries,Bool.and_eq_true] at hr
      exact hr.2
    have hrest := unanswered_plain hplain
    refine ⟨careful_round h ha sent _ (sendless_of_plain hplain),⟨?_,?_,?_⟩⟩
    · simp [called,Effect.isAnswer,hrest.answers]
    · simp [called,Effect.isSaveUsage,hrest.usage]
    · intro e he
      simp only [List.mem_cons] at he
      rcases he with rfl | rfl | rfl | he
      · rfl
      · rfl
      · simp [Effect.isFinal,hretry]
      · exact hrest.final e he

theorem passed_careful {l : List String} (h : Gateway.Passed g (g.env pr req) i l es) :
    Careful g l.length es ∧ Unanswered es := by
  induction h with
  | nil i =>
    have hnil : ∀ e ∈ ([] : List Effect), e.plain = true := by simp
    exact ⟨careful_plain hnil,unanswered_plain hnil⟩
  | cons h hl ih =>
    obtain ⟨hcareful,hun⟩ := passing_careful h
    refine ⟨?_,hun.append ih.2⟩
    rw [List.length_cons,Nat.add_comm]
    exact hcareful.after hun ih.1

theorem closing_careful (h : Gateway.Closing g s (g.env pr req) i n es out) :
    Careful g 1 es ∧ Answers es out ∧ es.countP Effect.isSaveUsage ≤ 1 := by
  cases h with
  | stopped a h =>
    have hsend : ∀ e ∈ [Effect.answer a], e.isSend = false := by simp [Effect.isSend]
    refine ⟨⟨by simp [Effect.isSend],wellCalled_of_sendless hsend,List.pairwise_singleton _ _⟩,
      .inl ⟨rfl,rfl⟩,by simp [Effect.isSaveUsage]⟩
  | refused m sent err es a h ha hreply hr hes =>
    have hplain : ∀ e ∈ es, e.plain = true := fun e he => plain_of_bookkeeping (hes e he)
    obtain ⟨hanswer,husage,-⟩ := countP_of_plain hplain
    refine ⟨careful_round h ha sent _ ?_,.inl ⟨?_,rfl⟩,?_⟩
    · intro e he
      rcases List.mem_append.mp he with he | he
      · exact sendless_of_plain hplain e he
      · rw [List.mem_singleton.mp he]
        rfl
    · simp [called,Effect.isAnswer,hanswer]
    · simp [called,Effect.isSaveUsage,husage]
  | streamed m sent row h ha hs hr =>
    have hplain : ∀ e ∈ (if (s.stream i).completed then s.releases else []) ++
        [called (.report ((g.env pr req).cbKey m) .success (g.outcomes.allow i).isProbe)],
        e.plain = true := by
      intro e he
      rcases List.mem_append.mp he with he | he
      · split_ifs at he
        · exact plain_releases s e he
        · cases he
      · rw [List.mem_singleton.mp he]
        rfl
    obtain ⟨hanswer,husage,-⟩ := countP_of_plain hplain
    rw [List.append_assoc]
    refine ⟨careful_round h ha sent _ ?_,.inl ⟨?_,rfl⟩,?_⟩
    · intro e he
      rcases List.mem_append.mp he with he | he
      · simp only [List.mem_cons,List.not_mem_nil,or_false] at he
        rcases he with rfl | rfl
        · rfl
        · rfl
      · exact sendless_of_plain hplain e he
    · rw [List.countP_cons,List.countP_cons,List.countP_cons,List.countP_append,hanswer]
      rfl
    · rw [List.countP_cons,List.countP_cons,List.countP_cons,List.countP_append,husage]
      exact le_of_eq rfl
  | answered m sent stats row response h ha hs hr hstats =>
    have hplain : ∀ e ∈ stats, e.plain = true := by
      intro e he
      rcases hstats e he with hbook | ⟨latencyMs,rfl⟩
      · exact plain_of_bookkeeping hbook
      · rfl
    obtain ⟨hanswer,husage,-⟩ := countP_of_plain hplain
    obtain ⟨hanswer',husage',-⟩ := countP_of_plain (plain_releases s)
    refine ⟨careful_round h ha sent _ ?_,.inr ⟨?_,rfl⟩,?_⟩
    · intro e he
      rcases List.mem_append.mp he with he | he
      · exact sendless_of_plain hplain e he
      · rcases List.mem_cons.mp he with rfl | he
        · rfl
        · exact sendless_of_plain (plain_releases s) e he
    · simp [called,Effect.isAnswer,hanswer,hanswer']
    · simp [List.countP_cons,called,Effect.isSaveUsage,husage,husage']

theorem Answers.after {es' : List Effect} (h : Answers es' out) (hes : es.countP Effect.isAnswer = 0) :
    Answers (es ++ es') out := by
  unfold Answers
  rw [List.countP_append,hes,Nat.zero_add]
  exact h

theorem careful_answer (a : Answer) (calls : ℕ) : Careful g calls [.answer a] :=
  ⟨by simp [Effect.isSend],wellCalled_of_sendless (by simp [Effect.isSend]),
    List.pairwise_singleton _ _⟩

theorem attemptSteps_careful (g : Gateway) (s : Setting) (pr : ParsedRequest)
    (virtualAlias : Option String) (routeGroup : String) (p : ChatRequest × List String) :
    ∃ es out, g.attemptSteps s pr virtualAlias routeGroup p.1 p.2 = ⟨es,.error out⟩ ∧
      Careful g ((g.env pr p.1).maxAttempts p.2.length) es ∧ Answers es out ∧
      es.countP Effect.isSaveUsage ≤ 1 := by
  have htried : ((g.env pr p.1).tried p.2).length ≤ (g.env pr p.1).maxAttempts p.2.length := by
    unfold Env.tried
    rw [List.length_take]
    exact Nat.min_le_left _ _
  rcases Gateway.attemptSteps_cases s virtualAlias routeGroup pr p.1 p.2 with
    ⟨es,a,hrun,hpassed,-⟩ | ⟨k,n,es,es',out,hrun,hpassed,hclose,hk,-,-⟩
  · obtain ⟨hcareful,hun⟩ := passed_careful hpassed
    refine ⟨_,_,hrun,(hcareful.after hun (careful_answer a 0)).mono htried,.inl ⟨?_,rfl⟩,?_⟩
    · simp [hun.answers,Effect.isAnswer]
    · simp [hun.usage,Effect.isSaveUsage]
  · obtain ⟨hcareful,hun⟩ := passed_careful hpassed
    obtain ⟨hlast,hanswer,husage⟩ := closing_careful hclose
    have hlt : k < ((g.env pr p.1).tried p.2).length := (List.getElem?_eq_some_iff.mp hk).1
    refine ⟨_,_,hrun,(hcareful.after hun hlast).mono ?_,hanswer.after hun.answers,?_⟩
    · rw [List.length_take]
      omega
    · rw [List.countP_append,hun.usage,Nat.zero_add]
      exact husage

theorem careful_early {calls : ℕ} {es' : List Effect} (hes : ∀ e ∈ es, e.plain = true)
    (h : Careful g calls es') : Careful g calls (es ++ es') := by
  have hboth := (careful_plain hes).after (unanswered_plain hes) h
  rwa [Nat.zero_add] at hboth

theorem course_careful {virtualAlias : Option String} {routeGroup : String}
    {plan : Option (ChatRequest × List String)} {result : Except Output Empty}
    (h : Gateway.Course g s pr virtualAlias routeGroup plan es result) :
    ∃ out, result = .error out ∧
      Careful g (plan.elim 0 (fun p => (g.env pr p.1).maxAttempts p.2.length)) es ∧ Answers es out ∧
      es.countP Effect.isSaveUsage ≤ 1 := by
  have hreserve : ∀ e ∈ s.reservation.toList.map Effect.reserve, e.plain = true := by
    intro e he
    obtain ⟨id,-,rfl⟩ := List.mem_map.mp he
    rfl
  cases h with
  | attempted p es lookup hes hlookup hmiss =>
    have hbefore : ∀ e ∈ es, e.plain = true := fun e he => plain_of_early (hes e he)
    have hfind : ∀ e ∈ lookup, e.plain = true := fun e he => plain_of_early (hlookup e he)
    obtain ⟨attempts,out,hrun,hcareful,hans,husage⟩ :=
      attemptSteps_careful g s pr virtualAlias routeGroup p
    rw [hrun]
    refine ⟨out,rfl,careful_early hbefore (careful_early hreserve (careful_early hfind hcareful)),?_,?_⟩
    · exact ((hans.after (countP_of_plain hfind).1).after (countP_of_plain hreserve).1).after
        (countP_of_plain hbefore).1
    · simp only [List.countP_append,(countP_of_plain hbefore).2.1,(countP_of_plain hreserve).2.1,
        (countP_of_plain hfind).2.1,Nat.zero_add]
      exact husage
  | cached p es lookup a hes hlookup hhit =>
    have hbefore : ∀ e ∈ es, e.plain = true := fun e he => plain_of_early (hes e he)
    have hfind : ∀ e ∈ lookup, e.plain = true := fun e he => plain_of_early (hlookup e he)
    refine ⟨_,rfl,careful_early hbefore (careful_early hreserve
      (careful_early hfind (careful_answer a _))),.inl ⟨?_,rfl⟩,?_⟩
    · simp only [List.countP_append,(countP_of_plain hbefore).1,(countP_of_plain hreserve).1,
        (countP_of_plain hfind).1]
      rfl
    · simp only [List.countP_append,(countP_of_plain hbefore).2.1,(countP_of_plain hreserve).2.1,
        (countP_of_plain hfind).2.1]
      exact Nat.zero_le _
  | refused es reserves a failed hes hreserves =>
    have hbefore : ∀ e ∈ es, e.plain = true := fun e he => plain_of_early (hes e he)
    have hres : ∀ e ∈ reserves, e.plain = true := by
      rcases hreserves with rfl | rfl
      · simp
      · exact hreserve
    refine ⟨_,rfl,careful_early hbefore (careful_early hres (careful_answer a _)),.inl ⟨?_,rfl⟩,?_⟩
    · simp only [List.countP_append,(countP_of_plain hbefore).1,(countP_of_plain hres).1]
      rfl
    · simp only [List.countP_append,(countP_of_plain hbefore).2.1,(countP_of_plain hres).2.1]
      exact Nat.zero_le _

end Attempts

theorem Gateway.callLimit_single {g : Gateway} {pr : ParsedRequest}
    (h : g.tenant.routing.fallback.enabled = false) : g.callLimit pr ≤ 1 := by
  unfold callLimit
  cases g.plan pr with
  | none => exact Nat.zero_le _
  | some p => simp [Env.maxAttempts,env,h]

theorem Gateway.callLimit_bounded {g : Gateway} {pr : ParsedRequest}
    (h : g.tenant.routing.fallback.enabled = true)
    (hpos : 0 < g.tenant.routing.fallback.maxAttempts) :
    g.callLimit pr ≤ g.tenant.routing.fallback.maxAttempts.toNat := by
  unfold callLimit
  cases g.plan pr with
  | none => exact Nat.zero_le _
  | some p =>
    have hmax : (g.env pr p.1).maxAttempts p.2.length =
        if g.tenant.routing.fallback.maxAttempts < p.2.length then
          g.tenant.routing.fallback.maxAttempts.toNat
        else p.2.length := by
      unfold Env.maxAttempts
      rw [if_pos (by simp [env,h,hpos])]
      rfl
    dsimp only
    rw [hmax]
    split
    · exact Nat.le_refl _
    · omega

theorem Gateway.one_request_one_answer (g : Gateway) (s : Setting) (pr : ParsedRequest)
    (hchat : ¬(pr.rawBody.isSome ∧ pr.headers "X-Model-Type" = "ml")) :
    ∃ out, (g.steps s pr).result = .error out ∧ OneAnswer g pr (g.steps s pr).effects out := by
  obtain ⟨es,deferred,heffects,hcourse,hdeferred⟩ := steps_course s hchat
  obtain ⟨out,hresult,hcareful,hanswers,husage⟩ := course_careful hcourse
  have hplain : ∀ e ∈ deferred, e.plain = true := by
    intro e he
    obtain ⟨row,rfl⟩ := hdeferred e he
    rfl
  obtain ⟨hanswer',husage',hsend'⟩ := countP_of_plain hplain
  have hlimit : (g.plan pr).elim 0 (fun p => (g.env pr p.1).maxAttempts p.2.length) =
      g.callLimit pr := by
    unfold callLimit
    cases g.plan pr with
    | none => rfl
    | some p => rfl
  rw [hlimit] at hcareful
  have hcount : (g.steps s pr).effects.countP Effect.isSend ≤ g.callLimit pr := by
    rw [heffects,List.countP_append,hsend',Nat.add_zero]
    exact hcareful.limit
  refine ⟨out,hresult,?_,?_,hcount,fun h => hcount.trans (callLimit_single h),
    fun h hpos => hcount.trans (callLimit_bounded h hpos),?_,?_⟩
  · unfold Answers
    rw [heffects,List.countP_append,hanswer',Nat.add_zero]
    exact hanswers
  · rw [heffects,List.countP_append,husage',Nat.add_zero]
    exact husage
  · rw [heffects]
    exact hcareful.admitted.append (wellCalled_of_sendless (sendless_of_plain hplain))
  · rw [heffects]
    exact hcareful.stops.append_right (sendless_of_plain hplain)

theorem fallback_answers_once :
    ∃ out, (fallingBack.steps quietSetting (asking "hello")).result = .error out ∧
      OneAnswer fallingBack (asking "hello") (fallingBack.steps quietSetting (asking "hello")).effects
        out :=
  Gateway.one_request_one_answer fallingBack quietSetting (asking "hello") nofun

end PrismGateway.Orchestrator
