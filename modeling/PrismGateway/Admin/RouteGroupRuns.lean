import PrismGateway.Admin.RouteGroups
import PrismGateway.Admin.Secrets

namespace PrismGateway.Admin.RouteGroups

open Lib Storage Storage.Tenant
open ConfigReads (Server plainServer)

/-- Where an operation stands: its read is call `c`, or its patch is; or it has ended without one. -/
inductive Stage where
  | opened (c : Nat)
  | sent (c : Nat)
  | ended (answer : Prepared)

structure State where
  store : World
  edits : List (Edit × Stage)

/-- `store` is a step of any call: an operation's or another writer's. A handler that finds no row
seeds one, which changes nothing beside an existing one. -/
inductive Event where
  | store (e : Tenant.Event)
  | seedTenantConfig (config : Json)
  | read (edit : Edit) (order : Json.MapOrder)
  | send (i : Nat) (readOrder patchOrder : Json.MapOrder)

def seedTenantConfig (w : World) (config : Json) : World :=
  match w.db.flat with
  | some _ => { w with reply := .notSeeded }
  | none =>
    { w with
      db := { w.db with flat := some ⟨0,config⟩ }
      history := w.history ++ [⟨0,config⟩]
      reply := .seeded 0 }

def State.answered (s : State) (i : Nat) : Option (Edit × Option (Json × Int)) :=
  match s.edits[i]? with
  | some (edit,.opened c) => match s.store.calls[c]?.map Call.phase with
    | some (.got found _) => some (edit,found)
    | _ => none
  | _ => none

def State.call (s : State) (request : Tenant.Request) : World :=
  { s.store with calls := s.store.calls ++ [⟨request,request.first⟩], reply := .pending }

def State.next (s : State) : Nat := s.store.calls.length

def step (server : Server) (tenantID : String) (s : State) : Event → Option State
  | .store e => (Tenant.step s.store e).map (fun w => { s with store := w })
  | .seedTenantConfig config => some { s with store := seedTenantConfig s.store config }
  | .read edit order => some ⟨s.call (.get order),s.edits ++ [(edit,Stage.opened s.next)]⟩
  | .send i readOrder patchOrder => (s.answered i).map (fun (edit,found) =>
    match edit.prepare server tenantID found with
    | .patch ifMatchVersion mergePatch =>
      ⟨s.call (.patch ⟨ifMatchVersion,mergePatch,readOrder,patchOrder⟩),
        s.edits.set i (edit,.sent s.next)⟩
    | answer => { s with edits := s.edits.set i (edit,.ended answer) })

def Faithful (s : State) (e : Event) (s' : State) : Prop :=
  ∀ edit c n, e = .store (.next c) → (edit,Stage.sent c) ∈ s.edits → s'.store.reply = .written n →
    ∃ base row order, s.store.db.current = some base ∧ s'.store.db.current = some row ∧
      ∀ order', ConfigRow.read order' row = (edit.apply (ConfigRow.read order base).1,n)

def readsOf (w : World) : Nat := if w.db.active.isSome then 1 else 2

def alone (s : State) (edit : Edit) (order readOrder patchOrder : Json.MapOrder) : List Event :=
  .read edit order :: (List.replicate (readsOf s.store) (Event.store (.next s.next)) ++
    Event.send s.edits.length readOrder patchOrder ::
      List.replicate (readsOf s.store + 4) (Event.store (.next (s.next + 1))))

def Succeeds (server : Server) (tenantID : String) (s : State) (edit : Edit) : Prop :=
  ∀ order readOrder patchOrder, ∃ s' n row,
    exec (step server tenantID) s (alone s edit order readOrder patchOrder) = some s' ∧
      s'.store.reply = .written n ∧ s'.store.db.current = some row ∧
      ∀ order', (groupsOf (ConfigRow.read order' row).1).lookup edit.group = edit.models

def Quiet (s : State) : Prop := ∀ k ∈ s.store.calls, k.phase.unlocked = true

def Edit.Possible (row : ConfigRow) : Edit → Prop
  | .save _ _ => ConfigReads.isMap row.config = true
  | .delete routeGroupId => routeGroupId ≠ "" ∧ ∀ order, ∃ tc,
      Config.Schemas.tenantConfig.decode (ConfigRow.read order row).1
        Config.Schemas.tenantConfig.zero = some tc ∧ hasRouteGroup tc routeGroupId = true

def Plain (s : State) : Event → Prop
  | .store e => Undivided s.store e
  | .seedTenantConfig _ => s.store.db.flat = none → s.store.db.versions = []
  | .read _ _ => True
  | .send i _ _ => ∀ edit config version, s.answered i = some (edit,some (config,version)) →
      ∀ row ∈ s.store.history, row.version = version → edit.Fits row ∧ Steady row

structure State.Starts (s : State) : Prop where
  store : s.store.Starts
  edits : s.edits = []

structure Sent (s : State) (edit : Edit) (c : Nat) (k : Call) (p : Patch) (base : ConfigRow) : Prop where
  call : s.store.calls[c]? = some k
  request : k.request = .patch p
  stored : base ∈ s.store.history
  version : base.version = p.ifMatchVersion
  fits : edit.Fits base
  change : patchedTenantConfig p.patchOrder (ConfigRow.read p.readOrder base).1 p.mergePatch =
    .ok (edit.apply (ConfigRow.read p.readOrder base).1)

structure Inv (s : State) : Prop where
  store : ∃ older, Tenant.Inv older s.store
  sent : ∀ edit c, (edit,Stage.sent c) ∈ s.edits → ∃ k p base, Sent s edit c k p base

section Calls

variable {w w' : World} {c d : Nat} {k : Call} {e : Tenant.Event}

def Moves (w : World) (c : Nat) (k : Call) (w' : World) : Prop :=
  ∃ phase, w'.calls = w.calls.set c { k with phase := phase }

theorem moves_readNext (order : Json.MapOrder) (since : Option Nat) :
    Moves w c k (w.readNext c k order since) := by
  unfold World.readNext
  split
  · split <;> exact ⟨_,rfl⟩
  · exact ⟨_,rfl⟩

theorem moves_patchWith (p : Patch) (found : Option (Json × Int)) :
    Moves w c k (w.patchWith c k p found) := by
  unfold World.patchWith
  split
  · exact ⟨_,rfl⟩
  · split_ifs
    · exact ⟨_,rfl⟩
    · split <;> exact ⟨_,rfl⟩

theorem moves_putVersioned {put : Put} {version : Int} (h : w.putVersioned c k put version = some w') :
    Moves w c k w' := by
  unfold World.putVersioned at h
  dsimp only at h
  split_ifs at h <;> cases h <;> exact ⟨_,rfl⟩

theorem moves_putNew (put : Put) : Moves w c k (w.putNew c k put) := by
  unfold World.putNew
  split_ifs <;> exact ⟨_,rfl⟩

theorem moves_putFlat (put : Put) (version : Int) : Moves w c k (w.putFlat c k put version) := by
  unfold World.putFlat
  split_ifs <;> exact ⟨_,rfl⟩

theorem moves_next (h : w.next c k = some w') : Moves w c k w' := by
  unfold World.next at h
  cases hphase : k.phase with
  | reading =>
    rw [hphase] at h
    obtain ⟨order,_,rfl⟩ := Option.map_eq_some_iff.mp h
    exact moves_readNext order none
  | readingFlat since =>
    rw [hphase] at h
    obtain ⟨order,_,rfl⟩ := Option.map_eq_some_iff.mp h
    exact moves_readNext order (some since)
  | got found since =>
    rw [hphase] at h
    dsimp only at h
    split at h
    · cases h
      exact moves_patchWith _ found
    · cases h
  | writing put =>
    rw [hphase] at h
    dsimp only at h
    split at h <;> cases h <;> exact ⟨_,rfl⟩
  | selected put id =>
    rw [hphase] at h
    dsimp only at h
    split_ifs at h
    · cases h
      exact ⟨_,rfl⟩
    · obtain ⟨row,_,rfl⟩ := Option.map_eq_some_iff.mp h
      exact ⟨_,rfl⟩
  | locked put version =>
    rw [hphase] at h
    exact moves_putVersioned h
  | noActive put =>
    rw [hphase] at h
    dsimp only at h
    split at h
    · cases h
      exact ⟨_,rfl⟩
    · split_ifs at h
      cases h
      exact ⟨_,rfl⟩
  | absent put =>
    rw [hphase] at h
    cases h
    exact moves_putNew put
  | flatLocked put version =>
    rw [hphase] at h
    cases h
    exact moves_putFlat put version
  | counting config =>
    rw [hphase] at h
    dsimp only at h
    split_ifs at h <;> cases h <;> exact ⟨_,rfl⟩
  | repairing =>
    rw [hphase] at h
    cases h
    exact ⟨_,rfl⟩
  | numbering config =>
    rw [hphase] at h
    cases h
    exact ⟨_,rfl⟩
  | numbered config version =>
    rw [hphase] at h
    dsimp only at h
    split_ifs at h <;> cases h <;> exact ⟨_,rfl⟩
  | inserted row =>
    rw [hphase] at h
    dsimp only at h
    split_ifs at h
    cases h
    exact ⟨_,rfl⟩
  | done =>
    rw [hphase] at h
    cases h

theorem request_of_moves (h : Moves w d k w') (hk : w.calls[d]? = some k) {j : Call}
    (hj : w.calls[c]? = some j) : ∃ j', w'.calls[c]? = some j' ∧ j'.request = j.request := by
  obtain ⟨phase,hcalls⟩ := h
  rw [hcalls,List.getElem?_set]
  split_ifs with hdc hlt
  · subst hdc
    cases hk.symm.trans hj
    exact ⟨_,rfl,rfl⟩
  · subst hdc
    exact absurd (List.getElem?_eq_some_iff.mp hk).1 hlt
  · exact ⟨j,hj,rfl⟩

theorem request_kept (h : Tenant.step w e = some w') (hk : w.calls[c]? = some k) :
    ∃ k', w'.calls[c]? = some k' ∧ k'.request = k.request := by
  cases e with
  | call request =>
    cases h
    refine ⟨k,?_,rfl⟩
    exact (List.getElem?_append_left (List.getElem?_eq_some_iff.mp hk).1).trans hk
  | next d =>
    obtain ⟨j,hj,hnext⟩ := Option.bind_eq_some_iff.mp h
    exact request_of_moves (moves_next hnext) hj hk
  | abort d =>
    obtain ⟨j,hj,rfl⟩ := Option.map_eq_some_iff.mp h
    exact request_of_moves ⟨_,rfl⟩ hj hk

end Calls

section Soundness

variable {server : Server} {tenantID : String} {s s' : State} {e : Event} {w : World}
  {older : List ConfigRow} {edit : Edit} {c : Nat} {k : Call} {p : Patch} {base : ConfigRow}

theorem inv_seedTenantConfig (h : Tenant.Inv older w) (config : Json)
    (hplain : w.db.flat = none → w.db.versions = []) :
    ∃ older, Tenant.Inv older (seedTenantConfig w config) := by
  unfold seedTenantConfig
  cases hflat : w.db.flat with
  | some row => exact ⟨older,h.split,h.increasing,h.flat,h.active,h.once,h.calls⟩
  | none =>
    have hversions := hplain hflat
    have hnil : older = [] := List.getLast?_eq_none_iff.mp (h.flat.symm.trans hflat)
    have hhistory : w.history = [] := by rw [h.split,hnil,hversions,List.append_nil]
    refine ⟨[⟨0,config⟩],?_,?_,rfl,h.active,h.once,fun k hk => ?_⟩
    · show w.history ++ [_] = [_] ++ w.db.versions
      rw [hhistory,hversions]
      rfl
    · show Increasing (w.history ++ [_])
      rw [hhistory]
      exact List.pairwise_singleton _ _
    · have hvalid := h.calls k hk
      have hunlocked : k.phase.locksFlat = false := by
        rw [Call.Valid] at hvalid
        cases hphase : k.phase with
        | flatLocked put version =>
          rw [hphase] at hvalid
          obtain ⟨_,row,hrow,_⟩ := hvalid
          cases hflat.symm.trans hrow
        | _ => rfl
      rw [hnil] at hvalid
      exact hvalid.setFlat hunlocked

theorem kept_seedTenantConfig (w : World) (config : Json) :
    w.history <+: (seedTenantConfig w config).history ∧
      (seedTenantConfig w config).calls = w.calls := by
  unfold seedTenantConfig
  split
  · exact ⟨List.prefix_rfl,rfl⟩
  · exact ⟨List.prefix_append _ _,rfl⟩

theorem Sent.mono (h : Sent s edit c k p base) (hhistory : s.store.history <+: s'.store.history)
    (hcalls : ∃ k', s'.store.calls[c]? = some k' ∧ k'.request = k.request) :
    ∃ k' p base, Sent s' edit c k' p base := by
  obtain ⟨k',hk',hrequest⟩ := hcalls
  exact ⟨k',p,base,hk',hrequest.trans h.request,hhistory.subset h.stored,h.version,h.fits,h.change⟩

theorem Inv.called (h : Inv s) (request : Tenant.Request) :
    (∃ older, Tenant.Inv older (s.call request)) ∧
      ∀ edit c, (edit,Stage.sent c) ∈ s.edits → ∀ edits, ∃ k p base,
        Sent ⟨s.call request,edits⟩ edit c k p base := by
  obtain ⟨older,hstore⟩ := h.store
  refine ⟨⟨older,hstore.called request⟩,fun edit c hmem edits => ?_⟩
  obtain ⟨k,p,base,hsent⟩ := h.sent edit c hmem
  have hcall : Tenant.step s.store (.call request) = some (s.call request) := rfl
  have hkept : s.store.history <+: (State.mk (s.call request) edits).store.history := List.prefix_rfl
  exact hsent.mono hkept (request_kept hcall hsent.call)

theorem Inv.read (h : Inv s) {i : Nat} {found : Json × Int} (hanswered : s.answered i = some (edit,some found)) :
    ∃ row ∈ s.store.history, ∃ order, found = ConfigRow.read order row := by
  unfold State.answered at hanswered
  split at hanswered
  · next c _ =>
    split at hanswered
    · next since hphase =>
      cases hanswered
      obtain ⟨k,hk,hgot⟩ := Option.map_eq_some_iff.mp hphase
      obtain ⟨older,hstore⟩ := h.store
      have hvalid := hstore.calls k (List.mem_of_getElem? hk)
      rw [Call.Valid,hgot] at hvalid
      obtain ⟨order,n,_,_,_,hfound⟩ := hvalid
      obtain ⟨row,hrow,heq⟩ := Option.map_eq_some_iff.mp hfound.symm
      exact ⟨row,List.mem_of_mem_take (List.mem_of_getLast? hrow),order,heq.symm⟩
    · cases hanswered
  · cases hanswered

theorem Sent.of_prepared (hinv : Inv s) {i : Nat} {found : Option (Json × Int)} {ifMatchVersion : Int}
    {mergePatch : Json} {readOrder patchOrder : Json.MapOrder} {edits : List (Edit × Stage)}
    (hplain : Plain s (.send i readOrder patchOrder)) (hanswered : s.answered i = some (edit,found))
    (h : edit.prepare server tenantID found = .patch ifMatchVersion mergePatch) :
    ∃ k p base, Sent ⟨s.call (.patch ⟨ifMatchVersion,mergePatch,readOrder,patchOrder⟩),edits⟩ edit
      s.next k p base := by
  cases found with
  | none =>
    cases edit with
    | save routeGroupId models => cases h
    | delete routeGroupId =>
      simp only [Edit.prepare,prepareDelete] at h
      split_ifs at h
  | some found =>
    obtain ⟨row,hrow,order,rfl⟩ := hinv.read hanswered
    obtain ⟨hfits,hsteady⟩ := hplain edit _ _ hanswered row hrow rfl
    obtain ⟨hversion,hchange⟩ := prepare_patch hfits hsteady order h
    exact ⟨_,_,row,List.getElem?_concat_length,rfl,hrow,hversion.symm,hfits,hchange readOrder patchOrder⟩

theorem inv_step (h : Inv s) (hplain : Plain s e) (hstep : step server tenantID s e = some s') : Inv s' := by
  cases e with
  | store e =>
    obtain ⟨w,hw,rfl⟩ := Option.map_eq_some_iff.mp hstep
    obtain ⟨hstore,hsound⟩ := inv_sound_step h.store hplain hw
    refine ⟨hstore,fun edit c hmem => ?_⟩
    obtain ⟨k,p,base,hsent⟩ := h.sent edit c hmem
    exact hsent.mono hsound.kept (request_kept hw hsent.call)
  | seedTenantConfig config =>
    cases hstep
    obtain ⟨older,hstore⟩ := h.store
    obtain ⟨hhistory,hcalls⟩ := kept_seedTenantConfig s.store config
    refine ⟨inv_seedTenantConfig hstore config hplain,fun edit c hmem => ?_⟩
    obtain ⟨k,p,base,hsent⟩ := h.sent edit c hmem
    refine hsent.mono hhistory ⟨k,?_,rfl⟩
    show (seedTenantConfig s.store config).calls[c]? = some k
    rw [hcalls]
    exact hsent.call
  | read edit order =>
    cases hstep
    obtain ⟨hstore,hsent⟩ := h.called (.get order)
    refine ⟨hstore,fun edit' c hmem => ?_⟩
    rcases List.mem_append.mp hmem with hmem | hmem
    · exact hsent edit' c hmem _
    · cases List.mem_singleton.mp hmem
  | send i readOrder patchOrder =>
    obtain ⟨⟨edit,found⟩,hanswered,rfl⟩ := Option.map_eq_some_iff.mp hstep
    dsimp only
    split
    · next ifMatchVersion mergePatch hprepare =>
      obtain ⟨hstore,hsent⟩ := h.called
        (.patch ⟨ifMatchVersion,mergePatch,readOrder,patchOrder⟩)
      refine ⟨hstore,fun edit' c hmem => ?_⟩
      rcases List.mem_or_eq_of_mem_set hmem with hmem | heq
      · exact hsent edit' c hmem _
      · cases heq
        exact Sent.of_prepared h hplain hanswered hprepare
    · refine ⟨h.store,fun edit' c hmem => ?_⟩
      rcases List.mem_or_eq_of_mem_set hmem with hmem | heq
      · obtain ⟨k,p,base,hsent⟩ := h.sent edit' c hmem
        exact ⟨k,p,base,hsent.call,hsent.request,hsent.stored,hsent.version,hsent.fits,hsent.change⟩
      · cases heq

theorem Edit.Fits.snake (h : edit.Fits base) : ∀ id models, edit = .save id models →
    toSnakeCase id = id := by
  rintro id models rfl
  exact h.2.1

theorem read_apply (h : edit.Fits base) (order order' : Json.MapOrder) (n : Int) :
    ConfigRow.read order' ⟨n,edit.apply (ConfigRow.read order base).1⟩ =
      (edit.apply (ConfigRow.read order base).1,n) := by
  have htidy : Tidy (edit.apply (ConfigRow.read order base).1) :=
    tidy_apply (tidy_normalizeConfigKeys order base.config) h.snake
  rw [ConfigRow.read,htidy.normalizeConfigKeys_eq order']

theorem faithful_step (h : Inv s) (hplain : Plain s e) (hstep : step server tenantID s e = some s') :
    Faithful s e s' := by
  rintro edit c n rfl hmem hreply
  obtain ⟨k,p,base,hsent⟩ := h.sent edit c hmem
  obtain ⟨older,hstore⟩ := h.store
  obtain ⟨w,hw,rfl⟩ := Option.map_eq_some_iff.mp hstep
  have hsound := (inv_sound_step (e := .next c) h.store hplain hw).2
  obtain ⟨request,config,hrequest,happlied,hhistory⟩ := hsound.written n hreply
  have hpatch : request = .patch p := by
    rw [request_next hsent.call,hsent.request] at hrequest
    exact (Option.some.inj hrequest).symm
  subst hpatch
  obtain ⟨current,hcurrent,hversion,hchange⟩ := happlied
  have hmem' : current ∈ s.store.history := List.mem_of_getLast? (hstore.greatest.symm.trans hcurrent)
  -- the row in force is the one that was read: no two rows have one version
  have hsame : current = base :=
    hstore.increasing.unique hmem' hsent.stored (hversion.trans hsent.version.symm)
  subst hsame
  rw [hsent.change] at hchange
  cases hchange
  refine ⟨current,⟨n,_⟩,p.readOrder,hcurrent,?_,fun order' => read_apply hsent.fits p.readOrder order' n⟩
  rw [hsound.greatest,hhistory,List.getLast?_concat]

end Soundness

section Undisturbed

def joined (w : World) (request : Tenant.Request) (phase : Phase) (reply : Reply) : World :=
  { w with calls := w.calls ++ [⟨request,phase⟩], reply := reply }

structure Resting (w : World) (row : ConfigRow) : Prop where
  current : w.db.current = some row
  active : w.db.active = if w.db.versions = [] then none else some (w.db.versions.length - 1)
  increasing : Increasing w.db.versions
  quiet : ∀ k ∈ w.calls, k.phase.unlocked = true

variable {w : World} {row : ConfigRow} {request : Tenant.Request} {phase : Phase} {reply : Reply}
  {order : Json.MapOrder} {n : Int}

theorem step_joined (w : World) (request : Tenant.Request) (phase : Phase) (reply : Reply) :
    Tenant.step (joined w request phase reply) (.next w.calls.length) =
      (joined w request phase reply).next w.calls.length ⟨request,phase⟩ := by
  simp [Tenant.step,joined]

@[simp] theorem move_joined (phase' : Phase) (reply' : Reply) :
    (joined w request phase reply).move w.calls.length ⟨request,phase⟩ phase' reply' =
      joined w request phase' reply' := by
  simp [World.move,joined]

theorem claims_of_unlocked (h : phase.unlocked = true) : phase.claims n = false := by
  cases phase <;> first | rfl | cases h

theorem holds_joined {p : Phase → Bool} (hquiet : ∀ k ∈ w.calls, p k.phase = false)
    (hphase : p phase = false) : (joined w request phase reply).holds p = false := by
  rw [World.holds,List.any_eq_false]
  intro k hk
  rcases List.mem_append.mp hk with hk | hk
  · simp [hquiet k hk]
  · rw [List.mem_singleton.mp hk]
    simp [hphase]

theorem Resting.unlocked (h : Resting w row) {p : Phase → Bool} (hp : p ∈ locks) :
    ∀ k ∈ w.calls, p k.phase = false :=
  fun k hk => Phase.free_of_unlocked (h.quiet k hk) p hp

theorem Resting.unclaimed (h : Resting w row) (n : Int) : ∀ k ∈ w.calls, k.phase.claims n = false :=
  fun k hk => claims_of_unlocked (h.quiet k hk)

theorem Resting.joined (h : Resting w row) (hphase : phase.unlocked = true) :
    Resting (joined w request phase reply) row := by
  refine ⟨h.current,h.active,h.increasing,fun k hk => ?_⟩
  rcases List.mem_append.mp hk with hk | hk
  · exact h.quiet k hk
  · rw [List.mem_singleton.mp hk]
    exact hphase

theorem Resting.activeRow (h : Resting w row) : w.db.activeRow = w.db.versions.getLast? := by
  rw [Db.activeRow,h.active]
  split_ifs with hv
  · simp [hv]
  · rw [List.getLast?_eq_getElem?]
    rfl

theorem Resting.cases (h : Resting w row) :
    (∃ id, w.db.active = some id ∧ w.db.activeRow = some row ∧ w.db.versions.getLast? = some row) ∨
      (w.db.active = none ∧ w.db.activeRow = none ∧ w.db.flat = some row) := by
  have hcurrent := h.current
  have hrow := h.activeRow
  rw [Db.current] at hcurrent
  cases hlast : w.db.versions.getLast? with
  | none =>
    rw [hlast] at hrow
    rw [hrow] at hcurrent
    have hactive := h.active
    rw [if_pos (List.getLast?_eq_none_iff.mp hlast)] at hactive
    exact .inr ⟨hactive,hrow,hcurrent⟩
  | some last =>
    rw [hlast] at hrow
    rw [hrow] at hcurrent
    cases hcurrent
    have hactive := h.active
    rw [if_neg (by rintro hnil; simp [hnil] at hlast)] at hactive
    exact .inl ⟨_,hactive,hrow,rfl⟩

theorem exec_read (h : Resting w row) (request : Tenant.Request) (reply : Reply)
    (horder : request.readOrder = some order) (es : List Tenant.Event) :
    ∃ since reply', exec Tenant.step (joined w request .reading reply)
        (List.replicate (readsOf w) (.next w.calls.length) ++ es) =
      exec Tenant.step
        (joined w request (.got (some (ConfigRow.read order row)) since) reply') es := by
  rcases h.cases with ⟨id,hactive,hrow,-⟩ | ⟨hactive,hrow,hflat⟩
  · have hread : Tenant.step (joined w request .reading reply) (.next w.calls.length) =
        some (joined w request (.got (some (ConfigRow.read order row)) w.history.length)
          (.found (some (ConfigRow.read order row)) w.history.length)) := by
      have hjoined : (joined w request .reading reply).db.activeRow = some row := hrow
      rw [step_joined,World.next]
      simp only [horder,Option.map_some,World.readNext,hjoined,move_joined]
      rfl
    refine ⟨w.history.length,.found (some (ConfigRow.read order row)) w.history.length,?_⟩
    rw [readsOf,hactive]
    exact exec_cons hread es
  · have hfirst : Tenant.step (joined w request .reading reply) (.next w.calls.length) =
        some (joined w request (.readingFlat w.history.length) .pending) := by
      have hjoined : (joined w request .reading reply).db.activeRow = none := hrow
      rw [step_joined,World.next]
      simp only [horder,Option.map_some,World.readNext,hjoined,move_joined]
      rfl
    have hsecond : Tenant.step (joined w request (.readingFlat w.history.length) .pending)
        (.next w.calls.length) =
        some (joined w request (.got (some (ConfigRow.read order row)) w.history.length)
          (.found (some (ConfigRow.read order row)) w.history.length)) := by
      have hjoined : (joined w request (.readingFlat w.history.length) .pending).db.flat = some row :=
        hflat
      rw [step_joined,World.next]
      simp only [horder,Option.map_some,World.readNext,hjoined,move_joined]
    refine ⟨w.history.length,.found (some (ConfigRow.read order row)) w.history.length,?_⟩
    rw [readsOf,hactive]
    exact (exec_cons hfirst _).trans (exec_cons hsecond es)

theorem current_insertVersion (db : Db) (row : ConfigRow) : (db.insertVersion row).current = some row := by
  simp [Db.current,Db.activeRow,Db.insertVersion]

theorem Resting.fresh (h : Resting w row) (hlast : w.db.versions.getLast? = some row) :
    ¬ w.db.hasVersion (row.version + 1) := by
  rintro ⟨r,hr,hversion⟩
  have hbelow := h.increasing.below (n := row.version + 1) (fun x hx => by
    rw [hlast] at hx
    cases hx
    exact Int.lt_succ _) r hr
  omega

theorem exec_put (h : Resting w row) (request : Tenant.Request) (put : Put)
    (hversion : row.version = put.ifMatchVersion) (reply : Reply) :
    ∃ w', exec Tenant.step (joined w request (.writing put) reply)
        (List.replicate 3 (.next w.calls.length)) = some w' ∧
      w'.reply = .written (row.version + 1) ∧
      w'.db.current = some ⟨row.version + 1,put.newConfig⟩ := by
  rcases h.cases with ⟨id,hactive,hrow,hlast⟩ | ⟨hactive,hrow,hflat⟩
  · have hselect : Tenant.step (joined w request (.writing put) reply) (.next w.calls.length) =
        some (joined w request (.selected put id) .pending) := by
      have hjoined : (joined w request (.writing put) reply).db.active = some id := hactive
      rw [step_joined,World.next]
      simp only [hjoined,move_joined]
    have hlock : Tenant.step (joined w request (.selected put id) .pending) (.next w.calls.length) =
        some (joined w request (.locked put row.version) .pending) := by
      have hjoined : (joined w request (.selected put id) .pending).db.active = some id := hactive
      have hactiveRow : (joined w request (.selected put id) .pending).db.activeRow = some row := hrow
      have hfree : (joined w request (.selected put id) .pending).holds Phase.locksActive = false :=
        holds_joined (h.unlocked (by simp [locks])) rfl
      rw [step_joined,World.next]
      simp [hfree,hjoined,hactiveRow]
    have hwrite : Tenant.step (joined w request (.locked put row.version) .pending)
        (.next w.calls.length) =
        some ((joined w request (.locked put row.version) .pending).commit w.calls.length
          ⟨request,.locked put row.version⟩ (w.db.insertVersion ⟨row.version + 1,put.newConfig⟩)
          ⟨row.version + 1,put.newConfig⟩ (.written (row.version + 1))) := by
      have hfree : (joined w request (.locked put row.version) .pending).holds
          (Phase.claims (row.version + 1)) = false := holds_joined (h.unclaimed _) rfl
      have hnew : ¬ (joined w request (.locked put row.version) .pending).db.hasVersion
          (row.version + 1) := h.fresh hlast
      rw [step_joined,World.next]
      simp only [World.putVersioned,hversion.symm,ne_eq,not_true_eq_false,if_false,hfree,
        Bool.false_eq_true,hnew]
      rfl
    have hrun := (exec_cons hselect _).trans ((exec_cons hlock _).trans (exec_cons hwrite []))
    exact ⟨_,hrun,rfl,current_insertVersion w.db _⟩
  · have hselect : Tenant.step (joined w request (.writing put) reply) (.next w.calls.length) =
        some (joined w request (.noActive put) .pending) := by
      have hjoined : (joined w request (.writing put) reply).db.active = none := hactive
      rw [step_joined,World.next]
      simp only [hjoined,move_joined]
    have hlock : Tenant.step (joined w request (.noActive put) .pending) (.next w.calls.length) =
        some (joined w request (.flatLocked put row.version) .pending) := by
      have hjoined : (joined w request (.noActive put) .pending).db.flat = some row := hflat
      have hfree : (joined w request (.noActive put) .pending).holds Phase.locksFlat = false :=
        holds_joined (h.unlocked (by simp [locks])) rfl
      rw [step_joined,World.next]
      simp [hfree,hjoined]
    have hwrite : Tenant.step (joined w request (.flatLocked put row.version) .pending)
        (.next w.calls.length) =
        some ((joined w request (.flatLocked put row.version) .pending).commit w.calls.length
          ⟨request,.flatLocked put row.version⟩
          { w.db with flat := some ⟨row.version + 1,put.newConfig⟩ }
          ⟨row.version + 1,put.newConfig⟩ (.written (row.version + 1))) := by
      rw [step_joined,World.next]
      simp only [World.putFlat,hversion.symm,ne_eq,not_true_eq_false,if_false]
      rfl
    have hrun := (exec_cons hselect _).trans ((exec_cons hlock _).trans (exec_cons hwrite []))
    have hnone : Db.activeRow { w.db with flat := some ⟨row.version + 1,put.newConfig⟩ } = none := hrow
    refine ⟨_,hrun,rfl,?_⟩
    simp [World.commit,Db.current,hnone]

theorem exec_patch {p : Patch} {doc : Json} (h : Resting w row) (hversion : row.version = p.ifMatchVersion)
    (hdoc : patchedTenantConfig p.patchOrder (ConfigRow.read p.readOrder row).1 p.mergePatch = .ok doc) :
    ∃ w', exec Tenant.step (joined w (.patch p) .reading .pending)
        (List.replicate (readsOf w + 4) (.next w.calls.length)) = some w' ∧
      w'.reply = .written (row.version + 1) ∧ w'.db.current = some ⟨row.version + 1,doc⟩ := by
  obtain ⟨since,reply,hread⟩ := exec_read h (.patch p) .pending rfl
    (List.replicate 4 (.next w.calls.length))
  have hpatch : Tenant.step
      (joined w (.patch p) (.got (some (ConfigRow.read p.readOrder row)) since) reply)
      (.next w.calls.length) =
      some (joined w (.patch p) (.writing ⟨p.ifMatchVersion,doc⟩) .pending) := by
    have hsame : (ConfigRow.read p.readOrder row).2 = p.ifMatchVersion := hversion
    rw [step_joined,World.next]
    simp only [World.patchWith,hsame,ne_eq,not_true_eq_false,if_false,hdoc,move_joined]
  obtain ⟨w',hput,hreply,hcurrent⟩ := exec_put h (.patch p) ⟨p.ifMatchVersion,doc⟩ hversion .pending
  refine ⟨w',?_,hreply,hcurrent⟩
  rw [List.replicate_add]
  exact hread.trans ((exec_cons hpatch _).trans hput)

variable {server : Server} {tenantID : String} {s : State} {edit : Edit}

theorem exec_store {es : List Tenant.Event} {w w' : World} (h : exec Tenant.step w es = some w')
    (edits : List (Edit × Stage)) (fs : List Event) :
    exec (step server tenantID) ⟨w,edits⟩ (es.map Event.store ++ fs) =
      exec (step server tenantID) ⟨w',edits⟩ fs := by
  induction es generalizing w with
  | nil =>
    cases h
    rfl
  | cons e es ih =>
    obtain ⟨v,hv,hrest⟩ := Option.bind_eq_some_iff.mp h
    have hstep : step server tenantID ⟨w,edits⟩ (.store e) = some ⟨v,edits⟩ := by
      rw [step,hv]
      rfl
    exact (exec_cons hstep _).trans (ih hrest)

theorem prepare_possible (server : Server) (tenantID : String) (h : edit.Possible row)
    (order : Json.MapOrder) : ∃ ifMatchVersion mergePatch,
      edit.prepare server tenantID (some (ConfigRow.read order row)) =
        .patch ifMatchVersion mergePatch := by
  cases edit with
  | save routeGroupId models =>
    have hmap : ConfigReads.isMap (normalizeConfigKeys order row.config) = true :=
      (isMap_normalize order row.config).trans h
    simp only [Edit.prepare,prepareSave,ConfigRow.read,hmap,if_true,checkPatch_routeGroups,
      Prepared.ofCheck]
    exact ⟨_,_,rfl⟩
  | delete routeGroupId =>
    obtain ⟨hname,hgroup⟩ := h
    obtain ⟨tc,hdecode,hlisted⟩ := hgroup order
    rw [ConfigRow.read] at hdecode
    simp only [Edit.prepare,prepareDelete,ConfigRow.read,hname,if_false,hdecode,hlisted,if_true]
    exact ⟨_,_,rfl⟩

theorem succeeds_of_fits (h : Resting s.store row) (hfits : edit.Fits row) (hsteady : Steady row)
    (hpossible : edit.Possible row) : Succeeds server tenantID s edit := by
  intro order readOrder patchOrder
  obtain ⟨ifMatchVersion,mergePatch,hprepare⟩ := prepare_possible server tenantID hpossible order
  obtain ⟨hversion,hchange⟩ := prepare_patch hfits hsteady order hprepare
  obtain ⟨since,reply,hread⟩ := exec_read h (.get order) .pending rfl []
  let w := joined s.store (.get order) (.got (some (ConfigRow.read order row)) since) reply
  let p : Patch := ⟨ifMatchVersion,mergePatch,readOrder,patchOrder⟩
  have hresting : Resting w row := h.joined rfl
  obtain ⟨w',hwrite,hreply,hcurrent⟩ := exec_patch (p := p) hresting hversion.symm
    (hchange readOrder patchOrder)
  have hlength : w.calls.length = s.next + 1 := by simp [w,joined,State.next]
  have hget : exec Tenant.step (s.call (.get order))
      (List.replicate (readsOf s.store) (.next s.next)) = some w := by
    rw [List.append_nil] at hread
    exact hread
  have hanswered : State.answered ⟨w,s.edits ++ [(edit,Stage.opened s.next)]⟩ s.edits.length =
      some (edit,some (ConfigRow.read order row)) := by
    simp [State.answered,w,joined,State.next]
  have hsend : step server tenantID ⟨w,s.edits ++ [(edit,Stage.opened s.next)]⟩
      (.send s.edits.length readOrder patchOrder) =
      some ⟨joined w (.patch p) .reading .pending,s.edits ++ [(edit,Stage.sent (s.next + 1))]⟩ := by
    simp only [step,hanswered,Option.map_some,hprepare]
    simp [State.call,State.next,joined,w,p,Request.first]
  have hopen : step server tenantID s (.read edit order) =
      some ⟨s.call (.get order),s.edits ++ [(edit,Stage.opened s.next)]⟩ := rfl
  refine ⟨⟨w',s.edits ++ [(edit,Stage.sent (s.next + 1))]⟩,row.version + 1,⟨row.version + 1,_⟩,?_,
    hreply,hcurrent,fun order' => ?_⟩
  · rw [alone,exec_cons hopen,← List.map_replicate,exec_store hget,exec_cons hsend,← List.map_replicate,
      ← List.append_nil (List.map _ _),exec_store (hlength ▸ hwrite)]
    rfl
  · rw [read_apply hfits readOrder order' (row.version + 1)]
    exact lookup_apply edit _

theorem Inv.resting (h : Inv s) (hquiet : Quiet s) (hrow : s.store.db.current = some row) :
    Resting s.store row := by
  obtain ⟨older,hstore⟩ := h.store
  exact ⟨hrow,hstore.active,hstore.versions_increasing,hquiet⟩

theorem State.Starts.inv (h : s.Starts) : Inv s := by
  refine ⟨⟨_,h.store.inv⟩,fun edit c hmem => ?_⟩
  rw [h.edits] at hmem
  cases hmem

end Undisturbed

theorem edits_sound_of_plain {server : Server} {tenantID : String} {s₀ s : State} (es : List Event)
    (hstart : s₀.Starts) (hes : EveryStep (step server tenantID) Plain s₀ es)
    (h : exec (step server tenantID) s₀ es = some s) :
    (∀ e s', Plain s e → step server tenantID s e = some s' → Faithful s e s') ∧
      ∀ edit row, Quiet s → s.store.db.current = some row → edit.Fits row → Steady row →
        edit.Possible row → Succeeds server tenantID s edit := by
  have hinv : Inv s := exec_invariant_of_steps (step server tenantID)
    (fun _ _ _ hs hc ht => inv_step hs hc ht) hstart.inv hes h
  constructor
  · intro e s' hplain hstep
    exact faithful_step hinv hplain hstep
  · intro edit row hquiet hrow hfits hsteady hpossible
    exact succeeds_of_fits (hinv.resting hquiet hrow) hfits hsteady hpossible

def groupsDoc (groups : Json.Entries) : Json := .obj [("selection",.obj [("route_groups",.obj groups)])]

def tenantAt (version : Int) (groups : Json.Entries) : State where
  store := ⟨⟨[],none,some ⟨version,groupsDoc groups⟩⟩,[⟨version,groupsDoc groups⟩],[],.pending⟩
  edits := []

theorem tenantAt_starts (version : Int) (groups : Json.Entries) : (tenantAt version groups).Starts :=
  ⟨⟨rfl,List.pairwise_singleton _ _,rfl,rfl⟩,rfl⟩

def fast : Json.Entries := [("fast",listed ["mini"])]

theorem tidy_fast : Tidy (groupsDoc fast) :=
  tidy_routeGroupsPatch (tidy_singleton (by decide) (tidy_listed ["mini"]))

def slow : Edit := .save "slow" ["large"]

theorem slow_fits (version : Int) (hversion : version ≠ 0) :
    slow.Fits ⟨version,groupsDoc fast⟩ ∧ Steady ⟨version,groupsDoc fast⟩ := by
  have hread : ∀ order, normalizeConfigKeys order (groupsDoc fast) = groupsDoc fast :=
    fun order => tidy_fast.normalizeConfigKeys_eq order
  refine ⟨⟨hversion,by decide,fun order groups hgroups => ?_⟩,fun order order' => ?_⟩
  · rw [hread order] at hgroups
    cases hgroups
    simp [fast,Kept,listed,Filled]
  · rw [hread order,hread order']

theorem plain_store {s : State} {e : Tenant.Event} (h : Undivided s.store e) : Plain s (.store e) := h

def slowUntilSent : List Event :=
  [.read slow Tenant.keepOrder,.store (.next 0),.store (.next 0),.send 0 Tenant.keepOrder Tenant.keepOrder]

theorem slow_sent_sound : ∃ s, exec (step plainServer "acme") (tenantAt 1 fast) slowUntilSent = some s ∧
    (∀ e s', Plain s e → step plainServer "acme" s e = some s' → Faithful s e s') ∧
      ∀ edit row, Quiet s → s.store.db.current = some row → edit.Fits row → Steady row →
        edit.Possible row → Succeeds plainServer "acme" s edit := by
  refine ⟨_,rfl,edits_sound_of_plain slowUntilSent (tenantAt_starts 1 fast)
    ⟨trivial,plain_store (by decide),plain_store (by decide),?_,trivial⟩ rfl⟩
  intro edit config version hanswered row hrow hversion
  cases hanswered
  cases List.mem_singleton.mp hrow
  exact slow_fits 1 (by decide)

theorem not_faithful {s s' : State} {edit : Edit} {c : Nat} {n : Int} {base row : ConfigRow}
    (hmem : (edit,Stage.sent c) ∈ s.edits) (hreply : s'.store.reply = .written n)
    (hbase : s.store.db.current = some base) (hrow : s'.store.db.current = some row)
    (htidy : Tidy base.config)
    (hne : groupsOf (ConfigRow.read Tenant.keepOrder row).1 ≠ groupsOf (edit.apply base.config)) :
    ¬ Faithful s (.store (.next c)) s' := by
  intro h
  obtain ⟨base',row',order,hbase',hrow',hread⟩ := h edit c n rfl hmem hreply
  cases hbase.symm.trans hbase'
  cases hrow.symm.trans hrow'
  have happlied := congrArg Prod.fst (hread Tenant.keepOrder)
  rw [ConfigRow.read,ConfigRow.read,htidy.normalizeConfigKeys_eq order] at happlied
  exact hne (congrArg groupsOf happlied)

def emptied : Json.Entries := [("fast",.null)]

theorem tidy_emptied : Tidy (groupsDoc emptied) :=
  tidy_routeGroupsPatch (tidy_singleton (by decide) trivial)

def larger : Json.Entries := [("fast",listed ["large"])]

theorem tidy_larger : Tidy (groupsDoc larger) :=
  tidy_routeGroupsPatch (tidy_singleton (by decide) (tidy_listed ["large"]))

def slowUntilCommit : List Event :=
  slowUntilSent ++ List.replicate 5 (Event.store (.next 1))

def slowAfterLarger : List Event :=
  ([.read slow Tenant.keepOrder,.store (.next 0),.store (.next 0),
    .store (.call (.patch ⟨0,groupsDoc larger,Tenant.keepOrder,Tenant.keepOrder⟩))] : List Event) ++
      List.replicate 6 (Event.store (.next 1)) ++ Event.send 0 Tenant.keepOrder Tenant.keepOrder ::
        List.replicate 5 (Event.store (.next 2))

def modelOf : Option Json → String
  | some (.arr [.str model]) => model
  | _ => ""

theorem seeded_refused_and_groups_lost :
    ¬ Succeeds plainServer "acme" (tenantAt 0 fast) slow ∧
      (∃ s, exec (step plainServer "acme") (tenantAt 0 fast)
          (slowUntilSent ++ List.replicate 3 (Event.store (.next 1))) = some s ∧
        s.store.reply = .versionConflict 1 0) ∧
      (∃ s s', exec (step plainServer "acme") (tenantAt 1 emptied) slowUntilCommit = some s ∧
        step plainServer "acme" s (.store (.next 1)) = some s' ∧
          ¬ Faithful s (.store (.next 1)) s') ∧
      ∃ s s', exec (step plainServer "acme") (tenantAt 0 fast) slowAfterLarger = some s ∧
        step plainServer "acme" s (.store (.next 2)) = some s' ∧
          ¬ Faithful s (.store (.next 2)) s' := by
  refine ⟨fun h => ?_,⟨_,rfl,rfl⟩,⟨_,_,rfl,rfl,?_⟩,⟨_,_,rfl,rfl,?_⟩⟩
  · obtain ⟨s',_,_,hrun,_⟩ := h Tenant.keepOrder Tenant.keepOrder Tenant.keepOrder
    cases hrun
  · refine not_faithful List.mem_cons_self rfl rfl rfl tidy_emptied ?_
    intro h
    have hfast := congrArg (fun groups => (List.lookup "fast" groups).isSome) h
    exact absurd hfast (by decide)
  · refine not_faithful List.mem_cons_self rfl rfl rfl tidy_larger ?_
    intro h
    have hfast := congrArg (fun groups => modelOf (List.lookup "fast" groups)) h
    exact absurd hfast (by decide)

end PrismGateway.Admin.RouteGroups
