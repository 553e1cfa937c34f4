import PrismGateway.Lib.Run
import PrismGateway.Storage.GlobalConfig
import PrismGateway.Storage.MergePatch

namespace PrismGateway.Storage.Global

open Lib

structure Actor where
  sub : String
  roles : List String

structure VersionRow where
  id : Int
  configJSON : Json
  createdBy : String

structure ChangeLogRow where
  actor : Actor
  fromVersion : Int
  toVersion : Int
  changeSummary : String

/-- `active` is `global_active_config.active_version`, `nextID` the next value of the sequence
behind `global_config_versions.id`. -/
structure Db where
  versions : List VersionRow
  active : Option Int
  nextID : Int
  changeLog : List ChangeLogRow

inductive Reply where
  | pending
  | newVersion (version : Int)
  | rolledBack (version : Int)
  | versionConflict (expected current : Int)
  | failed (message : String)

def notInitialized : String := "global config has not been initialized; seed first"

def Db.row (db : Db) (id : Int) : Option VersionRow := db.versions.find? (fun r => r.id = id)

def Db.log (db : Db) (actor : Actor) (fromVersion toVersion : Int) (summary : String) : Db :=
  { db with changeLog := db.changeLog ++ [⟨actor,fromVersion,toVersion,summary⟩] }

def Db.putGlobalConfig (db : Db) (ifMatchVersion : Int) (configJSON : Json) (actor : Actor) :
    Reply × Db :=
  match db.active with
  | none => (.failed notInitialized,db)
  | some currentVersion =>
    if currentVersion ≠ ifMatchVersion then (.versionConflict ifMatchVersion currentVersion,db)
    else
      let inserted : Db :=
        { db with
          versions := db.versions ++ [⟨db.nextID,configJSON,actor.sub⟩]
          nextID := db.nextID + 1
          active := some db.nextID }
      (.newVersion db.nextID,inserted.log actor currentVersion db.nextID "PUT global config")

def Db.rollbackGlobalConfig (db : Db) (ifMatchVersion targetVersion : Int) (actor : Actor) :
    Reply × Db :=
  match db.active with
  | none => (.failed notInitialized,db)
  | some currentVersion =>
    if currentVersion ≠ ifMatchVersion then (.versionConflict ifMatchVersion currentVersion,db)
    else if (db.row targetVersion).isNone then
      (.failed ("version " ++ toString targetVersion ++ " not found in global_config_versions"),db)
    else
      (.rolledBack targetVersion,{ db with active := some targetVersion }.log actor currentVersion
        targetVersion ("rollback from " ++ toString currentVersion ++ " to " ++
          toString targetVersion))

def Db.selectActive (db : Db) : Option (Json × Int) :=
  (db.active.bind db.row).map (fun r => (r.configJSON,r.id))

def Db.selectLatest (db : Db) : Option (Json × Int) :=
  (db.versions.foldl (fun best r => match best with
    | none => some r
    | some b => if b.id < r.id then some r else some b) none).map (fun r => (r.configJSON,r.id))

def patchedConfig (orders : Json.MapOrder × Json.MapOrder) (current mergePatch : Json) :
    Except String Json :=
  match asMap current, asMap (normalizeConfigKeys orders.1 mergePatch) with
  | none, _ => .error "unmarshal current global config"
  | _, none => .error "unmarshal patch"
  | some current, some patch =>
    .ok (finalizeGlobalConfigJSON orders.2 (.obj (mergeMaps current patch)))

structure Patch where
  ifMatchVersion : Int
  mergePatch : Json
  orders : Json.MapOrder × Json.MapOrder
  actor : Actor

/-- How far a call of `GetGlobalConfig` is; `none` in `got` is `exists = false`. -/
inductive Read where
  | start
  | noActive
  | repair (config : Json) (version : Int)
  | got (found : Option (Json × Int))

structure Call where
  patch : Option Patch
  read : Read

structure World where
  db : Db
  calls : List Call
  reads : List (Json × Int)
  reply : Reply

inductive Event where
  | put (ifMatchVersion : Int) (configJSON : Json) (actor : Actor)
  | rollback (ifMatchVersion targetVersion : Int) (actor : Actor)
  | call (patch : Option Patch)
  | read (c : Nat)
  | finish (c : Nat)
  | abort

def World.setRead (w : World) (c : Nat) (k : Call) (read : Read) : World :=
  { w with calls := w.calls.set c { k with read := read }, reply := .pending }

def World.readNext (w : World) (c : Nat) (k : Call) : Option World :=
  match k.read with
  | .start => match w.db.selectActive with
    | some found => some { w.setRead c k (.got (some found)) with reads := w.reads ++ [found] }
    | none => some (w.setRead c k .noActive)
  | .noActive => match w.db.selectLatest with
    | some (config,version) => some (w.setRead c k (.repair config version))
    | none => some (w.setRead c k (.got none))
  | .repair config version =>
    some { w.setRead c k (.got (some (config,version))) with
      db := { w.db with active := some version }
      reads := w.reads ++ [(config,version)] }
  | .got _ => none

def Db.patchGlobalConfig (db : Db) (p : Patch) (found : Option (Json × Int)) : Reply × Db :=
  match found with
  | none => (.failed notInitialized,db)
  | some (config,currentVersion) =>
    if currentVersion ≠ p.ifMatchVersion then
      (.versionConflict p.ifMatchVersion currentVersion,db)
    else match patchedConfig p.orders config p.mergePatch with
      | .error message => (.failed message,db)
      | .ok finalJSON => db.putGlobalConfig p.ifMatchVersion finalJSON p.actor

def World.answer (w : World) (r : Reply × Db) : World := { w with db := r.2, reply := r.1 }

def step (w : World) : Event → Option World
  | .put ifMatchVersion configJSON actor =>
    some (w.answer (w.db.putGlobalConfig ifMatchVersion configJSON actor))
  | .rollback ifMatchVersion targetVersion actor =>
    some (w.answer (w.db.rollbackGlobalConfig ifMatchVersion targetVersion actor))
  | .call patch => some { w with calls := w.calls ++ [⟨patch,.start⟩], reply := .pending }
  | .read c => match w.calls[c]? with
    | some k => w.readNext c k
    | none => none
  | .finish c => match w.calls[c]? with
    | some ⟨some p,.got found⟩ =>
      some ({ w with calls := w.calls.set c ⟨none,.got found⟩ }.answer (w.db.patchGlobalConfig p found))
    | _ => none
  | .abort => some { w with db := { w.db with nextID := w.db.nextID + 1 }, reply := .failed "" }

def Event.expected (w : World) : Event → Option Int
  | .put ifMatchVersion _ _ => some ifMatchVersion
  | .rollback ifMatchVersion _ _ => some ifMatchVersion
  | .finish c => (w.calls[c]?.bind Call.patch).map Patch.ifMatchVersion
  | _ => none

def Event.Computes (w : World) (base content : Json) : Event → Prop
  | .put _ configJSON _ => content = configJSON
  | .finish c => ∃ p, w.calls[c]?.bind Call.patch = some p ∧
      patchedConfig p.orders base p.mergePatch = .ok content
  | _ => False

def Holds (db : Db) (x : Json × Int) : Prop := ∃ r ∈ db.versions, r.id = x.2 ∧ r.configJSON = x.1

structure Db.Initialised (db : Db) : Prop where
  increasing : db.versions.Pairwise (fun r s => r.id < s.id)
  below : ∀ r ∈ db.versions, r.id < db.nextID
  active : ∃ v r, db.active = some v ∧ db.row v = some r

structure Inv (w : World) : Prop where
  db : w.db.Initialised
  reads : ∀ x ∈ w.reads, Holds w.db x
  calls : ∀ k ∈ w.calls, k.read = .start ∨ ∃ x ∈ w.reads, k.read = .got (some x)

section Rows

variable {db db' : Db} {r : VersionRow} {v : Int}

theorem Db.mem_of_row (h : db.row v = some r) : r ∈ db.versions ∧ r.id = v :=
  ⟨List.mem_of_find?_eq_some h,by simpa using List.find?_some h⟩

theorem Db.Initialised.row_of_mem (h : db.Initialised) (hr : r ∈ db.versions) :
    db.row r.id = some r := by
  have hsome : (db.row r.id).isSome = true := by
    rw [row,List.find?_isSome]
    exact ⟨r,hr,by simp⟩
  obtain ⟨r',hr'⟩ := Option.isSome_iff_exists.mp hsome
  obtain ⟨hmem,hid⟩ := Db.mem_of_row hr'
  have hnodup : (db.versions.map VersionRow.id).Nodup :=
    h.increasing.map VersionRow.id fun _ _ => ne_of_lt
  rw [hr',List.inj_on_of_nodup_map hnodup hmem hr hid]

theorem Holds.mono {x : Json × Int} (h : Holds db x) (hrows : db.versions <+: db'.versions) :
    Holds db' x := by
  obtain ⟨r,hr,hx⟩ := h
  exact ⟨r,hrows.subset hr,hx⟩

theorem Db.Initialised.holds_active {x : Json × Int} (h : db.selectActive = some x) :
    Holds db x := by
  obtain ⟨r,hr,rfl⟩ := Option.map_eq_some_iff.mp h
  obtain ⟨v,_,hrow⟩ := Option.bind_eq_some_iff.mp hr
  exact ⟨r,(Db.mem_of_row hrow).1,rfl,rfl⟩

theorem Db.Initialised.selectActive_ne_none (h : db.Initialised) : db.selectActive ≠ none := by
  obtain ⟨v,r,hactive,hrow⟩ := h.active
  simp [selectActive,hactive,hrow]

end Rows

structure Put (db : Db) (v n : Int) (content : Json) (db' : Db) : Prop where
  active : db.active = some v
  fresh : ∀ r ∈ db.versions, r.id < n
  activated : db'.active = some n
  inserted : ∃ createdBy, db'.versions = db.versions ++ [⟨n,content,createdBy⟩]

inductive Db.Change (db : Db) (v : Int) (content : Json) : Reply × Db → Prop
  | failed (message : String) : Db.Change db v content (.failed message,db)
  | conflict (current : Int) : Db.Change db v content (.versionConflict v current,db)
  | newVersion (n : Int) (db' : Db) (hput : Put db v n content db') (hinit : db'.Initialised) :
      Db.Change db v content (.newVersion n,db')
  | rolledBack (n : Int) (db' : Db) (hactive : db.active = some v) (htarget : (db.row n).isSome)
      (hnew : db'.active = some n) (hrows : db'.versions = db.versions) (hinit : db'.Initialised) :
      Db.Change db v content (.rolledBack n,db')

theorem Db.change_put {db : Db} (h : db.Initialised) (v : Int) (content : Json) (actor : Actor) :
    Db.Change db v content (db.putGlobalConfig v content actor) := by
  rw [putGlobalConfig]
  cases hactive : db.active with
  | none => exact .failed _
  | some current =>
    dsimp only
    split_ifs with hv
    · exact .conflict current
    · have hcur : current = v := not_not.mp hv
      refine .newVersion _ _ ⟨hcur ▸ hactive,h.below,rfl,actor.sub,rfl⟩ ⟨?_,?_,?_⟩
      · refine List.pairwise_append.mpr ⟨h.increasing,List.pairwise_singleton _ _,?_⟩
        intro r hr s hs
        rw [List.mem_singleton.mp hs]
        exact h.below r hr
      · intro r hr
        rcases List.mem_append.mp hr with hr | hr
        · exact (h.below r hr).trans (Int.lt_succ _)
        · rw [List.mem_singleton.mp hr]
          exact Int.lt_succ _
      · refine ⟨db.nextID,⟨db.nextID,content,actor.sub⟩,rfl,?_⟩
        have hold : db.versions.find? (fun r => r.id = db.nextID) = none := by
          rw [List.find?_eq_none]
          intro r hr
          have hlt := h.below r hr
          simp only [decide_eq_true_eq]
          omega
        simp [row,log,List.find?_append,hold]

theorem Db.change_rollback {db : Db} (h : db.Initialised) (v target : Int) (content : Json)
    (actor : Actor) : Db.Change db v content (db.rollbackGlobalConfig v target actor) := by
  rw [rollbackGlobalConfig]
  cases hactive : db.active with
  | none => exact .failed _
  | some current =>
    dsimp only
    split_ifs with hv htarget
    · exact .conflict current
    · exact .failed _
    · have hcur : current = v := not_not.mp hv
      have hsome : (db.row target).isSome = true := by
        simpa [Option.isSome_iff_ne_none] using htarget
      obtain ⟨r,hr⟩ := Option.isSome_iff_exists.mp hsome
      exact .rolledBack _ _ (hcur ▸ hactive) hsome rfl rfl
        ⟨h.increasing,h.below,target,r,rfl,hr⟩

theorem Db.Change.rows_kept {db : Db} {v : Int} {content : Json} {r : Reply × Db}
    (h : Db.Change db v content r) : db.versions <+: r.2.versions := by
  cases h with
  | failed message => exact List.prefix_refl _
  | conflict current => exact List.prefix_refl _
  | newVersion n db' hput hinit =>
    obtain ⟨createdBy,hrows⟩ := hput.inserted
    exact ⟨_,hrows.symm⟩
  | rolledBack n db' hactive htarget hnew hrows hinit =>
    rw [hrows]

theorem Db.Change.initialised {db : Db} {v : Int} {content : Json} {r : Reply × Db}
    (h : Db.Change db v content r) (hdb : db.Initialised) : r.2.Initialised := by
  cases h with
  | failed message => exact hdb
  | conflict current => exact hdb
  | newVersion n db' hput hinit => exact hinit
  | rolledBack n db' hactive htarget hnew hrows hinit => exact hinit

theorem Inv.answer {w : World} {v : Int} {content : Json} {r : Reply × Db} (h : Inv w)
    (hr : Db.Change w.db v content r) : Inv (w.answer r) :=
  ⟨hr.initialised h.db,fun x hx => (h.reads x hx).mono hr.rows_kept,h.calls⟩

theorem Inv.setRead {w : World} {c : Nat} {k : Call} {x : Json × Int} (h : Inv w)
    (hx : w.db.selectActive = some x) :
    Inv { w.setRead c k (.got (some x)) with reads := w.reads ++ [x] } := by
  refine ⟨h.db,?_,?_⟩
  · intro y hy
    rcases List.mem_append.mp hy with hy | hy
    · exact h.reads y hy
    · rw [List.mem_singleton.mp hy]
      exact Db.Initialised.holds_active hx
  · intro k' hk'
    rcases List.mem_or_eq_of_mem_set hk' with hk' | rfl
    · rcases h.calls k' hk' with hstart | ⟨y,hy,hgot⟩
      · exact .inl hstart
      · exact .inr ⟨y,List.mem_append_left _ hy,hgot⟩
    · exact .inr ⟨x,List.mem_append_right _ (List.mem_singleton_self x),rfl⟩

theorem change_patch {w : World} {p : Patch} {x : Json × Int} (h : Inv w) (hx : x ∈ w.reads) :
    ∃ content, Db.Change w.db p.ifMatchVersion content (w.db.patchGlobalConfig p (some x)) ∧
      ∀ n, (w.db.patchGlobalConfig p (some x)).1 = .newVersion n →
        x.2 = p.ifMatchVersion ∧ patchedConfig p.orders x.1 p.mergePatch = .ok content := by
  obtain ⟨config,current⟩ := x
  rw [Db.patchGlobalConfig]
  dsimp only
  split_ifs with hv
  · exact ⟨.null,.conflict current,fun n hn => by cases hn⟩
  · cases hp : patchedConfig p.orders config p.mergePatch with
    | error message => exact ⟨.null,.failed message,fun n hn => by cases hn⟩
    | ok finalJSON =>
      exact ⟨finalJSON,Db.change_put h.db p.ifMatchVersion finalJSON p.actor,
        fun _ _ => ⟨not_not.mp hv,rfl⟩⟩

structure Locked (w : World) (e : Event) (w' : World) : Prop where
  rows_kept : w.db.versions <+: w'.db.versions
  reads_stable : ∀ x ∈ w'.reads, ∃ r, w'.db.row x.2 = some r ∧ r.configJSON = x.1
  conflict_inert : ∀ expected current, w'.reply = .versionConflict expected current → w'.db = w.db
  written : ∀ n, w'.reply = .newVersion n → ∃ v base content, e.expected w = some v ∧
    w.db.row v = some base ∧ e.Computes w base.configJSON content ∧ Put w.db v n content w'.db
  rolledBack : ∀ n, w'.reply = .rolledBack n → ∃ v, e.expected w = some v ∧
    w.db.active = some v ∧ (w.db.row n).isSome ∧ w'.db.active = some n ∧
      w'.db.versions = w.db.versions

theorem Inv.reads_row {w : World} (h : Inv w) {x : Json × Int} (hx : x ∈ w.reads) :
    ∃ r, w.db.row x.2 = some r ∧ r.configJSON = x.1 := by
  obtain ⟨r,hr,hid,hconfig⟩ := h.reads x hx
  exact ⟨r,hid ▸ h.db.row_of_mem hr,hconfig⟩

theorem locked_of_change {w w' : World} {e : Event} {v : Int} {content : Json} (h : Inv w')
    (hexp : e.expected w = some v) (hc : Db.Change w.db v content (w'.reply,w'.db))
    (hbase : ∀ n, w'.reply = .newVersion n → ∃ base, w.db.row v = some base ∧
      e.Computes w base.configJSON content) : Locked w e w' := by
  refine ⟨hc.rows_kept,fun x hx => h.reads_row hx,?_,?_,?_⟩
  · intro expected current heq
    rw [heq] at hc
    generalize w'.db = d at hc
    cases hc
    rfl
  · intro n heq
    obtain ⟨base,hrow,hcomp⟩ := hbase n heq
    rw [heq] at hc
    generalize w'.db = d at hc ⊢
    cases hc with
    | newVersion n db' hput hinit => exact ⟨v,base,content,hexp,hrow,hcomp,hput⟩
  · intro n heq
    rw [heq] at hc
    generalize w'.db = d at hc ⊢
    cases hc with
    | rolledBack n db' hactive htarget hnew hrows hinit =>
      exact ⟨v,hexp,hactive,htarget,hnew,hrows⟩

theorem locked_of_quiet {w w' : World} (e : Event) (h : Inv w') (hrows : w.db.versions <+: w'.db.versions)
    (hquiet : w'.reply = .pending ∨ w'.reply = .failed "") : Locked w e w' := by
  refine ⟨hrows,fun x hx => h.reads_row hx,?_,?_,?_⟩
  · intro expected current heq
    rcases hquiet with hq | hq <;> cases hq.symm.trans heq
  · intro n heq
    rcases hquiet with hq | hq <;> cases hq.symm.trans heq
  · intro n heq
    rcases hquiet with hq | hq <;> cases hq.symm.trans heq

theorem inv_locked_step {w w' : World} {e : Event} (h : Inv w) (hstep : step w e = some w') :
    Inv w' ∧ Locked w e w' := by
  cases e with
  | put v configJSON actor =>
    cases hstep
    have hc := Db.change_put h.db v configJSON actor
    have hinv := h.answer hc
    refine ⟨hinv,locked_of_change hinv rfl hc ?_⟩
    intro n heq
    obtain ⟨v',r,hactive,hrow⟩ := h.db.active
    have hreply : (w.db.putGlobalConfig v configJSON actor).1 = .newVersion n := heq
    generalize w.db.putGlobalConfig v configJSON actor = res at hc hreply
    cases hc with
    | newVersion n db' hput hinit =>
      have hv : v' = v := Option.some_injective _ (hactive.symm.trans hput.active)
      exact ⟨r,hv ▸ hrow,rfl⟩
    | _ => cases hreply
  | rollback v target actor =>
    cases hstep
    have hc := Db.change_rollback h.db v target .null actor
    have hinv := h.answer hc
    refine ⟨hinv,locked_of_change hinv rfl hc ?_⟩
    intro n heq
    have hreply : (w.db.rollbackGlobalConfig v target actor).1 = .newVersion n := heq
    rw [Db.rollbackGlobalConfig] at hreply
    split at hreply
    · cases hreply
    · split_ifs at hreply
  | call patch =>
    cases hstep
    have hinv : Inv { w with calls := w.calls ++ [⟨patch,.start⟩], reply := .pending } := by
      refine ⟨h.db,h.reads,?_⟩
      intro k hk
      rcases List.mem_append.mp hk with hk | hk
      · exact h.calls k hk
      · rw [List.mem_singleton.mp hk]
        exact .inl rfl
    exact ⟨hinv,locked_of_quiet _ hinv (List.prefix_refl _) (.inl rfl)⟩
  | read c =>
    simp only [step] at hstep
    split at hstep
    · next k hk =>
      rcases h.calls k (List.mem_of_getElem? hk) with hread | ⟨x,_,hread⟩
      · rw [World.readNext,hread] at hstep
        dsimp only at hstep
        cases hx : w.db.selectActive with
        | none => exact absurd hx h.db.selectActive_ne_none
        | some x =>
          rw [hx] at hstep
          cases hstep
          have hinv := h.setRead (c := c) (k := k) hx
          exact ⟨hinv,locked_of_quiet _ hinv (List.prefix_refl _) (.inl rfl)⟩
      · rw [World.readNext,hread] at hstep
        cases hstep
    · cases hstep
  | finish c =>
    simp only [step] at hstep
    split at hstep
    · next p found hk =>
      cases hstep
      rcases h.calls _ (List.mem_of_getElem? hk) with hread | ⟨x,hx,hread⟩
      · cases hread
      · cases hread
        obtain ⟨content,hc,hcomp⟩ := change_patch (p := p) h hx
        have hset : Inv { w with calls := w.calls.set c ⟨none,.got (some x)⟩ } := by
          refine ⟨h.db,h.reads,?_⟩
          intro k' hk'
          rcases List.mem_or_eq_of_mem_set hk' with hk' | rfl
          · exact h.calls k' hk'
          · exact .inr ⟨x,hx,rfl⟩
        have hinv := hset.answer hc
        have hexp : (Event.finish c).expected w = some p.ifMatchVersion := by
          simp [Event.expected,hk]
        refine ⟨hinv,locked_of_change hinv hexp hc ?_⟩
        intro n heq
        obtain ⟨hversion,hpatched⟩ := hcomp n heq
        obtain ⟨r,hrow,hconfig⟩ := h.reads_row hx
        exact ⟨r,hversion ▸ hrow,p,by simp [hk],hconfig ▸ hpatched⟩
    · cases hstep
  | abort =>
    cases hstep
    have hinv : Inv { w with db := { w.db with nextID := w.db.nextID + 1 }, reply := .failed "" } := by
      refine ⟨⟨h.db.increasing,?_,h.db.active⟩,h.reads,h.calls⟩
      intro r hr
      exact (h.db.below r hr).trans (Int.lt_succ _)
    exact ⟨hinv,locked_of_quiet _ hinv (List.prefix_refl _) (.inr rfl)⟩

structure World.Starts (w : World) : Prop where
  db : w.db.Initialised
  calls : w.calls = []
  reads : w.reads = []

theorem global_config_locking {w₀ w w' : World} (es : List Event) {e : Event} (hstart : w₀.Starts)
    (h : exec step w₀ es = some w) (hstep : step w e = some w') : Locked w e w' := by
  have hinit : Inv w₀ := by
    refine ⟨hstart.db,?_,?_⟩
    · simp [hstart.reads]
    · simp [hstart.calls]
  have hinv := exec_invariant step (fun s e t hs ht => (inv_locked_step hs ht).1) hinit h
  exact (inv_locked_step hinv hstep).2

def seeded : World where
  db := ⟨[⟨1,.obj [],"seed-from-yaml"⟩],some 1,2,[]⟩
  calls := []
  reads := []
  reply := .pending

theorem seeded_starts : seeded.Starts := by
  refine ⟨⟨List.pairwise_singleton _ _,?_,1,_,rfl,rfl⟩,rfl,rfl⟩
  intro r hr
  rw [List.mem_singleton.mp hr]
  decide

def admin : Actor := ⟨"admin-token",["admin"]⟩

def keepOrder : Json.MapOrder := ⟨fun l => l,Json.listed_perm⟩

def patchDefaults : Patch :=
  ⟨1,.obj [("features",.obj [("beta",.bool true)])],(keepOrder,keepOrder),admin⟩

theorem patched_seed_locked :
    ∃ w w', exec step seeded [.call (some patchDefaults),.read 0] = some w ∧
      step w (.finish 0) = some w' ∧ Locked w (.finish 0) w' :=
  ⟨_,_,rfl,rfl,global_config_locking [.call (some patchDefaults),.read 0] seeded_starts rfl rfl⟩

def Reply.version : Reply → Option Int
  | .newVersion n => some n
  | .rolledBack n => some n
  | _ => none

def StrictlyNewer (w w' : World) : Prop :=
  ∀ n, w'.reply.version = some n → ∀ r ∈ w.db.versions, r.id < n

theorem rollback_reactivates_old_version :
    ∃ w w', exec step seeded [.put 1 (.obj [("features",.null)]) admin] = some w ∧
      step w (.rollback 2 1 admin) = some w' ∧ w'.reply = .rolledBack 1 ∧ w.db.active = some 2 ∧
      ¬ StrictlyNewer w w' := by
  refine ⟨_,_,rfl,rfl,rfl,rfl,fun h => ?_⟩
  have hlt := h 1 rfl ⟨1,.obj [],"seed-from-yaml"⟩ (List.mem_cons_self ..)
  exact absurd hlt (by decide)

end PrismGateway.Storage.Global
