import PrismGateway.Lib.Run
import PrismGateway.Storage.MergePatch
import PrismGateway.Storage.TenantStore

namespace PrismGateway.Storage.Tenant

open Lib

/-- The rows of one tenant. `versions` is `tenant_config_versions` in insertion order, `active` the
position of the row that `tenant_active_config.active_config_id` names, `flat` is `tenants_config`. -/
structure Db where
  versions : List ConfigRow
  active : Option Nat
  flat : Option ConfigRow

def Db.activeRow (db : Db) : Option ConfigRow := db.active.bind (fun id => db.versions[id]?)

def Db.current (db : Db) : Option ConfigRow :=
  match db.activeRow with
  | some row => some row
  | none => db.flat

def Db.hasVersion (db : Db) (n : Int) : Prop := ∃ row ∈ db.versions, row.version = n

instance (db : Db) (n : Int) : Decidable (db.hasVersion n) :=
  inferInstanceAs (Decidable (∃ row ∈ db.versions, row.version = n))

def Db.maxVersion (db : Db) : Int := (db.versions.map ConfigRow.version).max?.getD 0

def Db.latest (db : Db) : Option Nat :=
  db.versions.findIdx? (fun row => row.version = db.maxVersion)

def Db.insertVersion (db : Db) (row : ConfigRow) : Db :=
  { db with versions := db.versions ++ [row], active := some db.versions.length }

def ConfigRow.read (order : Json.MapOrder) (row : ConfigRow) : Json × Int :=
  (normalizeConfigKeys order row.config,row.version)

inductive SeedMode where
  | ifEmpty
  | always

structure Patch where
  ifMatchVersion : Int
  mergePatch : Json
  readOrder : Json.MapOrder
  patchOrder : Json.MapOrder

inductive Request where
  | get (order : Json.MapOrder)
  | put (ifMatchVersion : Int) (config : Json)
  | patch (p : Patch)
  | seed (mode : SeedMode) (config : Json)

/-- The arguments of `PutTenantConfig`. -/
structure Put where
  ifMatchVersion : Int
  newConfig : Json

inductive Phase where
  | reading
  | readingFlat (since : Nat)
  | got (found : Option (Json × Int)) (since : Nat)
  | writing (put : Put)
  | selected (put : Put) (id : Nat)
  | locked (put : Put) (versionedVersion : Int)
  | noActive (put : Put)
  | absent (put : Put)
  | flatLocked (put : Put) (currentVersion : Int)
  | counting (config : Json)
  | repairing
  | numbering (config : Json)
  | numbered (config : Json) (newVersion : Int)
  | inserted (row : ConfigRow)
  | done

def Phase.locksActive : Phase → Bool
  | .locked _ _ => true
  | _ => false

def Phase.locksFlat : Phase → Bool
  | .flatLocked _ _ => true
  | _ => false

def Phase.inserts : Phase → Bool
  | .inserted _ => true
  | _ => false

def Phase.claims (n : Int) : Phase → Bool
  | .inserted row => row.version = n
  | _ => false

def Request.first : Request → Phase
  | .get _ => .reading
  | .put ifMatchVersion config => .writing ⟨ifMatchVersion,config⟩
  | .patch _ => .reading
  | .seed .ifEmpty config => .counting config
  | .seed .always config => .numbering config

def Request.readOrder : Request → Option Json.MapOrder
  | .get order => some order
  | .patch p => some p.readOrder
  | _ => none

structure Call where
  request : Request
  phase : Phase

inductive Reply where
  | pending
  | found (config : Option (Json × Int)) (since : Nat)
  | written (version : Int)
  | seeded (version : Int)
  | notSeeded
  | versionConflict (expected current : Int)
  | failed (message : String)

/-- `history` lists every row that was ever committed for the tenant; the `since` of a read counts
those committed before it began. -/
structure World where
  db : Db
  history : List ConfigRow
  calls : List Call
  reply : Reply

def World.holds (w : World) (p : Phase → Bool) : Bool := w.calls.any (fun k => p k.phase)

def World.move (w : World) (c : Nat) (k : Call) (phase : Phase) (reply : Reply) : World :=
  { w with calls := w.calls.set c { k with phase := phase }, reply := reply }

def World.commit (w : World) (c : Nat) (k : Call) (db : Db) (row : ConfigRow) (reply : Reply) :
    World :=
  { w.move c k .done reply with db := db, history := w.history ++ [row] }

def World.patchWith (w : World) (c : Nat) (k : Call) (p : Patch) (found : Option (Json × Int)) :
    World :=
  match found with
  | none => w.move c k .done (.failed "tenant not found")
  | some (currentJSON,currentVersion) =>
    if currentVersion ≠ p.ifMatchVersion then
      w.move c k .done (.versionConflict p.ifMatchVersion currentVersion)
    else match patchedTenantConfig p.patchOrder currentJSON p.mergePatch with
      | .error message => w.move c k .done (.failed message)
      | .ok newConfigJSON => w.move c k (.writing ⟨p.ifMatchVersion,newConfigJSON⟩) .pending

def World.readNext (w : World) (c : Nat) (k : Call) (order : Json.MapOrder) :
    Option Nat → World
  | none => match w.db.activeRow with
    | some row =>
      let found := some (ConfigRow.read order row)
      w.move c k (.got found w.history.length) (.found found w.history.length)
    | none => w.move c k (.readingFlat w.history.length) .pending
  | some since =>
    let found := w.db.flat.map (ConfigRow.read order)
    w.move c k (.got found since) (.found found since)

def World.putVersioned (w : World) (c : Nat) (k : Call) (put : Put) (versionedVersion : Int) :
    Option World :=
  if versionedVersion ≠ put.ifMatchVersion then
    some (w.move c k .done (.versionConflict put.ifMatchVersion versionedVersion))
  else
    let row : ConfigRow := ⟨versionedVersion + 1,put.newConfig⟩
    if w.holds (Phase.claims row.version) then none
    else if w.db.hasVersion row.version then
      some (w.move c k .done (.failed "insert tenant_config_versions"))
    else some (w.commit c k (w.db.insertVersion row) row (.written row.version))

def World.putNew (w : World) (c : Nat) (k : Call) (put : Put) : World :=
  if put.ifMatchVersion ≠ 0 then w.move c k .done (.versionConflict put.ifMatchVersion 0)
  else if w.db.flat.isSome then w.move c k .done (.failed "insert config")
  else w.commit c k { w.db with flat := some ⟨1,put.newConfig⟩ } ⟨1,put.newConfig⟩ (.written 1)

def World.putFlat (w : World) (c : Nat) (k : Call) (put : Put) (currentVersion : Int) : World :=
  if currentVersion ≠ put.ifMatchVersion then
    w.move c k .done (.versionConflict put.ifMatchVersion currentVersion)
  else
    let row : ConfigRow := ⟨currentVersion + 1,put.newConfig⟩
    w.commit c k { w.db with flat := some row } row (.written row.version)

def World.next (w : World) (c : Nat) (k : Call) : Option World :=
  match k.phase with
  | .reading => k.request.readOrder.map (fun order => w.readNext c k order none)
  | .readingFlat since => k.request.readOrder.map (fun order => w.readNext c k order (some since))
  | .got found _ => match k.request with
    | .patch p => some (w.patchWith c k p found)
    | _ => none
  | .writing put => match w.db.active with
    | some id => some (w.move c k (.selected put id) .pending)
    | none => some (w.move c k (.noActive put) .pending)
  -- FOR UPDATE of the join waits for the row lock; when the pointer has moved meanwhile, the join
  -- condition is checked again on the new pointer and the old version row, and no row comes back
  | .selected put id =>
    if w.holds Phase.locksActive then none
    else if w.db.active ≠ some id then some (w.move c k (.noActive put) .pending)
    else w.db.activeRow.map (fun row => w.move c k (.locked put row.version) .pending)
  | .locked put versionedVersion => w.putVersioned c k put versionedVersion
  | .noActive put => match w.db.flat with
    | none => some (w.move c k (.absent put) .pending)
    | some row =>
      if w.holds Phase.locksFlat then none
      else some (w.move c k (.flatLocked put row.version) .pending)
  | .absent put => some (w.putNew c k put)
  | .flatLocked put currentVersion => some (w.putFlat c k put currentVersion)
  | .counting config =>
    if w.db.versions.isEmpty then some (w.move c k (.numbering config) .pending)
    else some (w.move c k .repairing .pending)
  | .repairing =>
    some { w.move c k .done .notSeeded with
      db := { w.db with active := w.db.active.or w.db.latest } }
  | .numbering config => some (w.move c k (.numbered config (w.db.maxVersion + 1)) .pending)
  | .numbered config newVersion =>
    if w.holds (Phase.claims newVersion) then none
    else if w.db.hasVersion newVersion then
      some (w.move c k .done (.failed "insert tenant_config_versions"))
    else some (w.move c k (.inserted ⟨newVersion,config⟩) .pending)
  | .inserted row =>
    if w.holds Phase.locksActive then none
    else some (w.commit c k (w.db.insertVersion row) row (.seeded row.version))
  | .done => none

inductive Event where
  | call (request : Request)
  | next (c : Nat)
  | abort (c : Nat)

def step (w : World) : Event → Option World
  | .call request => some { w with calls := w.calls ++ [⟨request,request.first⟩], reply := .pending }
  | .next c => w.calls[c]?.bind (fun k => w.next c k)
  | .abort c => w.calls[c]?.map (fun k => w.move c k .done (.failed ""))

def Event.request (w : World) : Event → Option Request
  | .next c => w.calls[c]?.map Call.request
  | _ => none

def Request.AppliedTo (current : Option ConfigRow) (config : Json) : Request → Prop
  | .put ifMatchVersion newConfig =>
    config = newConfig ∧ (current.map ConfigRow.version).getD 0 = ifMatchVersion
  | .patch p => ∃ base, current = some base ∧ base.version = p.ifMatchVersion ∧
      patchedTenantConfig p.patchOrder (ConfigRow.read p.readOrder base).1 p.mergePatch = .ok config
  | _ => False

def Request.Reads (history : List ConfigRow) (since : Nat) (found : Option (Json × Int))
    (request : Request) : Prop :=
  ∃ order n, request.readOrder = some order ∧ since ≤ n ∧ n ≤ history.length ∧
    found = (history.take n).getLast?.map (ConfigRow.read order)

def Increasing (rows : List ConfigRow) : Prop := rows.Pairwise (fun r s => r.version < s.version)

structure Sound (w : World) (e : Event) (w' : World) : Prop where
  increasing : Increasing w'.history
  kept : w.history <+: w'.history
  stored : (w'.db.flat.toList ++ w'.db.versions).Sublist w'.history
  greatest : w'.db.current = w'.history.getLast?
  read : ∀ found since, w'.reply = .found found since → ∃ request, e.request w = some request ∧
    request.Reads w'.history since found
  written : ∀ n, w'.reply = .written n → ∃ request config, e.request w = some request ∧
    request.AppliedTo w.db.current config ∧ w'.history = w.history ++ [⟨n,config⟩]
  seeded : ∀ n, w'.reply = .seeded n → ∃ mode config, e.request w = some (.seed mode config) ∧
    w'.history = w.history ++ [⟨n,config⟩]
  unwritten : (∀ n, w'.reply ≠ .written n ∧ w'.reply ≠ .seeded n) →
    w'.db = w.db ∧ w'.history = w.history

def Phase.Undivided (db : Db) : Phase → Prop
  | .inserted row => ∀ flat ∈ db.flat, flat.version < row.version
  | .absent put => put.ifMatchVersion = 0 → db.versions = []
  | .flatLocked put currentVersion => currentVersion = put.ifMatchVersion → db.versions = []
  | _ => True

def Undivided (w : World) : Event → Prop
  | .next c => ∀ k ∈ w.calls[c]?, k.phase.Undivided w.db
  | _ => True

section Rows

variable {rows : List ConfigRow} {row : ConfigRow} {n : Int}

theorem Increasing.below (h : Increasing rows) (hlast : ∀ r ∈ rows.getLast?, r.version < n) :
    ∀ r ∈ rows, r.version < n := by
  intro r hr
  obtain rfl | ⟨init,last,rfl⟩ := rows.eq_nil_or_concat'
  · cases hr
  have hl := hlast last (by simp)
  rcases List.mem_append.mp hr with hr | hr
  · have hlt := (List.pairwise_append.mp h).2.2 r hr last (List.mem_singleton_self last)
    exact hlt.trans hl
  · rw [List.mem_singleton.mp hr]
    exact hl

theorem Increasing.snoc (h : Increasing rows) (hlast : ∀ r ∈ rows.getLast?, r.version < row.version) :
    Increasing (rows ++ [row]) := by
  refine List.pairwise_append.mpr ⟨h,List.pairwise_singleton _ _,?_⟩
  intro r hr s hs
  rw [List.mem_singleton.mp hs]
  exact h.below hlast r hr

theorem Increasing.unique {r s : ConfigRow} (h : Increasing rows) (hr : r ∈ rows) (hs : s ∈ rows)
    (heq : r.version = s.version) : r = s := by
  have hnodup : (rows.map ConfigRow.version).Nodup :=
    List.Pairwise.map ConfigRow.version (fun _ _ => ne_of_lt) h
  exact List.inj_on_of_nodup_map hnodup hr hs heq

theorem Db.maxVersion_of_last {db : Db} (h : Increasing db.versions)
    (hlast : db.versions.getLast? = some row) : db.maxVersion = row.version := by
  have hmem := List.mem_of_getLast? hlast
  have hmax : (db.versions.map ConfigRow.version).max? = some row.version := by
    rw [List.max?_eq_some_iff]
    refine ⟨List.mem_map_of_mem hmem,?_⟩
    intro b hb
    obtain ⟨r,hr,rfl⟩ := List.mem_map.mp hb
    have hlt := h.below (n := row.version + 1) (fun x hx => by
      rw [Option.mem_def.mp hx] at hlast
      cases hlast
      exact Int.lt_succ _) r hr
    omega
  rw [maxVersion,hmax]
  rfl

theorem Db.hasVersion.insert {db : Db} (h : db.hasVersion n) : (db.insertVersion row).hasVersion n := by
  obtain ⟨r,hr,hn⟩ := h
  exact ⟨r,List.mem_append_left _ hr,hn⟩

theorem Db.hasVersion_insert (db : Db) (row : ConfigRow) :
    (db.insertVersion row).hasVersion row.version :=
  ⟨row,List.mem_append_right _ (List.mem_singleton_self row),rfl⟩

end Rows

def Put.From (history : List ConfigRow) (put : Put) : Request → Prop
  | .put ifMatchVersion config => put = ⟨ifMatchVersion,config⟩
  | .patch p => put.ifMatchVersion = p.ifMatchVersion ∧
      ∃ base ∈ history, base.version = p.ifMatchVersion ∧
        patchedTenantConfig p.patchOrder (ConfigRow.read p.readOrder base).1 p.mergePatch =
          .ok put.newConfig
  | _ => False

def Call.Valid (older history : List ConfigRow) (db : Db) (k : Call) : Prop :=
  match k.phase with
  | .readingFlat since => since ≤ older.length
  | .got found since => k.request.Reads history since found
  | .writing put => put.From history k.request
  | .selected put _ => put.From history k.request
  | .locked put version => put.From history k.request ∧
      ∃ row, db.versions.getLast? = some row ∧ row.version = version
  | .noActive put => put.From history k.request
  | .absent put => put.From history k.request
  | .flatLocked put version => put.From history k.request ∧
      ∃ row, db.flat = some row ∧ row.version = version
  | .counting config => ∃ mode, k.request = .seed mode config
  | .numbering config => ∃ mode, k.request = .seed mode config
  | .numbered config n => (∃ mode, k.request = .seed mode config) ∧
      (db.hasVersion n ∨ n = db.maxVersion + 1)
  | .inserted row => (∃ mode, k.request = .seed mode row.config) ∧ row.version = db.maxVersion + 1
  | .reading => True
  | .repairing => True
  | .done => True

def holders (p : Phase → Bool) (calls : List Call) : Nat := calls.countP (fun k => p k.phase)

def locks : List (Phase → Bool) := [Phase.locksActive,Phase.locksFlat,Phase.inserts]

def Phase.unlocked : Phase → Bool
  | .locked _ _ => false
  | .flatLocked _ _ => false
  | .inserted _ => false
  | _ => true

theorem Phase.free_of_unlocked {phase : Phase} (h : phase.unlocked = true) : ∀ p ∈ locks, p phase = false := by
  intro p hp
  simp only [locks,List.mem_cons,List.not_mem_nil,or_false] at hp
  rcases hp with rfl | rfl | rfl <;> cases phase <;> first | rfl | cases h

structure Inv (older : List ConfigRow) (w : World) : Prop where
  split : w.history = older ++ w.db.versions
  increasing : Increasing w.history
  flat : w.db.flat = older.getLast?
  active : w.db.active = if w.db.versions = [] then none else some (w.db.versions.length - 1)
  once : ∀ p ∈ locks, holders p w.calls ≤ 1
  calls : ∀ k ∈ w.calls, k.Valid older w.history w.db

section Calls

variable {p : Phase → Bool} {calls : List Call} {c : Nat} {k : Call} {phase : Phase}

theorem holders_eq_zero_iff : holders p calls = 0 ↔ ∀ k ∈ calls, p k.phase = false := by
  rw [holders,List.countP_eq_zero]
  simp

theorem holds_eq_false_iff {w : World} : w.holds p = false ↔ holders p w.calls = 0 := by
  rw [holders_eq_zero_iff,World.holds,List.any_eq_false]
  simp

theorem holders_set (p : Phase → Bool) (phase : Phase) (hk : calls[c]? = some k) :
    holders p (calls.set c { k with phase := phase }) + (if p k.phase then 1 else 0) =
      holders p calls + (if p phase then 1 else 0) := by
  obtain ⟨hlt,hget⟩ := List.getElem?_eq_some_iff.mp hk
  have hpos : p k.phase = true → 0 < holders p calls := by
    intro hp
    exact List.countP_pos_iff.mpr ⟨k,List.mem_of_getElem? hk,hp⟩
  have hset : holders p (calls.set c { k with phase := phase }) =
      holders p calls - (if p k.phase then 1 else 0) + (if p phase then 1 else 0) := by
    rw [holders,List.countP_set hlt,hget]
    rfl
  rw [hset]
  cases hp : p k.phase with
  | true =>
    have := hpos hp
    simp only [if_true]
    omega
  | false => simp

theorem holders_set_le (hk : calls[c]? = some k) (honce : holders p calls ≤ 1)
    (hfree : p phase = true → holders p calls = 0) :
    holders p (calls.set c { k with phase := phase }) ≤ 1 := by
  have hset := holders_set p phase hk
  cases hp : p phase with
  | false =>
    rw [hp] at hset
    simp only [Bool.false_eq_true,if_false] at hset
    omega
  | true =>
    rw [hp] at hset
    have hzero := hfree hp
    simp only [if_true] at hset
    omega

theorem holders_set_done (hk : calls[c]? = some k) (honce : holders p calls ≤ 1)
    (hp : p k.phase = true) (hdone : p phase = false) :
    holders p (calls.set c { k with phase := phase }) = 0 := by
  have hset := holders_set p phase hk
  rw [hp,hdone] at hset
  simp only [if_true,Bool.false_eq_true,if_false] at hset
  omega

end Calls

section Growth

variable {older history : List ConfigRow} {db : Db} {k : Call} {row : ConfigRow}

theorem Put.From.mono {put : Put} {request : Request} (h : put.From history request) :
    put.From (history ++ [row]) request := by
  cases request with
  | patch p =>
    obtain ⟨hversion,base,hbase,hcomputed⟩ := h
    exact ⟨hversion,base,List.mem_append_left _ hbase,hcomputed⟩
  | _ => exact h

theorem Request.Reads.mono {request : Request} {since : Nat} {found : Option (Json × Int)}
    (h : request.Reads history since found) : request.Reads (history ++ [row]) since found := by
  obtain ⟨order,n,horder,hsince,hn,hfound⟩ := h
  refine ⟨order,n,horder,hsince,?_,?_⟩
  · rw [List.length_append]
    omega
  · rw [List.take_append_of_le_length hn]
    exact hfound

theorem Call.Valid.insertVersion (h : k.Valid older history db)
    (hactive : k.phase.locksActive = false) (hinserts : k.phase.inserts = false)
    (hrow : row.version = db.maxVersion + 1) :
    k.Valid older (history ++ [row]) (db.insertVersion row) := by
  obtain ⟨request,phase⟩ := k
  cases phase with
  | got found since => exact Request.Reads.mono h
  | writing put => exact Put.From.mono h
  | selected put id => exact Put.From.mono h
  | noActive put => exact Put.From.mono h
  | absent put => exact Put.From.mono h
  | flatLocked put version => exact ⟨Put.From.mono h.1,h.2⟩
  | numbered config n =>
    refine ⟨h.1,.inl ?_⟩
    rcases h.2 with hn | hn
    · exact hn.insert
    · rw [hn,← hrow]
      exact db.hasVersion_insert row
  | locked put version => cases hactive
  | inserted row => cases hinserts
  | _ => exact h

theorem Call.Valid.setFlat (h : k.Valid older history db) (hflat : k.phase.locksFlat = false) :
    k.Valid (older ++ [row]) (history ++ [row]) { db with flat := some row } := by
  obtain ⟨request,phase⟩ := k
  cases phase with
  | readingFlat since => exact h.trans (by simp)
  | got found since => exact Request.Reads.mono h
  | writing put => exact Put.From.mono h
  | selected put id => exact Put.From.mono h
  | locked put version => exact ⟨Put.From.mono h.1,h.2⟩
  | noActive put => exact Put.From.mono h
  | absent put => exact Put.From.mono h
  | flatLocked put version => cases hflat
  | _ => exact h

end Growth

section Steps

variable {older : List ConfigRow} {w : World} {c : Nat} {k : Call} {phase : Phase} {row : ConfigRow}
  {reply : Reply}

theorem Inv.activeRow (h : Inv older w) : w.db.activeRow = w.db.versions.getLast? := by
  rw [Db.activeRow,h.active]
  split_ifs with hv
  · simp [hv]
  · rw [List.getLast?_eq_getElem?]
    rfl

theorem Inv.greatest (h : Inv older w) : w.db.current = w.history.getLast? := by
  rw [Db.current,h.activeRow,h.split,h.flat,List.getLast?_append]
  cases w.db.versions.getLast? <;> rfl

theorem Inv.stored (h : Inv older w) : (w.db.flat.toList ++ w.db.versions).Sublist w.history := by
  rw [h.split,h.flat]
  refine List.Sublist.append ?_ (List.Sublist.refl _)
  obtain rfl | ⟨init,last,rfl⟩ := older.eq_nil_or_concat'
  · exact List.Sublist.refl _
  · simp

theorem Inv.versions_increasing (h : Inv older w) : Increasing w.db.versions := by
  have hinc := h.increasing
  rw [h.split] at hinc
  exact (List.pairwise_append.mp hinc).2.1

theorem Inv.move (h : Inv older w) (hk : w.calls[c]? = some k)
    (hvalid : Call.Valid older w.history w.db { k with phase := phase })
    (hfree : ∀ p ∈ locks, p phase = true → holders p w.calls = 0) :
    Inv older (w.move c k phase reply) := by
  refine ⟨h.split,h.increasing,h.flat,h.active,?_,?_⟩
  · intro p hp
    exact holders_set_le hk (h.once p hp) (hfree p hp)
  · intro k' hk'
    rcases List.mem_or_eq_of_mem_set hk' with hold | rfl
    · exact h.calls k' hold
    · exact hvalid

theorem Inv.done (h : Inv older w) (hk : w.calls[c]? = some k) :
    Inv older (w.move c k .done reply) := by
  refine h.move hk trivial fun p hp hdone => ?_
  rw [Phase.free_of_unlocked rfl p hp] at hdone
  cases hdone

theorem Inv.last_lt (h : Inv older w) (hrow : row.version = w.db.maxVersion + 1)
    (hflat : ∀ flat ∈ w.db.flat, flat.version < row.version) :
    ∀ r ∈ w.history.getLast?, r.version < row.version := by
  intro r hr
  rw [h.split,List.getLast?_append] at hr
  cases hlast : w.db.versions.getLast? with
  | none =>
    rw [hlast,Option.none_or,← h.flat] at hr
    exact hflat r hr
  | some last =>
    rw [hlast] at hr
    cases hr
    rw [hrow,Db.maxVersion_of_last h.versions_increasing hlast]
    exact Int.lt_succ _

theorem Inv.insertVersion (h : Inv older w) (row : ConfigRow) (hk : w.calls[c]? = some k)
    (hactive : holders Phase.locksActive (w.calls.set c { k with phase := .done }) = 0)
    (hinserts : holders Phase.inserts (w.calls.set c { k with phase := .done }) = 0)
    (hrow : row.version = w.db.maxVersion + 1)
    (hlast : ∀ r ∈ w.history.getLast?, r.version < row.version) (reply : Reply) :
    Inv older (w.commit c k (w.db.insertVersion row) row reply) := by
  have hdone : Inv older (w.move c k .done reply) := h.done hk
  refine ⟨?_,h.increasing.snoc hlast,h.flat,?_,?_,?_⟩
  · show w.history ++ [row] = older ++ (w.db.versions ++ [row])
    rw [h.split,List.append_assoc]
  · simp [World.commit,Db.insertVersion]
  · exact hdone.once
  · intro k' hk'
    exact (hdone.calls k' hk').insertVersion (holders_eq_zero_iff.mp hactive k' hk')
      (holders_eq_zero_iff.mp hinserts k' hk') hrow

theorem Inv.setFlat (h : Inv older w) (row : ConfigRow) (hk : w.calls[c]? = some k)
    (hflat : holders Phase.locksFlat (w.calls.set c { k with phase := .done }) = 0)
    (hversions : w.db.versions = [])
    (hlast : ∀ r ∈ w.history.getLast?, r.version < row.version) (reply : Reply) :
    Inv (older ++ [row]) (w.commit c k { w.db with flat := some row } row reply) := by
  have hdone : Inv older (w.move c k .done reply) := h.done hk
  refine ⟨?_,h.increasing.snoc hlast,?_,h.active,?_,?_⟩
  · show w.history ++ [row] = older ++ [row] ++ w.db.versions
    rw [h.split,hversions,List.append_nil,List.append_nil]
  · simp [World.commit]
  · exact hdone.once
  · intro k' hk'
    exact (hdone.calls k' hk').setFlat (holders_eq_zero_iff.mp hflat k' hk')

end Steps

section Soundness

variable {older : List ConfigRow} {w w' : World} {e : Event} {c : Nat} {k : Call} {phase : Phase}
  {row : ConfigRow} {reply : Reply}

theorem Inv.sound_same (h : Inv older w') (hdb : w'.db = w.db) (hhistory : w'.history = w.history)
    (hread : ∀ found since, w'.reply = .found found since → ∃ request,
      e.request w = some request ∧ request.Reads w'.history since found)
    (hreply : ∀ n, w'.reply ≠ .written n ∧ w'.reply ≠ .seeded n) : Sound w e w' where
  increasing := h.increasing
  kept := by rw [hhistory]
  stored := h.stored
  greatest := h.greatest
  read := hread
  written := fun n hn => absurd hn (hreply n).1
  seeded := fun n hn => absurd hn (hreply n).2
  unwritten := fun _ => ⟨hdb,hhistory⟩

theorem Inv.sound_row (h : Inv older w') (hhistory : w'.history = w.history ++ [row])
    (hreply : (w'.reply = .written row.version ∧ ∃ request, e.request w = some request ∧
        request.AppliedTo w.db.current row.config) ∨
      (w'.reply = .seeded row.version ∧ ∃ mode, e.request w = some (.seed mode row.config))) :
    Sound w e w' := by
  refine ⟨h.increasing,⟨[row],hhistory.symm⟩,h.stored,h.greatest,?_,?_,?_,?_⟩
  · intro found since heq
    rcases hreply with ⟨hr,_⟩ | ⟨hr,_⟩ <;> cases hr.symm.trans heq
  · intro n heq
    rcases hreply with ⟨hr,request,hrequest,happlied⟩ | ⟨hr,_⟩
    · cases hr.symm.trans heq
      exact ⟨request,row.config,hrequest,happlied,hhistory⟩
    · cases hr.symm.trans heq
  · intro n heq
    rcases hreply with ⟨hr,_⟩ | ⟨hr,mode,hrequest⟩
    · cases hr.symm.trans heq
    · cases hr.symm.trans heq
      exact ⟨mode,row.config,hrequest,hhistory⟩
  · intro hnot
    rcases hreply with ⟨hr,_⟩ | ⟨hr,_⟩
    · exact absurd hr (hnot row.version).1
    · exact absurd hr (hnot row.version).2

def Reply.quiet : Reply → Prop
  | .pending => True
  | .notSeeded => True
  | .versionConflict _ _ => True
  | .failed _ => True
  | _ => False

theorem Inv.sound_quiet (h : Inv older w') (hdb : w'.db = w.db) (hhistory : w'.history = w.history)
    (hquiet : w'.reply.quiet) : Sound w e w' := by
  refine h.sound_same hdb hhistory ?_ ?_
  · intro found since heq
    rw [heq] at hquiet
    exact hquiet.elim
  · intro n
    constructor <;> intro heq <;> rw [heq] at hquiet <;> exact hquiet.elim

theorem Inv.moved (h : Inv older w) (hk : w.calls[c]? = some k)
    (hvalid : Call.Valid older w.history w.db { k with phase := phase })
    (hfree : ∀ p ∈ locks, p phase = true → holders p w.calls = 0) (hquiet : reply.quiet) :
    Inv older (w.move c k phase reply) ∧ Sound w e (w.move c k phase reply) := by
  have hinv : Inv older (w.move c k phase reply) := h.move hk hvalid hfree
  exact ⟨hinv,hinv.sound_quiet rfl rfl hquiet⟩

theorem Inv.moved_unlocked (h : Inv older w) (hk : w.calls[c]? = some k)
    (hvalid : Call.Valid older w.history w.db { k with phase := phase }) 
    (hfree : phase.unlocked = true) (hquiet : reply.quiet) :
    Inv older (w.move c k phase reply) ∧ Sound w e (w.move c k phase reply) := by
  refine h.moved hk hvalid ?_ hquiet
  intro p hp hphase
  rw [Phase.free_of_unlocked hfree p hp] at hphase
  cases hphase

theorem Inv.moved_done (h : Inv older w) (hk : w.calls[c]? = some k) (hquiet : reply.quiet) :
    Inv older (w.move c k .done reply) ∧ Sound w e (w.move c k .done reply) :=
  h.moved_unlocked hk trivial rfl hquiet

theorem Put.From.appliedTo {put : Put} {request : Request} {base : ConfigRow}
    (h : Inv older w) (hfrom : put.From w.history request) (hcurrent : w.db.current = some base)
    (hversion : base.version = put.ifMatchVersion) :
    request.AppliedTo w.db.current put.newConfig := by
  cases request with
  | put ifMatchVersion config =>
    rw [show put = ⟨ifMatchVersion,config⟩ from hfrom] at hversion ⊢
    exact ⟨rfl,by rw [hcurrent]; exact hversion⟩
  | patch p =>
    obtain ⟨hput,origin,horigin,hov,hcomputed⟩ := hfrom
    have hmem : base ∈ w.history := List.mem_of_getLast? (h.greatest.symm.trans hcurrent)
    have heq : base = origin := h.increasing.unique hmem horigin (hversion.trans (hput.trans hov.symm))
    exact ⟨base,hcurrent,hversion.trans hput,heq ▸ hcomputed⟩
  | get order => exact hfrom
  | seed mode config => exact hfrom

theorem request_next (hk : w.calls[c]? = some k) : (Event.next c).request w = some k.request := by
  simp [Event.request,hk]

theorem Inv.readNext (h : Inv older w) (hk : w.calls[c]? = some k) {order : Json.MapOrder}
    (horder : k.request.readOrder = some order) {since : Option Nat}
    (hsince : ∀ n ∈ since, n ≤ older.length) :
    Inv older (w.readNext c k order since) ∧ Sound w (.next c) (w.readNext c k order since) := by
  have hlength : older.length ≤ w.history.length := by
    rw [h.split,List.length_append]
    omega
  have hgot : ∀ found n, k.request.Reads w.history n found →
      Inv older (w.move c k (.got found n) (.found found n)) ∧
        Sound w (.next c) (w.move c k (.got found n) (.found found n)) := by
    intro found n hreads
    have hinv : Inv older (w.move c k (.got found n) (.found found n)) :=
      h.move hk hreads fun p hp hgot => by
        rw [Phase.free_of_unlocked rfl p hp] at hgot
        cases hgot
    refine ⟨hinv,hinv.sound_same rfl rfl ?_ ?_⟩
    · intro found' n' heq
      cases heq
      exact ⟨k.request,request_next hk,hreads⟩
    · intro n'
      constructor <;> intro heq <;> cases heq
  cases since with
  | none =>
    rw [World.readNext]
    cases hrow : w.db.activeRow with
    | some row =>
      refine hgot _ _ ⟨order,w.history.length,horder,le_rfl,le_rfl,?_⟩
      have hcurrent : w.db.current = some row := by rw [Db.current,hrow]
      rw [List.take_length,← h.greatest,hcurrent]
      rfl
    | none =>
      rw [h.activeRow,List.getLast?_eq_none_iff] at hrow
      refine h.moved_unlocked hk ?_
        rfl trivial
      show w.history.length ≤ older.length
      rw [h.split,hrow,List.append_nil]
  | some n =>
    refine hgot _ _ ⟨order,older.length,horder,hsince n rfl,hlength,?_⟩
    rw [h.split,List.take_left,← h.flat]

theorem Inv.patchWith (h : Inv older w) (hk : w.calls[c]? = some k) {p : Patch}
    (hrequest : k.request = .patch p) {found : Option (Json × Int)} {since : Nat}
    (hreads : k.request.Reads w.history since found) :
    Inv older (w.patchWith c k p found) ∧ Sound w (.next c) (w.patchWith c k p found) := by
  obtain ⟨order,n,horder,-,-,hfound⟩ := hreads
  rw [hrequest] at horder
  cases horder
  cases found with
  | none => exact h.moved_done hk trivial
  | some x =>
    obtain ⟨currentJSON,currentVersion⟩ := x
    obtain ⟨base,hbase,hread⟩ := Option.map_eq_some_iff.mp hfound.symm
    have hmem : base ∈ w.history := List.mem_of_mem_take (List.mem_of_getLast? hbase)
    obtain ⟨rfl,rfl⟩ := Prod.mk.inj hread
    simp only [World.patchWith]
    split_ifs with hversion
    · exact h.moved_done hk trivial
    · cases hpatched : patchedTenantConfig p.patchOrder (normalizeConfigKeys p.readOrder base.config)
          p.mergePatch with
      | error message => exact h.moved_done hk trivial
      | ok newConfigJSON =>
        refine h.moved_unlocked hk ?_
          rfl trivial
        show Put.From w.history _ k.request
        rw [hrequest]
        exact ⟨rfl,base,hmem,not_not.mp hversion,hpatched⟩

theorem Inv.no_inserts (h : Inv older w) (hfree : w.holds (Phase.claims (w.db.maxVersion + 1)) = false) :
    holders Phase.inserts w.calls = 0 := by
  rw [holds_eq_false_iff,holders_eq_zero_iff] at hfree
  rw [holders_eq_zero_iff]
  intro k hk
  have hvalid := h.calls k hk
  have hclaims := hfree k hk
  obtain ⟨request,phase⟩ := k
  cases phase with
  | inserted row =>
    have hversion : row.version = w.db.maxVersion + 1 := hvalid.2
    simp [Phase.claims,hversion] at hclaims
  | _ => rfl

theorem Inv.putVersioned (h : Inv older w) (hk : w.calls[c]? = some k) {put : Put}
    {versionedVersion : Int} (hphase : k.phase = .locked put versionedVersion)
    (hstep : w.putVersioned c k put versionedVersion = some w') :
    Inv older w' ∧ Sound w (.next c) w' := by
  have hvalid := h.calls k (List.mem_of_getElem? hk)
  rw [Call.Valid,hphase] at hvalid
  obtain ⟨hfrom,base,hbase,hversion⟩ := hvalid
  have hmax := Db.maxVersion_of_last h.versions_increasing hbase
  rw [World.putVersioned] at hstep
  dsimp only at hstep
  split_ifs at hstep with hconflict hclaimed hduplicate
  · cases hstep
    exact h.moved_done hk trivial
  · cases hstep
    exact h.moved_done hk trivial
  · cases hstep
    have hrow : versionedVersion + 1 = w.db.maxVersion + 1 := by rw [hmax,hversion]
    have hinserts := h.no_inserts (by rw [← hrow]; simpa using hclaimed)
    have hset := holders_set Phase.inserts .done hk
    rw [hinserts,hphase] at hset
    have hcurrent : w.db.current = some base := by rw [Db.current,h.activeRow,hbase]
    have hlast : ∀ r ∈ w.history.getLast?, r.version < versionedVersion + 1 := by
      intro r hr
      rw [← h.greatest,hcurrent] at hr
      cases hr
      omega
    have hinv := h.insertVersion ⟨versionedVersion + 1,put.newConfig⟩ hk
      (holders_set_done hk (h.once _ (by simp [locks])) (by rw [hphase]; rfl) rfl)
      (by simpa [Phase.inserts] using hset) hrow hlast (.written (versionedVersion + 1))
    refine ⟨hinv,hinv.sound_row rfl (.inl ⟨rfl,k.request,request_next hk,?_⟩)⟩
    exact hfrom.appliedTo h hcurrent (hversion.trans (not_not.mp hconflict))

theorem Inv.putNew (h : Inv older w) (hk : w.calls[c]? = some k) {put : Put}
    (hphase : k.phase = .absent put) (hundivided : k.phase.Undivided w.db) :
    ∃ older', Inv older' (w.putNew c k put) ∧ Sound w (.next c) (w.putNew c k put) := by
  have hfrom := h.calls k (List.mem_of_getElem? hk)
  rw [Call.Valid,hphase] at hfrom
  rw [hphase] at hundivided
  rw [World.putNew]
  split_ifs with hconflict hexists
  · exact ⟨older,h.moved_done hk trivial⟩
  · exact ⟨older,h.moved_done hk trivial⟩
  · have hzero := not_not.mp hconflict
    have hversions := hundivided hzero
    have hnone : w.db.flat = none := by simpa using hexists
    have hcurrent : w.db.current = none := by
      rw [Db.current,h.activeRow,hversions]
      exact hnone
    have hempty : w.history.getLast? = none := h.greatest.symm.trans hcurrent
    have hlocks : holders Phase.locksFlat w.calls = 0 := by
      rw [holders_eq_zero_iff]
      intro k' hk'
      have hvalid := h.calls k' hk'
      obtain ⟨request,phase⟩ := k'
      cases phase with
      | flatLocked put version =>
        obtain ⟨-,row,hrow,-⟩ := hvalid
        rw [hnone] at hrow
        cases hrow
      | _ => rfl
    have hset := holders_set Phase.locksFlat .done hk
    rw [hlocks,hphase] at hset
    have hinv := h.setFlat ⟨1,put.newConfig⟩ hk (by simpa [Phase.locksFlat] using hset) hversions
      (by simp [hempty]) (.written 1)
    refine ⟨_,hinv,hinv.sound_row rfl (.inl ⟨rfl,k.request,request_next hk,?_⟩)⟩
    cases hrequest : k.request with
    | put ifMatchVersion config =>
      rw [hrequest] at hfrom
      rw [show put = ⟨ifMatchVersion,config⟩ from hfrom] at hzero ⊢
      exact ⟨rfl,by rw [hcurrent]; exact hzero.symm⟩
    | patch p =>
      rw [hrequest] at hfrom
      obtain ⟨-,base,hbase,-⟩ := hfrom
      rw [List.getLast?_eq_none_iff.mp hempty] at hbase
      cases hbase
    | get order =>
      rw [hrequest] at hfrom
      exact hfrom
    | seed mode config =>
      rw [hrequest] at hfrom
      exact hfrom

theorem Inv.putFlat (h : Inv older w) (hk : w.calls[c]? = some k) {put : Put} {currentVersion : Int}
    (hphase : k.phase = .flatLocked put currentVersion) (hundivided : k.phase.Undivided w.db) :
    ∃ older', Inv older' (w.putFlat c k put currentVersion) ∧
      Sound w (.next c) (w.putFlat c k put currentVersion) := by
  have hvalid := h.calls k (List.mem_of_getElem? hk)
  rw [Call.Valid,hphase] at hvalid
  obtain ⟨hfrom,base,hbase,hversion⟩ := hvalid
  rw [hphase] at hundivided
  rw [World.putFlat]
  split_ifs with hconflict
  · exact ⟨older,h.moved_done hk trivial⟩
  · have hmatch := not_not.mp hconflict
    have hversions := hundivided hmatch
    have hcurrent : w.db.current = some base := by
      rw [Db.current,h.activeRow,hversions]
      exact hbase
    have hlast : ∀ r ∈ w.history.getLast?, r.version < currentVersion + 1 := by
      intro r hr
      rw [← h.greatest,hcurrent] at hr
      cases hr
      omega
    have hinv := h.setFlat ⟨currentVersion + 1,put.newConfig⟩ hk
      (holders_set_done hk (h.once _ (by simp [locks])) (by rw [hphase]; rfl) rfl) hversions hlast
      (.written (currentVersion + 1))
    refine ⟨_,hinv,hinv.sound_row rfl (.inl ⟨rfl,k.request,request_next hk,?_⟩)⟩
    exact hfrom.appliedTo h hcurrent (hversion.trans hmatch)

theorem Inv.commitSeed (h : Inv older w) (hk : w.calls[c]? = some k)
    (hphase : k.phase = .inserted row) (hundivided : k.phase.Undivided w.db)
    (hlocked : w.holds Phase.locksActive = false) :
    Inv older (w.commit c k (w.db.insertVersion row) row (.seeded row.version)) ∧
      Sound w (.next c) (w.commit c k (w.db.insertVersion row) row (.seeded row.version)) := by
  have hvalid := h.calls k (List.mem_of_getElem? hk)
  rw [Call.Valid,hphase] at hvalid
  obtain ⟨⟨mode,hrequest⟩,hrow⟩ := hvalid
  rw [hphase] at hundivided
  have hset := holders_set Phase.locksActive .done hk
  rw [holds_eq_false_iff.mp hlocked,hphase] at hset
  have hinv := h.insertVersion row hk (by simpa [Phase.locksActive] using hset)
    (holders_set_done hk (h.once _ (by simp [locks])) (by rw [hphase]; rfl) rfl) hrow
    (h.last_lt hrow hundivided) (.seeded row.version)
  refine ⟨hinv,hinv.sound_row rfl (.inr ⟨rfl,mode,?_⟩)⟩
  rw [request_next hk,hrequest]

theorem Inv.repaired (h : Inv older w) : w.db.active.or w.db.latest = w.db.active := by
  rw [h.active]
  split_ifs with hv
  · simp [Db.latest,hv]
  · rfl

theorem inv_sound_next (h : Inv older w) (hk : w.calls[c]? = some k) (hundivided : k.phase.Undivided w.db)
    (hstep : w.next c k = some w') : ∃ older', Inv older' w' ∧ Sound w (.next c) w' := by
  have hvalid := h.calls k (List.mem_of_getElem? hk)
  cases hphase : k.phase with
  | reading =>
    rw [World.next,hphase] at hstep
    obtain ⟨order,horder,rfl⟩ := Option.map_eq_some_iff.mp hstep
    exact ⟨older,h.readNext hk horder (by simp)⟩
  | readingFlat since =>
    rw [Call.Valid,hphase] at hvalid
    rw [World.next,hphase] at hstep
    obtain ⟨order,horder,rfl⟩ := Option.map_eq_some_iff.mp hstep
    exact ⟨older,h.readNext hk horder (by simpa using hvalid)⟩
  | got found since =>
    rw [Call.Valid,hphase] at hvalid
    rw [World.next,hphase] at hstep
    dsimp only at hstep
    split at hstep
    · next p hrequest =>
      cases hstep
      exact ⟨older,h.patchWith hk hrequest hvalid⟩
    · cases hstep
  | writing put =>
    rw [Call.Valid,hphase] at hvalid
    rw [World.next,hphase] at hstep
    dsimp only at hstep
    split at hstep
    · cases hstep
      exact ⟨older,h.moved_unlocked hk hvalid rfl trivial⟩
    · cases hstep
      exact ⟨older,h.moved_unlocked hk hvalid rfl trivial⟩
  | selected put id =>
    rw [Call.Valid,hphase] at hvalid
    rw [World.next,hphase] at hstep
    dsimp only at hstep
    split_ifs at hstep with hlocked hmoved
    · cases hstep
      exact ⟨older,h.moved_unlocked hk hvalid rfl trivial⟩
    · obtain ⟨row,hrow,rfl⟩ := Option.map_eq_some_iff.mp hstep
      refine ⟨older,h.moved hk ⟨hvalid,row,h.activeRow ▸ hrow,rfl⟩ ?_ trivial⟩
      simpa [locks,Phase.locksActive,Phase.locksFlat,Phase.inserts] using
        holds_eq_false_iff.mp (by simpa using hlocked)
  | locked put versionedVersion =>
    rw [World.next,hphase] at hstep
    exact ⟨older,h.putVersioned hk hphase hstep⟩
  | noActive put =>
    rw [Call.Valid,hphase] at hvalid
    rw [World.next,hphase] at hstep
    dsimp only at hstep
    split at hstep
    · cases hstep
      exact ⟨older,h.moved_unlocked hk hvalid rfl trivial⟩
    · next row hrow =>
      split_ifs at hstep with hlocked
      cases hstep
      refine ⟨older,h.moved hk ⟨hvalid,row,hrow,rfl⟩ ?_ trivial⟩
      simpa [locks,Phase.locksActive,Phase.locksFlat,Phase.inserts] using
        holds_eq_false_iff.mp (by simpa using hlocked)
  | absent put =>
    rw [World.next,hphase] at hstep
    cases hstep
    exact h.putNew hk hphase hundivided
  | flatLocked put currentVersion =>
    rw [World.next,hphase] at hstep
    cases hstep
    exact h.putFlat hk hphase hundivided
  | counting config =>
    rw [Call.Valid,hphase] at hvalid
    rw [World.next,hphase] at hstep
    dsimp only at hstep
    split_ifs at hstep
    · cases hstep
      exact ⟨older,h.moved_unlocked hk hvalid rfl trivial⟩
    · cases hstep
      exact ⟨older,h.moved_unlocked hk trivial rfl trivial⟩
  | repairing =>
    rw [World.next,hphase] at hstep
    dsimp only at hstep
    rw [h.repaired] at hstep
    cases hstep
    exact ⟨older,h.moved_done hk trivial⟩
  | numbering config =>
    rw [Call.Valid,hphase] at hvalid
    rw [World.next,hphase] at hstep
    cases hstep
    exact ⟨older,h.moved_unlocked hk ⟨hvalid,.inr rfl⟩ rfl trivial⟩
  | numbered config newVersion =>
    rw [Call.Valid,hphase] at hvalid
    rw [World.next,hphase] at hstep
    dsimp only at hstep
    split_ifs at hstep with hclaimed hduplicate
    · cases hstep
      exact ⟨older,h.moved_done hk trivial⟩
    · cases hstep
      have hnew : newVersion = w.db.maxVersion + 1 := hvalid.2.resolve_left hduplicate
      have hinserts := h.no_inserts (by rw [← hnew]; simpa using hclaimed)
      refine ⟨older,h.moved hk ⟨hvalid.1,hnew⟩ ?_ trivial⟩
      simpa [locks,Phase.locksActive,Phase.locksFlat,Phase.inserts] using hinserts
  | inserted row =>
    rw [World.next,hphase] at hstep
    dsimp only at hstep
    split_ifs at hstep with hlocked
    cases hstep
    exact ⟨older,h.commitSeed hk hphase hundivided (by simpa using hlocked)⟩
  | done =>
    rw [World.next,hphase] at hstep
    cases hstep

theorem Inv.called (h : Inv older w) (request : Request) :
    Inv older { w with calls := w.calls ++ [⟨request,request.first⟩], reply := .pending } := by
  refine ⟨h.split,h.increasing,h.flat,h.active,?_,?_⟩
  · intro p hp
    have hunlocked : request.first.unlocked = true := by
      rcases request with _ | _ | _ | ⟨mode,_⟩
      · rfl
      · rfl
      · rfl
      · cases mode <;> rfl
    have hfirst := Phase.free_of_unlocked hunlocked p hp
    have hold := h.once p hp
    rw [holders,List.countP_append,List.countP_singleton,hfirst]
    simpa [holders] using hold
  · intro k hk
    rcases List.mem_append.mp hk with hk | hk
    · exact h.calls k hk
    · rw [List.mem_singleton.mp hk]
      cases request with
      | get order => trivial
      | put ifMatchVersion config => exact rfl
      | patch p => trivial
      | seed mode config => cases mode <;> exact ⟨_,rfl⟩

theorem inv_sound_step (h : ∃ older, Inv older w) (hundivided : Undivided w e)
    (hstep : step w e = some w') : (∃ older, Inv older w') ∧ Sound w e w' := by
  obtain ⟨older,h⟩ := h
  cases e with
  | call request =>
    cases hstep
    have hinv := h.called request
    exact ⟨⟨older,hinv⟩,hinv.sound_quiet rfl rfl trivial⟩
  | next c =>
    obtain ⟨k,hk,hnext⟩ := Option.bind_eq_some_iff.mp hstep
    obtain ⟨older',hinv,hsound⟩ := inv_sound_next h hk (hundivided k hk) hnext
    exact ⟨⟨older',hinv⟩,hsound⟩
  | abort c =>
    obtain ⟨k,hk,rfl⟩ := Option.map_eq_some_iff.mp hstep
    have hmoved : Inv older (w.move c k .done (.failed "")) ∧
        Sound w (.abort c) (w.move c k .done (.failed "")) := h.moved_done hk trivial
    exact ⟨⟨older,hmoved.1⟩,hmoved.2⟩

end Soundness

structure World.Starts (w : World) : Prop where
  history : w.history = w.db.flat.toList ++ w.db.versions
  increasing : Increasing w.history
  active : w.db.active = if w.db.versions = [] then none else some (w.db.versions.length - 1)
  calls : w.calls = []

theorem World.Starts.inv {w : World} (h : w.Starts) : Inv w.db.flat.toList w := by
  refine ⟨h.history,h.increasing,?_,h.active,?_,?_⟩
  · cases w.db.flat <;> rfl
  · intro p _
    rw [h.calls]
    exact Nat.zero_le 1
  · rw [h.calls]
    simp

theorem tenant_versions_sound {w₀ w w' : World} (es : List Event) (e : Event) (hstart : w₀.Starts)
    (hes : EveryStep step Undivided w₀ es) (h : exec step w₀ es = some w) (he : Undivided w e)
    (hstep : step w e = some w') : Sound w e w' := by
  have hinv : ∃ older, Inv older w :=
    exec_invariant_of_steps step (I := fun w => ∃ older, Inv older w)
      (fun _ _ _ hs hc ht => (inv_sound_step hs hc ht).1) ⟨_,hstart.inv⟩ hes h
  exact (inv_sound_step hinv he hstep).2

instance (db : Db) : (phase : Phase) → Decidable (phase.Undivided db)
  | .inserted row => inferInstanceAs (Decidable (∀ flat ∈ db.flat, flat.version < row.version))
  | .absent put => inferInstanceAs (Decidable (put.ifMatchVersion = 0 → db.versions = []))
  | .flatLocked put currentVersion =>
    inferInstanceAs (Decidable (currentVersion = put.ifMatchVersion → db.versions = []))
  | .reading => .isTrue trivial
  | .readingFlat _ => .isTrue trivial
  | .got _ _ => .isTrue trivial
  | .writing _ => .isTrue trivial
  | .selected _ _ => .isTrue trivial
  | .locked _ _ => .isTrue trivial
  | .noActive _ => .isTrue trivial
  | .counting _ => .isTrue trivial
  | .repairing => .isTrue trivial
  | .numbering _ => .isTrue trivial
  | .numbered _ _ => .isTrue trivial
  | .done => .isTrue trivial

instance (w : World) : (e : Event) → Decidable (Undivided w e)
  | .call _ => .isTrue trivial
  | .next c => inferInstanceAs (Decidable (∀ k ∈ w.calls[c]?, k.phase.Undivided w.db))
  | .abort _ => .isTrue trivial

def flatTenant (version : Int) : World where
  db := ⟨[],none,some ⟨version,.obj [("environment",.str "PROD")]⟩⟩
  history := [⟨version,.obj [("environment",.str "PROD")]⟩]
  calls := []
  reply := .pending

theorem flatTenant_starts (version : Int) : (flatTenant version).Starts :=
  ⟨rfl,List.pairwise_singleton _ _,rfl,rfl⟩

def keepOrder : Json.MapOrder := ⟨fun l => l,Json.listed_perm⟩

def patchFrom (version : Int) : Patch :=
  ⟨version,.obj [("default_model",.str "mini")],keepOrder,keepOrder⟩

def bootstrap : Request := .seed .ifEmpty (.obj [("environment",.str "DEV")])

def seedThenPatch : List Event :=
  [.call bootstrap,.next 0,.next 0,.next 0,.next 0,
    .call (.patch (patchFrom 1)),.next 1,.next 1,.next 1,.next 1]

theorem seeded_then_patched_sound :
    ∃ w w', exec step (flatTenant 0) seedThenPatch = some w ∧ step w (.next 1) = some w' ∧
      Sound w (.next 1) w' :=
  ⟨_,_,rfl,rfl,tenant_versions_sound seedThenPatch (.next 1) (flatTenant_starts 0) (by decide) rfl
    (by decide) rfl⟩

def seedDuringPatch : List Event :=
  [.call (.patch (patchFrom 1)),.next 0,.next 0,
    .call bootstrap,.next 1,.next 1,.next 1,.next 1,
    .next 0,.next 0,.next 0]

theorem seed_repeats_flat_version :
    ∃ w w', exec step (flatTenant 1) seedDuringPatch = some w ∧ step w (.next 0) = some w' ∧
      w'.reply = .written 2 ∧ w'.history.map ConfigRow.version = [1,1,2] ∧
      w.db.current.map ConfigRow.config = some (.obj [("environment",.str "DEV")]) ∧
      w'.db.current.map ConfigRow.config =
        some (.obj [("default_model",.str "mini"),("environment",.str "PROD")]) ∧
      ¬ Sound w (.next 0) w' := by
  refine ⟨_,_,rfl,rfl,rfl,rfl,rfl,rfl,fun h => ?_⟩
  have hversions : ([1,1,2] : List Int).Pairwise (fun m n => m < n) :=
    List.pairwise_map.mpr h.increasing
  exact absurd hversions (by decide)

def Db.tables (db : Db) (tenantID : String) : TenantTables :=
  ⟨Function.update (fun _ => none) tenantID db.activeRow,
    Function.update (fun _ => none) tenantID db.flat⟩

def putAlone (ifMatchVersion : Int) (config : Json) : List Event :=
  [.call (.put ifMatchVersion config),.next 0,.next 0,.next 0]

theorem Db.tables_flat (db : Db) (tenantID : String) (row : ConfigRow) :
    { db with flat := some row }.tables tenantID = (db.tables tenantID).setFlat tenantID row := by
  simp [tables,activeRow,TenantTables.setFlat]

theorem Db.tables_insertVersion (db : Db) (tenantID : String) (row : ConfigRow) :
    (db.insertVersion row).tables tenantID = (db.tables tenantID).activate tenantID row := by
  simp [tables,activeRow,insertVersion,TenantTables.activate]

section Alone

variable {w : World} {put : Put}

def World.putting (w : World) (put : Put) (phase : Phase) (reply : Reply) : World :=
  ⟨w.db,w.history,[⟨.put put.ifMatchVersion put.newConfig,phase⟩],reply⟩

def Put.ended (put : Put) (db : Db) (history : List ConfigRow) (reply : Reply) : World :=
  ⟨db,history,[⟨.put put.ifMatchVersion put.newConfig,.done⟩],reply⟩

theorem step_call (hcalls : w.calls = []) :
    step w (.call (.put put.ifMatchVersion put.newConfig)) =
      some (w.putting put (.writing put) .pending) := by
  simp [step,hcalls,Request.first,World.putting]

theorem step_putting (phase : Phase) (reply : Reply) :
    step (w.putting put phase reply) (.next 0) =
      (w.putting put phase reply).next 0 ⟨.put put.ifMatchVersion put.newConfig,phase⟩ := rfl

theorem exec_versioned {id : Nat} {row : ConfigRow} (hcalls : w.calls = [])
    (hactive : w.db.active = some id) (hrow : w.db.activeRow = some row) :
    exec step w (putAlone put.ifMatchVersion put.newConfig) =
      exec step (w.putting put (.locked put row.version) .pending) [.next 0] := by
  have hselect : step (w.putting put (.writing put) .pending) (.next 0) =
      some (w.putting put (.selected put id) .pending) := by
    rw [step_putting]
    simp only [World.next,World.putting,hactive]
    rfl
  have hlock : step (w.putting put (.selected put id) .pending) (.next 0) =
      some (w.putting put (.locked put row.version) .pending) := by
    rw [step_putting]
    simp [World.next,World.putting,World.holds,Phase.locksActive,hactive,hrow,World.move]
  rw [putAlone,exec_cons (step_call hcalls),exec_cons hselect,exec_cons hlock]

theorem exec_unversioned (hcalls : w.calls = []) (hactive : w.db.active = none) :
    exec step w (putAlone put.ifMatchVersion put.newConfig) =
      exec step (w.putting put (.noActive put) .pending) [.next 0,.next 0] := by
  have hselect : step (w.putting put (.writing put) .pending) (.next 0) =
      some (w.putting put (.noActive put) .pending) := by
    rw [step_putting]
    simp only [World.next,World.putting,hactive]
    rfl
  rw [putAlone,exec_cons (step_call hcalls),exec_cons hselect]

end Alone

theorem put_alone {w : World} (h : w.Starts) (tenantID : String) (ifMatchVersion : Int) (config : Json) :
    ∃ w', exec step w (putAlone ifMatchVersion config) = some w' ∧
      match (w.db.tables tenantID).putTenantConfig tenantID ifMatchVersion config with
      | .ok (tables,version) => w'.reply = .written version ∧ w'.db.tables tenantID = tables
      | .error conflict => w'.reply = .versionConflict conflict.expected conflict.current ∧
        w'.db = w.db := by
  have hrow := h.inv.activeRow
  have hversioned : (w.db.tables tenantID).versioned tenantID = w.db.activeRow := by simp [Db.tables]
  have hflat : (w.db.tables tenantID).flat tenantID = w.db.flat := by simp [Db.tables]
  rw [TenantTables.putTenantConfig,hversioned,hflat]
  let put : Put := ⟨ifMatchVersion,config⟩
  cases hlast : w.db.versions.getLast? with
  | some row =>
    have hactive : w.db.active = some (w.db.versions.length - 1) := by
      rw [h.active,if_neg (by rintro hnil; simp [hnil] at hlast)]
    have hfresh : ¬ w.db.hasVersion (row.version + 1) := by
      rintro ⟨r,hr,hversion⟩
      have hbelow := h.inv.versions_increasing.below (n := row.version + 1) (fun x hx => by
        rw [hlast] at hx
        cases hx
        exact Int.lt_succ _) r hr
      omega
    rw [hlast] at hrow
    rw [hrow,show exec step w (putAlone ifMatchVersion config) = _ from
      @exec_versioned w put _ row h.calls hactive hrow]
    have hwrite : step (w.putting put (.locked put row.version) .pending) (.next 0) =
      (w.putting put (.locked put row.version) .pending).putVersioned 0 _ put row.version := rfl
    dsimp only
    split_ifs with hv
    · refine ⟨put.ended w.db w.history (.versionConflict ifMatchVersion row.version),?_,rfl,rfl⟩
      exact exec_cons (hwrite.trans (if_pos hv)) []
    · let next : ConfigRow := ⟨row.version + 1,config⟩
      refine ⟨put.ended (w.db.insertVersion next) (w.history ++ [next]) (.written next.version),
        ?_,rfl,w.db.tables_insertVersion tenantID next⟩
      have hclaims : ¬ (w.putting put (.locked put row.version) .pending).holds
          (Phase.claims next.version) = true := by
        simp [World.holds,World.putting,Phase.claims]
      refine exec_cons (hwrite.trans ((if_neg hv).trans ?_)) []
      exact (if_neg hclaims).trans (if_neg hfresh)
  | none =>
    have hactive : w.db.active = none := by
      rw [h.active,if_pos (List.getLast?_eq_none_iff.mp hlast)]
    rw [hlast] at hrow
    rw [hrow,show exec step w (putAlone ifMatchVersion config) = _ from
      @exec_unversioned w put h.calls hactive]
    dsimp only
    cases hf : w.db.flat with
    | none =>
      have habsent : step (w.putting put (.noActive put) .pending) (.next 0) =
          some (w.putting put (.absent put) .pending) := by
        rw [step_putting]
        simp only [World.next,World.putting,hf]
        rfl
      have hwrite : step (w.putting put (.absent put) .pending) (.next 0) =
          some ((w.putting put (.absent put) .pending).putNew 0 _ put) := rfl
      rw [exec_cons habsent]
      dsimp only
      split_ifs with hv
      · refine ⟨put.ended w.db w.history (.versionConflict ifMatchVersion 0),?_,rfl,rfl⟩
        exact exec_cons (hwrite.trans (congrArg some (if_pos hv))) []
      · let next : ConfigRow := ⟨1,config⟩
        refine ⟨put.ended { w.db with flat := some next } (w.history ++ [next]) (.written 1),
          ?_,rfl,w.db.tables_flat tenantID next⟩
        have hempty : ¬ (w.putting put (.absent put) .pending).db.flat.isSome = true := by
          simp [World.putting,hf]
        refine exec_cons (hwrite.trans (congrArg some ((if_neg hv).trans ?_))) []
        exact if_neg hempty
    | some row =>
      have hlock : step (w.putting put (.noActive put) .pending) (.next 0) =
          some (w.putting put (.flatLocked put row.version) .pending) := by
        rw [step_putting]
        simp only [World.next,World.putting,hf]
        rfl
      have hwrite : step (w.putting put (.flatLocked put row.version) .pending) (.next 0) =
          some ((w.putting put (.flatLocked put row.version) .pending).putFlat 0 _ put row.version) :=
        rfl
      rw [exec_cons hlock]
      dsimp only
      split_ifs with hv
      · refine ⟨put.ended w.db w.history (.versionConflict ifMatchVersion row.version),?_,rfl,rfl⟩
        exact exec_cons (hwrite.trans (congrArg some (if_pos hv))) []
      · let next : ConfigRow := ⟨row.version + 1,config⟩
        refine ⟨put.ended { w.db with flat := some next } (w.history ++ [next])
          (.written next.version),?_,rfl,w.db.tables_flat tenantID next⟩
        exact exec_cons (hwrite.trans (congrArg some (if_neg hv))) []

end PrismGateway.Storage.Tenant
