import PrismGateway.Lib.Run

namespace PrismGateway.Storage.ApiKeys

open Lib

/-- A row of `api_keys`. Rows are never deleted: the id of a row is its position among the committed
ones. -/
structure KeyRow where
  tenantID : String
  name : String
  scopes : List String
  createdAt : Int
  expiresAt : Option Int := none
  revokedAt : Option Int := none
  rotatedTo : Option Nat := none
  rotatedFrom : Option Nat := none
  deriving DecidableEq, Repr

namespace KeyRow

def active (r : KeyRow) : Bool := r.revokedAt.isNone

def sameName (r s : KeyRow) : Bool := r.tenantID = s.tenantID && r.name = s.name

end KeyRow

inductive Request where
  | createAPIKey (tenantID name : String) (scopes : List String) (expiresAt : Option Int)
  -- a call that carries the bootstrap key
  | bootstrap (name : String) (scopes : List String)
  | revokeAPIKey (tenantID : String) (keyID : Nat)
  | rotateAPIKey (tenantID : String) (keyID : Nat)
  deriving DecidableEq, Repr

inductive Reply where
  | created (id : Nat)
  | revoked (revokedAt : Int)
  | rotated (newKeyID : Nat)
  | failed (message : String)
  deriving DecidableEq, Repr

inductive Phase where
  | begun
  | counted
  | found
  | selected (old : KeyRow)
  | revoking (revokedAt : Int)
  | rotating (old : KeyRow) (createdAt : Int)
  | inserted (row : KeyRow)
  | done (reply : Reply)
  deriving DecidableEq, Repr

structure Call where
  request : Request
  phase : Phase
  deriving DecidableEq, Repr

namespace Call

def locks (k : Call) : Option Nat :=
  match k.request, k.phase with
  | .revokeAPIKey _ keyID, .revoking _ => some keyID
  | .rotateAPIKey _ keyID, .rotating _ _ => some keyID
  | .rotateAPIKey _ keyID, .inserted _ => some keyID
  | _, _ => none

def insertsName (row : KeyRow) (k : Call) : Bool :=
  match k.phase with
  | .inserted own => own.sameName row
  | _ => false

def bootstraps (k : Call) : Bool :=
  match k.request with
  | .bootstrap _ _ => true
  | _ => false

def created (k : Call) : Bool :=
  match k.phase with
  | .done (.created _) => true
  | _ => false

def holdsInsert (k : Call) : Bool :=
  match k.phase with
  | .inserted _ => true
  | _ => false

end Call

/-- `revocations` lists every revoke that was committed. -/
structure World where
  keys : List KeyRow
  calls : List Call
  revocations : List (Nat × Int)
  deriving DecidableEq, Repr

inductive Event where
  | begin (request : Request)
  | next (c : Nat) (now : Int)
  | abort (c : Nat)
  deriving DecidableEq, Repr

namespace World

variable (w : World)

def move (c : Nat) (k : Call) (phase : Phase) : World :=
  { w with calls := w.calls.set c { k with phase := phase } }

def finish (c : Nat) (k : Call) (reply : Reply) : World := w.move c k (.done reply)

def others (c : Nat) : List Call := w.calls.eraseIdx c

def lockedByOther (c keyID : Nat) : Bool := (w.others c).any (fun k => k.locks = some keyID)

def inDoubt (c : Nat) (row : KeyRow) : Bool :=
  (w.others c).any (fun k => k.insertsName row ||
    (k.locks.bind (w.keys[·]?)).any (fun r => r.active && r.sameName row))

def nameTaken (own : Option Nat) (row : KeyRow) : Bool :=
  w.keys.zipIdx.any (fun r => r.1.active && r.1.sameName row && some r.2 ≠ own)

def insert (c : Nat) (k : Call) (row : KeyRow) (message : String) : Option World :=
  if w.inDoubt c row then none
  else if w.nameTaken k.locks row then some (w.finish c k (.failed message))
  else some (w.move c k (.inserted row))

def ownKey (tenantID : String) (keyID : Nat) : Option KeyRow :=
  (w.keys[keyID]?).filter (fun r => r.tenantID = tenantID)

def activeKey (tenantID : String) (keyID : Nat) : Option KeyRow :=
  (w.ownKey tenantID keyID).filter KeyRow.active

def commitInsert (c : Nat) (k : Call) (row : KeyRow) : World :=
  { w.finish c k (.created w.keys.length) with keys := w.keys ++ [row] }

def commitRevoke (c : Nat) (k : Call) (keyID : Nat) (revokedAt : Int) : World :=
  { w.finish c k (.revoked revokedAt) with
    keys := w.keys.modify keyID (fun r => { r with revokedAt := some revokedAt })
    revocations := w.revocations ++ [(keyID,revokedAt)] }

def commitRotate (c : Nat) (k : Call) (keyID : Nat) (row : KeyRow) : World :=
  { w.finish c k (.rotated w.keys.length) with
    keys := w.keys.modify keyID (fun r =>
      { r with revokedAt := some row.createdAt, rotatedTo := some w.keys.length }) ++ [row] }

end World

def invalidScope (scopes : List String) : Option String :=
  scopes.find? (fun scope => !(["admin_read","admin_write"].contains scope))

def bootstrapRow (name : String) (scopes : List String) (now : Int) : KeyRow where
  tenantID := "system:bootstrap"
  name := if name = "" then "Bootstrap Admin Key" else name
  scopes := if scopes = [] then ["admin_write"] else scopes
  createdAt := now

def successor (keyID : Nat) (old : KeyRow) (createdAt : Int) : KeyRow where
  tenantID := old.tenantID
  name := old.name
  scopes := old.scopes
  createdAt := createdAt
  expiresAt := old.expiresAt
  rotatedFrom := some keyID

namespace World

variable (w : World)

def nextCreate (c : Nat) (k : Call) (row : KeyRow) : Option World :=
  match k.phase with
  | .begun => w.insert c k row "insert api key"
  | .inserted row => some (w.commitInsert c k row)
  | _ => none

def nextBootstrap (c : Nat) (k : Call) (name : String) (scopes : List String) (now : Int) :
    Option World :=
  match k.phase with
  | .begun =>
    if w.keys.length = 0 then some (w.move c k .counted)
    else some (w.finish c k (.failed "bootstrap already completed (api keys already exist)"))
  | .counted =>
    let row := bootstrapRow name scopes now
    match invalidScope row.scopes with
    | some scope =>
      some (w.finish c k (.failed ("invalid scope: " ++ scope ++ " (valid: admin_read, admin_write)")))
    | none => w.insert c k row "failed to create api key"
  | .inserted row => some (w.commitInsert c k row)
  | _ => none

def nextRevoke (c : Nat) (k : Call) (tenantID : String) (keyID : Nat) (now : Int) : Option World :=
  match k.phase with
  | .begun => match w.ownKey tenantID keyID with
    | none => some (w.finish c k (.failed "api key not found"))
    | some _ => some (w.move c k .found)
  | .found =>
    if w.lockedByOther c keyID then none
    else match w.activeKey tenantID keyID with
      | none => some (w.finish c k (.failed "api key already revoked or not found"))
      | some _ => some (w.move c k (.revoking now))
  | .revoking revokedAt => some (w.commitRevoke c k keyID revokedAt)
  | _ => none

-- the UPDATE of the old key does not ask again whether it is revoked
def nextRotate (c : Nat) (k : Call) (tenantID : String) (keyID : Nat) (now : Int) : Option World :=
  match k.phase with
  | .begun => match w.activeKey tenantID keyID with
    | none => some (w.finish c k (.failed "api key not found or already revoked"))
    | some old => some (w.move c k (.selected old))
  | .selected old =>
    if w.lockedByOther c keyID then none else some (w.move c k (.rotating old now))
  | .rotating old createdAt =>
    w.insert c k (successor keyID old createdAt) "insert new api key"
  | .inserted row => some (w.commitRotate c k keyID row)
  | _ => none

def next (c : Nat) (k : Call) (now : Int) : Option World :=
  match k.request with
  | .createAPIKey tenantID name scopes expiresAt =>
    w.nextCreate c k
      { tenantID := tenantID, name := name, scopes := scopes, createdAt := now
        expiresAt := expiresAt }
  | .bootstrap name scopes => w.nextBootstrap c k name scopes now
  | .revokeAPIKey tenantID keyID => w.nextRevoke c k tenantID keyID now
  | .rotateAPIKey tenantID keyID => w.nextRotate c k tenantID keyID now

end World

def step (w : World) : Event → Option World
  | .begin request => some { w with calls := w.calls ++ [⟨request,.begun⟩] }
  | .next c now => (w.calls[c]?).bind (fun k => w.next c k now)
  | .abort c => (w.calls[c]?).bind (fun k => match k.phase with
    | .done _ => none
    | _ => some (w.finish c k (.failed "aborted")))

def World.empty : World := ⟨[],[],[]⟩

structure LifeCycle (w : World) : Prop where
  revoked_stays : ∀ keyID revokedAt, (keyID,revokedAt) ∈ w.revocations →
    (∃ r, w.keys[keyID]? = some r ∧ r.revokedAt = some revokedAt) ∧
      ∀ (i : Nat) (s : KeyRow), w.keys[i]? = some s → s.rotatedFrom ≠ some keyID
  one_successor : ∀ (keyID i j : Nat) (r s : KeyRow), w.keys[i]? = some r → w.keys[j]? = some s →
    r.rotatedFrom = some keyID → s.rotatedFrom = some keyID → i = j
  one_bootstrap : ∀ (c d : Nat) (k l : Call), w.calls[c]? = some k → w.calls[d]? = some l →
    k.bootstraps = true → k.created = true → l.bootstraps = true → l.created = true → c = d

def Call.fresh (w : World) (c : Nat) (k : Call) : Bool :=
  match k.request, k.phase with
  | .rotateAPIKey _ keyID, .selected _ => (w.keys[keyID]?).any KeyRow.active
  | .bootstrap _ _, .counted =>
    w.keys.isEmpty && (w.others c).all (fun l => !(l.bootstraps && l.holdsInsert))
  | _, _ => true

def Fresh (w : World) : Event → Prop
  | .next c _ => ∀ k, w.calls[c]? = some k → k.fresh w c = true
  | _ => True

namespace Call

def bootstrapping (k : Call) : Bool := k.bootstraps && (k.holdsInsert || k.created)

def rotates (k : Call) : Option Nat :=
  match k.request with
  | .rotateAPIKey _ keyID => some keyID
  | _ => none

end Call

structure Inv (w : World) : Prop where
  revoked : ∀ keyID revokedAt, (keyID,revokedAt) ∈ w.revocations →
    ∃ r, w.keys[keyID]? = some r ∧ r.revokedAt = some revokedAt ∧ r.rotatedTo = none
  rotated : ∀ (i : Nat) (r : KeyRow) keyID, w.keys[i]? = some r → r.rotatedFrom = some keyID →
    ∃ old, w.keys[keyID]? = some old ∧ old.rotatedTo = some i
  retired : ∀ (i : Nat) (r : KeyRow), w.keys[i]? = some r → r.revokedAt = none → r.rotatedTo = none
  held : ∀ (c : Nat) (k : Call) keyID, w.calls[c]? = some k → k.locks = some keyID →
    ∃ r, w.keys[keyID]? = some r ∧ r.revokedAt = none
  exclusive : ∀ (c d : Nat) (k l : Call) keyID, w.calls[c]? = some k → w.calls[d]? = some l →
    k.locks = some keyID → l.locks = some keyID → c = d
  single : ∀ (c d : Nat) (k l : Call), w.calls[c]? = some k → w.calls[d]? = some l →
    k.bootstrapping = true → l.bootstrapping = true → c = d
  stored : ∀ (c : Nat) (k : Call), w.calls[c]? = some k → k.bootstraps = true → k.created = true →
    w.keys ≠ []
  pending : ∀ (c : Nat) (k : Call) row, w.calls[c]? = some k → k.phase = .inserted row →
    row.rotatedTo = none ∧ row.rotatedFrom = k.rotates

theorem Inv.lifeCycle {w : World} (h : Inv w) : LifeCycle w where
  revoked_stays := by
    intro keyID revokedAt hmem
    obtain ⟨r,hr,hat,hto⟩ := h.revoked keyID revokedAt hmem
    refine ⟨⟨r,hr,hat⟩,?_⟩
    intro i s hs hfrom
    obtain ⟨old,hold,hsucc⟩ := h.rotated i s keyID hs hfrom
    rw [hr,Option.some.injEq] at hold
    subst hold
    rw [hto] at hsucc
    cases hsucc
  one_successor := by
    intro keyID i j r s hr hs hfrom hfrom'
    obtain ⟨old,hold,hsucc⟩ := h.rotated i r keyID hr hfrom
    obtain ⟨old',hold',hsucc'⟩ := h.rotated j s keyID hs hfrom'
    rw [hold,Option.some.injEq] at hold'
    subst hold'
    exact Option.some.inj (hsucc.symm.trans hsucc')
  one_bootstrap := by
    intro c d k l hk hl hb hcreated hb' hcreated'
    exact h.single c d k l hk hl (by simp [Call.bootstrapping,hb,hcreated])
      (by simp [Call.bootstrapping,hb',hcreated'])

theorem mem_others {w : World} {c : Nat} {l : Call} :
    l ∈ w.others c ↔ ∃ d, d ≠ c ∧ w.calls[d]? = some l := List.mem_eraseIdx_iff_getElem?

theorem calls_move {w : World} {c d : Nat} {k l : Call} {phase : Phase}
    (h : (w.move c k phase).calls[d]? = some l) :
    d = c ∧ l = { k with phase := phase } ∨ d ≠ c ∧ w.calls[d]? = some l := by
  rw [World.move] at h
  dsimp only at h
  by_cases hd : c = d
  · subst hd
    rw [List.getElem?_set_self' ] at h
    obtain ⟨_,_,rfl⟩ := Option.map_eq_some_iff.mp h
    exact .inl ⟨rfl,rfl⟩
  · rw [List.getElem?_set_ne hd] at h
    exact .inr ⟨Ne.symm hd,h⟩

structure Moves (w : World) (c : Nat) (k : Call) : Prop where
  locked : ∀ keyID, k.locks = some keyID → (∃ r, w.keys[keyID]? = some r ∧ r.revokedAt = none) ∧
    ∀ (d : Nat) (l : Call), d ≠ c → w.calls[d]? = some l → l.locks ≠ some keyID
  alone : k.bootstrapping = true →
    ∀ (d : Nat) (l : Call), d ≠ c → w.calls[d]? = some l → l.bootstrapping = false
  stored : k.bootstraps = true → k.created = true → w.keys ≠ []
  pending : ∀ row, k.phase = .inserted row → row.rotatedTo = none ∧ row.rotatedFrom = k.rotates

theorem Inv.move {w : World} {c : Nat} {k : Call} {phase : Phase} (h : Inv w)
    (hm : Moves w c { k with phase := phase }) : Inv (w.move c k phase) where
  revoked := h.revoked
  rotated := h.rotated
  retired := h.retired
  held := by
    intro d l keyID hl hlocks
    rcases calls_move hl with ⟨-,rfl⟩ | ⟨-,hold⟩
    · exact (hm.locked keyID hlocks).1
    · exact h.held d l keyID hold hlocks
  exclusive := by
    intro d e l m keyID hl hmm hlocks hlocks'
    rcases calls_move hl with ⟨rfl,rfl⟩ | ⟨hd,hold⟩
    · rcases calls_move hmm with ⟨rfl,-⟩ | ⟨he,hold'⟩
      · rfl
      · exact absurd hlocks' ((hm.locked keyID hlocks).2 e m he hold')
    · rcases calls_move hmm with ⟨rfl,rfl⟩ | ⟨he,hold'⟩
      · exact absurd hlocks ((hm.locked keyID hlocks').2 d l hd hold)
      · exact h.exclusive d e l m keyID hold hold' hlocks hlocks'
  single := by
    intro d e l m hl hmm hb hb'
    rcases calls_move hl with ⟨rfl,rfl⟩ | ⟨hd,hold⟩
    · rcases calls_move hmm with ⟨rfl,-⟩ | ⟨he,hold'⟩
      · rfl
      · rw [hm.alone hb e m he hold'] at hb'
        cases hb'
    · rcases calls_move hmm with ⟨rfl,rfl⟩ | ⟨he,hold'⟩
      · rw [hm.alone hb' d l hd hold] at hb
        cases hb
      · exact h.single d e l m hold hold' hb hb'
  stored := by
    intro d l hl hb hcreated
    rcases calls_move hl with ⟨-,rfl⟩ | ⟨-,hold⟩
    · exact hm.stored hb hcreated
    · exact h.stored d l hold hb hcreated
  pending := by
    intro d l row hl hphase
    rcases calls_move hl with ⟨-,rfl⟩ | ⟨-,hold⟩
    · exact hm.pending row hphase
    · exact h.pending d l row hold hphase

def Phase.idle : Phase → Bool
  | .revoking _ => false
  | .rotating _ _ => false
  | .inserted _ => false
  | .done (.created _) => false
  | _ => true

theorem locks_of_idle {request : Request} {phase : Phase} (h : phase.idle = true) :
    (Call.mk request phase).locks = none ∧ (Call.mk request phase).bootstrapping = false := by
  cases phase with
  | done reply => cases request <;> cases reply <;> simp_all [Phase.idle,Call.locks,
      Call.bootstrapping,Call.holdsInsert,Call.created]
  | _ => cases request <;> simp_all [Phase.idle,Call.locks,Call.bootstrapping,Call.holdsInsert,
      Call.created]

theorem Inv.idle {w : World} {c : Nat} {k : Call} {phase : Phase} (h : Inv w)
    (hidle : phase.idle = true) : Inv (w.move c k phase) := by
  obtain ⟨hlocks,hboot⟩ := @locks_of_idle k.request phase hidle
  refine h.move ⟨?_,?_,?_,?_⟩
  · intro keyID hl
    rw [hlocks] at hl
    cases hl
  · intro hb
    rw [hboot] at hb
    cases hb
  · intro hb hcreated
    simp [Call.bootstrapping,hb,hcreated] at hboot
  · intro row hphase
    dsimp only at hphase
    subst hphase
    cases hidle

theorem Inv.begin {w : World} (h : Inv w) (request : Request) :
    Inv { w with calls := w.calls ++ [⟨request,.begun⟩] } := by
  have hcase : ∀ (d : Nat) (l : Call), (w.calls ++ [⟨request,.begun⟩])[d]? = some l →
      w.calls[d]? = some l ∨ l = ⟨request,.begun⟩ := by
    intro d l hl
    rw [List.getElem?_append] at hl
    split_ifs at hl with hd
    · exact .inl hl
    · exact .inr (List.mem_singleton.mp (List.mem_of_getElem? hl))
  obtain ⟨hlocks,hboot⟩ := @locks_of_idle request .begun rfl
  refine ⟨h.revoked,h.rotated,h.retired,?_,?_,?_,?_,?_⟩
  · intro d l keyID hl hlocked
    rcases hcase d l hl with hold | rfl
    · exact h.held d l keyID hold hlocked
    · rw [hlocks] at hlocked
      cases hlocked
  · intro d e l m keyID hl hm hlocked hlocked'
    rcases hcase d l hl with hold | rfl
    · rcases hcase e m hm with hold' | rfl
      · exact h.exclusive d e l m keyID hold hold' hlocked hlocked'
      · rw [hlocks] at hlocked'
        cases hlocked'
    · rw [hlocks] at hlocked
      cases hlocked
  · intro d e l m hl hm hb hb'
    rcases hcase d l hl with hold | rfl
    · rcases hcase e m hm with hold' | rfl
      · exact h.single d e l m hold hold' hb hb'
      · rw [hboot] at hb'
        cases hb'
    · rw [hboot] at hb
      cases hb
  · intro d l hl hb hcreated
    rcases hcase d l hl with hold | rfl
    · exact h.stored d l hold hb hcreated
    · cases hcreated
  · intro d l row hl hphase
    rcases hcase d l hl with hold | rfl
    · exact h.pending d l row hold hphase
    · cases hphase

theorem Inv.append {w : World} {row : KeyRow} (h : Inv w) (hto : row.rotatedTo = none)
    (hfrom : ∀ keyID, row.rotatedFrom = some keyID →
      ∃ old, w.keys[keyID]? = some old ∧ old.rotatedTo = some w.keys.length) :
    Inv { w with keys := w.keys ++ [row] } := by
  have hkept : ∀ (i : Nat) (r : KeyRow), w.keys[i]? = some r → (w.keys ++ [row])[i]? = some r := by
    intro i r hr
    rw [List.getElem?_append_left (List.getElem?_eq_some_iff.mp hr).1,hr]
  have hcase : ∀ (i : Nat) (r : KeyRow), (w.keys ++ [row])[i]? = some r →
      w.keys[i]? = some r ∨ i = w.keys.length ∧ r = row := by
    intro i r hr
    rcases Nat.lt_trichotomy i w.keys.length with hi | rfl | hi
    · rw [List.getElem?_append_left hi] at hr
      exact .inl hr
    · rw [List.getElem?_concat_length,Option.some.injEq] at hr
      exact .inr ⟨rfl,hr.symm⟩
    · rw [List.getElem?_eq_none (by simp; omega)] at hr
      cases hr
  refine ⟨?_,?_,?_,?_,h.exclusive,h.single,?_,h.pending⟩
  · intro keyID revokedAt hmem
    obtain ⟨r,hr,hat⟩ := h.revoked keyID revokedAt hmem
    exact ⟨r,hkept keyID r hr,hat⟩
  · intro i r keyID hr hrfrom
    rcases hcase i r hr with hold | ⟨rfl,rfl⟩
    · obtain ⟨old,hold',hsucc⟩ := h.rotated i r keyID hold hrfrom
      exact ⟨old,hkept keyID old hold',hsucc⟩
    · obtain ⟨old,hold',hsucc⟩ := hfrom keyID hrfrom
      exact ⟨old,hkept keyID old hold',hsucc⟩
  · intro i r hr hactive
    rcases hcase i r hr with hold | ⟨-,rfl⟩
    · exact h.retired i r hold hactive
    · exact hto
  · intro c k keyID hk hlocks
    obtain ⟨r,hr,hactive⟩ := h.held c k keyID hk hlocks
    exact ⟨r,hkept keyID r hr,hactive⟩
  · intro c k _ _ _
    simp

theorem getElem?_retired {rows : List KeyRow} {i : Nat} {r : KeyRow} (f : KeyRow → KeyRow)
    (h : rows[i]? = some r) : (rows.modify i f)[i]? = some (f r) := by
  rw [List.getElem?_modify_eq,h]
  rfl

theorem Inv.retire {w : World} {keyID : Nat} {r : KeyRow} {f : KeyRow → KeyRow} (h : Inv w)
    (hr : w.keys[keyID]? = some r) (hactive : r.revokedAt = none) (hrevoked : (f r).revokedAt ≠ none)
    (hfrom : (f r).rotatedFrom = r.rotatedFrom)
    (hfree : ∀ (d : Nat) (l : Call), w.calls[d]? = some l → l.locks ≠ some keyID) :
    Inv { w with keys := w.keys.modify keyID f } := by
  have hkept : ∀ (i : Nat), i ≠ keyID → (w.keys.modify keyID f)[i]? = w.keys[i]? :=
    fun i hi => List.getElem?_modify_ne _ _ (Ne.symm hi)
  have hown : (w.keys.modify keyID f)[keyID]? = some (f r) := getElem?_retired f hr
  refine ⟨?_,?_,?_,?_,h.exclusive,h.single,?_,h.pending⟩
  · intro i revokedAt hmem
    obtain ⟨s,hs,hat,hto⟩ := h.revoked i revokedAt hmem
    have hi : i ≠ keyID := by
      rintro rfl
      rw [hr,Option.some.injEq] at hs
      subst hs
      rw [hactive] at hat
      cases hat
    exact ⟨s,(hkept i hi).trans hs,hat,hto⟩
  · intro i s j hs hsfrom
    have hbefore : ∃ s', w.keys[i]? = some s' ∧ s'.rotatedFrom = some j := by
      by_cases hi : i = keyID
      · subst hi
        dsimp only at hs
        rw [hown,Option.some.injEq] at hs
        subst hs
        exact ⟨r,hr,hfrom ▸ hsfrom⟩
      · exact ⟨s,(hkept i hi).symm.trans hs,hsfrom⟩
    obtain ⟨s',hs',hfrom'⟩ := hbefore
    obtain ⟨old,hold,hsucc⟩ := h.rotated i s' j hs' hfrom'
    have hj : j ≠ keyID := by
      rintro rfl
      rw [hr,Option.some.injEq] at hold
      subst hold
      rw [h.retired j r hr hactive] at hsucc
      cases hsucc
    exact ⟨old,(hkept j hj).trans hold,hsucc⟩
  · intro i s hs hsactive
    by_cases hi : i = keyID
    · subst hi
      dsimp only at hs
      rw [hown,Option.some.injEq] at hs
      subst hs
      exact absurd hsactive hrevoked
    · exact h.retired i s ((hkept i hi).symm.trans hs) hsactive
  · intro d l i hl hlocks
    have hi : i ≠ keyID := by
      rintro rfl
      exact hfree d l hl hlocks
    obtain ⟨s,hs,hsactive⟩ := h.held d l i hl hlocks
    exact ⟨s,(hkept i hi).trans hs,hsactive⟩
  · intro d l hl hb hcreated hnil
    have hlength := congrArg List.length hnil
    simp only [List.length_modify,List.length_nil] at hlength
    exact h.stored d l hl hb hcreated (List.length_eq_zero_iff.mp hlength)

theorem Inv.record {w : World} {keyID : Nat} {revokedAt : Int} (h : Inv w)
    (hr : ∃ r, w.keys[keyID]? = some r ∧ r.revokedAt = some revokedAt ∧ r.rotatedTo = none) :
    Inv { w with revocations := w.revocations ++ [(keyID,revokedAt)] } := by
  refine ⟨?_,h.rotated,h.retired,h.held,h.exclusive,h.single,h.stored,h.pending⟩
  intro i at' hmem
  rcases List.mem_append.mp hmem with hold | hnew
  · exact h.revoked i at' hold
  · obtain ⟨rfl,rfl⟩ := Prod.ext_iff.mp (List.mem_singleton.mp hnew)
    exact hr

section Step

variable {w w' : World} {c : Nat} {k : Call} {tenantID : String} {keyID : Nat} {now : Int}

theorem Inv.insert {row : KeyRow} {message : String} (h : Inv w) (hk : w.calls[c]? = some k)
    (hrow : row.rotatedTo = none ∧ row.rotatedFrom = k.rotates)
    (hlocks : (Call.mk k.request (.inserted row)).locks = k.locks)
    (halone : k.bootstraps = true →
      ∀ (d : Nat) (l : Call), d ≠ c → w.calls[d]? = some l → l.bootstrapping = false)
    (hstep : w.insert c k row message = some w') : Inv w' := by
  unfold World.insert at hstep
  split_ifs at hstep with hdoubt htaken
  · cases hstep
    exact h.idle rfl
  · cases hstep
    refine h.move ⟨?_,?_,?_,?_⟩
    · intro i hi
      rw [hlocks] at hi
      refine ⟨h.held c k i hk hi,?_⟩
      intro d l hd hl hlocked
      exact hd (h.exclusive d c l k i hl hk hlocked hi)
    · intro hb
      exact halone (Bool.and_eq_true_iff.mp hb).1
    · intro _ hcreated
      cases hcreated
    · intro row' hphase
      cases hphase
      exact hrow

theorem Inv.commitInsert {row : KeyRow} (h : Inv w) (hk : w.calls[c]? = some k)
    (hphase : k.phase = .inserted row) (hrotates : k.rotates = none) :
    Inv (w.commitInsert c k row) := by
  obtain ⟨hto,hfrom⟩ := h.pending c k row hk hphase
  have happend : Inv { w with keys := w.keys ++ [row] } := by
    refine h.append hto ?_
    intro keyID hkey
    rw [hfrom,hrotates] at hkey
    cases hkey
  refine happend.move ⟨?_,?_,?_,?_⟩
  · intro i hi
    unfold Call.rotates at hrotates
    unfold Call.locks at hi
    cases hrequest : k.request <;> simp_all
  · intro hb d l hd hl
    have hbootstraps : k.bootstraps = true := (Bool.and_eq_true_iff.mp hb).1
    have hk' : k.bootstrapping = true := by
      simp [Call.bootstrapping,hbootstraps,Call.holdsInsert,hphase]
    by_contra hl'
    exact hd (h.single d c l k hl hk (by simpa using hl') hk')
  · intro _ _
    simp
  · intro row' hphase'
    cases hphase'

theorem free_of_finished (h : Inv w) (hk : w.calls[c]? = some k) (hlocks : k.locks = some keyID)
    (reply : Reply) (d : Nat) (l : Call) (hl : (w.finish c k reply).calls[d]? = some l)
    (hfree : (Call.mk k.request (.done reply)).locks = none) : l.locks ≠ some keyID := by
  intro hlocked
  rcases calls_move hl with ⟨-,rfl⟩ | ⟨hd,hold⟩
  · rw [hfree] at hlocked
    cases hlocked
  · exact hd (h.exclusive d c l k keyID hold hk hlocked hlocks)

theorem Inv.commitRevoke {revokedAt : Int} (h : Inv w) (hk : w.calls[c]? = some k)
    (hlocks : k.locks = some keyID) : Inv (w.commitRevoke c k keyID revokedAt) := by
  obtain ⟨r,hr,hactive⟩ := h.held c k keyID hk hlocks
  have hdone : Inv (w.finish c k (.revoked revokedAt)) := h.idle rfl
  have hretired := hdone.retire (f := fun r => { r with revokedAt := some revokedAt }) hr hactive
    (by simp) rfl (fun d l hl => free_of_finished h hk hlocks _ d l hl (locks_of_idle rfl).1)
  exact hretired.record ⟨_,getElem?_retired _ hr,rfl,h.retired keyID r hr hactive⟩

theorem Inv.commitRotate {row : KeyRow} (h : Inv w) (hk : w.calls[c]? = some k)
    (hphase : k.phase = .inserted row) (hrotates : k.rotates = some keyID)
    (hlocks : k.locks = some keyID) : Inv (w.commitRotate c k keyID row) := by
  obtain ⟨r,hr,hactive⟩ := h.held c k keyID hk hlocks
  obtain ⟨hto,hfrom⟩ := h.pending c k row hk hphase
  have hdone : Inv (w.finish c k (.rotated w.keys.length)) := h.idle rfl
  have hretired := hdone.retire
    (f := fun r => { r with revokedAt := some row.createdAt, rotatedTo := some w.keys.length })
    hr hactive (by simp) rfl
    (fun d l hl => free_of_finished h hk hlocks _ d l hl (locks_of_idle rfl).1)
  refine hretired.append hto ?_
  intro i hi
  rw [hfrom,hrotates,Option.some.injEq] at hi
  subst hi
  exact ⟨_,getElem?_retired _ hr,congrArg some (List.length_modify ..).symm⟩

theorem unlocked (h : ¬ w.lockedByOther c keyID = true) (d : Nat) (l : Call) (hd : d ≠ c)
    (hl : w.calls[d]? = some l) : l.locks ≠ some keyID := by
  intro hlocks
  exact h (List.any_eq_true.mpr ⟨l,mem_others.mpr ⟨d,hd,hl⟩,by simpa using hlocks⟩)

theorem Inv.acquire {phase : Phase} {r : KeyRow} (h : Inv w)
    (hlocks : (Call.mk k.request phase).locks = some keyID) (hr : w.keys[keyID]? = some r)
    (hactive : r.revokedAt = none) (hfree : ¬ w.lockedByOther c keyID = true)
    (hquiet : (Call.mk k.request phase).bootstrapping = false)
    (hphase : ∀ row, phase ≠ .inserted row) : Inv (w.move c k phase) := by
  refine h.move ⟨?_,?_,?_,?_⟩
  · intro i hi
    rw [hlocks,Option.some.injEq] at hi
    subst hi
    exact ⟨⟨r,hr,hactive⟩,unlocked hfree⟩
  · intro hb
    rw [hquiet] at hb
    cases hb
  · intro hb hcreated
    simp [Call.bootstrapping,hb,hcreated] at hquiet
  · intro row hrow
    exact absurd hrow (hphase row)

theorem activeKey_eq_some {r : KeyRow} (h : w.activeKey tenantID keyID = some r) :
    w.keys[keyID]? = some r ∧ r.revokedAt = none := by
  obtain ⟨hown,hactive⟩ := Option.filter_eq_some_iff.mp h
  exact ⟨(Option.filter_eq_some_iff.mp hown).1,by simpa [KeyRow.active] using hactive⟩

theorem inv_nextCreate {row : KeyRow} (h : Inv w) (hk : w.calls[c]? = some k)
    (hrotates : k.rotates = none) (hboot : k.bootstraps = false) (hto : row.rotatedTo = none)
    (hfrom : row.rotatedFrom = none) (hlocks : ∀ phase, (Call.mk k.request phase).locks = none)
    (hstep : w.nextCreate c k row = some w') : Inv w' := by
  unfold World.nextCreate at hstep
  split at hstep
  · refine h.insert hk ⟨hto,hfrom.trans hrotates.symm⟩ ?_ ?_ hstep
    · exact (hlocks _).trans (hlocks k.phase).symm
    · intro hb
      rw [hboot] at hb
      cases hb
  · next row' hphase =>
    cases hstep
    exact h.commitInsert hk hphase hrotates
  · cases hstep

theorem inv_nextBootstrap {name : String} {scopes : List String} (h : Inv w)
    (hk : w.calls[c]? = some k) (hrequest : k.request = .bootstrap name scopes)
    (hfresh : Fresh w (.next c now)) (hstep : w.nextBootstrap c k name scopes now = some w') :
    Inv w' := by
  have hrotates : k.rotates = none := by simp [Call.rotates,hrequest]
  unfold World.nextBootstrap at hstep
  split at hstep
  · split_ifs at hstep
    · cases hstep
      exact h.idle rfl
    · cases hstep
      exact h.idle rfl
  · next hphase =>
    have hempty := hfresh k hk
    simp only [Call.fresh,hrequest,hphase,Bool.and_eq_true,List.isEmpty_iff] at hempty
    obtain ⟨hkeys,hothers⟩ := hempty
    dsimp only at hstep
    split at hstep
    · cases hstep
      exact h.idle rfl
    · refine h.insert hk ⟨rfl,hrotates.symm⟩ ?_ ?_ hstep
      · simp [Call.locks,hrequest]
      -- with an empty table no bootstrap call has succeeded, and none is about to commit
      · intro _ d l hd hl
        have hinsert := List.all_eq_true.mp hothers l (mem_others.mpr ⟨d,hd,hl⟩)
        by_contra hb
        rw [Bool.not_eq_false] at hb
        obtain ⟨hboot,hor⟩ := Bool.and_eq_true_iff.mp hb
        rw [hboot,Bool.true_and,Bool.not_eq_true'] at hinsert
        rw [hinsert,Bool.false_or] at hor
        exact h.stored d l hl hboot hor hkeys
  · next row hphase =>
    cases hstep
    exact h.commitInsert hk hphase hrotates
  · cases hstep

theorem inv_nextRevoke (h : Inv w) (hk : w.calls[c]? = some k)
    (hrequest : k.request = .revokeAPIKey tenantID keyID)
    (hstep : w.nextRevoke c k tenantID keyID now = some w') : Inv w' := by
  unfold World.nextRevoke at hstep
  split at hstep
  · split at hstep
    · cases hstep
      exact h.idle rfl
    · cases hstep
      exact h.idle rfl
  · split_ifs at hstep with hlocked
    split at hstep
    · cases hstep
      exact h.idle rfl
    · next r hr =>
      cases hstep
      obtain ⟨hkey,hactive⟩ := activeKey_eq_some hr
      refine h.acquire ?_ hkey hactive hlocked ?_ nofun
      · simp [Call.locks,hrequest]
      · simp [Call.bootstrapping,Call.bootstraps,hrequest]
  · next revokedAt hphase =>
    cases hstep
    exact h.commitRevoke hk (by simp [Call.locks,hrequest,hphase])
  · cases hstep

theorem inv_nextRotate (h : Inv w) (hk : w.calls[c]? = some k)
    (hrequest : k.request = .rotateAPIKey tenantID keyID) (hfresh : Fresh w (.next c now))
    (hstep : w.nextRotate c k tenantID keyID now = some w') : Inv w' := by
  have hrotates : k.rotates = some keyID := by simp [Call.rotates,hrequest]
  unfold World.nextRotate at hstep
  split at hstep
  · split at hstep
    · cases hstep
      exact h.idle rfl
    · cases hstep
      exact h.idle rfl
  · next old hphase =>
    split_ifs at hstep with hlocked
    cases hstep
    have hactive := hfresh k hk
    simp only [Call.fresh,hrequest,hphase] at hactive
    obtain ⟨r,hr,hr'⟩ := (Option.any_eq_true _ _).mp hactive
    refine h.acquire ?_ hr (by simpa [KeyRow.active] using hr') hlocked ?_ nofun
    · simp [Call.locks,hrequest]
    · simp [Call.bootstrapping,Call.bootstraps,hrequest]
  · next old createdAt hphase =>
    refine h.insert hk ⟨rfl,hrotates.symm⟩ ?_ ?_ hstep
    · simp [Call.locks,hrequest,hphase]
    · simp [Call.bootstraps,hrequest]
  · next row hphase =>
    cases hstep
    exact h.commitRotate hk hphase hrotates (by simp [Call.locks,hrequest,hphase])
  · cases hstep

end Step

theorem inv_step (w : World) (e : Event) (w' : World) (h : Inv w) (hfresh : Fresh w e)
    (hstep : step w e = some w') : Inv w' := by
  cases e with
  | begin request =>
    cases hstep
    exact h.begin request
  | next c now =>
    obtain ⟨k,hk,hnext⟩ := Option.bind_eq_some_iff.mp hstep
    unfold World.next at hnext
    cases hrequest : k.request with
    | createAPIKey tenantID name scopes expiresAt =>
      rw [hrequest] at hnext
      refine inv_nextCreate h hk ?_ ?_ rfl rfl ?_ hnext
      · simp [Call.rotates,hrequest]
      · simp [Call.bootstraps,hrequest]
      · simp [Call.locks,hrequest]
    | bootstrap name scopes =>
      rw [hrequest] at hnext
      exact inv_nextBootstrap h hk hrequest hfresh hnext
    | revokeAPIKey tenantID keyID =>
      rw [hrequest] at hnext
      exact inv_nextRevoke h hk hrequest hnext
    | rotateAPIKey tenantID keyID =>
      rw [hrequest] at hnext
      exact inv_nextRotate h hk hrequest hfresh hnext
  | abort c =>
    obtain ⟨k,hk,hnext⟩ := Option.bind_eq_some_iff.mp hstep
    split at hnext
    · cases hnext
    · cases hnext
      exact h.idle rfl

theorem inv_empty : Inv World.empty := by
  refine ⟨?_,?_,?_,?_,?_,?_,?_,?_⟩ <;> simp [World.empty]

theorem life_cycle_of_fresh {es : List Event} {w : World}
    (hfresh : EveryStep step Fresh World.empty es) (h : exec step World.empty es = some w) :
    LifeCycle w :=
  (exec_invariant_of_steps step inv_step inv_empty hfresh h).lifeCycle

instance (w : World) : (e : Event) → Decidable (Fresh w e)
  | .next c _ => decidable_of_iff ((w.calls[c]?).all (fun k => k.fresh w c) = true) (by
      rw [Option.all_eq_true]
      rfl)
  | .begin _ => .isTrue trivial
  | .abort _ => .isTrue trivial

def createKey : List Event :=
  [.begin (.createAPIKey "acme" "ci" ["inference"] none),.next 0 100,.next 0 100]

def rotateThenRevoke : List Event :=
  createKey ++ ([.begin (.rotateAPIKey "acme" 0),.next 1 200,.next 1 200,.next 1 200,.next 1 200,
    .begin (.revokeAPIKey "acme" 1),.next 2 300,.next 2 300,.next 2 300] : List Event)

theorem rotated_then_revoked :
    ∃ w, exec step World.empty rotateThenRevoke = some w ∧ w.revocations = [(1,300)] ∧
      LifeCycle w := by
  obtain ⟨w,hrun,hrevocations⟩ := reaches (P := fun w : World => w.revocations = [(1,300)])
    (show (exec step World.empty rotateThenRevoke).any _ = true by decide)
  exact ⟨w,hrun,hrevocations,life_cycle_of_fresh (by decide) hrun⟩

def revokedMeanwhile : List Event :=
  createKey ++ ([.begin (.rotateAPIKey "acme" 0),.next 1 200,
    .begin (.revokeAPIKey "acme" 0),.next 2 300,.next 2 300,.next 2 300,
    .next 1 400,.next 1 400,.next 1 400] : List Event)

def rotatedTwice : List Event :=
  createKey ++ ([.begin (.rotateAPIKey "acme" 0),.begin (.rotateAPIKey "acme" 0),.next 1 200,.next 2 200,
    .next 1 210,.next 1 210,.next 1 210,
    .begin (.revokeAPIKey "acme" 1),.next 3 300,.next 3 300,.next 3 300,
    .next 2 400,.next 2 400,.next 2 400] : List Event)

def bootstrappedTwice : List Event :=
  [.begin (.bootstrap "a" []),.begin (.bootstrap "b" []),.next 0 100,.next 1 100,
    .next 0 110,.next 0 110,.next 1 120,.next 1 120]

theorem getElem?_of_map {α β : Type} {f : α → β} {l : List α} {bs : List β} (h : l.map f = bs)
    {i : Nat} {b : β} (hb : bs[i]? = some b) : ∃ a, l[i]? = some a ∧ f a = b := by
  rw [← h,List.getElem?_map] at hb
  exact Option.map_eq_some_iff.mp hb

theorem stale_reads_break_life_cycle :
    (∃ w, exec step World.empty revokedMeanwhile = some w ∧ (0,300) ∈ w.revocations ∧
      w.keys.map (fun r => (r.rotatedFrom,r.revokedAt)) = [(none,some 400),(some 0,none)] ∧
      ¬ LifeCycle w) ∧
    (∃ w, exec step World.empty rotatedTwice = some w ∧
      w.keys.map KeyRow.rotatedFrom = [none,some 0,some 0] ∧ ¬ LifeCycle w) ∧
    (∃ w, exec step World.empty bootstrappedTwice = some w ∧
      w.calls.map (fun k => (k.bootstraps,k.created)) = [(true,true),(true,true)] ∧
      ¬ LifeCycle w) := by
  refine ⟨?_,?_,?_⟩
  · obtain ⟨w,hrun,hmem,hkeys⟩ := reaches (P := fun w : World => (0,300) ∈ w.revocations ∧
      w.keys.map (fun r => (r.rotatedFrom,r.revokedAt)) = [(none,some 400),(some 0,none)])
      (show (exec step World.empty revokedMeanwhile).any _ = true by decide)
    refine ⟨w,hrun,hmem,hkeys,?_⟩
    intro h
    obtain ⟨s,hs,hfrom⟩ := getElem?_of_map hkeys (i := 1) rfl
    exact (h.revoked_stays 0 300 hmem).2 1 s hs (congrArg Prod.fst hfrom)
  · obtain ⟨w,hrun,hkeys⟩ := reaches (P := fun w : World =>
      w.keys.map KeyRow.rotatedFrom = [none,some 0,some 0])
      (show (exec step World.empty rotatedTwice).any _ = true by decide)
    refine ⟨w,hrun,hkeys,?_⟩
    intro h
    obtain ⟨r,hr,hrfrom⟩ := getElem?_of_map hkeys (i := 1) rfl
    obtain ⟨s,hs,hsfrom⟩ := getElem?_of_map hkeys (i := 2) rfl
    exact absurd (h.one_successor 0 1 2 r s hr hs hrfrom hsfrom) (by decide)
  · obtain ⟨w,hrun,hcalls⟩ := reaches (P := fun w : World =>
      w.calls.map (fun k => (k.bootstraps,k.created)) = [(true,true),(true,true)])
      (show (exec step World.empty bootstrappedTwice).any _ = true by decide)
    refine ⟨w,hrun,hcalls,?_⟩
    intro h
    obtain ⟨k,hk,hdone⟩ := getElem?_of_map hcalls (i := 0) rfl
    obtain ⟨l,hl,hdone'⟩ := getElem?_of_map hcalls (i := 1) rfl
    exact absurd (h.one_bootstrap 0 1 k l hk hl (congrArg Prod.fst hdone) (congrArg Prod.snd hdone)
      (congrArg Prod.fst hdone') (congrArg Prod.snd hdone')) (by decide)

end PrismGateway.Storage.ApiKeys
