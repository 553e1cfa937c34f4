import Mathlib.Data.Option.Basic
import Mathlib.Logic.Function.Basic

namespace PrismGateway.Lib.Redis

structure Hash (Φ T Ψ : Type) where
  text : Φ → Option T
  num : Ψ → Option Int
  expireAt : Option Int

abbrev Db (K Φ T Ψ : Type) := K → Option (Hash Φ T Ψ)

variable {K Φ T Ψ : Type}

section Commands

variable [DecidableEq K] [DecidableEq Φ] [DecidableEq Ψ]

def Hash.empty : Hash Φ T Ψ := ⟨fun _ => none,fun _ => none,none⟩

def Hash.live (now : Int) (h : Hash Φ T Ψ) : Bool :=
  match h.expireAt with
  | none => true
  | some t => decide (now < t)

def Hash.setText (h : Hash Φ T Ψ) (x : Φ × T) : Hash Φ T Ψ :=
  { h with text := Function.update h.text x.1 (some x.2) }

def Hash.setNum (h : Hash Φ T Ψ) (x : Ψ × Int) : Hash Φ T Ψ :=
  { h with num := Function.update h.num x.1 (some x.2) }

def Db.empty : Db K Φ T Ψ := fun _ => none

def get (db : Db K Φ T Ψ) (now : Int) (k : K) : Option (Hash Φ T Ψ) :=
  (db k).filter (Hash.live now)

def hashAt (db : Db K Φ T Ψ) (now : Int) (k : K) : Hash Φ T Ψ :=
  (get db now k).getD Hash.empty

def hget (db : Db K Φ T Ψ) (now : Int) (k : K) (f : Φ) : Option T := (hashAt db now k).text f

def hgetNum (db : Db K Φ T Ψ) (now : Int) (k : K) (f : Ψ) : Option Int :=
  (hashAt db now k).num f

def hmset (db : Db K Φ T Ψ) (now : Int) (k : K) (ts : List (Φ × T)) (ns : List (Ψ × Int)) :
    Db K Φ T Ψ :=
  Function.update db k
    (some (ns.foldl Hash.setNum (ts.foldl Hash.setText (hashAt db now k))))

def hincrby (db : Db K Φ T Ψ) (now : Int) (k : K) (f : Ψ) (d : Int) : Db K Φ T Ψ :=
  hmset db now k [] [(f,(hgetNum db now k f).getD 0 + d)]

def del (db : Db K Φ T Ψ) (k : K) : Db K Φ T Ψ := Function.update db k none

def expire (db : Db K Φ T Ψ) (now : Int) (k : K) (ttl : Int) : Db K Φ T Ψ :=
  match get db now k with
  | none => db
  | some h =>
    if ttl ≤ 0 then del db k
    else Function.update db k (some { h with expireAt := some (now + ttl) })

def persist (db : Db K Φ T Ψ) (now : Int) (k : K) : Db K Φ T Ψ :=
  match get db now k with
  | none => db
  | some h => Function.update db k (some { h with expireAt := none })

end Commands

section Frame

variable [DecidableEq K] {db : Db K Φ T Ψ} {now ttl d : Int} {k j : K}

@[simp] theorem hmset_of_ne [DecidableEq Φ] [DecidableEq Ψ] {ts : List (Φ × T)}
    {ns : List (Ψ × Int)} (h : j ≠ k) : hmset db now k ts ns j = db j := by
  simp [hmset,h]

@[simp] theorem hincrby_of_ne [DecidableEq Φ] [DecidableEq Ψ] {f : Ψ} (h : j ≠ k) :
    hincrby db now k f d j = db j := by
  simp [hincrby,h]

@[simp] theorem del_of_ne (h : j ≠ k) : del db k j = db j := by
  simp [del,h]

@[simp] theorem expire_of_ne (h : j ≠ k) : expire db now k ttl j = db j := by
  cases hg : get db now k with
  | none => simp [expire,hg]
  | some x =>
    simp only [expire,hg]
    split
    · exact del_of_ne h
    · exact Function.update_of_ne h _ _

@[simp] theorem persist_of_ne (h : j ≠ k) : persist db now k j = db j := by
  cases hg : get db now k with
  | none => simp [persist,hg]
  | some x => simp [persist,hg,h]

end Frame

section Reads

variable {db db' : Db K Φ T Ψ} {now : Int} {k : K}

theorem hashAt_congr (h : db k = db' k) : hashAt db now k = hashAt db' now k := by
  simp only [hashAt,get,h]

theorem hget_congr (h : db k = db' k) (f : Φ) : hget db now k f = hget db' now k f := by
  simp only [hget,hashAt_congr h]

theorem hgetNum_congr (h : db k = db' k) (g : Ψ) :
    hgetNum db now k g = hgetNum db' now k g := by
  simp only [hgetNum,hashAt_congr h]

end Reads

section Persistent

variable {db : Db K Φ T Ψ} {now : Int} {k : K}

def Persistent (db : Db K Φ T Ψ) (k : K) : Prop :=
  ∀ h, db k = some h → h.expireAt = none

theorem Persistent.get_eq (hp : Persistent db k) (now : Int) : get db now k = db k := by
  cases h : db k with
  | none => simp [get,h]
  | some x => simp [get,h,Hash.live,hp x h]

theorem Persistent.congr {db' : Db K Φ T Ψ} (hp : Persistent db k) (h : db' k = db k) :
    Persistent db' k := by
  intro x hx
  exact hp x (h ▸ hx)

@[simp] theorem foldl_setText_expireAt [DecidableEq Φ] (ts : List (Φ × T)) (h : Hash Φ T Ψ) :
    (ts.foldl Hash.setText h).expireAt = h.expireAt := by
  induction ts generalizing h with
  | nil => rfl
  | cons x ts ih => simpa [Hash.setText] using ih (h.setText x)

@[simp] theorem foldl_setNum_expireAt [DecidableEq Ψ] (ns : List (Ψ × Int)) (h : Hash Φ T Ψ) :
    (ns.foldl Hash.setNum h).expireAt = h.expireAt := by
  induction ns generalizing h with
  | nil => rfl
  | cons x ns ih => simpa [Hash.setNum] using ih (h.setNum x)

variable [DecidableEq K]

theorem Persistent.hmset [DecidableEq Φ] [DecidableEq Ψ] (hp : Persistent db k) (ts : List (Φ × T)) (ns : List (Ψ × Int)) :
    Persistent (hmset db now k ts ns) k := by
  intro h hk
  simp only [Redis.hmset,Function.update_self,Option.some.injEq] at hk
  subst hk
  rw [foldl_setNum_expireAt,foldl_setText_expireAt,hashAt,hp.get_eq]
  cases hd : db k with
  | none => rfl
  | some x => exact hp x hd

theorem Persistent.hashAt_hmset [DecidableEq Φ] [DecidableEq Ψ] (hp : Persistent db k)
    (ts : List (Φ × T)) (ns : List (Ψ × Int)) (now' : Int) :
    hashAt (Redis.hmset db now k ts ns) now' k =
      ns.foldl Hash.setNum (ts.foldl Hash.setText (hashAt db now' k)) := by
  have hq : Persistent (Redis.hmset db now k ts ns) k := hp.hmset ts ns
  rw [hashAt,hq.get_eq]
  simp [Redis.hmset,hashAt,hp.get_eq]

theorem Persistent.hashAt_hincrby [DecidableEq Φ] [DecidableEq Ψ] (hp : Persistent db k)
    (f : Ψ) (d now' : Int) :
    hashAt (Redis.hincrby db now k f d) now' k =
      (hashAt db now' k).setNum (f,(hgetNum db now' k f).getD 0 + d) := by
  have he : hgetNum db now k f = hgetNum db now' k f := by
    simp only [hgetNum,hashAt,hp.get_eq]
  rw [Redis.hincrby,hp.hashAt_hmset,he]
  rfl

theorem Persistent.hincrby [DecidableEq Φ] [DecidableEq Ψ] (hp : Persistent db k) (f : Ψ) (d : Int) :
    Persistent (hincrby db now k f d) k := hp.hmset _ _

theorem persistent_del : Persistent (del db k) k := by
  intro h hk
  simp [del] at hk

theorem hashAt_del (now : Int) : hashAt (del db k) now k = Hash.empty := by
  simp [hashAt,get,del]

theorem persist_of_persistent (hp : Persistent db k) : persist db now k = db := by
  cases hk : db k with
  | none => simp [persist,hp.get_eq,hk]
  | some h =>
    have hn : ({ h with expireAt := none } : Hash Φ T Ψ) = h := by
      have he := hp h hk
      cases h
      simp_all
    simp only [persist,hp.get_eq,hk,hn]
    rw [← hk,Function.update_eq_self]

end Persistent

section Expiry

variable [DecidableEq K] [DecidableEq Φ] [DecidableEq Ψ] {db : Db K Φ T Ψ} {k : K}

omit [DecidableEq K] [DecidableEq Φ] [DecidableEq Ψ] in
theorem live_hashAt (db : Db K Φ T Ψ) (k : K) (now : Int) : Hash.live now (hashAt db now k) = true := by
  unfold hashAt get
  cases hd : (db k).filter (Hash.live now) with
  | none => rfl
  | some h => exact (Option.filter_eq_some_iff.mp hd).2

omit [DecidableEq Φ] [DecidableEq Ψ] in
theorem hashAt_expire_of_some {now ttl now' : Int} {h : Hash Φ T Ψ} (hk : db k = some h)
    (hlive : h.live now = true) (hpos : 0 < ttl) :
    hashAt (expire db now k ttl) now' k =
      if now' < now + ttl then { h with expireAt := some (now + ttl) } else Hash.empty := by
  have hget : get db now k = some h := by
    rw [get,hk]
    exact Option.filter_eq_some_iff.mpr ⟨rfl,hlive⟩
  have hexpire : expire db now k ttl =
      Function.update db k (some { h with expireAt := some (now + ttl) }) := by
    simp only [expire,hget]
    exact if_neg (Int.not_le.mpr hpos)
  rw [hexpire,hashAt,get,Function.update_self]
  by_cases ht : now' < now + ttl
  · simp [Option.filter,Hash.live,ht]
  · simp [Option.filter,Hash.live,ht]

omit [DecidableEq K] in
theorem live_updated (db : Db K Φ T Ψ) (k : K) (now : Int) (ts : List (Φ × T)) (ns : List (Ψ × Int)) :
    Hash.live now (ns.foldl Hash.setNum (ts.foldl Hash.setText (hashAt db now k))) = true := by
  have h := live_hashAt db k now
  simpa only [Hash.live,foldl_setNum_expireAt,foldl_setText_expireAt] using h

theorem hashAt_hmset (db : Db K Φ T Ψ) (k : K) (now : Int) (ts : List (Φ × T)) (ns : List (Ψ × Int)) :
    hashAt (hmset db now k ts ns) now k = ns.foldl Hash.setNum (ts.foldl Hash.setText (hashAt db now k)) := by
  rw [hashAt,get,hmset,Function.update_self,Option.filter_some,if_pos (live_updated db k now ts ns),
    Option.getD_some]

theorem hgetNum_hincrby (db : Db K Φ T Ψ) (k : K) (now : Int) (f g : Ψ) (d : Int) :
    hgetNum (hincrby db now k f d) now k g =
      if g = f then some ((hgetNum db now k f).getD 0 + d) else hgetNum db now k g := by
  rw [hgetNum,hincrby,hashAt_hmset]
  simp [Hash.setNum,Function.update_apply,hgetNum]

theorem hashAt_expire_hmset (db : Db K Φ T Ψ) (k : K) (now now' : Int) {ttl : Int} (hpos : 0 < ttl)
    (ts : List (Φ × T)) (ns : List (Ψ × Int)) :
    hashAt (expire (hmset db now k ts ns) now k ttl) now' k =
      if now' < now + ttl then
        { ns.foldl Hash.setNum (ts.foldl Hash.setText (hashAt db now k)) with
          expireAt := some (now + ttl) }
      else Hash.empty := by
  exact hashAt_expire_of_some (by simp [hmset]) (live_updated db k now ts ns) hpos

theorem hget_expire_hmset {now ttl now' : Int} (f g : Φ) (t : T) (hnow : now ≤ now')
    (httl : now' < now + ttl) :
    hget (expire (hmset db now k [(f,t)] []) now k ttl) now' k g =
      if g = f then some t else hget db now k g := by
  rw [hget,hashAt_expire_hmset db k now now' (by omega),if_pos httl]
  simp [Hash.setText,Function.update_apply,hget]

theorem hgetNum_expire_hincrby {now ttl now' : Int} (f g : Ψ) (d : Int) (hnow : now ≤ now')
    (httl : now' < now + ttl) :
    hgetNum (expire (hincrby db now k f d) now k ttl) now' k g =
      if g = f then some ((hgetNum db now k f).getD 0 + d) else hgetNum db now k g := by
  rw [hgetNum,hincrby,hashAt_expire_hmset db k now now' (by omega),if_pos httl]
  simp [Hash.setNum,Function.update_apply,hgetNum]

end Expiry

section Locks

abbrev Lock := Option (Option Int)

def Lock.held (now : Int) : Lock → Bool
  | none => false
  | some none => true
  | some (some t) => decide (now < t)

/-- `SET NX` with an expiry, which the server refuses when it is negative. -/
def setNX (lock : Lock) (now ttl : Int) : Option (Lock × Bool) :=
  if ttl < 0 then none
  else if lock.held now then some (lock,false)
  else some (some (if ttl = 0 then none else some (now + ttl)),true)

def Lock.Outlives (t : Int) : Lock → Prop
  | none => False
  | some none => True
  | some (some e) => t ≤ e

inductive Locked (lock : Lock) (now ttl : Int) : Lock → Bool → Prop
  | kept (hheld : lock.held now = true) : Locked lock now ttl lock false
  | forever (hfree : lock.held now = false) (hzero : ttl = 0) : Locked lock now ttl (some none) true
  | lasting (hfree : lock.held now = false) (hpos : 0 < ttl) : Locked lock now ttl (some (some (now + ttl))) true

theorem locked_of_setNX {lock lock' : Lock} {now ttl : Int} {done : Bool}
    (h : setNX lock now ttl = some (lock',done)) : Locked lock now ttl lock' done := by
  rw [setNX] at h
  split at h
  · cases h
  · split at h
    · next hheld =>
      cases h
      exact .kept hheld
    · next hneg hheld =>
      have hfree := Bool.eq_false_iff.mpr hheld
      cases h
      rcases Int.lt_or_eq_of_le (Int.not_lt.mp hneg) with hpos | hzero
      · rw [if_neg (Int.ne_of_gt hpos)]
        exact .lasting hfree hpos
      · rw [if_pos hzero.symm]
        exact .forever hfree hzero.symm

theorem Lock.Outlives.mono {lock : Lock} {t u : Int} (h : lock.Outlives t) (hu : u ≤ t) :
    lock.Outlives u := by
  cases lock with
  | none => exact h
  | some expiry =>
    cases expiry with
    | none => trivial
    | some e => exact Int.le_trans hu h

theorem Lock.Outlives.le_of_free {lock : Lock} {t now : Int} (h : lock.Outlives t)
    (hfree : lock.held now = false) : t ≤ now := by
  cases lock with
  | none => exact h.elim
  | some expiry =>
    cases expiry with
    | none => cases hfree
    | some e => exact Int.le_trans h (Int.not_lt.mp (of_decide_eq_false hfree))

end Locks

end PrismGateway.Lib.Redis
