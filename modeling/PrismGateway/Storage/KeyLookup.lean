import PrismGateway.Storage.ApiKeys
import Mathlib.Data.List.Nodup

namespace PrismGateway.Storage.KeyLookup

open Lib ApiKeys

structure APIKeyRecord extends KeyRow where
  keyHash : String
  deriving DecidableEq, Repr

namespace APIKeyRecord

def unexpired (r : APIKeyRecord) (now : Int) : Bool := r.expiresAt.all (fun t => now < t)

def retired (r : APIKeyRecord) (now : Int) : Bool :=
  r.revokedAt.isSome || r.expiresAt.any (fun t => t ≤ now)

end APIKeyRecord

structure TenantConfig where
  id : String
  apiKeys : List String := []
  deriving DecidableEq, Repr

structure KeyStore where
  now : Int
  keys : List APIKeyRecord
  deriving DecidableEq, Repr

namespace KeyStore

variable (hashAPIKey : String → String) (k : KeyStore)

def hashTaken (keyHash : String) : Bool := k.keys.any (fun r => r.keyHash = keyHash)

def nameTaken (row : KeyRow) : Bool := k.keys.any (fun r => r.active && r.sameName row)

def insert (row : APIKeyRecord) (message : String) : Except String KeyStore :=
  if k.hashTaken row.keyHash || k.nameTaken row.toKeyRow then .error message
  else .ok { k with keys := k.keys ++ [row] }

def createAPIKey (plaintext tenantID name : String) (scopes : List String)
    (expiresAt : Option Int) : Except String KeyStore :=
  k.insert
    { tenantID := tenantID, name := name, scopes := scopes, createdAt := k.now, expiresAt := expiresAt
      keyHash := hashAPIKey plaintext } "insert api key"

def createAPIKeyFromPlaintext (plaintext tenantID name : String) (scopes : List String)
    (expiresAt : Option Int) : Except String KeyStore :=
  if plaintext = "" then .error "plaintext key cannot be empty"
  else k.createAPIKey hashAPIKey plaintext tenantID name scopes expiresAt

-- ON CONFLICT (key_hash) DO NOTHING
def seedAPIKeyFromYAML (tenantID apiKey : String) : Except String KeyStore :=
  let keyHash := hashAPIKey apiKey
  if k.hashTaken keyHash then .ok k
  else k.insert
    { tenantID := tenantID, name := "bootstrap-" ++ String.ofList (keyHash.toList.take 8)
      scopes := ["inference"], createdAt := k.now, keyHash := keyHash } "seed api key"

def seedKeys : List (String × String) → KeyStore → KeyStore × Option String
  | [], k => (k,none)
  | (tenantID,apiKey) :: rest, k => match k.seedAPIKeyFromYAML hashAPIKey tenantID apiKey with
    | .ok k' => seedKeys rest k'
    | .error err => (k,some ("seed api key for tenant " ++ tenantID ++ ": " ++ err))

def bootstrapTenantFullSeeding (tenants : List TenantConfig) : KeyStore × Option String :=
  seedKeys hashAPIKey (tenants.flatMap (fun t => t.apiKeys.map (fun apiKey => (t.id,apiKey)))) k

def ownKey (tenantID : String) (keyID : ℕ) : Option APIKeyRecord :=
  (k.keys[keyID]?).filter (fun r => r.tenantID = tenantID)

def update (keyID : ℕ) (f : APIKeyRecord → APIKeyRecord) : KeyStore :=
  { k with keys := k.keys.modify keyID f }

def revokeAPIKey (tenantID : String) (keyID : ℕ) : Except String KeyStore :=
  match k.ownKey tenantID keyID with
  | none => .error "api key not found"
  | some r =>
    if r.active then .ok (k.update keyID (fun r => { r with revokedAt := some k.now }))
    else .error "api key already revoked or not found"

def rotateAPIKey (plaintext tenantID : String) (keyID : ℕ) : Except String KeyStore :=
  match (k.ownKey tenantID keyID).filter (fun r => r.active) with
  | none => .error "api key not found or already revoked"
  | some old =>
    (k.update keyID (fun r => { r with revokedAt := some k.now, rotatedTo := some k.keys.length })).insert
      { successor keyID old.toKeyRow k.now with keyHash := hashAPIKey plaintext } "insert new api key"

def lookupAPIKeyByHash (keyHash : String) : Option (APIKeyRecord × ℕ) :=
  k.keys.zipIdx.find? (fun r => r.1.keyHash = keyHash && r.1.active && r.1.unexpired k.now)

def Retired (keyHash : String) : Prop :=
  ∃ r ∈ k.keys, r.keyHash = keyHash ∧ r.retired k.now = true

instance (keyHash : String) : Decidable (k.Retired keyHash) :=
  inferInstanceAs (Decidable (∃ r ∈ k.keys, r.keyHash = keyHash ∧ r.retired k.now = true))

def commit : Except String KeyStore → KeyStore
  | .ok k' => k'
  | .error _ => k

def empty (now : Int) : KeyStore := ⟨now,[]⟩

end KeyStore

inductive Event where
  | wait (now : Int)
  | startup (tenants : List TenantConfig)
  | create (plaintext tenantID name : String) (scopes : List String) (expiresAt : Option Int)
  | createFromPlaintext (plaintext tenantID name : String) (scopes : List String)
      (expiresAt : Option Int)
  | revoke (tenantID : String) (keyID : ℕ)
  | rotate (plaintext tenantID : String) (keyID : ℕ)
  deriving DecidableEq, Repr

def step (hashAPIKey : String → String) (k : KeyStore) : Event → Option KeyStore
  | .wait now => if k.now ≤ now then some { k with now := now } else none
  | .startup tenants => some (k.bootstrapTenantFullSeeding hashAPIKey tenants).1
  | .create plaintext tenantID name scopes expiresAt =>
    some (k.commit (k.createAPIKey hashAPIKey plaintext tenantID name scopes expiresAt))
  | .createFromPlaintext plaintext tenantID name scopes expiresAt =>
    some (k.commit (k.createAPIKeyFromPlaintext hashAPIKey plaintext tenantID name scopes expiresAt))
  | .revoke tenantID keyID => some (k.commit (k.revokeAPIKey tenantID keyID))
  | .rotate plaintext tenantID keyID =>
    some (k.commit (k.rotateAPIKey hashAPIKey plaintext tenantID keyID))

theorem KeyStore.getElem?_update (k : KeyStore) (keyID i : ℕ) (f : APIKeyRecord → APIKeyRecord) :
    (k.update keyID f).keys[i]? = (k.keys[i]?).map (fun r => if keyID = i then f r else r) := by
  unfold update
  rw [List.getElem?_modify]
  rfl

theorem KeyStore.map_keyHash_update {k : KeyStore} {keyID : ℕ} {f : APIKeyRecord → APIKeyRecord}
    (hf : ∀ r, (f r).keyHash = r.keyHash) :
    (k.update keyID f).keys.map APIKeyRecord.keyHash = k.keys.map APIKeyRecord.keyHash := by
  refine List.ext_getElem? ?_
  intro i
  rw [List.getElem?_map,List.getElem?_map,getElem?_update,Option.map_map]
  congr 1
  funext r
  by_cases hi : keyID = i
  · simp [hi,hf]
  · simp [hi]

/-- What every operation does to the table: rows keep their hash and expiry, none comes back from
revocation, and no two rows get one hash. -/
structure Evolves (k k' : KeyStore) : Prop where
  now : k.now ≤ k'.now
  kept : ∀ r ∈ k.keys, ∃ r' ∈ k'.keys, r'.keyHash = r.keyHash ∧ r'.expiresAt = r.expiresAt ∧
    (r.revokedAt.isSome = true → r'.revokedAt.isSome = true)
  distinct : (k.keys.map APIKeyRecord.keyHash).Nodup → (k'.keys.map APIKeyRecord.keyHash).Nodup

namespace Evolves

variable {k k' k'' : KeyStore} {hashAPIKey : String → String}

theorem refl (k : KeyStore) : Evolves k k :=
  ⟨Int.le_refl _,fun r hr => ⟨r,hr,rfl,rfl,id⟩,id⟩

theorem trans (h : Evolves k k') (h' : Evolves k' k'') : Evolves k k'' := by
  refine ⟨Int.le_trans h.now h'.now,?_,fun hd => h'.distinct (h.distinct hd)⟩
  intro r hr
  obtain ⟨r',hr',hhash,hexpires,hrevoked⟩ := h.kept r hr
  obtain ⟨r'',hr'',hhash',hexpires',hrevoked'⟩ := h'.kept r' hr'
  exact ⟨r'',hr'',hhash'.trans hhash,hexpires'.trans hexpires,fun hr => hrevoked' (hrevoked hr)⟩

theorem wait {now : Int} (h : k.now ≤ now) : Evolves k { k with now := now } :=
  ⟨h,fun r hr => ⟨r,hr,rfl,rfl,id⟩,id⟩

theorem insert {row : APIKeyRecord} {message : String} (h : k.insert row message = .ok k') :
    Evolves k k' := by
  unfold KeyStore.insert at h
  split_ifs at h with htaken
  cases h
  rw [Bool.or_eq_true,not_or] at htaken
  refine ⟨Int.le_refl _,fun r hr => ⟨r,List.mem_append_left _ hr,rfl,rfl,id⟩,?_⟩
  intro hd
  rw [List.map_append,List.map_singleton]
  refine List.nodup_append.mpr ⟨hd,List.nodup_singleton _,?_⟩
  intro keyHash hkeyHash other hother heq
  obtain ⟨r,hr,hrhash⟩ := List.mem_map.mp hkeyHash
  rw [List.mem_singleton.mp hother] at heq
  exact htaken.1 (List.any_eq_true.mpr ⟨r,hr,by simpa using hrhash.trans heq⟩)

theorem update {keyID : ℕ} {f : APIKeyRecord → APIKeyRecord}
    (hf : ∀ r, (f r).keyHash = r.keyHash ∧ (f r).expiresAt = r.expiresAt ∧
      (f r).revokedAt.isSome = true) : Evolves k (k.update keyID f) := by
  refine ⟨Int.le_refl _,?_,?_⟩
  · intro r hr
    obtain ⟨i,hi⟩ := List.mem_iff_getElem?.mp hr
    have hget := k.getElem?_update keyID i f
    rw [hi,Option.map_some] at hget
    refine ⟨_,List.mem_of_getElem? hget,?_⟩
    split_ifs
    · exact ⟨(hf r).1,(hf r).2.1,fun _ => (hf r).2.2⟩
    · exact ⟨rfl,rfl,id⟩
  · rw [KeyStore.map_keyHash_update (fun r => (hf r).1)]
    exact id

theorem commit {r : Except String KeyStore} (h : ∀ k', r = .ok k' → Evolves k k') :
    Evolves k (k.commit r) := by
  cases r with
  | ok k' => exact h k' rfl
  | error err => exact refl k

theorem seed {tenantID apiKey : String}
    (h : k.seedAPIKeyFromYAML hashAPIKey tenantID apiKey = .ok k') : Evolves k k' := by
  unfold KeyStore.seedAPIKeyFromYAML at h
  dsimp only at h
  split_ifs at h
  · cases h
    exact refl k
  · exact insert h

theorem seedKeys (keys : List (String × String)) :
    Evolves k (KeyStore.seedKeys hashAPIKey keys k).1 := by
  induction keys generalizing k with
  | nil => exact refl k
  | cons key rest ih =>
    unfold KeyStore.seedKeys
    split
    · next hseed => exact (seed hseed).trans ih
    · exact refl k

theorem createFromPlaintext {plaintext tenantID name : String} {scopes : List String}
    {expiresAt : Option Int}
    (h : k.createAPIKeyFromPlaintext hashAPIKey plaintext tenantID name scopes expiresAt = .ok k') :
    Evolves k k' := by
  unfold KeyStore.createAPIKeyFromPlaintext at h
  split_ifs at h
  exact insert h

theorem revoke {tenantID : String} {keyID : ℕ} (h : k.revokeAPIKey tenantID keyID = .ok k') :
    Evolves k k' := by
  unfold KeyStore.revokeAPIKey at h
  split at h
  · cases h
  · split_ifs at h
    cases h
    exact update (fun r => ⟨rfl,rfl,rfl⟩)

theorem rotate {plaintext tenantID : String} {keyID : ℕ}
    (h : k.rotateAPIKey hashAPIKey plaintext tenantID keyID = .ok k') : Evolves k k' := by
  unfold KeyStore.rotateAPIKey at h
  split at h
  · cases h
  · refine (update ?_).trans (insert h)
    exact fun r => ⟨rfl,rfl,rfl⟩

end Evolves

section Runs

variable {hashAPIKey : String → String} {k k' : KeyStore}

theorem evolves_step {e : Event} (h : step hashAPIKey k e = some k') : Evolves k k' := by
  cases e with
  | wait now =>
    simp only [step] at h
    split_ifs at h with hnow
    cases h
    exact Evolves.wait hnow
  | startup tenants =>
    cases h
    exact Evolves.seedKeys _
  | create plaintext tenantID name scopes expiresAt =>
    cases h
    exact Evolves.commit (fun _ => Evolves.insert)
  | createFromPlaintext plaintext tenantID name scopes expiresAt =>
    cases h
    exact Evolves.commit (fun _ => Evolves.createFromPlaintext)
  | revoke tenantID keyID =>
    cases h
    exact Evolves.commit (fun _ => Evolves.revoke)
  | rotate plaintext tenantID keyID =>
    cases h
    exact Evolves.commit (fun _ => Evolves.rotate)

theorem evolves_run {es : List Event} (h : exec (step hashAPIKey) k es = some k') : Evolves k k' :=
  exec_invariant (step hashAPIKey) (fun _ _ _ hk hstep => hk.trans (evolves_step hstep))
    (Evolves.refl k) h

theorem retired_of_run {es : List Event} {keyHash : String}
    (h : exec (step hashAPIKey) k es = some k') (hretired : k.Retired keyHash) :
    k'.Retired keyHash := by
  have hrun := evolves_run h
  obtain ⟨r,hr,hhash,hold⟩ := hretired
  obtain ⟨r',hr',hhash',hexpires,hrevoked⟩ := hrun.kept r hr
  refine ⟨r',hr',hhash'.trans hhash,?_⟩
  unfold APIKeyRecord.retired at hold ⊢
  rcases Bool.or_eq_true_iff.mp hold with hgone | hpast
  · rw [hrevoked hgone,Bool.true_or]
  · obtain ⟨t,ht,hle⟩ := (Option.any_eq_true _ _).mp hpast
    have hnow := hrun.now
    have hany : r'.expiresAt.any (fun t => t ≤ k'.now) = true := by
      rw [hexpires,ht]
      have hle' : t ≤ k.now := by simpa using hle
      simpa using Int.le_trans hle' hnow
    rw [hany,Bool.or_true]

theorem keyHashes_nodup {es : List Event} {now : Int}
    (h : exec (step hashAPIKey) (KeyStore.empty now) es = some k) :
    (k.keys.map APIKeyRecord.keyHash).Nodup :=
  (evolves_run h).distinct List.nodup_nil

theorem lookup_of_retired {keyHash : String} (hd : (k.keys.map APIKeyRecord.keyHash).Nodup)
    (hretired : k.Retired keyHash) : k.lookupAPIKeyByHash keyHash = none := by
  obtain ⟨r,hr,hhash,hold⟩ := hretired
  refine List.find?_eq_none.mpr ?_
  intro s hs hfound
  simp only [Bool.and_eq_true,decide_eq_true_eq] at hfound
  obtain ⟨⟨hkey,hactive⟩,hunexpired⟩ := hfound
  have hsame : s.1 = r :=
    List.inj_on_of_nodup_map hd (List.fst_mem_of_mem_zipIdx hs) hr (hkey.trans hhash.symm)
  rw [hsame] at hactive hunexpired
  unfold APIKeyRecord.retired at hold
  rcases Bool.or_eq_true_iff.mp hold with hgone | hpast
  · simp [KeyRow.active] at hactive
    simp [hactive] at hgone
  · obtain ⟨t,ht,hle⟩ := (Option.any_eq_true _ _).mp hpast
    rw [APIKeyRecord.unexpired,ht] at hunexpired
    simp only [Option.all_some,decide_eq_true_eq] at hunexpired hle
    omega

theorem usable_of_lookup {keyHash : String} {r : APIKeyRecord} {id : ℕ}
    (h : k.lookupAPIKeyByHash keyHash = some (r,id)) :
    r.revokedAt = none ∧ r.expiresAt.any (fun t => t < k.now) = false := by
  have hfound := List.find?_some h
  simp only [Bool.and_eq_true] at hfound
  obtain ⟨⟨-,hactive⟩,hunexpired⟩ := hfound
  refine ⟨by simpa [KeyRow.active] using hactive,?_⟩
  unfold APIKeyRecord.unexpired at hunexpired
  cases hexpires : r.expiresAt with
  | none => rfl
  | some t =>
    rw [hexpires] at hunexpired
    simp only [Option.all_some,decide_eq_true_eq] at hunexpired
    simpa using Int.le_of_lt hunexpired

end Runs

end PrismGateway.Storage.KeyLookup
