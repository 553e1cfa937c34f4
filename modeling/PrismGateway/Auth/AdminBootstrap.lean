import PrismGateway.Storage.KeyLookup

namespace PrismGateway.Auth.AdminBootstrap

open Lib Storage Storage.KeyLookup
open Storage.ApiKeys (KeyRow)

def tenantID : String := "system:admin"

def bootstrapKeyName : String := "bootstrap-admin"

def scopes : List String := ["admin_read","admin_write"]

-- ORDER BY created_at DESC
def listAPIKeys (k : KeyStore) (tenantID : String) : List (APIKeyRecord × ℕ) :=
  (k.keys.zipIdx.filter (fun r => r.1.tenantID = tenantID)).mergeSort
    (fun r s => s.1.createdAt ≤ r.1.createdAt)

section Bootstrap

variable (hashAPIKey : String → String) (adminKey : String) (k : KeyStore)

def install : Except String KeyStore :=
  k.createAPIKeyFromPlaintext hashAPIKey adminKey tenantID bootstrapKeyName scopes none

/-- `adminKey` is the value of `GATEWAY_ADMIN_API_KEY`; what stands in the table after an error stays
there. -/
def bootstrapAdminAPIKey : KeyStore × Option String :=
  if adminKey = "" then (k,none)
  else if (k.lookupAPIKeyByHash (hashAPIKey adminKey)).any (fun found => found.1.revokedAt.isNone) then
    (k,none)
  else match (listAPIKeys k tenantID).find? (fun r =>
      r.1.name = bootstrapKeyName && r.1.revokedAt.isNone) with
    | some (_,keyID) => match k.revokeAPIKey tenantID keyID with
      | .error err => (k,some ("revoke old admin api key: " ++ err))
      | .ok revoked => match install hashAPIKey adminKey revoked with
        | .error err => (revoked,some ("create new admin api key from plaintext: " ++ err))
        | .ok installed => (installed,none)
    | none => match install hashAPIKey adminKey k with
      | .error err => (k,some ("create admin api key from plaintext: " ++ err))
      | .ok installed => (installed,none)

end Bootstrap

/-- The unique indexes of `api_keys`. -/
structure Constraints (k : KeyStore) : Prop where
  hashes : (k.keys.map APIKeyRecord.keyHash).Nodup
  names : ∀ (i j : ℕ) (r s : APIKeyRecord), k.keys[i]? = some r → k.keys[j]? = some s →
    r.active = true → s.active = true → r.sameName s.toKeyRow = true → i = j

structure Table where
  store : KeyStore
  constraints : Constraints store

def bootstrapAdmin (r : APIKeyRecord) : Prop :=
  r.active = true ∧ r.tenantID = tenantID ∧ r.name = bootstrapKeyName

def carriesScopes (r : APIKeyRecord) : Prop := ∀ scope ∈ scopes, scope ∈ r.scopes

def alone (k : KeyStore) (keyID : ℕ) : Prop :=
  ∀ (j : ℕ) (s : APIKeyRecord), k.keys[j]? = some s → bootstrapAdmin s → j = keyID

def Installed (keyHash : String) (k : KeyStore) : Prop :=
  ∃ (keyID : ℕ) (r : APIKeyRecord), k.keys[keyID]? = some r ∧ r.keyHash = keyHash ∧
    r.active = true ∧ r.unexpired k.now = true ∧ carriesScopes r ∧ alone k keyID

section Constraints

variable {hashAPIKey : String → String} {k k' : KeyStore} {row : APIKeyRecord}

theorem getElem?_concat {i : ℕ} {r : APIKeyRecord} (h : (k.keys ++ [row])[i]? = some r) :
    k.keys[i]? = some r ∨ i = k.keys.length ∧ r = row := by
  rcases Nat.lt_or_ge i k.keys.length with hlt | hge
  · rw [List.getElem?_append_left hlt] at h
    exact .inl h
  · rw [List.getElem?_append_right hge,List.getElem?_singleton] at h
    split_ifs at h with hi
    exact .inr ⟨by omega,(Option.some.inj h).symm⟩

theorem insert_ok {message : String} (h : k.insert row message = .ok k') :
    k' = { k with keys := k.keys ++ [row] } ∧
      ∀ s ∈ k.keys, s.active = true → s.sameName row.toKeyRow = false := by
  unfold KeyStore.insert at h
  split_ifs at h with htaken
  cases h
  refine ⟨rfl,fun s hs hactive => ?_⟩
  rw [Bool.or_eq_true,not_or] at htaken
  by_contra hname
  refine htaken.2 (List.any_eq_true.mpr ⟨s,hs,?_⟩)
  rw [hactive,Bool.true_and]
  simpa using hname

theorem sameName_comm (r s : KeyRow) : r.sameName s = s.sameName r := by
  rw [Bool.eq_iff_iff]
  simp only [KeyRow.sameName,Bool.and_eq_true,decide_eq_true_eq]
  exact and_congr eq_comm eq_comm

theorem Constraints.insert {message : String} (hk : Constraints k)
    (h : k.insert row message = .ok k') : Constraints k' := by
  refine ⟨(Evolves.insert h).distinct hk.hashes,?_⟩
  obtain ⟨rfl,hfree⟩ := insert_ok h
  intro i j r s hr hs hactive hactive' hname
  rcases getElem?_concat hr with hold | ⟨rfl,rfl⟩
  · rcases getElem?_concat hs with hold' | ⟨rfl,rfl⟩
    · exact hk.names i j r s hold hold' hactive hactive' hname
    · rw [hfree r (List.mem_of_getElem? hold) hactive] at hname
      cases hname
  · rcases getElem?_concat hs with hold' | ⟨rfl,rfl⟩
    · rw [sameName_comm,hfree s (List.mem_of_getElem? hold') hactive'] at hname
      cases hname
    · rfl

theorem Constraints.update {keyID : ℕ} {f : APIKeyRecord → APIKeyRecord} (hk : Constraints k)
    (hhash : ∀ r, (f r).keyHash = r.keyHash) (hactive : ∀ r, (f r).active = false) :
    Constraints (k.update keyID f) := by
  have hkept : ∀ (i : ℕ) (r : APIKeyRecord), (k.update keyID f).keys[i]? = some r → r.active = true →
      k.keys[i]? = some r := by
    intro i r hr hr'
    rw [KeyStore.getElem?_update] at hr
    obtain ⟨s,hs,rfl⟩ := Option.map_eq_some_iff.mp hr
    by_cases hi : keyID = i
    · rw [if_pos hi,hactive] at hr'
      cases hr'
    · rwa [if_neg hi]
  refine ⟨?_,fun i j r s hr hs hr' hs' hname => ?_⟩
  · rw [KeyStore.map_keyHash_update hhash]
    exact hk.hashes
  · exact hk.names i j r s (hkept i r hr hr') (hkept j s hs hs') hr' hs' hname

theorem Constraints.commit {result : Except String KeyStore} (hk : Constraints k)
    (h : ∀ k', result = .ok k' → Constraints k') : Constraints (k.commit result) := by
  cases result with
  | ok k' => exact h k' rfl
  | error err => exact hk

theorem Constraints.createFromPlaintext {plaintext tenantID name : String} {scopes : List String}
    {expiresAt : Option Int} (hk : Constraints k)
    (h : k.createAPIKeyFromPlaintext hashAPIKey plaintext tenantID name scopes expiresAt = .ok k') :
    Constraints k' := by
  unfold KeyStore.createAPIKeyFromPlaintext at h
  split_ifs at h
  exact hk.insert h

theorem Constraints.revoke {tenantID : String} {keyID : ℕ} (hk : Constraints k)
    (h : k.revokeAPIKey tenantID keyID = .ok k') : Constraints k' := by
  unfold KeyStore.revokeAPIKey at h
  split at h
  · cases h
  · split_ifs at h
    cases h
    exact hk.update (fun _ => rfl) (fun _ => rfl)

theorem Constraints.rotate {plaintext tenantID : String} {keyID : ℕ} (hk : Constraints k)
    (h : k.rotateAPIKey hashAPIKey plaintext tenantID keyID = .ok k') : Constraints k' := by
  unfold KeyStore.rotateAPIKey at h
  split at h
  · cases h
  · refine Constraints.insert (hk.update ?_ ?_) h
    · exact fun _ => rfl
    · exact fun _ => rfl

theorem Constraints.seedKeys (keys : List (String × String)) (hk : Constraints k) :
    Constraints (KeyStore.seedKeys hashAPIKey keys k).1 := by
  induction keys generalizing k with
  | nil => exact hk
  | cons key rest ih =>
    unfold KeyStore.seedKeys
    split
    · rename_i k' hseed
      refine ih ?_
      unfold KeyStore.seedAPIKeyFromYAML at hseed
      dsimp only at hseed
      split_ifs at hseed
      · cases hseed
        exact hk
      · exact hk.insert hseed
    · exact hk

theorem constraints_step {e : Event} (hk : Constraints k) (h : step hashAPIKey k e = some k') :
    Constraints k' := by
  cases e with
  | wait now =>
    simp only [step] at h
    split_ifs at h
    cases h
    exact ⟨hk.hashes,hk.names⟩
  | startup tenants =>
    cases h
    exact hk.seedKeys _
  | create plaintext tenantID name scopes expiresAt =>
    cases h
    exact hk.commit (fun _ => hk.insert)
  | createFromPlaintext plaintext tenantID name scopes expiresAt =>
    cases h
    exact hk.commit (fun _ => hk.createFromPlaintext)
  | revoke tenantID keyID =>
    cases h
    exact hk.commit (fun _ => hk.revoke)
  | rotate plaintext tenantID keyID =>
    cases h
    exact hk.commit (fun _ => hk.rotate)

theorem constraints_empty (now : Int) : Constraints (KeyStore.empty now) := by
  refine ⟨List.nodup_nil,fun i j r s hr => ?_⟩
  cases hr

theorem constraints_run {es : List Event} {now : Int}
    (h : exec (step hashAPIKey) (KeyStore.empty now) es = some k) : Constraints k :=
  exec_invariant (step hashAPIKey) (fun _ _ _ => constraints_step) (constraints_empty now) h

def Table.ofRun {es : List Event} {now : Int}
    (h : exec (step hashAPIKey) (KeyStore.empty now) es = some k) : Table := ⟨k,constraints_run h⟩

end Constraints

section Ensures

variable {hashAPIKey : String → String} {adminKey : String} {k k' : KeyStore}

def Ensures (hashAPIKey : String → String) (adminKey : String) (k : KeyStore) : Prop :=
  adminKey ≠ "" → (bootstrapAdminAPIKey hashAPIKey adminKey k).2 = none →
    Installed (hashAPIKey adminKey) (bootstrapAdminAPIKey hashAPIKey adminKey k).1

theorem constraints_bootstrap (hk : Constraints k) :
    Constraints (bootstrapAdminAPIKey hashAPIKey adminKey k).1 := by
  unfold bootstrapAdminAPIKey
  split_ifs
  · exact hk
  · exact hk
  · split
    · split
      · exact hk
      · rename_i revoked hrevoke
        split
        · exact hk.revoke hrevoke
        · rename_i installed hinstall
          exact (hk.revoke hrevoke).createFromPlaintext hinstall
    · split
      · exact hk
      · rename_i installed hinstall
        exact hk.createFromPlaintext hinstall

theorem installed_of_install (h : install hashAPIKey adminKey k = .ok k') :
    Installed (hashAPIKey adminKey) k' := by
  unfold install KeyStore.createAPIKeyFromPlaintext KeyStore.createAPIKey at h
  split_ifs at h
  obtain ⟨rfl,hfree⟩ := insert_ok h
  refine ⟨k.keys.length,_,List.getElem?_concat_length,rfl,rfl,rfl,fun _ hscope => hscope,?_⟩
  rintro j s hs ⟨hactive,htenant,hname⟩
  rcases getElem?_concat hs with hold | ⟨hj,-⟩
  · have hother := hfree s (List.mem_of_getElem? hold) hactive
    simp [KeyRow.sameName,htenant,hname] at hother
  · exact hj

theorem lookup_some {keyHash : String} {r : APIKeyRecord} {keyID : ℕ}
    (h : k.lookupAPIKeyByHash keyHash = some (r,keyID)) : k.keys[keyID]? = some r ∧
      r.keyHash = keyHash ∧ r.active = true ∧ r.unexpired k.now = true := by
  have hrow := List.mem_zipIdx_iff_getElem?.mp (List.mem_of_find?_eq_some h)
  have hfound := List.find?_some h
  simp only [Bool.and_eq_true,decide_eq_true_eq] at hfound
  exact ⟨hrow,hfound.1.1,hfound.1.2,hfound.2⟩

theorem keyID_of_hash (hk : Constraints k) {i j : ℕ} {r s : APIKeyRecord} (hr : k.keys[i]? = some r)
    (hs : k.keys[j]? = some s) (hhash : r.keyHash = s.keyHash) : i = j := by
  obtain ⟨hi,hri⟩ := List.getElem?_eq_some_iff.mp hr
  have hsame : (k.keys.map APIKeyRecord.keyHash)[i]? = (k.keys.map APIKeyRecord.keyHash)[j]? := by
    rw [List.getElem?_map,List.getElem?_map,hr,hs,Option.map_some,Option.map_some,hhash]
  exact (List.getElem?_inj (by rwa [List.length_map]) hk.hashes).mp hsame

theorem bootstrap_of_found {found : APIKeyRecord × ℕ}
    (h : k.lookupAPIKeyByHash (hashAPIKey adminKey) = some found) :
    bootstrapAdminAPIKey hashAPIKey adminKey k = (k,none) := by
  have hactive := (lookup_some h).2.2.1
  unfold bootstrapAdminAPIKey
  rw [h]
  split_ifs with _ hnot
  · rfl
  · rfl
  · exact absurd hactive hnot

theorem ensures_of_absent (h : k.lookupAPIKeyByHash (hashAPIKey adminKey) = none) :
    Ensures hashAPIKey adminKey k := by
  intro hset hnil
  unfold bootstrapAdminAPIKey at hnil ⊢
  rw [if_neg hset,h,Option.any_none,if_neg (by decide)] at hnil ⊢
  split at hnil
  · split at hnil
    · cases hnil
    · split at hnil
      · cases hnil
      · rename_i installed hinstall
        exact installed_of_install hinstall
  · split at hnil
    · cases hnil
    · rename_i installed hinstall
      exact installed_of_install hinstall

theorem bootstrap_ensures_iff (hashAPIKey : String → String) (adminKey : String) (t : Table) :
    Ensures hashAPIKey adminKey t.store ↔ (adminKey ≠ "" → ∀ r keyID,
      t.store.lookupAPIKeyByHash (hashAPIKey adminKey) = some (r,keyID) →
        carriesScopes r ∧ alone t.store keyID) := by
  constructor
  · intro h hset r keyID hlookup
    have hboot := bootstrap_of_found hlookup
    obtain ⟨hrow,hhash,-,-⟩ := lookup_some hlookup
    have hinstalled := h hset (by rw [hboot])
    rw [hboot] at hinstalled
    obtain ⟨i,s,hs,hhash',-,-,hscopes,halone⟩ := hinstalled
    obtain rfl : keyID = i := keyID_of_hash t.constraints hrow hs (hhash.trans hhash'.symm)
    obtain rfl : r = s := Option.some.inj (hrow.symm.trans hs)
    exact ⟨hscopes,halone⟩
  · intro h
    cases hlookup : t.store.lookupAPIKeyByHash (hashAPIKey adminKey) with
    | none => exact ensures_of_absent hlookup
    | some found =>
      obtain ⟨r,keyID⟩ := found
      intro hset _
      obtain ⟨hrow,hhash,hactive,hunexpired⟩ := lookup_some hlookup
      obtain ⟨hscopes,halone⟩ := h hset r keyID hlookup
      rw [bootstrap_of_found hlookup]
      exact ⟨keyID,r,hrow,hhash,hactive,hunexpired,hscopes,halone⟩

end Ensures

def labelled (key : String) : String := "sha256-of-" ++ key

def yamlKey : List KeyLookup.Event := [.startup [⟨"acme",["rk_env"]⟩]]

def keyByHand : List KeyLookup.Event :=
  [.createFromPlaintext "rk_old" tenantID bootstrapKeyName scopes none,
    .createFromPlaintext "rk_env" tenantID "ci" scopes none]

def madeKey : List KeyLookup.Event :=
  [.createFromPlaintext "rk_env" tenantID bootstrapKeyName scopes none]

theorem made_key_ensured : ∃ t : Table,
    exec (step labelled) (KeyStore.empty 0) madeKey = some t.store ∧
      (t.store.lookupAPIKeyByHash (labelled "rk_env")).isSome = true ∧ Ensures labelled "rk_env" t.store := by
  have hrun : exec (step labelled) (KeyStore.empty 0) madeKey =
      some ⟨0,[{ tenantID := tenantID, name := bootstrapKeyName, scopes := scopes, createdAt := 0
                 keyHash := "sha256-of-rk_env" }]⟩ := rfl
  refine ⟨.ofRun hrun,hrun,rfl,(bootstrap_ensures_iff _ _ _).mpr fun _ r keyID hlookup => ?_⟩
  obtain ⟨hrow,-,-,-⟩ := lookup_some hlookup
  cases keyID with
  | zero =>
    obtain rfl := Option.some.inj hrow
    refine ⟨fun scope hscope => hscope,fun j s hs _ => ?_⟩
    cases j with
    | zero => rfl
    | succ j => cases hs
  | succ keyID => cases hrow

section Found

variable {k : KeyStore}

theorem scopes_of_installed {keyHash : String} (h : Installed keyHash k) :
    ∃ l ∈ k.keys.map (fun r => r.scopes), "admin_write" ∈ l := by
  obtain ⟨i,r,hr,-,-,-,hscopes,-⟩ := h
  exact ⟨r.scopes,List.mem_map_of_mem (List.mem_of_getElem? hr),hscopes _ (by decide)⟩

theorem hash_of_installed {keyHash : String} {s : APIKeyRecord} {j : ℕ} (h : Installed keyHash k)
    (hs : k.keys[j]? = some s) (hadmin : bootstrapAdmin s) : s.keyHash = keyHash := by
  obtain ⟨i,r,hr,hhash,-,-,-,halone⟩ := h
  obtain rfl := halone j s hs hadmin
  obtain rfl : s = r := Option.some.inj (hs.symm.trans hr)
  exact hhash

end Found

theorem found_key_not_checked :
    (∃ k, exec (step labelled) (KeyStore.empty 0) yamlKey = some k ∧
      bootstrapAdminAPIKey labelled "rk_env" k = (k,none) ∧
      k.keys.map (fun r => r.scopes) = [["inference"]] ∧ ¬Ensures labelled "rk_env" k) ∧
    (∃ k, exec (step labelled) (KeyStore.empty 0) keyByHand = some k ∧
      bootstrapAdminAPIKey labelled "rk_env" k = (k,none) ∧
      k.keys.map (fun r => (r.name,r.active)) = [("bootstrap-admin",true),("ci",true)] ∧
      ¬Ensures labelled "rk_env" k) := by
  have hyaml : bootstrapAdminAPIKey labelled "rk_env"
      ⟨0,[{ tenantID := "acme", name := "bootstrap-sha256-o", scopes := ["inference"], createdAt := 0
            keyHash := "sha256-of-rk_env" }]⟩ = (_,none) := bootstrap_of_found rfl
  have hhand : bootstrapAdminAPIKey labelled "rk_env"
      ⟨0,[{ tenantID := tenantID, name := bootstrapKeyName, scopes := scopes, createdAt := 0
            keyHash := "sha256-of-rk_old" },
          { tenantID := tenantID, name := "ci", scopes := scopes, createdAt := 0
            keyHash := "sha256-of-rk_env" }]⟩ = (_,none) := bootstrap_of_found rfl
  refine ⟨⟨_,by decide,hyaml,rfl,fun h => ?_⟩,⟨_,by decide,hhand,rfl,fun h => ?_⟩⟩
  · have hinstalled := h (by decide) (by rw [hyaml])
    rw [hyaml] at hinstalled
    obtain ⟨l,hl,hadmin⟩ := scopes_of_installed hinstalled
    rw [List.mem_singleton.mp hl] at hadmin
    exact absurd hadmin (by decide)
  · have hinstalled := h (by decide) (by rw [hhand])
    rw [hhand] at hinstalled
    have hhash := @hash_of_installed _ _ _ 0 hinstalled rfl ⟨rfl,rfl,rfl⟩
    exact absurd hhash (by decide)

end PrismGateway.Auth.AdminBootstrap
