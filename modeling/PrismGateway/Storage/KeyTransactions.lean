import PrismGateway.Storage.KeyLookup

namespace PrismGateway.Storage.KeyLookup

open Lib ApiKeys

/-- The transaction of `request`, statement by statement with no other one under way, does what
`result` says. -/
def RunsAs (k : KeyStore) (request : Request) (result : Except String KeyStore) (success : Reply) :
    Prop :=
  ∀ revocations, ∃ n w', exec ApiKeys.step ⟨k.keys.map APIKeyRecord.toKeyRow,[],revocations⟩
      (.begin request :: List.replicate n (.next 0 k.now)) = some w' ∧
    match result with
    | .ok k' => w'.keys = k'.keys.map APIKeyRecord.toKeyRow ∧ w'.calls = [⟨request,.done success⟩]
    | .error err => w'.keys = k.keys.map APIKeyRecord.toKeyRow ∧
        w'.calls = [⟨request,.done (.failed err)⟩]

section Alone

variable {k : KeyStore} {keys : List KeyRow} {request : Request} {phase : Phase}
  {revocations : List (ℕ × Int)} {now : Int} {es : List ApiKeys.Event} {row : KeyRow}

def alone (keys : List KeyRow) (request : Request) (phase : Phase) (revocations : List (ℕ × Int)) :
    World :=
  ⟨keys,[⟨request,phase⟩],revocations⟩

theorem exec_begin : exec ApiKeys.step ⟨keys,[],revocations⟩ (.begin request :: es) =
    exec ApiKeys.step (alone keys request .begun revocations) es := rfl

theorem exec_next {w' : World}
    (h : (alone keys request phase revocations).next 0 ⟨request,phase⟩ now = some w') :
    exec ApiKeys.step (alone keys request phase revocations) (.next 0 now :: es) =
      exec ApiKeys.step w' es :=
  exec_cons h es

theorem insert_alone {own : Option ℕ} {message : String}
    (hlocks : (Call.mk request phase).locks = own) :
    (alone keys request phase revocations).insert 0 ⟨request,phase⟩ row message =
      if (alone keys request phase revocations).nameTaken own row
      then some (alone keys request (.done (.failed message)) revocations)
      else some (alone keys request (.inserted row) revocations) := by
  subst hlocks
  rfl

theorem nameTaken_alone {own : Option ℕ} :
    (alone (k.keys.map APIKeyRecord.toKeyRow) request phase revocations).nameTaken own row = true ↔
      ∃ i r, k.keys[i]? = some r ∧ (r.active && r.sameName row) = true ∧ some i ≠ own := by
  unfold World.nameTaken alone
  rw [List.any_eq_true]
  constructor
  · rintro ⟨⟨r,i⟩,hr,hname⟩
    have hget := List.mem_zipIdx_iff_getElem?.mp hr
    rw [List.getElem?_map] at hget
    obtain ⟨s,hs,rfl⟩ := Option.map_eq_some_iff.mp hget
    rw [Bool.and_eq_true] at hname
    exact ⟨i,s,hs,hname.1,by simpa using hname.2⟩
  · rintro ⟨i,r,hr,hname,hi⟩
    refine ⟨(r.toKeyRow,i),List.mem_zipIdx_iff_getElem?.mpr ?_,?_⟩
    · rw [List.getElem?_map,hr]
      rfl
    · rw [Bool.and_eq_true]
      exact ⟨hname,by simpa using hi⟩

theorem nameTaken_iff : k.nameTaken row = true ↔
    ∃ (i : ℕ) (r : APIKeyRecord), k.keys[i]? = some r ∧ (r.active && r.sameName row) = true := by
  unfold KeyStore.nameTaken
  rw [List.any_eq_true]
  constructor
  · rintro ⟨r,hr,hname⟩
    obtain ⟨i,hi⟩ := List.mem_iff_getElem?.mp hr
    exact ⟨i,r,hi,hname⟩
  · rintro ⟨i,r,hi,hname⟩
    exact ⟨r,List.mem_of_getElem? hi,hname⟩

theorem hashTaken_update {keyID : ℕ} {f : APIKeyRecord → APIKeyRecord} {keyHash : String}
    (hf : ∀ r, (f r).keyHash = r.keyHash) :
    (k.update keyID f).hashTaken keyHash = k.hashTaken keyHash := by
  have hany : ∀ k : KeyStore, k.hashTaken keyHash =
      (k.keys.map APIKeyRecord.keyHash).any (fun h => h = keyHash) := by
    intro k
    rw [List.any_map]
    rfl
  rw [hany,hany,KeyStore.map_keyHash_update hf]

theorem nameTaken_create :
    (alone (k.keys.map APIKeyRecord.toKeyRow) request phase revocations).nameTaken none row =
      k.nameTaken row := by
  rw [Bool.eq_iff_iff,nameTaken_alone,nameTaken_iff]
  simp

theorem nameTaken_rotate {keyID : ℕ} {f : APIKeyRecord → APIKeyRecord}
    (hf : ∀ r, (f r).active = false) :
    (alone (k.keys.map APIKeyRecord.toKeyRow) request phase revocations).nameTaken (some keyID) row =
      (k.update keyID f).nameTaken row := by
  rw [Bool.eq_iff_iff,nameTaken_alone,nameTaken_iff]
  constructor
  · rintro ⟨i,r,hr,hname,hi⟩
    have hne : keyID ≠ i := fun h => hi (congrArg some h.symm)
    refine ⟨i,r,?_,hname⟩
    rw [KeyStore.getElem?_update,hr,Option.map_some,if_neg hne]
  · rintro ⟨i,r,hr,hname⟩
    rw [KeyStore.getElem?_update] at hr
    obtain ⟨s,hs,rfl⟩ := Option.map_eq_some_iff.mp hr
    by_cases hi : keyID = i
    · rw [if_pos hi,hf,Bool.false_and] at hname
      cases hname
    · rw [if_neg hi] at hname
      exact ⟨i,s,hs,hname,fun h => hi (Option.some.inj h).symm⟩

theorem create_runs (hashAPIKey : String → String) (plaintext tenantID name : String)
    (scopes : List String) (expiresAt : Option Int)
    (hfresh : k.hashTaken (hashAPIKey plaintext) = false) :
    RunsAs k (.createAPIKey tenantID name scopes expiresAt)
      (k.createAPIKey hashAPIKey plaintext tenantID name scopes expiresAt)
      (.created k.keys.length) := by
  intro revocations
  let row : KeyRow :=
    { tenantID := tenantID, name := name, scopes := scopes, createdAt := k.now, expiresAt := expiresAt }
  let request : Request := .createAPIKey tenantID name scopes expiresAt
  have hinsert : (alone (k.keys.map APIKeyRecord.toKeyRow) request .begun revocations).next 0
      ⟨request,.begun⟩ k.now = _ :=
    @insert_alone (k.keys.map APIKeyRecord.toKeyRow) request .begun revocations row none
      "insert api key" rfl
  rw [nameTaken_create] at hinsert
  unfold KeyStore.createAPIKey KeyStore.insert
  dsimp only
  rw [hfresh,Bool.false_or]
  by_cases htaken : k.nameTaken row = true
  · rw [if_pos htaken] at hinsert ⊢
    exact ⟨1,_,exec_begin.trans (exec_next hinsert),rfl,rfl⟩
  · rw [if_neg htaken] at hinsert ⊢
    refine ⟨2,_,exec_begin.trans ((exec_next hinsert).trans (exec_next rfl)),?_,?_⟩
    · rw [List.map_append]
      rfl
    · simp [World.commitInsert,World.finish,World.move,alone,request]

theorem ownKey_alone (tenantID : String) (keyID : ℕ) :
    (alone (k.keys.map APIKeyRecord.toKeyRow) request phase revocations).ownKey tenantID keyID =
      (k.ownKey tenantID keyID).map APIKeyRecord.toKeyRow := by
  unfold World.ownKey KeyStore.ownKey alone
  rw [List.getElem?_map]
  cases k.keys[keyID]? with
  | none => rfl
  | some r =>
    by_cases hown : r.tenantID = tenantID
    · simp [Option.filter,hown]
    · simp [Option.filter,hown]

theorem activeKey_alone (tenantID : String) (keyID : ℕ) :
    (alone (k.keys.map APIKeyRecord.toKeyRow) request phase revocations).activeKey tenantID keyID =
      ((k.ownKey tenantID keyID).filter (fun r => r.active)).map APIKeyRecord.toKeyRow := by
  rw [World.activeKey,ownKey_alone,Option.filter_map]
  rfl

theorem map_update {keyID : ℕ} {f : APIKeyRecord → APIKeyRecord} {h : KeyRow → KeyRow}
    (hf : ∀ r, (f r).toKeyRow = h r.toKeyRow) :
    (k.update keyID f).keys.map APIKeyRecord.toKeyRow =
      (k.keys.map APIKeyRecord.toKeyRow).modify keyID h := by
  refine List.ext_getElem? ?_
  intro i
  rw [List.getElem?_map,KeyStore.getElem?_update,List.getElem?_modify,List.getElem?_map,
    Option.map_map]
  change _ = Option.map _ _
  rw [Option.map_map]
  congr 1
  funext r
  by_cases hi : keyID = i
  · simp [hi,hf]
  · simp [hi]

theorem revoke_runs (tenantID : String) (keyID : ℕ) :
    RunsAs k (.revokeAPIKey tenantID keyID) (k.revokeAPIKey tenantID keyID) (.revoked k.now) := by
  intro revocations
  let keys := k.keys.map APIKeyRecord.toKeyRow
  let request : Request := .revokeAPIKey tenantID keyID
  have hselect : (alone keys request .begun revocations).next 0 ⟨request,.begun⟩ k.now =
      ((k.ownKey tenantID keyID).map APIKeyRecord.toKeyRow).elim
        (some (alone keys request (.done (.failed "api key not found")) revocations))
        (fun _ => some (alone keys request .found revocations)) := by
    rw [← @ownKey_alone k request .begun revocations]
    change (alone keys request .begun revocations).nextRevoke 0 ⟨request,.begun⟩ tenantID keyID k.now = _
    unfold World.nextRevoke
    dsimp only
    cases (alone keys request .begun revocations).ownKey tenantID keyID <;> rfl
  have hupdate : (alone keys request .found revocations).next 0 ⟨request,.found⟩ k.now =
      (((k.ownKey tenantID keyID).filter (fun r => r.active)).map APIKeyRecord.toKeyRow).elim
        (some (alone keys request
          (.done (.failed "api key already revoked or not found")) revocations))
        (fun _ => some (alone keys request (.revoking k.now) revocations)) := by
    rw [← @activeKey_alone k request .found revocations]
    change (alone keys request .found revocations).nextRevoke 0 ⟨request,.found⟩ tenantID keyID k.now = _
    unfold World.nextRevoke
    dsimp only
    cases (alone keys request .found revocations).activeKey tenantID keyID <;> rfl
  unfold KeyStore.revokeAPIKey
  cases hown : k.ownKey tenantID keyID with
  | none =>
    rw [hown] at hselect
    exact ⟨1,_,exec_begin.trans (exec_next hselect),rfl,rfl⟩
  | some r =>
    rw [hown] at hselect hupdate
    dsimp only [Option.map_some] at hselect hupdate ⊢
    by_cases hactive : r.active = true
    · rw [if_pos hactive]
      rw [@Option.filter_some_pos _ (fun r : APIKeyRecord => r.active) r hactive] at hupdate
      refine ⟨3,_,exec_begin.trans ((exec_next hselect).trans ((exec_next hupdate).trans
        (exec_next rfl))),?_,rfl⟩
      exact (map_update (fun _ => rfl)).symm
    · rw [if_neg hactive]
      rw [(@Option.filter_some_eq_none _ (fun r : APIKeyRecord => r.active) r).mpr hactive] at hupdate
      exact ⟨2,_,exec_begin.trans ((exec_next hselect).trans (exec_next hupdate)),rfl,rfl⟩

theorem rotate_runs (hashAPIKey : String → String) (plaintext tenantID : String) (keyID : ℕ)
    (hfresh : k.hashTaken (hashAPIKey plaintext) = false) :
    RunsAs k (.rotateAPIKey tenantID keyID) (k.rotateAPIKey hashAPIKey plaintext tenantID keyID)
      (.rotated k.keys.length) := by
  intro revocations
  let keys := k.keys.map APIKeyRecord.toKeyRow
  let request : Request := .rotateAPIKey tenantID keyID
  have hselect : (alone keys request .begun revocations).next 0 ⟨request,.begun⟩ k.now =
      (((k.ownKey tenantID keyID).filter (fun r => r.active)).map APIKeyRecord.toKeyRow).elim
        (some (alone keys request
          (.done (.failed "api key not found or already revoked")) revocations))
        (fun old => some (alone keys request (.selected old) revocations)) := by
    rw [← @activeKey_alone k request .begun revocations]
    change (alone keys request .begun revocations).nextRotate 0 ⟨request,.begun⟩ tenantID keyID k.now = _
    unfold World.nextRotate
    dsimp only
    cases (alone keys request .begun revocations).activeKey tenantID keyID <;> rfl
  unfold KeyStore.rotateAPIKey
  cases hown : (k.ownKey tenantID keyID).filter (fun r => r.active) with
  | none =>
    rw [hown] at hselect
    exact ⟨1,_,exec_begin.trans (exec_next hselect),rfl,rfl⟩
  | some old =>
    rw [hown] at hselect
    dsimp only [Option.map_some] at hselect ⊢
    let row := successor keyID old.toKeyRow k.now
    let f : APIKeyRecord → APIKeyRecord := fun r =>
      { r with revokedAt := some k.now, rotatedTo := some k.keys.length }
    have hinsert : (alone keys request (.rotating old.toKeyRow k.now) revocations).next 0
        ⟨request,.rotating old.toKeyRow k.now⟩ k.now = _ :=
      @insert_alone keys request (.rotating old.toKeyRow k.now) revocations row (some keyID)
        "insert new api key" rfl
    rw [@nameTaken_rotate k request _ revocations row keyID f (fun _ => rfl)] at hinsert
    have hhash : (k.update keyID f).hashTaken (hashAPIKey plaintext) = false := by
      rw [@hashTaken_update k keyID f _ (fun _ => rfl)]
      exact hfresh
    unfold KeyStore.insert
    dsimp only
    rw [hhash,Bool.false_or]
    by_cases htaken : (k.update keyID f).nameTaken row = true
    · rw [if_pos htaken] at hinsert ⊢
      exact ⟨3,_,exec_begin.trans ((exec_next hselect).trans ((exec_next rfl).trans
        (exec_next hinsert))),rfl,rfl⟩
    · rw [if_neg htaken] at hinsert ⊢
      refine ⟨4,_,exec_begin.trans ((exec_next hselect).trans ((exec_next rfl).trans
        ((exec_next hinsert).trans (exec_next rfl)))),?_,?_⟩
      · have hkeys := @map_update k keyID f
          (fun r => { r with revokedAt := some k.now, rotatedTo := some keys.length })
          (fun r => by simp [f,keys])
        rw [List.map_append]
        exact congrArg (fun rows => rows ++ [row]) hkeys.symm
      · simp [World.commitRotate,World.finish,World.move,alone,request,keys]

end Alone

end PrismGateway.Storage.KeyLookup
