import PrismGateway.Lib.RoundTrip

namespace PrismGateway.Storage

open Lib

def isUpper (r : Char) : Bool := 'A' ≤ r && r ≤ 'Z'

def isLower (r : Char) : Bool := 'a' ≤ r && r ≤ 'z'

def toLower (r : Char) : Char :=
  if isUpper r then Char.ofNat (r.toNat + 32) else r

def snakeRunes (prev : Char) : List Char → List Char
  | [] => []
  | r :: runes =>
    let lowered := toLower r :: snakeRunes r runes
    -- an underscore before a capital, unless the previous rune was one too
    if isUpper r && (!isUpper prev || runes.head?.any isLower) then '_' :: lowered else lowered

def toSnakeCase (s : String) : String :=
  match GoStrings.runes s with
  | [] => s
  | r :: runes => String.ofList (toLower r :: snakeRunes r runes)

def normalizeConfigKeys (order : Json.MapOrder) (data : Json) : Json :=
  Json.rekey toSnakeCase order.iter data

theorem isUpper_iff (r : Char) : isUpper r = true ↔ 65 ≤ r.toNat ∧ r.toNat ≤ 90 := by
  simp only [isUpper,Bool.and_eq_true,decide_eq_true_eq]
  exact Iff.rfl

theorem isUpper_toLower (r : Char) : isUpper (toLower r) = false := by
  rw [toLower]
  split_ifs with h
  · have hr := (isUpper_iff r).mp h
    have hnat : (Char.ofNat (r.toNat + 32)).toNat = r.toNat + 32 := by
      rw [Char.ofNat,dif_pos (Or.inl (by omega))]
      rfl
    rw [← Bool.not_eq_true,isUpper_iff,hnat]
    omega
  · simpa using h

theorem isUpper_snakeRunes (runes : List Char) : ∀ (prev : Char), ∀ r ∈ snakeRunes prev runes,
    isUpper r = false := by
  induction runes with
  | nil => simp [snakeRunes]
  | cons a runes ih =>
    intro prev r hr
    have hlowered : ∀ x ∈ toLower a :: snakeRunes a runes, isUpper x = false :=
      List.forall_mem_cons.mpr ⟨isUpper_toLower a,ih a⟩
    simp only [snakeRunes] at hr
    split_ifs at hr with h
    · rcases List.mem_cons.mp hr with rfl | hr
      · rfl
      · exact hlowered r hr
    · exact hlowered r hr

theorem snakeRunes_of_no_upper {runes : List Char} (h : ∀ r ∈ runes, isUpper r = false) :
    ∀ prev, snakeRunes prev runes = runes := by
  induction runes with
  | nil => exact fun _ => rfl
  | cons a runes ih =>
    intro prev
    obtain ⟨ha,hrunes⟩ := List.forall_mem_cons.mp h
    simp [snakeRunes,toLower,ha,ih hrunes]

theorem isUpper_toSnakeCase (s : String) : ∀ r ∈ (toSnakeCase s).toList, isUpper r = false := by
  rw [toSnakeCase,GoStrings.runes_eq_toList]
  split
  · next h => simp [h]
  · next a runes _ =>
    rw [String.toList_ofList]
    exact List.forall_mem_cons.mpr ⟨isUpper_toLower a,isUpper_snakeRunes runes a⟩

theorem toSnakeCase_eq_self_iff (s : String) :
    toSnakeCase s = s ↔ ∀ r ∈ s.toList, isUpper r = false := by
  constructor
  · intro h
    rw [← h]
    exact isUpper_toSnakeCase s
  · intro h
    rw [toSnakeCase,GoStrings.runes_eq_toList]
    split
    · rfl
    · next a runes hs =>
      rw [hs,List.forall_mem_cons] at h
      rw [snakeRunes_of_no_upper h.2 a,toLower,if_neg (by simp [h.1]),← hs,String.ofList_toList]

theorem toSnakeCase_idempotent (s : String) : toSnakeCase (toSnakeCase s) = toSnakeCase s :=
  (toSnakeCase_eq_self_iff _).mpr (isUpper_toSnakeCase s)

structure Settled (es : Json.Entries) : Prop where
  sorted : GoMap.Sorted es
  fixed : ∀ k ∈ es.map Prod.fst, toSnakeCase k = k

theorem settled_arrivals (order : Json.MapOrder) (es : Json.Entries) :
    Settled (Json.arrivals toSnakeCase order.iter es) := by
  refine ⟨Json.sorted_arrivals es,?_⟩
  intro k hk
  obtain ⟨e,_,rfl⟩ := (Json.mem_keys_arrivals order.perm).mp hk
  exact toSnakeCase_idempotent e.1

theorem Settled.normalizeConfigKeys {es : Json.Entries} (h : Settled es) (order : Json.MapOrder) :
    normalizeConfigKeys order (.obj es) = .obj (es.map (fun e => (e.1,normalizeConfigKeys order e.2))) := by
  rw [Storage.normalizeConfigKeys,Json.rekey_obj,Json.arrivals_eq_of_fixed order.perm h.sorted
    fun e he => h.fixed e.1 (List.mem_map_of_mem he)]
  rfl

theorem normalize_entry (order : Json.MapOrder) (k : String) (j : Json) :
    normalizeConfigKeys order (.obj [(k,j)]) = .obj [(toSnakeCase k,normalizeConfigKeys order j)] := by
  unfold normalizeConfigKeys
  rw [Json.rekey_obj]
  unfold Json.arrivals
  have hiter : order.iter [(toSnakeCase k,Json.rekey toSnakeCase order.iter j)] =
      [(toSnakeCase k,Json.rekey toSnakeCase order.iter j)] := List.perm_singleton.mp (order.perm _)
  rw [List.map_singleton,hiter]
  rfl

theorem normalize_singleton (order : Json.MapOrder) {k : String} (hk : toSnakeCase k = k) (j : Json) :
    normalizeConfigKeys order (.obj [(k,j)]) = .obj [(k,normalizeConfigKeys order j)] := by
  rw [normalize_entry,hk]

example : toSnakeCase "APIKeyEnv" = "api_key_env" := by decide

example : toSnakeCase "HalfOpenSuccessesToClose" = "half_open_successes_to_close" := by
  decide

end PrismGateway.Storage
