import PrismGateway.Lib.Decoding

namespace PrismGateway.Lib

section Receive

variable {α : Type} {decode : Json → α → Option α} {names : List String} {tag : Tag}
  {es : Json.Entries} {k : String} {y : Json}

theorem filter_insert_of_neg {p : String × Json → Bool} (hp : ∀ j, p (k,j) = false) :
    (GoMap.insert k y es).filter p = es.filter p := by
  induction es with
  | nil => simp [GoMap.insert,hp y]
  | cons e es ih =>
    simp only [GoMap.insert]
    split_ifs with hlt heq
    · rw [List.filter_cons_of_neg (by simp [hp y])]
    · have he : p e = false := by
        rw [show e = (k,e.2) from Prod.ext heq.symm rfl]
        exact hp e.2
      rw [List.filter_cons_of_neg (by simp [hp y]),List.filter_cons_of_neg (by simp [he])]
    · rw [List.filter_cons,List.filter_cons,ih]

theorem receive_insert_of_ne (hk : fieldFor names k ≠ some tag.name) (v : α) :
    receive decode names tag (GoMap.insert k y es) v = receive decode names tag es v := by
  unfold receive
  rw [filter_insert_of_neg fun j => decide_eq_false hk]

theorem receive_insert_of_same (hsorted : GoMap.Sorted es) (hk : fieldFor names k = some tag.name)
    (hsame : ∀ v, decode y v = (es.lookup k).elim (some v) (fun j => decode j v)) (v : α) :
    receive decode names tag (GoMap.insert k y es) v = receive decode names tag es v := by
  unfold receive
  refine congrArg (fun r => if tag.dash = true then some v else r) ?_
  induction es generalizing v with
  | nil =>
    rw [GoMap.insert,List.filter_cons_of_pos (by simpa using hk)]
    simpa using hsame v
  | cons e es ih =>
    obtain ⟨hhead,htail⟩ := List.pairwise_cons.mp hsorted
    rw [GoMap.lookup_cons_eq] at hsame
    simp only [GoMap.insert]
    split_ifs with hlt heq
    · have hnone : List.lookup k es = none := by
        rw [List.lookup_eq_none_iff]
        intro e' he'
        rw [bne_iff_ne]
        exact fun h => absurd (hlt.trans (hhead e' he')) (h ▸ lt_irrefl _)
      have hskip : ∀ v, decode y v = some v := by
        intro v
        rw [hsame,if_neg hlt.ne,hnone]
        rfl
      rw [List.filter_cons_of_pos (by simpa using hk),List.foldlM_cons,hskip]
      rfl
    · have he : fieldFor names e.1 = some tag.name := heq ▸ hk
      have hreplace : ∀ v, decode y v = decode e.2 v := by
        intro v
        rw [hsame,if_pos heq]
        rfl
      rw [List.filter_cons_of_pos (by simpa using hk),List.filter_cons_of_pos (by simpa using he),
        List.foldlM_cons,List.foldlM_cons,hreplace]
    · rw [if_neg heq] at hsame
      rw [List.filter_cons,List.filter_cons]
      split_ifs with he
      · rw [List.foldlM_cons,List.foldlM_cons]
        exact congrArg (fun f => decode e.2 v >>= f) (funext fun v => ih htail hsame v)
      · exact ih htail hsame v

end Receive

/-- The field that `k` belongs to, if there is one, decodes `y` as what `k` holds already. -/
def Fields.Indifferent (names : List String) (k : String) (y : Json) (es : Json.Entries) :
    Fields → Prop
  | .nil => True
  | .cons tag s rest =>
    (fieldFor names k = some tag.name →
      ∀ v, s.decode y v = (es.lookup k).elim (some v) (fun j => s.decode j v)) ∧
        rest.Indifferent names k y es

theorem Fields.decode_insert {names : List String} {k : String} {y : Json} {es : Json.Entries}
    (hsorted : GoMap.Sorted es) : (fs : Fields) → fs.Indifferent names k y es → (v : fs.Vals) →
    fs.decode names (GoMap.insert k y es) v = fs.decode names es v
  | .nil, _, _ => rfl
  | .cons tag s rest, h, v => by
    have hreceive : receive s.decode names tag (GoMap.insert k y es) v.1 =
        receive s.decode names tag es v.1 := by
      by_cases hk : fieldFor names k = some tag.name
      · exact receive_insert_of_same hsorted hk (h.1 hk) v.1
      · exact receive_insert_of_ne hk v.1
    rw [Fields.decode,Fields.decode,hreceive,rest.decode_insert hsorted h.2 v.2]

theorem Fields.decode_insert_unknown {names : List String} {k : String} (hk : fieldFor names k = none)
    (y : Json) (es : Json.Entries) (fs : Fields) (v : fs.Vals) :
    fs.decode names (GoMap.insert k y es) v = fs.decode names es v := by
  cases fs with
  | nil => rfl
  | cons tag s rest =>
    have hne : fieldFor names k ≠ some tag.name := fun h => Option.some_ne_none _ (h.symm.trans hk)
    rw [Fields.decode,Fields.decode,receive_insert_of_ne hne,rest.decode_insert_unknown hk y es v.2]

end PrismGateway.Lib
