import Mathlib.Data.List.Pairwise
import Mathlib.Data.List.Sort
import PrismGateway.Lib.FloatOrder

namespace PrismGateway.Lib

variable {α : Type}

def sliceStable (less : α → α → Bool) (l : List α) : List α :=
  l.mergeSort (fun a b => !less b a)

theorem sliceStable_perm (less : α → α → Bool) (l : List α) : (sliceStable less l).Perm l :=
  List.mergeSort_perm _ _

theorem mergeSort_congr {r s : α → α → Bool} {l : List α}
    (h : ∀ a ∈ l, ∀ b ∈ l, r a b = s a b) : l.mergeSort r = l.mergeSort s := by
  simpa using List.map_mergeSort (f := id) h

theorem pairwise_sliceStable {κ : Type} [LinearOrder κ] {less : α → α → Bool} {key : α → κ}
    {l : List α} (h : ∀ a ∈ l, ∀ b ∈ l, less a b = true ↔ key a < key b) :
    (sliceStable less l).Pairwise (fun a b => less b a = false) := by
  have hle : ∀ a ∈ l, ∀ b ∈ l, (!less b a) = decide (key a ≤ key b) := by
    intro a ha b hb
    have hba := h b hb a ha
    by_cases hk : key b < key a
    · simp [hba.mpr hk,hk]
    · simp [Bool.eq_false_iff.mpr (fun hc => hk (hba.mp hc)),not_lt.mp hk]
  have hsorted : (l.mergeSort (fun a b => decide (key a ≤ key b))).Pairwise
      (fun a b => decide (key a ≤ key b) = true) := by
    apply List.pairwise_mergeSort
    · intro a b c hab hbc
      simp only [decide_eq_true_eq] at hab hbc ⊢
      exact hab.trans hbc
    · intro a b
      simpa using le_total (key a) (key b)
  rw [sliceStable,mergeSort_congr hle]
  refine hsorted.imp_of_mem ?_
  intro a b ha hb hab
  have hba := hle a (List.mem_mergeSort.mp ha) b (List.mem_mergeSort.mp hb)
  rw [hab] at hba
  simpa using hba

theorem pairwise_sliceStable_float_desc {r : α → α → Bool} {k : α → Float} {l : List α}
    (hr : ∀ a b, r a b = decide (k b < k a)) (h : ∀ a ∈ l, (k a).isNaN = false) :
    (sliceStable r l).Pairwise (fun a b => ¬ k a < k b) := by
  have hkeys : ∀ a ∈ l, ∀ b ∈ l,
      r a b = true ↔ OrderDual.toDual (floatKey (k a)) < OrderDual.toDual (floatKey (k b)) := by
    intro a ha b hb
    rw [hr,decide_eq_true_eq,float_lt_iff (h b hb) (h a ha),OrderDual.toDual_lt_toDual]
  simpa [hr] using pairwise_sliceStable hkeys

theorem pairwise_either {R : α → α → Prop} {l : List α} (h : l.Pairwise R) {x y : α} (hx : x ∈ l)
    (hy : y ∈ l) (hne : x ≠ y) : R x y ∨ R y x := by
  have hsymm : Std.Symm (fun x y => R x y ∨ R y x) := ⟨fun _ _ hxy => hxy.symm⟩
  have heither : l.Pairwise (fun x y => R x y ∨ R y x) := h.imp .inl
  exact heither.forall hx hy hne

theorem pair_order {l : List α} (hnodup : l.Nodup) {x y : α} (hxy : [x,y].Sublist l) :
    ¬[y,x].Sublist l := by
  induction l with
  | nil => cases hxy
  | cons a l ih =>
    obtain ⟨ha,hnodup⟩ := List.nodup_cons.mp hnodup
    intro hyx
    cases hxy with
    | cons _ hxy =>
      cases hyx with
      | cons _ hyx => exact ih hnodup hxy hyx
      | cons_cons _ hx => exact ha (hxy.subset (List.mem_cons_of_mem _ List.mem_cons_self))
    | cons_cons _ hy =>
      cases hyx with
      | cons _ hyx => exact ha (hyx.subset (List.mem_cons_of_mem _ List.mem_cons_self))
      | cons_cons _ hx => exact ha (hx.subset List.mem_cons_self)

section Filter

variable {le : α → α → Bool} (trans : ∀ a b c, le a b → le b c → le a c)
    (total : ∀ a b, le a b || le b a)

include trans total

theorem mergeSort_cons_eq (a : α) (l : List α) : (a :: l).mergeSort le =
    (l.mergeSort le).filter (fun b => !le a b) ++ a :: (l.mergeSort le).filter (le a) := by
  obtain ⟨before,after,hsorted,hrest,hbefore⟩ := List.mergeSort_cons trans total a l
  have hpairwise := List.pairwise_mergeSort trans total (a :: l)
  rw [hsorted] at hpairwise
  have hafter : ∀ b ∈ after, le a b = true :=
    (List.pairwise_cons.mp (List.pairwise_append.mp hpairwise).2.1).1
  have hbelow : (before ++ after).filter (fun b => !le a b) = before := by
    rw [List.filter_append,List.filter_eq_self.mpr hbefore,
      List.filter_eq_nil_iff.mpr fun b hb => by rw [hafter b hb]; exact Bool.false_ne_true,
      List.append_nil]
  have habove : (before ++ after).filter (le a) = after := by
    rw [List.filter_append,List.filter_eq_self.mpr hafter,List.filter_eq_nil_iff.mpr fun b hb => by
      rw [(Bool.not_eq_true' _).mp (hbefore b hb)]; exact Bool.false_ne_true,List.nil_append]
  rw [hsorted,hrest,hbelow,habove]

theorem filter_mergeSort (p : α → Bool) (l : List α) :
    (l.mergeSort le).filter p = (l.filter p).mergeSort le := by
  induction l with
  | nil => rw [List.mergeSort_nil,List.filter_nil,List.mergeSort_nil]
  | cons a l ih =>
    cases hp : p a with
    | true =>
      have hcomm (q : α → Bool) : ((l.mergeSort le).filter q).filter p =
          ((l.filter p).mergeSort le).filter q := by
        rw [← ih,List.filter_filter,List.filter_filter]
        exact List.filter_congr fun b _ => Bool.and_comm _ _
      rw [List.filter_cons_of_pos hp,mergeSort_cons_eq trans total,mergeSort_cons_eq trans total,
        List.filter_append,List.filter_cons_of_pos hp,hcomm,hcomm]
    | false =>
      have hnot : ¬p a = true := Bool.eq_false_iff.mp hp
      obtain ⟨before,after,hsorted,hrest,-⟩ := List.mergeSort_cons trans total a l
      rw [List.filter_cons_of_neg hnot,hsorted,List.filter_append,List.filter_cons_of_neg hnot,
        ← List.filter_append,← hrest,ih]

theorem stable_mergeSort {l : List α} (hnodup : l.Nodup) :
    (l.mergeSort le).Pairwise (fun a b => le b a = true → [a,b].Sublist l) := by
  rw [List.pairwise_iff_forall_sublist]
  intro a b hab hle
  have hsorted : (l.mergeSort le).Nodup := (List.mergeSort_perm l le).nodup_iff.mpr hnodup
  have hne : a ≠ b := by
    rintro rfl
    exact pair_order hsorted hab hab
  have ha : a ∈ l := List.mem_mergeSort.mp (hab.subset List.mem_cons_self)
  have hb : b ∈ l := List.mem_mergeSort.mp (hab.subset (List.mem_cons_of_mem _ List.mem_cons_self))
  have hpairs : l.Pairwise (fun a b => [a,b].Sublist l) :=
    List.pairwise_iff_forall_sublist.mpr fun h => h
  refine (pairwise_either hpairs ha hb hne).resolve_right fun hba => ?_
  exact pair_order hsorted hab (List.pair_sublist_mergeSort trans total hle hba)

end Filter

end PrismGateway.Lib
