import Mathlib.Data.List.Basic

namespace PrismGateway.Lib.Framing

section Cut

variable {α : Type} [DecidableEq α] (mark : α)

def cut : List α → List α → List (List α) × List α
  | c :: d :: rest, acc =>
    if c = mark ∧ d = mark then
      let r := cut rest []
      (acc.reverse :: r.1,r.2)
    else cut (d :: rest) (c :: acc)
  | [c], acc => ([],(c :: acc).reverse)
  | [], acc => ([],acc.reverse)

def push (acc : List α) (c : α) : List (List α) × List α :=
  if c = mark ∧ acc.head? = some mark then ([acc.tail.reverse],[]) else ([],c :: acc)

def pushes : List α → List α → List (List α) × List α
  | acc, [] => ([],acc)
  | acc, c :: rest =>
    let r := push mark acc c
    let t := pushes r.2 rest
    (r.1 ++ t.1,t.2)

theorem pushes_append (acc l p : List α) : pushes mark acc (l ++ p) =
    ((pushes mark acc l).1 ++ (pushes mark (pushes mark acc l).2 p).1,
      (pushes mark (pushes mark acc l).2 p).2) := by
  induction l generalizing acc with
  | nil => rfl
  | cons c l ih =>
    simp only [List.cons_append,pushes,ih,List.append_assoc]

theorem cut_skip {piece : List α} (h : mark ∉ piece) (rest acc : List α) :
    cut mark (piece ++ rest) acc = cut mark rest (piece.reverse ++ acc) := by
  induction piece generalizing acc with
  | nil => rfl
  | cons c piece ih =>
    rw [List.mem_cons,not_or] at h
    have hc : c ≠ mark := Ne.symm h.1
    have hstep : cut mark (c :: (piece ++ rest)) acc = cut mark (piece ++ rest) (c :: acc) := by
      cases hrest : piece ++ rest with
      | nil => simp [cut]
      | cons d l => rw [cut,if_neg fun hboth => hc hboth.1]
    rw [List.cons_append,hstep,ih h.2,List.reverse_cons,List.append_assoc]
    rfl

theorem cut_piece {piece : List α} (h : mark ∉ piece) (rest : List α) :
    cut mark (piece ++ mark :: mark :: rest) [] =
      (piece :: (cut mark rest []).1,(cut mark rest []).2) := by
  rw [cut_skip mark h,cut,if_pos ⟨rfl,rfl⟩]
  simp

theorem push_open {acc : List α} {c : α} (h : ¬ (c = mark ∧ acc.head? = some mark)) :
    push mark acc c = ([],c :: acc) := if_neg h

theorem cut_eq_pushes (l acc : List α) (h : ∀ c, l.head? = some c → ¬ (c = mark ∧ acc.head? = some mark)) :
    cut mark l acc = ((pushes mark acc l).1,(pushes mark acc l).2.reverse) := by
  fun_induction cut mark l acc with
  | case1 c d rest acc hmarks r ih =>
    obtain ⟨rfl,rfl⟩ := hmarks
    have hrest := ih fun _ _ hboth => by cases hboth.2
    have hsecond : push d (d :: acc) d = ([acc.reverse],[]) := if_pos ⟨rfl,rfl⟩
    simp only [pushes,push_open d (h d rfl),hsecond]
    simp only [r,hrest,List.nil_append,List.singleton_append]
  | case2 c d rest acc hmarks ih =>
    have hrest := ih fun e he hboth => hmarks ⟨by simpa using hboth.2,by
      rw [List.head?_cons,Option.some.injEq] at he
      exact he.trans hboth.1⟩
    simp only [pushes,push_open mark (h c rfl),List.nil_append] at hrest ⊢
    exact hrest
  | case3 c acc =>
    rw [pushes,push_open mark (h _ rfl)]
    rfl
  | case4 acc => rfl

theorem cut_eq (l : List α) :
    cut mark l [] = ((pushes mark [] l).1,(pushes mark [] l).2.reverse) :=
  cut_eq_pushes mark l [] fun _ _ hboth => by cases hboth.2

theorem pushes_reverse_rest {acc : List α} (h : pushes mark [] acc.reverse = ([],acc)) (l : List α) :
    pushes mark [] (pushes mark acc l).2.reverse = ([],(pushes mark acc l).2) := by
  induction l generalizing acc with
  | nil => exact h
  | cons c l ih =>
    refine ih ?_
    unfold push
    split_ifs with hboth
    · rfl
    · rw [List.reverse_cons,pushes_append,h]
      simp only [pushes,push_open mark hboth,List.append_nil]

theorem cut_append (l p : List α) : cut mark (l ++ p) [] =
    ((cut mark l []).1 ++ (cut mark ((cut mark l []).2 ++ p) []).1,
      (cut mark ((cut mark l []).2 ++ p) []).2) := by
  have hrest : pushes mark [] (pushes mark [] l).2.reverse = ([],(pushes mark [] l).2) :=
    pushes_reverse_rest mark rfl l
  simp only [cut_eq,pushes_append,hrest,List.nil_append]

end Cut

section Feed

variable {α σ ω : Type} (handle : σ → List α → σ × List ω)

def handleAll : σ → List (List α) → σ × List ω
  | s, [] => (s,[])
  | s, piece :: rest =>
    let r := handle s piece
    let t := handleAll r.1 rest
    (t.1,r.2 ++ t.2)

theorem handleAll_append (s : σ) (l p : List (List α)) : handleAll handle s (l ++ p) =
    ((handleAll handle (handleAll handle s l).1 p).1,
      (handleAll handle s l).2 ++ (handleAll handle (handleAll handle s l).1 p).2) := by
  induction l generalizing s with
  | nil => rfl
  | cons piece l ih => simp only [List.cons_append,handleAll,ih,List.append_assoc]

variable [DecidableEq α] (mark : α)

def feed (s : σ × List α) (p : List α) : (σ × List α) × List ω :=
  let r := cut mark (s.2 ++ p) []
  let t := handleAll handle s.1 r.1
  ((t.1,r.2),t.2)

def feeds : σ × List α → List (List α) → (σ × List α) × List ω
  | s, [] => (s,[])
  | s, p :: rest =>
    let r := feed handle mark s p
    let t := feeds r.1 rest
    (t.1,r.2 ++ t.2)

theorem feed_append (s : σ × List α) (p q : List α) : feed handle mark s (p ++ q) =
    ((feed handle mark (feed handle mark s p).1 q).1,
      (feed handle mark s p).2 ++ (feed handle mark (feed handle mark s p).1 q).2) := by
  simp only [feed,← List.append_assoc,cut_append mark (s.2 ++ p) q,handleAll_append]

theorem feeds_eq_feed (s : σ × List α) (p : List α) (ps : List (List α)) :
    feeds handle mark s (p :: ps) = feed handle mark s (p ++ ps.flatten) := by
  induction ps generalizing s p with
  | nil => simp only [feeds,List.flatten_nil,List.append_nil]
  | cons q ps ih =>
    rw [feeds,ih,List.flatten_cons,feed_append handle mark s p,feed_append]

theorem feeds_flatten (s : σ) (ps : List (List α)) :
    (feeds handle mark (s,[]) ps) = feed handle mark (s,[]) ps.flatten := by
  cases ps with
  | nil => simp [feeds,feed,cut,handleAll]
  | cons p ps => rw [feeds_eq_feed,List.flatten_cons]

end Feed

end PrismGateway.Lib.Framing
