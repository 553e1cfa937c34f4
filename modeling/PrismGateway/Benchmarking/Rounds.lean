import PrismGateway.Benchmarking.Runner
import PrismGateway.Lib.Tally

namespace PrismGateway.Benchmarking

open Lib

namespace Goroutine

def tokens : Goroutine → ℕ
  | .begun | .calling | .storing _ | .leaving _ => 1
  | .signalling _ | .exited _ => 0

def inCall : Goroutine → ℕ
  | .calling => 1
  | _ => 0

def signals : Goroutine → ℕ
  | .exited _ => 1
  | _ => 0

def stepsLeft : Goroutine → ℕ
  | .begun => 5
  | .calling => 4
  | .storing _ => 3
  | .leaving _ => 2
  | .signalling _ => 1
  | .exited _ => 0

def calls : Goroutine → ℕ
  | .begun => 0
  | .calling | .storing _ => 1
  | .leaving result | .signalling result | .exited result => if result = .unprovided then 0 else 1

def rows : Goroutine → ℕ
  | .begun | .calling | .storing _ => 0
  | .leaving result | .signalling result | .exited result => if result = .stored then 1 else 0

theorem inCall_le_tokens (g : Goroutine) : g.inCall ≤ g.tokens := by
  cases g <;> simp [inCall,tokens]

theorem signals_le_one (g : Goroutine) : g.signals ≤ 1 := by
  cases g <;> simp [signals]

theorem calls_le_one (g : Goroutine) : g.calls ≤ 1 := by
  cases g with
  | leaving result | signalling result | exited result => cases result <;> simp [calls]
  | _ => simp [calls]

theorem rows_le_one (g : Goroutine) : g.rows ≤ 1 := by
  cases g with
  | leaving result | signalling result | exited result => cases result <;> simp [rows]
  | _ => simp [rows]

end Goroutine

namespace Main

def tokens : Main → ℕ
  | .launching _ => 1
  | _ => 0

def received (n : ℕ) : Main → ℕ
  | .acquiring _ | .launching _ => 0
  | .collecting j => j
  | .returned => n

def stepsLeft (n : ℕ) : Main → ℕ
  | .acquiring i => 7 * (n - i) + n
  | .launching i => 7 * (n - i) - 1 + n
  | .collecting j => n - j
  | .returned => 0

def Matches (n launched : ℕ) : Main → Prop
  | .acquiring i | .launching i => i = launched ∧ i < n
  | .collecting j => launched = n ∧ j < n
  | .returned => launched = n

end Main

namespace Round

variable {κ π : Type} {r : Runner κ π} {models : List BenchmarkedModel} {s t : Round π}
  {e : Event κ} {i : ℕ} {g b : Goroutine}

def Named (models : List BenchmarkedModel) (i : ℕ) (row : ModelBenchmarkRow) : Prop :=
  ∃ m, models[i]? = some m ∧ row.provider = m.provider ∧ row.model = m.name

def Honest (r : Runner κ π) (models : List BenchmarkedModel) (i : ℕ) : Goroutine → Prop
  | .storing row => Named models i row
  | .leaving result | .signalling result | .exited result => result = .unprovided →
      ∃ m resolved, models[i]? = some m ∧ r.providerForModel resolved m = none
  | _ => True

def callsOf (s : Round π) (i : ℕ) : List (ℕ × π × ChatRequest) :=
  s.calls.filter (fun call => call.1 = i)

def rowsOf (s : Round π) (i : ℕ) : List (ℕ × ModelBenchmarkRow) :=
  s.rows.filter (fun entry => entry.1 = i)

/-- How the two channels, the loops of `Run` and the goroutines fit together. -/
structure Inv (r : Runner κ π) (models : List BenchmarkedModel) (s : Round π) : Prop where
  sem : s.sem.capacity = r.maxConc ∧ s.sem.closed = false
  bounded : s.sem.buffer.length ≤ r.maxConc
  tokens : s.sem.buffer.length = s.main.tokens + tally Goroutine.tokens s.goroutines
  finished : s.finished.capacity = models.length ∧ s.finished.closed = false
  signals : s.finished.buffer.length + s.main.received models.length =
    tally Goroutine.signals s.goroutines
  launched : s.main.Matches models.length s.goroutines.length

structure Ledger (r : Runner κ π) (models : List BenchmarkedModel) (s : Round π) : Prop where
  called : ∀ i, (s.callsOf i).length = (s.goroutines[i]?).elim 0 Goroutine.calls
  stored : ∀ i, (s.rowsOf i).length = (s.goroutines[i]?).elim 0 Goroutine.rows
  requests : ∀ call ∈ s.calls, ∃ m, models[call.1]? = some m ∧ call.2.2 = r.chatRequest m
  honest : ∀ i g, s.goroutines[i]? = some g → Honest r models i g
  named : ∀ entry ∈ s.rows, Named models entry.1 entry.2

theorem elim_set (f : Goroutine → ℕ) (h : s.goroutines[i]? = some g) (b : Goroutine) (j : ℕ) :
    ((s.goroutines.set i b)[j]?).elim 0 f =
      if i = j then f b else (s.goroutines[j]?).elim 0 f := by
  rw [List.getElem?_set]
  split_ifs with hj hlt
  · rfl
  · exact absurd (List.getElem?_eq_some_iff.mp h).1 hlt
  · rfl

theorem elim_begun {f : Goroutine → ℕ} (h : f .begun = 0) (l : List Goroutine) (j : ℕ) :
    ((l ++ [Goroutine.begun])[j]?).elim 0 f = (l[j]?).elim 0 f := by
  rcases Nat.lt_trichotomy j l.length with hj | rfl | hj
  · rw [List.getElem?_append_left hj]
  · simp [h]
  · rw [List.getElem?_eq_none (by simp; omega),List.getElem?_eq_none (by omega)]

theorem honest_move (hs : ∀ i g, s.goroutines[i]? = some g → Honest r models i g)
    (hb : Honest r models i b) {j : ℕ} (h : (s.goroutines.set i b)[j]? = some g) :
    Honest r models j g := by
  rw [List.getElem?_set] at h
  split_ifs at h with hj hlt
  · subst hj
    exact Option.some.inj h ▸ hb
  · exact hs j g h

theorem inv_start (r : Runner κ π) (models : List BenchmarkedModel) :
    Inv r models (start r models) := by
  cases models with
  | nil => exact ⟨⟨rfl,rfl⟩,Nat.zero_le _,rfl,⟨rfl,rfl⟩,rfl,rfl⟩
  | cons m models =>
    exact ⟨⟨rfl,rfl⟩,Nat.zero_le _,rfl,⟨rfl,rfl⟩,rfl,⟨rfl,Nat.succ_pos _⟩⟩

theorem ledger_start (r : Runner κ π) (models : List BenchmarkedModel) :
    Ledger r models (start r models) where
  called _ := rfl
  stored _ := rfl
  requests _ h := absurd h List.not_mem_nil
  honest _ _ h := by cases h
  named _ h := absurd h List.not_mem_nil

theorem Inv.move (h : Inv r models s) (hg : s.goroutines[i]? = some g) (b : Goroutine)
    (htokens : b.tokens = g.tokens) (hsignals : b.signals = g.signals) :
    Inv r models (s.move i b) := by
  have ht := tally_set (f := Goroutine.tokens) hg b
  have hd := tally_set (f := Goroutine.signals) hg b
  refine ⟨h.sem,h.bounded,?_,h.finished,?_,?_⟩
  · have := h.tokens
    simp only [Round.move]
    omega
  · have := h.signals
    simp only [Round.move]
    omega
  · simpa only [Round.move,List.length_set] using h.launched

theorem Inv.congr (h : Inv r models s) (hsem : t.sem = s.sem) (hfinished : t.finished = s.finished)
    (hmain : t.main = s.main) (hgoroutines : t.goroutines = s.goroutines) : Inv r models t := by
  constructor
  · exact hsem ▸ h.sem
  · exact hsem ▸ h.bounded
  · rw [hsem,hmain,hgoroutines]
    exact h.tokens
  · exact hfinished ▸ h.finished
  · rw [hfinished,hmain,hgoroutines]
    exact h.signals
  · rw [hmain,hgoroutines]
    exact h.launched

theorem Inv.acquired {sem : Channel Unit} (h : Inv r models s) (hmain : s.main = .acquiring i)
    (hsend : s.sem.send () = .done sem) :
    Inv r models { s with sem := sem, main := .launching i } := by
  have hroom := Channel.room_of_send_done hsend
  obtain ⟨-,rfl⟩ := Channel.of_send_done hsend
  have htokens := h.tokens
  have hsignals := h.signals
  have hlaunched := h.launched
  rw [hmain] at htokens hsignals hlaunched
  refine ⟨h.sem,?_,?_,h.finished,hsignals,hlaunched⟩
  · rw [h.sem.1] at hroom
    simp only [List.length_append,List.length_singleton]
    omega
  · simp only [Main.tokens,List.length_append,List.length_singleton] at htokens ⊢
    omega

theorem Inv.launch (h : Inv r models s) (hmain : s.main = .launching i) :
    Inv r models { s with
      goroutines := s.goroutines ++ [Goroutine.begun]
      main := if i + 1 < models.length then .acquiring (i + 1) else .collecting 0 } := by
  have htokens := h.tokens
  have hsignals := h.signals
  have hlaunched := h.launched
  rw [hmain] at htokens hsignals hlaunched
  obtain ⟨rfl,hi⟩ := hlaunched
  refine ⟨h.sem,h.bounded,?_,h.finished,?_,?_⟩
  · have hnext : (if s.goroutines.length + 1 < models.length then
        Main.acquiring (s.goroutines.length + 1) else .collecting 0).tokens = 0 := by
      split_ifs <;> rfl
    simp only [Main.tokens] at htokens
    simp only [hnext,tally_append,tally,Goroutine.tokens]
    omega
  · have hnext : (if s.goroutines.length + 1 < models.length then
        Main.acquiring (s.goroutines.length + 1) else .collecting 0).received models.length = 0 := by
      split_ifs <;> rfl
    simp only [Main.received] at hsignals
    simp only [hnext,tally_append,tally,Goroutine.signals]
    omega
  · split_ifs with hlast
    · exact ⟨by simp,hlast⟩
    · exact ⟨by simp; omega,by omega⟩

theorem Inv.released {result : Result} {token : Option Unit} {sem : Channel Unit}
    (h : Inv r models s) (hg : s.goroutines[i]? = some (.leaving result))
    (hreceive : s.sem.receive = .done (token,sem)) :
    Inv r models { s.move i (.signalling result) with sem := sem } := by
  obtain ⟨hlength,hcap,hopen⟩ := Channel.of_receive_open h.sem.2 hreceive
  have ht := tally_set (f := Goroutine.tokens) hg (.signalling result)
  have hd := tally_set (f := Goroutine.signals) hg (.signalling result)
  have htokens := h.tokens
  have hsignals := h.signals
  have hbounded := h.bounded
  simp only [Goroutine.tokens] at ht
  simp only [Goroutine.signals] at hd
  refine ⟨⟨hcap.trans h.sem.1,hopen⟩,?_,?_,h.finished,?_,?_⟩
  · simp only
    omega
  · simp only [Round.move]
    omega
  · simp only [Round.move]
    omega
  · simpa only [Round.move,List.length_set] using h.launched

theorem Inv.signalled {result : Result} {finished : Channel Unit}
    (h : Inv r models s) (hg : s.goroutines[i]? = some (.signalling result))
    (hsend : s.finished.send () = .done finished) :
    Inv r models { s.move i (.exited result) with finished := finished } := by
  obtain ⟨-,rfl⟩ := Channel.of_send_done hsend
  have ht := tally_set (f := Goroutine.tokens) hg (.exited result)
  have hd := tally_set (f := Goroutine.signals) hg (.exited result)
  have htokens := h.tokens
  have hsignals := h.signals
  simp only [Goroutine.tokens] at ht
  simp only [Goroutine.signals] at hd
  refine ⟨h.sem,h.bounded,?_,h.finished,?_,?_⟩
  · simp only [Round.move]
    omega
  · simp only [Round.move,List.length_append,List.length_singleton]
    omega
  · simpa only [Round.move,List.length_set] using h.launched

theorem Inv.collected {j : ℕ} {token : Option Unit} {finished : Channel Unit}
    (h : Inv r models s) (hmain : s.main = .collecting j)
    (hreceive : s.finished.receive = .done (token,finished)) :
    Inv r models { s with
      finished := finished
      main := if j + 1 < models.length then .collecting (j + 1) else .returned } := by
  obtain ⟨hlength,hcap,hopen⟩ := Channel.of_receive_open h.finished.2 hreceive
  have htokens := h.tokens
  have hsignals := h.signals
  have hlaunched := h.launched
  rw [hmain] at htokens hsignals hlaunched
  simp only [Main.tokens] at htokens
  simp only [Main.received] at hsignals
  obtain ⟨hlength',hj⟩ := hlaunched
  refine ⟨h.sem,h.bounded,?_,⟨hcap.trans h.finished.1,hopen⟩,?_,?_⟩
  · split_ifs <;> exact htokens
  · split_ifs with hlast <;> simp only [Main.received] <;> omega
  · split_ifs with hlast
    · exact ⟨hlength',hlast⟩
    · exact hlength'

theorem Inv.step (h : Inv r models s) (hstep : Round.step r models s e = some t) :
    Inv r models t := by
  cases taken_of_step hstep with
  | acquired hmain hsend => exact h.acquired hmain hsend
  | launched hmain => exact h.launch hmain
  | unprovided hm hg hp => exact h.move hg _ rfl rfl
  | called hm hg => exact (h.move hg .calling rfl rfl).congr rfl rfl rfl rfl
  | answered hm hg => exact h.move hg _ rfl rfl
  | stored hg => exact (h.move hg (.leaving .stored) rfl rfl).congr rfl rfl rfl rfl
  | unstored hg => exact h.move hg _ rfl rfl
  | released hg hreceive => exact h.released hg hreceive
  | signalled hg hsend => exact h.signalled hg hsend
  | collected hmain hreceive => exact h.collected hmain hreceive

theorem length_filter_concat {α : Type} (l : List (ℕ × α)) (i : ℕ) (a : α) (j : ℕ) :
    ((l ++ [(i,a)]).filter (fun entry => entry.1 = j)).length =
      (l.filter (fun entry => entry.1 = j)).length + if i = j then 1 else 0 := by
  rw [List.filter_append,List.length_append]
  split_ifs with h <;> simp [h]

theorem Ledger.congr (h : Ledger r models s) (hcalls : t.calls = s.calls) (hrows : t.rows = s.rows)
    (hgoroutines : t.goroutines = s.goroutines) : Ledger r models t := by
  constructor
  · intro i
    rw [callsOf,hcalls,hgoroutines]
    exact h.called i
  · intro i
    rw [rowsOf,hrows,hgoroutines]
    exact h.stored i
  · exact hcalls ▸ h.requests
  · exact hgoroutines ▸ h.honest
  · exact hrows ▸ h.named

theorem Ledger.launch (h : Ledger r models s) (next : Main) :
    Ledger r models { s with goroutines := s.goroutines ++ [Goroutine.begun], main := next } := by
  constructor
  · intro i
    rw [elim_begun rfl]
    exact h.called i
  · intro i
    rw [elim_begun rfl]
    exact h.stored i
  · exact h.requests
  · intro i g hi
    rcases Nat.lt_or_ge i s.goroutines.length with hlt | hge
    · exact h.honest i g (by rwa [List.getElem?_append_left hlt] at hi)
    · rw [List.getElem?_append_right hge] at hi
      rw [List.mem_singleton.mp (List.mem_of_getElem? hi)]
      exact trivial
  · exact h.named

theorem Ledger.move (h : Ledger r models s) (hg : s.goroutines[i]? = some g) (b : Goroutine)
    (hcalls : b.calls = g.calls) (hrows : b.rows = g.rows)
    (hb : Honest r models i b) :
    Ledger r models (s.move i b) := by
  constructor
  · intro j
    rw [Round.move,elim_set _ hg]
    split_ifs with hj
    · subst hj
      rw [hcalls]
      exact (h.called i).trans (by rw [hg]; rfl)
    · exact h.called j
  · intro j
    rw [Round.move,elim_set _ hg]
    split_ifs with hj
    · subst hj
      rw [hrows]
      exact (h.stored i).trans (by rw [hg]; rfl)
    · exact h.stored j
  · exact h.requests
  · exact fun j g hj => honest_move h.honest hb hj
  · exact h.named

theorem Ledger.call {m : BenchmarkedModel} {p : π} (h : Ledger r models s)
    (hm : models[i]? = some m) (hg : s.goroutines[i]? = some .begun) :
    Ledger r models { s.move i .calling with calls := s.calls ++ [(i,p,r.chatRequest m)] } := by
  constructor
  · intro j
    have hcalled := h.called j
    simp only [callsOf,Round.move] at hcalled ⊢
    rw [length_filter_concat,elim_set _ hg,hcalled]
    split_ifs with hj
    · subst hj
      rw [hg]
      rfl
    · rfl
  · intro j
    have hstored := h.stored j
    simp only [rowsOf,Round.move] at hstored ⊢
    rw [elim_set _ hg,hstored]
    split_ifs with hj
    · subst hj
      rw [hg]
      rfl
    · rfl
  · intro call hcall
    rcases List.mem_append.mp hcall with hcall | hcall
    · exact h.requests call hcall
    · rw [List.mem_singleton.mp hcall]
      exact ⟨m,hm,rfl⟩
  · intro j g hj
    have hb : Honest r models i .calling := trivial
    exact honest_move h.honest hb hj
  · exact h.named

theorem Ledger.store {row : ModelBenchmarkRow} (h : Ledger r models s)
    (hg : s.goroutines[i]? = some (.storing row)) :
    Ledger r models { s.move i (.leaving .stored) with rows := s.rows ++ [(i,row)] } := by
  constructor
  · intro j
    have hcalled := h.called j
    simp only [callsOf,Round.move] at hcalled ⊢
    rw [elim_set _ hg,hcalled]
    split_ifs with hj
    · subst hj
      rw [hg]
      rfl
    · rfl
  · intro j
    have hstored := h.stored j
    simp only [rowsOf,Round.move] at hstored ⊢
    rw [length_filter_concat,elim_set _ hg,hstored]
    split_ifs with hj
    · subst hj
      rw [hg]
      rfl
    · rfl
  · exact h.requests
  · intro j g hj
    have hb : Honest r models i (.leaving .stored) := fun hresult => by cases hresult
    exact honest_move h.honest hb hj
  · intro entry hentry
    rcases List.mem_append.mp hentry with hentry | hentry
    · exact h.named entry hentry
    · rw [List.mem_singleton.mp hentry]
      exact h.honest i _ hg

theorem named_benchmarkRow {m : BenchmarkedModel} (hm : models[i]? = some m) (latencyMs : ℤ)
    (reply : Reply) : Named models i (benchmarkRow m latencyMs reply) := by
  refine ⟨m,hm,?_⟩
  cases reply with
  | failed message => exact ⟨rfl,rfl⟩
  | answered usage => cases usage <;> exact ⟨rfl,rfl⟩

theorem Ledger.step (h : Ledger r models s) (hstep : Round.step r models s e = some t) :
    Ledger r models t := by
  cases taken_of_step hstep with
  | acquired hmain hsend => exact h.congr rfl rfl rfl
  | launched hmain => exact h.launch _
  | unprovided hm hg hp => exact h.move hg _ rfl rfl (fun _ => ⟨_,_,hm,hp⟩)
  | called hm hg => exact h.call hm hg
  | answered hm hg => exact h.move hg _ rfl rfl (named_benchmarkRow hm _ _)
  | stored hg => exact h.store hg
  | unstored hg => exact h.move hg _ rfl rfl (fun hresult => by cases hresult)
  | released hg hreceive =>
    exact (h.move hg (.signalling _) rfl rfl (h.honest _ (.leaving _) hg)).congr rfl rfl rfl
  | signalled hg hsend =>
    exact (h.move hg (.exited _) rfl rfl (h.honest _ (.signalling _) hg)).congr rfl rfl rfl
  | collected hmain hreceive => exact h.congr rfl rfl rfl

def stepsLeft (models : List BenchmarkedModel) (s : Round π) : ℕ :=
  s.main.stepsLeft models.length + tally Goroutine.stepsLeft s.goroutines

theorem stepsLeft_start (r : Runner κ π) (models : List BenchmarkedModel) :
    (start r models).stepsLeft models ≤ 8 * models.length := by
  cases models with
  | nil => exact Nat.zero_le _
  | cons m models =>
    simp only [stepsLeft,start,Main.stepsLeft,tally]
    omega

theorem stepsLeft_move (hg : s.goroutines[i]? = some g) (b : Goroutine) (hlt : b.stepsLeft < g.stepsLeft) :
    (s.move i b).stepsLeft models < s.stepsLeft models := by
  have ht := tally_set (f := Goroutine.stepsLeft) hg b
  simp only [stepsLeft,Round.move]
  omega

theorem Inv.stepsLeft_lt (h : Inv r models s) (hstep : Round.step r models s e = some t) :
    t.stepsLeft models < s.stepsLeft models := by
  have hlaunched := h.launched
  cases taken_of_step hstep with
  | acquired hmain hsend =>
    rw [hmain] at hlaunched
    obtain ⟨-,hi⟩ := hlaunched
    simp only [stepsLeft,hmain,Main.stepsLeft]
    omega
  | launched hmain =>
    rw [hmain] at hlaunched
    obtain ⟨-,hi⟩ := hlaunched
    simp only [stepsLeft,hmain,tally_append,tally,Goroutine.stepsLeft]
    split_ifs with hlast <;> simp only [Main.stepsLeft] <;> omega
  | unprovided hm hg hp => exact stepsLeft_move hg _ (by decide)
  | called hm hg => exact stepsLeft_move hg .calling (by decide)
  | answered hm hg => exact stepsLeft_move hg _ (Nat.lt_succ_self 3)
  | stored hg => exact stepsLeft_move hg (.leaving .stored) (Nat.lt_succ_self 2)
  | unstored hg => exact stepsLeft_move hg _ (Nat.lt_succ_self 2)
  | released hg hreceive => exact stepsLeft_move hg (.signalling _) (Nat.lt_succ_self 1)
  | signalled hg hsend => exact stepsLeft_move hg (.exited _) (Nat.lt_succ_self 0)
  | collected hmain hreceive =>
    rw [hmain] at hlaunched
    obtain ⟨-,hj⟩ := hlaunched
    simp only [stepsLeft,hmain]
    split_ifs with hlast <;> simp only [Main.stepsLeft] <;> omega

theorem Inv.length_le (h : Inv r models s) : s.goroutines.length ≤ models.length := by
  have hlaunched := h.launched
  cases hmain : s.main with
  | acquiring i | launching i =>
    rw [hmain] at hlaunched
    obtain ⟨rfl,hi⟩ := hlaunched
    exact Nat.le_of_lt hi
  | collecting j =>
    rw [hmain] at hlaunched
    exact Nat.le_of_eq hlaunched.1
  | returned =>
    rw [hmain] at hlaunched
    exact Nat.le_of_eq hlaunched

theorem Inv.goroutine_steps (h : Inv r models s) (hg : s.goroutines[i]? = some g)
    (hlive : g.signals = 0) : ∃ e t, Round.step r models s e = some t := by
  have hi : i < models.length :=
    Nat.lt_of_lt_of_le (List.getElem?_eq_some_iff.mp hg).1 h.length_le
  obtain ⟨m,hm⟩ : ∃ m, models[i]? = some m := ⟨models[i],List.getElem?_eq_getElem hi⟩
  cases g with
  | begun =>
    refine ⟨.resolve i none,?_⟩
    simp only [Round.step,hm,hg,Option.bind_some,resolve]
    split <;> exact ⟨_,rfl⟩
  | calling =>
    refine ⟨.answer i (.answered none) 0,?_⟩
    simp only [Round.step,hm,hg,Option.bind_some,answer]
    exact ⟨_,rfl⟩
  | storing row =>
    refine ⟨.store i true,?_⟩
    simp only [Round.step,hg,Option.bind_some,store]
    exact ⟨_,rfl⟩
  | leaving result =>
    have htoken := le_tally (f := Goroutine.tokens) hg
    have htokens := h.tokens
    simp only [Goroutine.tokens] at htoken
    obtain ⟨token,sem,hreceive⟩ := Channel.receive_of_pos (c := s.sem) (by omega)
    refine ⟨.release i,?_⟩
    simp only [Round.step,hg,Option.bind_some,release,hreceive]
    exact ⟨_,rfl⟩
  | signalling result =>
    have hfew := tally_lt_length Goroutine.signals_le_one hg hlive
    have hsignals := h.signals
    have hlength := h.length_le
    have hroom : s.finished.buffer.length < s.finished.capacity := by
      rw [h.finished.1]
      omega
    refine ⟨.signal i,?_⟩
    simp only [Round.step,hg,Option.bind_some,signal,Channel.send_of_room h.finished.2 hroom]
    exact ⟨_,rfl⟩
  | exited result => cases hlive

theorem signals_of_tokens (h : 0 < g.tokens) : g.signals = 0 := by
  cases g <;> first | rfl | exact absurd h (Nat.lt_irrefl 0)

theorem Inv.progress (h : Inv r models s) (hmain : s.main ≠ .returned) :
    ∃ e t, Round.step r models s e = some t := by
  have htokens := h.tokens
  have hsignals := h.signals
  have hlaunched := h.launched
  cases hm : s.main with
  | launching i =>
    refine ⟨.launch,?_⟩
    simp only [Round.step,Round.launch,hm]
    exact ⟨_,rfl⟩
  | acquiring i =>
    rcases Nat.lt_or_eq_of_le h.bounded with hroom | hfull
    · refine ⟨.acquire,?_⟩
      rw [← h.sem.1] at hroom
      simp only [Round.step,acquire,hm,Channel.send_of_room h.sem.2 hroom]
      exact ⟨_,rfl⟩
    · rw [hm] at htokens
      have hpos := r.maxConc_pos
      simp only [Main.tokens] at htokens
      obtain ⟨i,g,hg,hpos⟩ := exists_pos_of_tally_pos (f := Goroutine.tokens) (l := s.goroutines)
        (by omega)
      exact h.goroutine_steps hg (signals_of_tokens hpos)
  | collecting j =>
    rw [hm] at hsignals hlaunched
    simp only [Main.received] at hsignals
    obtain ⟨hlength,hj⟩ := hlaunched
    rcases Nat.eq_zero_or_pos s.finished.buffer.length with hempty | hpos
    · obtain ⟨i,g,hg,hzero⟩ := exists_zero_of_tally_lt (f := Goroutine.signals)
        (l := s.goroutines) (by omega)
      exact h.goroutine_steps hg hzero
    · obtain ⟨token,finished,hreceive⟩ := Channel.receive_of_pos hpos
      refine ⟨.collect,?_⟩
      simp only [Round.step,collect,hm,hreceive]
      exact ⟨_,rfl⟩
  | returned => exact absurd hm hmain

def Complete (r : Runner κ π) (models : List BenchmarkedModel) (s : Round π) : Prop :=
  ∀ i m, models[i]? = some m → ∃ result, s.goroutines[i]? = some (.exited result) ∧
    (result = .unprovided → m.baseURL ≠ "" ∧ ∃ resolved, r.providerForModel resolved m = none) ∧
    (s.callsOf i).length = (if result = .unprovided then 0 else 1) ∧
    (s.rowsOf i).length = (if result = .stored then 1 else 0)

theorem complete_of_returned (h : Inv r models s) (hl : Ledger r models s)
    (hregistered : ∀ m ∈ models, (r.registry m.provider).isSome) (hmain : s.main = .returned) :
    Complete r models s := by
  intro i m hm
  have hsignals := h.signals
  have hlaunched := h.launched
  rw [hmain] at hsignals hlaunched
  have hlength : s.goroutines.length = models.length := hlaunched
  simp only [Main.received] at hsignals
  have hle := tally_le_length Goroutine.signals_le_one s.goroutines
  have hi : i < s.goroutines.length := hlength ▸ (List.getElem?_eq_some_iff.mp hm).1
  have hg : s.goroutines[i]? = some s.goroutines[i] := List.getElem?_eq_getElem hi
  have hone := eq_one_of_tally Goroutine.signals_le_one (by omega) hg
  have hcalled := hl.called i
  have hstored := hl.stored i
  rw [hg] at hcalled hstored
  generalize s.goroutines[i] = g at hg hone hcalled hstored
  cases g with
  | exited result =>
    refine ⟨result,hg,?_,hcalled,hstored⟩
    intro hresult
    obtain ⟨m',resolved,hm',hp⟩ := hl.honest i _ hg hresult
    obtain rfl : m = m' := Option.some.inj (hm.symm.trans hm')
    refine ⟨?_,resolved,hp⟩
    intro hbase
    rw [Runner.providerForModel,if_pos hbase] at hp
    have hsome := hregistered m (List.mem_of_getElem? hm)
    rw [hp] at hsome
    cases hsome
  | _ => cases hone

theorem elim_le_one {f : Goroutine → ℕ} (h : ∀ g, f g ≤ 1) (o : Option Goroutine) :
    o.elim 0 f ≤ 1 := by
  cases o with
  | none => exact Nat.zero_le 1
  | some g => exact h g

theorem inv_run {es : List (Event κ)} (hs : Inv r models s ∧ Ledger r models s)
    (h : exec (Round.step r models) s es = some t) :
    (Inv r models t ∧ Ledger r models t) ∧ es.length + t.stepsLeft models ≤ s.stepsLeft models := by
  induction es generalizing s with
  | nil =>
    obtain rfl : s = t := Option.some.inj h
    exact ⟨hs,by simp⟩
  | cons e es ih =>
    obtain ⟨u,hu,hx⟩ := Option.bind_eq_some_iff.mp h
    obtain ⟨hinv,hlen⟩ := ih ⟨hs.1.step hu,hs.2.step hu⟩ hx
    have hlt := hs.1.stepsLeft_lt hu
    refine ⟨hinv,?_⟩
    rw [List.length_cons]
    omega

end Round

structure Round.Sound {κ π : Type} (r : Runner κ π) (models : List BenchmarkedModel)
    (s : Round π) : Prop where
  concurrency : tally Goroutine.inCall s.goroutines ≤ r.maxConc
  once : ∀ i, (s.callsOf i).length ≤ 1 ∧ (s.rowsOf i).length ≤ 1
  calls : ∀ call ∈ s.calls, ∃ m, models[call.1]? = some m ∧ m.type ≠ "embedding" ∧
    m.mock.enabled = false ∧ call.2.2 = r.chatRequest m
  rows : ∀ entry ∈ s.rows, Round.Named models entry.1 entry.2

theorem Runner.eligible {κ π : Type} {r : Runner κ π} {resolved : Option (GlobalConfig κ)}
    {m : BenchmarkedModel} (h : m ∈ r.eligibleModels resolved) :
    m.type ≠ "embedding" ∧ m.mock.enabled = false ∧ (r.registry m.provider).isSome := by
  have heligible := (List.mem_filter.mp h).2
  simpa only [Bool.and_eq_true,decide_eq_true_eq,Bool.not_eq_true',and_assoc] using heligible

theorem Round.sound {κ π : Type} {r : Runner κ π} {resolved : Option (GlobalConfig κ)}
    {s : Round π} (h : Inv r (r.eligibleModels resolved) s)
    (hl : Ledger r (r.eligibleModels resolved) s) : Sound r (r.eligibleModels resolved) s where
  concurrency := by
    have hcalls := tally_mono Goroutine.inCall_le_tokens s.goroutines
    have htokens := h.tokens
    have hbounded := h.bounded
    omega
  once i := ⟨(hl.called i).trans_le (elim_le_one Goroutine.calls_le_one _),
    (hl.stored i).trans_le (elim_le_one Goroutine.rows_le_one _)⟩
  calls call hcall := by
    obtain ⟨m,hm,hrequest⟩ := hl.requests call hcall
    obtain ⟨htype,hmock,-⟩ := Runner.eligible (List.mem_of_getElem? hm)
    exact ⟨m,hm,htype,hmock,hrequest⟩
  rows := hl.named

theorem benchmark_round {κ π : Type} {r : Runner κ π} {resolved : Option (GlobalConfig κ)}
    {es : List (Event κ)} {s : Round π}
    (h : exec (Round.step r (r.eligibleModels resolved))
      (Round.start r (r.eligibleModels resolved)) es = some s) :
    s.Sound r (r.eligibleModels resolved) ∧
    es.length ≤ 8 * (r.eligibleModels resolved).length ∧
    (s.main = .returned → s.Complete r (r.eligibleModels resolved)) ∧
    (s.main ≠ .returned → ∃ e t, Round.step r (r.eligibleModels resolved) s e = some t) := by
  obtain ⟨⟨hinv,hl⟩,hlength⟩ := Round.inv_run
    ⟨Round.inv_start r _,Round.ledger_start r _⟩ h
  have hstart := Round.stepsLeft_start r (r.eligibleModels resolved)
  refine ⟨Round.sound hinv hl,?_,?_,?_⟩
  · omega
  · exact fun hmain => Round.complete_of_returned hinv hl
      (fun m hm => (Runner.eligible hm).2.2) hmain
  · exact fun hmain => hinv.progress hmain

def narrowRunner : Runner Unit Unit where
  cfg := { maxConcurrency := 1 }
  yaml := ⟨[{ name := "gpt-4o", provider := "openai" },{ name := "grok-2", provider := "xai" }],
    fun _ => none⟩
  cached := false
  registry _ := some ()
  withBaseURL _ _ := ()
  pairFromConfig _ := none

def narrowRun : List (Event Unit) :=
  [.acquire,.launch,.resolve 0 none,.answer 0 (.answered none) 40,.store 0 true,.release 0,
    .acquire,.launch,.resolve 1 none,.signal 0,.collect,.answer 1 (.failed "status 429") 90,
    .store 1 true,.release 1,.signal 1,.collect]

theorem narrow_round : ∃ s, exec (Round.step narrowRunner (narrowRunner.eligibleModels none))
      (Round.start narrowRunner (narrowRunner.eligibleModels none)) narrowRun = some s ∧
    s.main = .returned ∧ s.Complete narrowRunner (narrowRunner.eligibleModels none) ∧
    s.Sound narrowRunner (narrowRunner.eligibleModels none) := by
  refine ⟨_,rfl,rfl,?_⟩
  have h := @benchmark_round _ _ narrowRunner none narrowRun _ rfl
  exact ⟨h.2.2.1 rfl,h.1⟩

end PrismGateway.Benchmarking
