import PrismGateway.Lib.Channel
import PrismGateway.Lib.Run

namespace PrismGateway.Orchestrator.Stats

open Lib

variable {σ : Type}

inductive Phase where
  | begun
  | checked
  | overflowed
  | returned (queued : Bool)
  | panicked
  deriving DecidableEq

/-- A call of `Submit`, or of `SubmitBlocking`, which waits for room until its timer fires. -/
structure Call (σ : Type) where
  stat : σ
  blocking : Bool
  phase : Phase
  deriving DecidableEq

inductive Worker (σ : Type) where
  | ranging
  | upserting (item : ℕ × σ)
  | exited
  deriving DecidableEq

inductive StopPhase where
  | begun
  | swapped
  | waiting
  | returned
  | panicked
  deriving DecidableEq

structure Sizes where
  queueSize : ℕ
  workers : ℕ
  manned : 0 < workers

/-- A stat carries the number of the call that queued it. `upserted` lists the stats that workers have
handed to the store and `counted` the calls that have added one to `dropped`. -/
structure Dispatcher (σ : Type) where
  queue : Channel (ℕ × σ)
  workers : List (Worker σ)
  stopped : Bool
  dropped : ℕ
  calls : List (Call σ)
  stops : List StopPhase
  upserted : List (ℕ × σ)
  counted : List ℕ

inductive Event (σ : Type) where
  | submit (stat : σ) (blocking : Bool)
  | load (i : ℕ)
  | send (i : ℕ)
  | sendTo (i k : ℕ)
  | giveUp (i : ℕ)
  | drop (i : ℕ)
  | stop
  | swap (j : ℕ)
  | close (j : ℕ)
  | finish (j : ℕ) (timeout : Bool)
  | receive (k : ℕ)
  | upsert (k : ℕ)

def NewStatsDispatcher (sizes : Sizes) : Dispatcher σ :=
  ⟨Channel.make sizes.queueSize,List.replicate sizes.workers .ranging,false,0,[],[],[],[]⟩

namespace Dispatcher

variable (d : Dispatcher σ)

def move (i : ℕ) (c : Call σ) (phase : Phase) : Dispatcher σ :=
  { d with calls := d.calls.set i { c with phase := phase } }

def load (i : ℕ) (c : Call σ) : Option (Dispatcher σ) :=
  match c.phase with
  | .begun => some (d.move i c (if d.stopped then .returned false else .checked))
  | _ => none

def send (i : ℕ) (c : Call σ) : Option (Dispatcher σ) :=
  match c.phase with
  | .checked => match d.queue.send (i,c.stat) with
    | .done queue => some { d.move i c (.returned true) with queue := queue }
    | .blocked => none
    | .panicked => some (d.move i c .panicked)
  | _ => none

def sendTo (i : ℕ) (c : Call σ) (k : ℕ) : Option (Dispatcher σ) :=
  match c.phase, d.workers[k]? with
  | .checked, some .ranging =>
    if d.queue.handsOver then
      some { d.move i c (.returned true) with workers := d.workers.set k (.upserting (i,c.stat)) }
    else none
  | _, _ => none

def giveUp (i : ℕ) (c : Call σ) : Option (Dispatcher σ) :=
  match c.phase with
  | .checked => match c.blocking, d.queue.send (i,c.stat) with
    | true, _ => some (d.move i c .overflowed)
    | false, .blocked => some (d.move i c .overflowed)
    | false, _ => none
  | _ => none

def drop (i : ℕ) (c : Call σ) : Option (Dispatcher σ) :=
  match c.phase with
  | .overflowed => some { d.move i c (.returned false) with
      dropped := d.dropped + 1
      counted := d.counted ++ [i] }
  | _ => none

def moveStop (j : ℕ) (phase : StopPhase) : Dispatcher σ := { d with stops := d.stops.set j phase }

def swap (j : ℕ) : StopPhase → Option (Dispatcher σ)
  | .begun =>
    if d.stopped then some (d.moveStop j .returned)
    else some { d.moveStop j .swapped with stopped := true }
  | _ => none

def close (j : ℕ) : StopPhase → Option (Dispatcher σ)
  | .swapped => match d.queue.close with
    | .done queue => some { d.moveStop j .waiting with queue := queue }
    | .blocked => none
    | .panicked => some (d.moveStop j .panicked)
  | _ => none

def allExited : Bool := d.workers.all (fun w => match w with | .exited => true | _ => false)

def finish (j : ℕ) (timeout : Bool) : StopPhase → Option (Dispatcher σ)
  | .waiting => if timeout || d.allExited then some (d.moveStop j .returned) else none
  | _ => none

def receive (k : ℕ) : Worker σ → Option (Dispatcher σ)
  | .ranging => match d.queue.receive with
    | .done (some item,queue) =>
      some { d with queue := queue, workers := d.workers.set k (.upserting item) }
    | .done (none,_) => some { d with workers := d.workers.set k .exited }
    | _ => none
  | _ => none

def upsert (k : ℕ) : Worker σ → Option (Dispatcher σ)
  | .upserting item => some { d with
      workers := d.workers.set k .ranging
      upserted := d.upserted ++ [item] }
  | _ => none

def step (d : Dispatcher σ) : Event σ → Option (Dispatcher σ)
  | .submit stat blocking => some { d with calls := d.calls ++ [⟨stat,blocking,.begun⟩] }
  | .load i => (d.calls[i]?).bind (d.load i)
  | .send i => (d.calls[i]?).bind (d.send i)
  | .sendTo i k => (d.calls[i]?).bind (fun c => d.sendTo i c k)
  | .giveUp i => (d.calls[i]?).bind (d.giveUp i)
  | .drop i => (d.calls[i]?).bind (d.drop i)
  | .stop => some { d with stops := d.stops ++ [.begun] }
  | .swap j => (d.stops[j]?).bind (d.swap j)
  | .close j => (d.stops[j]?).bind (d.close j)
  | .finish j timeout => (d.stops[j]?).bind (d.finish j timeout)
  | .receive k => (d.workers[k]?).bind (d.receive k)
  | .upsert k => (d.workers[k]?).bind (d.upsert k)

structure Sound : Prop where
  neverOnClosed : ∀ c ∈ d.calls, c.phase ≠ .panicked
  atMostOnce : ∀ i, (d.upserted.filter (fun item => item.1 = i)).length ≤ 1
  processed : d.allExited = true → ∀ i c, d.calls[i]? = some c → c.phase = .returned true →
    d.upserted.filter (fun item => item.1 = i) = [(i,c.stat)]
  refused : ∀ i c, d.calls[i]? = some c → c.phase = .returned false →
    i ∈ d.counted ∨ d.stopped = true
  dropped : d.dropped = d.counted.length ∧ d.counted.Nodup

def Quiet (d : Dispatcher σ) : Event σ → Prop
  | .close _ => ∀ c ∈ d.calls, c.phase ≠ .checked
  | _ => True

instance (d : Dispatcher σ) : ∀ e, Decidable (d.Quiet e)
  | .close _ => inferInstanceAs (Decidable (∀ c ∈ d.calls, c.phase ≠ .checked))
  | .submit _ _ | .load _ | .send _ | .sendTo _ _ | .giveUp _ | .drop _ | .stop | .swap _
  | .finish _ _ | .receive _ | .upsert _ => .isTrue trivial

inductive Taken (d : Dispatcher σ) : Event σ → Dispatcher σ → Prop
  | submit (stat : σ) (blocking : Bool) :
      Taken d (.submit stat blocking) { d with calls := d.calls ++ [⟨stat,blocking,.begun⟩] }
  | refused {i : ℕ} {c : Call σ} (hc : d.calls[i]? = some c) (hphase : c.phase = .begun)
      (hstopped : d.stopped = true) : Taken d (.load i) (d.move i c (.returned false))
  | checked {i : ℕ} {c : Call σ} (hc : d.calls[i]? = some c) (hphase : c.phase = .begun)
      (hstopped : d.stopped = false) : Taken d (.load i) (d.move i c .checked)
  | queued {i : ℕ} {c : Call σ} (hc : d.calls[i]? = some c) (hphase : c.phase = .checked)
      (hopen : d.queue.closed = false) : Taken d (.send i) { d.move i c (.returned true) with
        queue := { d.queue with buffer := d.queue.buffer ++ [(i,c.stat)] } }
  | crashed {i : ℕ} {c : Call σ} (hc : d.calls[i]? = some c) (hphase : c.phase = .checked)
      (hclosed : d.queue.closed = true) : Taken d (.send i) (d.move i c .panicked)
  | handed {i k : ℕ} {c : Call σ} (hc : d.calls[i]? = some c) (hphase : c.phase = .checked)
      (hk : d.workers[k]? = some .ranging) (hopen : d.queue.closed = false)
      (hbuffer : d.queue.buffer = []) : Taken d (.sendTo i k) { d.move i c (.returned true) with
        workers := d.workers.set k (.upserting (i,c.stat)) }
  | overflowed {i : ℕ} {c : Call σ} (hc : d.calls[i]? = some c) (hphase : c.phase = .checked)
      (hfull : c.blocking = true ∨ d.queue.send (i,c.stat) = .blocked) :
      Taken d (.giveUp i) (d.move i c .overflowed)
  | dropped {i : ℕ} {c : Call σ} (hc : d.calls[i]? = some c) (hphase : c.phase = .overflowed) :
      Taken d (.drop i) { d.move i c (.returned false) with
        dropped := d.dropped + 1
        counted := d.counted ++ [i] }
  | stop : Taken d .stop { d with stops := d.stops ++ [.begun] }
  | late {j : ℕ} (hj : d.stops[j]? = some .begun) (hstopped : d.stopped = true) :
      Taken d (.swap j) (d.moveStop j .returned)
  | swapped {j : ℕ} (hj : d.stops[j]? = some .begun) (hstopped : d.stopped = false) :
      Taken d (.swap j) { d.moveStop j .swapped with stopped := true }
  | closed {j : ℕ} (hj : d.stops[j]? = some .swapped) (hopen : d.queue.closed = false) :
      Taken d (.close j) { d.moveStop j .waiting with queue := { d.queue with closed := true } }
  | reclosed {j : ℕ} (hj : d.stops[j]? = some .swapped) (hclosed : d.queue.closed = true) :
      Taken d (.close j) (d.moveStop j .panicked)
  | finished {j : ℕ} {timeout : Bool} (hj : d.stops[j]? = some .waiting)
      (hdone : timeout = true ∨ d.allExited = true) : Taken d (.finish j timeout) (d.moveStop j .returned)
  | received {k : ℕ} {item : ℕ × σ} {queue : Channel (ℕ × σ)} (hk : d.workers[k]? = some .ranging)
      (hbuffer : d.queue.buffer = item :: queue.buffer) (hclosed : queue.closed = d.queue.closed) :
      Taken d (.receive k) { d with
        queue := queue
        workers := d.workers.set k (.upserting item) }
  | exited {k : ℕ} (hk : d.workers[k]? = some .ranging) (hclosed : d.queue.closed = true)
      (hbuffer : d.queue.buffer = []) :
      Taken d (.receive k) { d with workers := d.workers.set k .exited }
  | upserted {k : ℕ} {item : ℕ × σ} (hk : d.workers[k]? = some (.upserting item)) :
      Taken d (.upsert k) { d with
        workers := d.workers.set k .ranging
        upserted := d.upserted ++ [item] }

variable {d} {d' : Dispatcher σ} {i j k : ℕ} {c : Call σ} {e : Event σ}

theorem taken_load (hc : d.calls[i]? = some c) (h : d.load i c = some d') : Taken d (.load i) d' := by
  unfold load at h
  split at h
  · next hphase =>
    cases hstopped : d.stopped with
    | true =>
      simp only [hstopped,if_true,Option.some.injEq] at h
      exact h ▸ .refused hc hphase hstopped
    | false =>
      simp only [hstopped,Bool.false_eq_true,if_false,Option.some.injEq] at h
      exact h ▸ .checked hc hphase hstopped
  · cases h

theorem taken_send (hc : d.calls[i]? = some c) (h : d.send i c = some d') : Taken d (.send i) d' := by
  unfold send at h
  split at h
  · next hphase =>
    split at h
    · next queue hsend =>
      obtain ⟨hopen,rfl⟩ := Channel.of_send_done hsend
      cases h
      exact .queued hc hphase hopen
    · cases h
    · next hsend =>
      cases h
      exact .crashed hc hphase (Channel.closed_of_send_panicked hsend)
  · cases h

theorem taken_sendTo (hc : d.calls[i]? = some c) (h : d.sendTo i c k = some d') :
    Taken d (.sendTo i k) d' := by
  unfold sendTo at h
  split at h
  · next hphase hk =>
    split at h
    · next hover =>
      cases h
      obtain ⟨hopen,hbuffer⟩ := Channel.of_handsOver hover
      exact .handed hc hphase hk hopen hbuffer
    · cases h
  · cases h

theorem taken_giveUp (hc : d.calls[i]? = some c) (h : d.giveUp i c = some d') :
    Taken d (.giveUp i) d' := by
  unfold giveUp at h
  split at h
  · next hphase =>
    split at h
    · next hblocking => exact Option.some.inj h ▸ .overflowed hc hphase (.inl hblocking)
    · next hsend => exact Option.some.inj h ▸ .overflowed hc hphase (.inr hsend)
    · cases h
  · cases h

theorem taken_drop (hc : d.calls[i]? = some c) (h : d.drop i c = some d') : Taken d (.drop i) d' := by
  unfold drop at h
  split at h
  · next hphase => exact Option.some.inj h ▸ .dropped hc hphase
  · cases h

theorem taken_swap {p : StopPhase} (hj : d.stops[j]? = some p) (h : d.swap j p = some d') :
    Taken d (.swap j) d' := by
  cases p with
  | begun =>
    simp only [swap] at h
    split at h
    · next hstopped => exact Option.some.inj h ▸ .late hj hstopped
    · next hstopped => exact Option.some.inj h ▸ .swapped hj (by simpa using hstopped)
  | _ => cases h

theorem taken_close {p : StopPhase} (hj : d.stops[j]? = some p) (h : d.close j p = some d') :
    Taken d (.close j) d' := by
  cases p with
  | swapped =>
    simp only [close] at h
    split at h
    · next queue hclose =>
      obtain ⟨hopen,rfl⟩ := Channel.of_close_done hclose
      exact Option.some.inj h ▸ .closed hj hopen
    · cases h
    · next hclose => exact Option.some.inj h ▸ .reclosed hj (Channel.closed_of_close_panicked hclose)
  | _ => cases h

theorem taken_finish {p : StopPhase} {timeout : Bool} (hj : d.stops[j]? = some p)
    (h : d.finish j timeout p = some d') : Taken d (.finish j timeout) d' := by
  cases p with
  | waiting =>
    simp only [finish] at h
    split at h
    · next hdone => exact Option.some.inj h ▸ .finished hj (by simpa using hdone)
    · cases h
  | _ => cases h

theorem taken_receive {w : Worker σ} (hk : d.workers[k]? = some w) (h : d.receive k w = some d') :
    Taken d (.receive k) d' := by
  cases w with
  | ranging =>
    simp only [receive] at h
    split at h
    · next item queue hreceive =>
      obtain ⟨hbuffer,hclosed⟩ := Channel.of_receive_some hreceive
      exact Option.some.inj h ▸ .received hk hbuffer hclosed
    · next hreceive =>
      obtain ⟨hclosed,hbuffer,-⟩ := Channel.of_receive_none hreceive
      exact Option.some.inj h ▸ .exited hk hclosed hbuffer
    · cases h
  | _ => cases h

theorem taken_upsert {w : Worker σ} (hk : d.workers[k]? = some w) (h : d.upsert k w = some d') :
    Taken d (.upsert k) d' := by
  cases w with
  | upserting item => exact Option.some.inj h ▸ .upserted hk
  | _ => cases h

theorem taken_of_step (h : step d e = some d') : Taken d e d' := by
  cases e with
  | submit stat blocking => exact Option.some.inj h ▸ .submit stat blocking
  | stop => exact Option.some.inj h ▸ .stop
  | load i =>
    obtain ⟨c,hc,hx⟩ := Option.bind_eq_some_iff.mp h
    exact taken_load hc hx
  | send i =>
    obtain ⟨c,hc,hx⟩ := Option.bind_eq_some_iff.mp h
    exact taken_send hc hx
  | sendTo i k =>
    obtain ⟨c,hc,hx⟩ := Option.bind_eq_some_iff.mp h
    exact taken_sendTo hc hx
  | giveUp i =>
    obtain ⟨c,hc,hx⟩ := Option.bind_eq_some_iff.mp h
    exact taken_giveUp hc hx
  | drop i =>
    obtain ⟨c,hc,hx⟩ := Option.bind_eq_some_iff.mp h
    exact taken_drop hc hx
  | swap j =>
    obtain ⟨p,hj,hx⟩ := Option.bind_eq_some_iff.mp h
    exact taken_swap hj hx
  | close j =>
    obtain ⟨p,hj,hx⟩ := Option.bind_eq_some_iff.mp h
    exact taken_close hj hx
  | finish j timeout =>
    obtain ⟨p,hj,hx⟩ := Option.bind_eq_some_iff.mp h
    exact taken_finish hj hx
  | receive k =>
    obtain ⟨w,hk,hx⟩ := Option.bind_eq_some_iff.mp h
    exact taken_receive hk hx
  | upsert k =>
    obtain ⟨w,hk,hx⟩ := Option.bind_eq_some_iff.mp h
    exact taken_upsert hk hx

end Dispatcher

theorem filterMap_set_perm {α β : Type} (f : α → Option β) (a : α) {l : List α} {k : ℕ} {x : α}
    (h : l[k]? = some x) :
    ((f x).toList ++ (l.set k a).filterMap f).Perm ((f a).toList ++ l.filterMap f) := by
  have hcons (b : α) (m : List α) : (b :: m).filterMap f = (f b).toList ++ m.filterMap f := by
    cases hb : f b <;> simp [hb]
  induction l generalizing k with
  | nil => simp at h
  | cons b l ih =>
    cases k with
    | zero =>
      obtain rfl : b = x := by simpa using h
      rw [List.set_cons_zero,hcons,hcons]
      exact List.perm_append_comm_assoc _ _ _
    | succ k =>
      rw [List.set_cons_succ,hcons,hcons]
      have htail := ih (by simpa using h)
      have hout := List.perm_append_comm_assoc (f x).toList (f b).toList ((l.set k a).filterMap f)
      have hback := List.perm_append_comm_assoc (f b).toList (f a).toList (l.filterMap f)
      exact hout.trans ((htail.append_left _).trans hback)

def Worker.held : Worker σ → Option (ℕ × σ)
  | .upserting item => some item
  | _ => none

def Call.queued (i : ℕ) (c : Call σ) : List (ℕ × σ) :=
  match c.phase with
  | .returned true => [(i,c.stat)]
  | _ => []

def accepted (calls : List (Call σ)) (i : ℕ) : List (ℕ × σ) :=
  match calls[i]? with
  | some c => c.queued i
  | none => []

namespace Dispatcher

def placed (d : Dispatcher σ) : List (ℕ × σ) :=
  d.queue.buffer ++ d.workers.filterMap Worker.held ++ d.upserted

structure Inv (d : Dispatcher σ) : Prop where
  manned : d.workers ≠ []
  placed : ∀ i, (d.placed.filter (fun item => item.1 = i)).Perm (accepted d.calls i)
  drained : .exited ∈ d.workers → d.queue.closed = true ∧ d.queue.buffer = []
  oneStop : d.stops.count .swapped + d.queue.closed.toNat = d.stopped.toNat
  refused : ∀ i c, d.calls[i]? = some c → c.phase = .returned false →
    i ∈ d.counted ∨ d.stopped = true
  counted : ∀ i ∈ d.counted, ∃ c, d.calls[i]? = some c ∧ c.phase = .returned false
  dropped : d.dropped = d.counted.length ∧ d.counted.Nodup

structure Settled (d : Dispatcher σ) : Prop where
  closed : d.queue.closed = true → ∀ c ∈ d.calls, c.phase ≠ .checked
  unharmed : ∀ c ∈ d.calls, c.phase ≠ .panicked

section Steps

variable {d d' : Dispatcher σ} {i j k : ℕ} {c : Call σ} {e : Event σ}

theorem accepted_move (hc : d.calls[i]? = some c) (phase : Phase) (n : ℕ) :
    accepted (d.move i c phase).calls n =
      if i = n then Call.queued i { c with phase := phase } else accepted d.calls n := by
  have hi : i < d.calls.length := (List.getElem?_eq_some_iff.mp hc).1
  by_cases hn : i = n
  · subst hn
    rw [accepted,move,List.getElem?_set_self hi,if_pos rfl]
  · rw [accepted,move,List.getElem?_set_ne hn,if_neg hn]
    rfl

theorem accepted_move_eq (hc : d.calls[i]? = some c) {phase : Phase}
    (hold : c.phase ≠ .returned true) (hnew : phase ≠ .returned true) (n : ℕ) :
    accepted (d.move i c phase).calls n = accepted d.calls n := by
  have hnone (b : Call σ) (hb : b.phase ≠ .returned true) : b.queued i = [] := by
    unfold Call.queued
    split
    · next h => exact absurd h hb
    · rfl
  rw [accepted_move hc]
  split
  · next hn =>
    subst hn
    rw [hnone _ hnew,accepted,hc]
    exact (hnone c hold).symm
  · rfl

theorem accepted_append (calls : List (Call σ)) (stat : σ) (blocking : Bool) (n : ℕ) :
    accepted (calls ++ [⟨stat,blocking,.begun⟩]) n = accepted calls n := by
  by_cases hn : n < calls.length
  · rw [accepted,List.getElem?_append_left hn]
    rfl
  · rw [accepted,accepted,List.getElem?_append_right (by omega),
      List.getElem?_eq_none (show calls.length ≤ n by omega)]
    cases n - calls.length <;> rfl

def Arrives (d d' : Dispatcher σ) (item : Option (ℕ × σ)) : Prop :=
  d'.placed.Perm (item.toList ++ d.placed) ∧
    ∀ n, (accepted d'.calls n).Perm ((item.toList).filter (fun x => x.1 = n) ++ accepted d.calls n)

theorem placed_of_arrives {item : Option (ℕ × σ)} (h : Arrives d d' item)
    (hp : ∀ n, (d.placed.filter (fun x => x.1 = n)).Perm (accepted d.calls n)) (n : ℕ) :
    (d'.placed.filter (fun x => x.1 = n)).Perm (accepted d'.calls n) := by
  have hfilter := h.1.filter (fun x => x.1 = n)
  rw [List.filter_append] at hfilter
  exact hfilter.trans (((hp n).append_left _).trans (h.2 n).symm)

theorem arrives_none (hplaced : d'.placed.Perm d.placed)
    (haccepted : ∀ n, accepted d'.calls n = accepted d.calls n) : Arrives d d' none :=
  ⟨hplaced,fun n => .of_eq (haccepted n)⟩

theorem accepted_move_sent (hc : d.calls[i]? = some c) (hphase : c.phase = .checked) (n : ℕ) :
    (accepted (d.move i c (.returned true)).calls n).Perm
      ((some (i,c.stat)).toList.filter (fun x => x.1 = n) ++ accepted d.calls n) := by
  rw [accepted_move hc]
  by_cases hn : i = n
  · subst hn
    have hnone : accepted d.calls i = [] := by
      rw [accepted,hc]
      simp only [Call.queued,hphase]
    simp [hnone,Call.queued]
  · simp [hn]

theorem held_set {w v : Worker σ} (hk : d.workers[k]? = some w) :
    (w.held.toList ++ (d.workers.set k v).filterMap Worker.held).Perm
      (v.held.toList ++ d.workers.filterMap Worker.held) :=
  filterMap_set_perm Worker.held v hk

theorem perm_to_front {α : Type} (front item middle back : List α) :
    (front ++ (item ++ middle ++ back)).Perm (item ++ (front ++ (middle ++ back))) := by
  rw [List.append_assoc]
  exact List.perm_append_comm_assoc _ _ _

theorem arrives_of_taken (h : Taken d e d') : ∃ item, Arrives d d' item := by
  cases h with
  | submit stat blocking =>
    exact ⟨none,arrives_none (.refl _) (accepted_append d.calls stat blocking)⟩
  | refused hc hphase =>
    exact ⟨none,arrives_none (.refl _) (accepted_move_eq hc (by simp [hphase]) (by simp))⟩
  | checked hc hphase =>
    exact ⟨none,arrives_none (.refl _) (accepted_move_eq hc (by simp [hphase]) (by simp))⟩
  | crashed hc hphase =>
    exact ⟨none,arrives_none (.refl _) (accepted_move_eq hc (by simp [hphase]) (by simp))⟩
  | overflowed hc hphase =>
    exact ⟨none,arrives_none (.refl _) (accepted_move_eq hc (by simp [hphase]) (by simp))⟩
  | dropped hc hphase =>
    exact ⟨none,arrives_none (.refl _) (accepted_move_eq hc (by simp [hphase]) (by simp))⟩
  | @queued i c hc hphase =>
    refine ⟨some (i,c.stat),?_,accepted_move_sent hc hphase⟩
    simp only [placed,move,List.append_assoc,Option.toList_some]
    exact List.perm_append_comm_assoc _ _ _
  | @handed i k c hc hphase hk =>
    refine ⟨some (i,c.stat),?_,accepted_move_sent hc hphase⟩
    have hheld := held_set (v := .upserting (i,c.stat)) hk
    simp only [placed,move,List.append_assoc]
    exact ((hheld.append_right _).append_left _).trans (perm_to_front _ _ _ _)
  | @received k item queue hk hbuffer =>
    have hheld := held_set (v := .upserting item) hk
    refine ⟨none,arrives_none ?_ (fun _ => rfl)⟩
    simp only [placed,hbuffer,List.append_assoc]
    exact ((hheld.append_right _).append_left _).trans (perm_to_front _ _ _ _)
  | exited hk =>
    have hheld := held_set (v := .exited) hk
    exact ⟨none,arrives_none ((hheld.append_left _).append_right _) (fun _ => rfl)⟩
  | @upserted k item hk =>
    have hheld := held_set (v := .ranging) hk
    refine ⟨none,arrives_none ?_ (fun _ => rfl)⟩
    simp only [placed,List.append_assoc]
    refine List.Perm.append_left _ ?_
    rw [← List.append_assoc]
    refine List.perm_append_comm.trans ?_
    rw [← List.append_assoc]
    exact hheld.append_right _
  | _ => exact ⟨none,arrives_none (.refl _) (fun _ => rfl)⟩

theorem call_of_move {n : ℕ} {b : Call σ} {phase : Phase} (hc : d.calls[i]? = some c)
    (h : (d.move i c phase).calls[n]? = some b) :
    i = n ∧ b = { c with phase := phase } ∨ i ≠ n ∧ d.calls[n]? = some b := by
  have hi : i < d.calls.length := (List.getElem?_eq_some_iff.mp hc).1
  by_cases hn : i = n
  · subst hn
    rw [move,List.getElem?_set_self hi,Option.some.injEq] at h
    exact .inl ⟨rfl,h.symm⟩
  · rw [move,List.getElem?_set_ne hn] at h
    exact .inr ⟨hn,h⟩

theorem forall_move {P : Call σ → Prop} {phase : Phase} (h : ∀ b ∈ d.calls, P b)
    (hc : P { c with phase := phase }) : ∀ b ∈ (d.move i c phase).calls, P b := by
  intro b hb
  rcases List.mem_or_eq_of_mem_set hb with hold | rfl
  · exact h b hold
  · exact hc

theorem call_of_submit {n : ℕ} {b new : Call σ} (h : (d.calls ++ [new])[n]? = some b) :
    d.calls[n]? = some b ∨ b = new := by
  by_cases hn : n < d.calls.length
  · exact .inl (by rwa [List.getElem?_append_left hn] at h)
  · rw [List.getElem?_append_right (by omega)] at h
    exact .inr (List.mem_singleton.mp (List.mem_of_getElem? h))

theorem forall_submit {P : Call σ → Prop} {new : Call σ} (h : ∀ c ∈ d.calls, P c) (hnew : P new) :
    ∀ c ∈ d.calls ++ [new], P c := by
  intro c hc
  rcases List.mem_append.mp hc with hold | hlast
  · exact h c hold
  · exact List.mem_singleton.mp hlast ▸ hnew

theorem manned_of_taken (h : Taken d e d') (hd : d.workers ≠ []) : d'.workers ≠ [] := by
  cases h with
  | handed => simpa using hd
  | received => simpa using hd
  | exited => simpa using hd
  | upserted => simpa using hd
  | _ => exact hd

theorem exited_of_set {w : Worker σ} (hw : w ≠ .exited) (h : .exited ∈ d.workers.set k w) :
    .exited ∈ d.workers := by
  rcases List.mem_or_eq_of_mem_set h with hold | hnew
  · exact hold
  · exact absurd hnew.symm hw

theorem drained_of_taken (h : Taken d e d')
    (hd : .exited ∈ d.workers → d.queue.closed = true ∧ d.queue.buffer = []) :
    .exited ∈ d'.workers → d'.queue.closed = true ∧ d'.queue.buffer = [] := by
  intro hexited
  cases h with
  | queued hc hphase hopen => exact absurd (hd hexited).1 (by simp [hopen])
  | handed hc hphase hk hopen =>
    exact absurd (hd (exited_of_set (by simp) hexited)).1 (by simp [hopen])
  | closed hj hopen => exact absurd (hd hexited).1 (by simp [hopen])
  | received hk hbuffer =>
    exact absurd (hd (exited_of_set (by simp) hexited)).2 (by simp [hbuffer])
  | exited hk hclosed hbuffer => exact ⟨hclosed,hbuffer⟩
  | upserted => exact hd (exited_of_set (by simp) hexited)
  | _ => exact hd hexited

theorem count_set {p q : StopPhase} (hj : d.stops[j]? = some p) :
    (d.stops.set j q).count .swapped + (if p = .swapped then 1 else 0) =
      d.stops.count .swapped + (if q = .swapped then 1 else 0) := by
  obtain ⟨hlt,hget⟩ := List.getElem?_eq_some_iff.mp hj
  have hmem : p = .swapped → 1 ≤ d.stops.count .swapped := by
    rintro rfl
    exact List.one_le_count_iff.mpr (hget ▸ List.getElem_mem hlt)
  rw [List.count_set hlt,hget]
  simp only [beq_iff_eq]
  split
  · next h =>
    have := hmem h
    omega
  · omega

theorem oneStop_of_taken (h : Taken d e d')
    (hd : d.stops.count .swapped + d.queue.closed.toNat = d.stopped.toNat) :
    d'.stops.count .swapped + d'.queue.closed.toNat = d'.stopped.toNat := by
  cases h with
  | stop => simpa using hd
  | late hj =>
    have := count_set (q := .returned) hj
    simp only [reduceCtorEq,if_false] at this
    simp only [moveStop]
    omega
  | swapped hj hstopped =>
    have := count_set (q := .swapped) hj
    simp only [reduceCtorEq,if_true,if_false] at this
    simp only [hstopped,Bool.toNat_false] at hd
    simp only [moveStop,Bool.toNat_true]
    omega
  | closed hj hopen =>
    have := count_set (q := .waiting) hj
    simp only [reduceCtorEq,if_true,if_false] at this
    simp only [hopen,Bool.toNat_false] at hd
    simp only [moveStop,Bool.toNat_true]
    omega
  | reclosed hj hclosed =>
    have := count_set (q := .panicked) hj
    have hle := Bool.toNat_le d.stopped
    simp only [reduceCtorEq,if_true,if_false] at this
    simp only [hclosed,Bool.toNat_true] at hd
    omega
  | finished hj =>
    have := count_set (q := .returned) hj
    simp only [reduceCtorEq,if_false] at this
    simp only [moveStop]
    omega
  | received hk hbuffer hclosed => simpa only [hclosed] using hd
  | _ => exact hd

theorem refused_of_taken (h : Taken d e d')
    (hd : ∀ n b, d.calls[n]? = some b → b.phase = .returned false → n ∈ d.counted ∨ d.stopped = true) :
    ∀ n b, d'.calls[n]? = some b → b.phase = .returned false →
      n ∈ d'.counted ∨ d'.stopped = true := by
  intro n b hb hphase
  have hmoved {i : ℕ} {c : Call σ} {phase : Phase} (hc : d.calls[i]? = some c)
      (hne : phase ≠ .returned false) (hb : (d.move i c phase).calls[n]? = some b) :
      n ∈ d.counted ∨ d.stopped = true := by
    rcases call_of_move hc hb with ⟨-,rfl⟩ | ⟨-,hold⟩
    · exact absurd hphase hne
    · exact hd n b hold hphase
  cases h with
  | submit stat blocking =>
    rcases call_of_submit hb with hold | rfl
    · exact hd n b hold hphase
    · cases hphase
  | refused hc hold hstopped => exact .inr hstopped
  | checked hc => exact hmoved hc (by simp) hb
  | queued hc => exact hmoved hc (by simp) hb
  | crashed hc => exact hmoved hc (by simp) hb
  | handed hc => exact hmoved hc (by simp) hb
  | overflowed hc => exact hmoved hc (by simp) hb
  | dropped hc =>
    rcases call_of_move hc hb with ⟨rfl,-⟩ | ⟨-,hold⟩
    · exact .inl (List.mem_append_right _ (List.mem_singleton_self _))
    · exact (hd n b hold hphase).imp_left (List.mem_append_left _)
  | swapped => exact .inr rfl
  | _ => exact hd n b hb hphase

def Counted (d : Dispatcher σ) : Prop :=
  (d.dropped = d.counted.length ∧ d.counted.Nodup) ∧
    ∀ n ∈ d.counted, ∃ b, d.calls[n]? = some b ∧ b.phase = .returned false

theorem returned_move {p : Phase} (hc : d.calls[i]? = some c) (hne : c.phase ≠ .returned false)
    {n : ℕ} (h : ∃ b, d.calls[n]? = some b ∧ b.phase = .returned false) :
    i ≠ n ∧ ∃ b, (d.move i c p).calls[n]? = some b ∧ b.phase = .returned false := by
  obtain ⟨b,hb,hphase⟩ := h
  have hn : i ≠ n := by
    rintro rfl
    rw [hc,Option.some.injEq] at hb
    exact hne (hb ▸ hphase)
  refine ⟨hn,b,?_,hphase⟩
  rw [move,List.getElem?_set_ne hn]
  exact hb

theorem counted_of_taken (h : Taken d e d') (hd : Counted d) : Counted d' := by
  obtain ⟨hlength,hreturned⟩ := hd
  cases h with
  | submit stat blocking =>
    refine ⟨hlength,fun n hn => ?_⟩
    obtain ⟨b,hb,hphase⟩ := hreturned n hn
    exact ⟨b,(List.getElem?_append_left (List.getElem?_eq_some_iff.mp hb).1).trans hb,hphase⟩
  | refused hc hphase =>
    exact ⟨hlength,fun n hn => (returned_move hc (by simp [hphase]) (hreturned n hn)).2⟩
  | checked hc hphase =>
    exact ⟨hlength,fun n hn => (returned_move hc (by simp [hphase]) (hreturned n hn)).2⟩
  | queued hc hphase =>
    exact ⟨hlength,fun n hn => (returned_move hc (by simp [hphase]) (hreturned n hn)).2⟩
  | crashed hc hphase =>
    exact ⟨hlength,fun n hn => (returned_move hc (by simp [hphase]) (hreturned n hn)).2⟩
  | handed hc hphase =>
    exact ⟨hlength,fun n hn => (returned_move hc (by simp [hphase]) (hreturned n hn)).2⟩
  | overflowed hc hphase =>
    exact ⟨hlength,fun n hn => (returned_move hc (by simp [hphase]) (hreturned n hn)).2⟩
  | @dropped i c hc hphase =>
    have hmoved (n : ℕ) (hn : n ∈ d.counted) := returned_move (p := .returned false) hc
      (by simp [hphase]) (hreturned n hn)
    refine ⟨⟨by simp [hlength.1],?_⟩,?_⟩
    · refine List.nodup_append.mpr ⟨hlength.2,by simp,?_⟩
      rintro n hn m hm rfl
      exact (hmoved n hn).1 (List.mem_singleton.mp hm).symm
    · intro n hn
      rcases List.mem_append.mp hn with hold | hnew
      · exact (hmoved n hold).2
      · refine ⟨{ c with phase := .returned false },?_,rfl⟩
        rw [List.mem_singleton.mp hnew,move,
          List.getElem?_set_self (List.getElem?_eq_some_iff.mp hc).1]
  | _ => exact ⟨hlength,hreturned⟩

theorem inv_of_taken (h : Taken d e d') (hd : Inv d) : Inv d' := by
  obtain ⟨item,harrives⟩ := arrives_of_taken h
  have hcounted := counted_of_taken h ⟨hd.dropped,hd.counted⟩
  exact {
    manned := manned_of_taken h hd.manned
    placed := placed_of_arrives harrives hd.placed
    drained := drained_of_taken h hd.drained
    oneStop := oneStop_of_taken h hd.oneStop
    refused := refused_of_taken h hd.refused
    counted := hcounted.2
    dropped := hcounted.1 }

theorem Inv.stopped_of_closed (hd : Inv d) (h : d.queue.closed = true) : d.stopped = true := by
  have hone := hd.oneStop
  rw [h,Bool.toNat_true] at hone
  cases hs : d.stopped with
  | true => rfl
  | false =>
    rw [hs,Bool.toNat_false] at hone
    omega

theorem settled_of_taken (h : Taken d e d') (hquiet : d.Quiet e) (hd : Inv d) (hs : Settled d) :
    Settled d' := by
  cases h with
  | submit stat blocking =>
    exact ⟨fun hclosed => forall_submit (hs.closed hclosed) (by simp),
      forall_submit hs.unharmed (by simp)⟩
  | refused hc hphase =>
    exact ⟨fun hclosed => forall_move (hs.closed hclosed) (by simp),forall_move hs.unharmed (by simp)⟩
  | checked hc hphase hstopped =>
    refine ⟨fun hclosed => ?_,forall_move hs.unharmed (by simp)⟩
    exact absurd (hd.stopped_of_closed hclosed) (by simp [hstopped])
  | queued hc hphase hopen =>
    refine ⟨fun hclosed => absurd hclosed ?_,forall_move hs.unharmed (by simp)⟩
    simp [hopen]
  | crashed hc hphase hclosed =>
    exact absurd hphase (hs.closed hclosed _ (List.mem_of_getElem? hc))
  | handed hc =>
    exact ⟨fun hclosed => forall_move (hs.closed hclosed) (by simp),forall_move hs.unharmed (by simp)⟩
  | overflowed hc =>
    exact ⟨fun hclosed => forall_move (hs.closed hclosed) (by simp),forall_move hs.unharmed (by simp)⟩
  | dropped hc =>
    exact ⟨fun hclosed => forall_move (hs.closed hclosed) (by simp),forall_move hs.unharmed (by simp)⟩
  | closed => exact ⟨fun _ => hquiet,hs.unharmed⟩
  | received hk hbuffer hclosed => exact ⟨fun h => hs.closed (hclosed ▸ h),hs.unharmed⟩
  | _ => exact ⟨hs.closed,hs.unharmed⟩

theorem inv_new (sizes : Sizes) : Inv (NewStatsDispatcher sizes : Dispatcher σ) where
  manned := by
    have := sizes.manned
    simp only [NewStatsDispatcher,ne_eq,List.replicate_eq_nil_iff]
    omega
  placed := by
    intro n
    have hheld : (List.replicate sizes.workers (.ranging : Worker σ)).filterMap Worker.held = [] := by
      simp [Worker.held]
    simp [placed,accepted,NewStatsDispatcher,Channel.make,hheld]
  drained := by simp [NewStatsDispatcher]
  oneStop := rfl
  refused := by simp [NewStatsDispatcher]
  counted := by simp [NewStatsDispatcher]
  dropped := ⟨rfl,List.nodup_nil⟩

theorem settled_new (sizes : Sizes) : Settled (NewStatsDispatcher sizes : Dispatcher σ) :=
  ⟨fun _ => by simp [NewStatsDispatcher],by simp [NewStatsDispatcher]⟩

theorem Inv.placed_of_exited (hd : Inv d) (h : d.allExited = true) : d.placed = d.upserted := by
  have hall : ∀ w ∈ d.workers, w = .exited := by
    intro w hw
    have hx := List.all_eq_true.mp h w hw
    cases w <;> simp_all
  obtain ⟨w,hw⟩ := List.exists_mem_of_ne_nil _ hd.manned
  have hdrained := hd.drained (hall w hw ▸ hw)
  have hheld : d.workers.filterMap Worker.held = [] := by
    refine List.filterMap_eq_nil_iff.mpr ?_
    intro v hv
    rw [hall v hv]
    rfl
  rw [Dispatcher.placed,hdrained.2,hheld]
  rfl

theorem accepted_length_le (calls : List (Call σ)) (n : ℕ) : (accepted calls n).length ≤ 1 := by
  unfold accepted
  split
  · unfold Call.queued
    split <;> simp
  · simp

theorem Inv.sound (hd : Inv d) (hs : Settled d) : d.Sound where
  neverOnClosed := hs.unharmed
  atMostOnce := by
    intro n
    have hall := (hd.placed n).length_eq ▸ accepted_length_le d.calls n
    rw [Dispatcher.placed,List.filter_append,List.length_append] at hall
    omega
  processed := by
    intro hexited n b hb hphase
    have hperm := hd.placed n
    have haccepted : accepted d.calls n = [(n,b.stat)] := by
      rw [accepted,hb]
      simp only [Call.queued,hphase]
    rw [hd.placed_of_exited hexited,haccepted] at hperm
    exact List.perm_singleton.mp hperm
  refused := hd.refused
  dropped := hd.dropped

end Steps

theorem inv_reached {sizes : Sizes} {es : List (Event σ)} {d : Dispatcher σ}
    (h : exec step (NewStatsDispatcher sizes) es = some d) : Inv d :=
  exec_invariant step (fun _ _ _ hd hstep => inv_of_taken (taken_of_step hstep) hd) (inv_new sizes) h

theorem sound_of_quiet (sizes : Sizes) (es : List (Event σ)) (d : Dispatcher σ)
    (h : exec step (NewStatsDispatcher sizes) es = some d)
    (hquiet : EveryStep step Quiet (NewStatsDispatcher sizes) es) : d.Sound := by
  have hboth : Inv d ∧ Settled d := by
    refine exec_invariant_of_steps step (I := fun d => Inv d ∧ Settled d) (C := Quiet) ?_
      ⟨inv_new sizes,settled_new sizes⟩ hquiet h
    intro d e d' hd hq hstep
    exact ⟨inv_of_taken (taken_of_step hstep) hd.1,settled_of_taken (taken_of_step hstep) hq hd.1 hd.2⟩
  exact hboth.1.sound hboth.2

def handlersSizes : Sizes := ⟨2000,3,by decide⟩

def gracefulRun : List (Event String) :=
  [.submit "a" false,.submit "b" true,.load 0,.load 1,.send 1,.send 0,.receive 2,.stop,.stop,.swap 1,
    .swap 0,.close 1,.upsert 2,.receive 0,.submit "c" false,.load 2,.upsert 0,.receive 0,.receive 1,
    .receive 2,.finish 1 false]

theorem graceful_sound : ∃ d, exec step (NewStatsDispatcher handlersSizes) gracefulRun = some d ∧
    d.allExited = true ∧ d.Sound :=
  ⟨_,rfl,rfl,sound_of_quiet handlersSizes gracefulRun _ rfl (by decide)⟩

theorem racing_unsound : ¬ ∀ (sizes : Sizes) (es : List (Event String)) (d : Dispatcher String),
    exec step (NewStatsDispatcher sizes) es = some d → d.Sound := by
  intro h
  have hsound := h handlersSizes [.submit "a" false,.load 0,.stop,.swap 0,.close 0,.send 0] _ rfl
  exact hsound.neverOnClosed ⟨"a",false,.panicked⟩ (List.mem_singleton_self _) rfl

theorem unsound_of_close {sizes : Sizes} {es : List (Event σ)} {d : Dispatcher σ} {i j : ℕ}
    {c : Call σ} (h : exec step (NewStatsDispatcher sizes) es = some d)
    (hj : d.stops[j]? = some .swapped) (hc : d.calls[i]? = some c) (hphase : c.phase = .checked) :
    ∃ d', exec step d [.close j,.send i] = some d' ∧ ¬ d'.Sound := by
  have hone := (inv_reached h).oneStop
  have hcount := List.one_le_count_iff.mpr (List.mem_of_getElem? hj)
  have hle := Bool.toNat_le d.stopped
  have hopen : d.queue.closed = false := by
    cases hclosed : d.queue.closed with
    | false => rfl
    | true =>
      rw [hclosed,Bool.toNat_true] at hone
      omega
  let d₁ : Dispatcher σ := { d.moveStop j .waiting with queue := { d.queue with closed := true } }
  have hclose : step d (.close j) = some d₁ := by
    simp only [step,hj,Option.bind_some,close,Channel.close,hopen]
    rfl
  have hsend : step d₁ (.send i) = some (d₁.move i c .panicked) := by
    have hget : d₁.calls[i]? = some c := hc
    have hpanics : d₁.queue.send (i,c.stat) = .panicked := Channel.send_of_closed rfl
    simp only [step,hget,Option.bind_some,send,hphase,hpanics]
  refine ⟨d₁.move i c .panicked,?_,?_⟩
  · rw [exec_cons hclose,exec_cons hsend]
    rfl
  · intro hsound
    have hi : i < d.calls.length := (List.getElem?_eq_some_iff.mp hc).1
    exact hsound.neverOnClosed _ (List.mem_set hi _) rfl

end Dispatcher

end PrismGateway.Orchestrator.Stats
