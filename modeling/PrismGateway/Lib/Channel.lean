import Mathlib.Data.List.Basic

namespace PrismGateway.Lib

inductive Outcome (β : Type) where
  | done (b : β)
  | blocked
  | panicked

/-- A channel as `make(chan T, capacity)` builds it. -/
structure Channel (α : Type) where
  capacity : ℕ
  buffer : List α
  closed : Bool
  deriving DecidableEq

namespace Channel

variable {α : Type} {c d : Channel α} {a : α}

def make (capacity : ℕ) : Channel α := ⟨capacity,[],false⟩

def send (c : Channel α) (a : α) : Outcome (Channel α) :=
  if c.closed then .panicked
  else if c.buffer.length < c.capacity then .done { c with buffer := c.buffer ++ [a] }
  else .blocked

def receive (c : Channel α) : Outcome (Option α × Channel α) :=
  match c.buffer with
  | a :: rest => .done (some a,{ c with buffer := rest })
  | [] => if c.closed then .done (none,c) else .blocked

def close (c : Channel α) : Outcome (Channel α) :=
  if c.closed then .panicked else .done { c with closed := true }

def handsOver (c : Channel α) : Bool := !c.closed && c.buffer.isEmpty

theorem of_send_done (h : c.send a = .done d) :
    c.closed = false ∧ d = { c with buffer := c.buffer ++ [a] } := by
  unfold send at h
  split at h
  · cases h
  · next hopen =>
    split at h
    · cases h
      exact ⟨by simpa using hopen,rfl⟩
    · cases h

theorem closed_of_send_panicked (h : c.send a = .panicked) : c.closed = true := by
  unfold send at h
  split at h
  · assumption
  · split at h <;> cases h

theorem send_of_closed (h : c.closed = true) : c.send a = .panicked := by
  rw [send,if_pos h]

theorem of_receive_some (h : c.receive = .done (some a,d)) :
    c.buffer = a :: d.buffer ∧ d.closed = c.closed := by
  unfold receive at h
  split at h
  · next b rest hbuffer =>
    cases h
    exact ⟨hbuffer,rfl⟩
  · split at h <;> cases h

theorem of_receive_none (h : c.receive = .done (none,d)) :
    c.closed = true ∧ c.buffer = [] ∧ d = c := by
  unfold receive at h
  split at h
  · cases h
  · next hbuffer =>
    split at h
    · next hclosed =>
      cases h
      exact ⟨hclosed,hbuffer,rfl⟩
    · cases h

theorem room_of_send_done (h : c.send a = .done d) : c.buffer.length < c.capacity := by
  unfold send at h
  split at h
  · cases h
  · split at h
    · assumption
    · cases h

theorem send_of_room (hopen : c.closed = false) (hroom : c.buffer.length < c.capacity) (a : α) :
    c.send a = .done { c with buffer := c.buffer ++ [a] } := by
  rw [send,if_neg (by rw [hopen]; exact Bool.false_ne_true),if_pos hroom]

theorem receive_of_pos (h : 0 < c.buffer.length) : ∃ a d, c.receive = .done (some a,d) := by
  obtain ⟨a,rest,hbuffer⟩ := List.exists_cons_of_length_pos h
  exact ⟨a,{ c with buffer := rest },by rw [receive,hbuffer]⟩

theorem of_receive_open {o : Option α} (hopen : c.closed = false) (h : c.receive = .done (o,d)) :
    c.buffer.length = d.buffer.length + 1 ∧ d.capacity = c.capacity ∧ d.closed = false := by
  unfold receive at h
  split at h
  · next b rest hbuffer =>
    cases h
    exact ⟨by rw [hbuffer,List.length_cons],rfl,hopen⟩
  · rw [hopen] at h
    cases h

theorem of_close_done (h : c.close = .done d) :
    c.closed = false ∧ d = { c with closed := true } := by
  unfold close at h
  split at h
  · cases h
  · next hopen =>
    cases h
    exact ⟨by simpa using hopen,rfl⟩

theorem closed_of_close_panicked (h : c.close = .panicked) : c.closed = true := by
  unfold close at h
  split at h
  · assumption
  · cases h

theorem of_handsOver (h : c.handsOver = true) : c.closed = false ∧ c.buffer = [] := by
  simpa [handsOver] using h

end Channel

end PrismGateway.Lib
