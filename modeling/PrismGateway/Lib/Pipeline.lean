import PrismGateway.Lib.Channel
import PrismGateway.Lib.Run

namespace PrismGateway.Lib

structure Reader (α ω κ : Type) where
  take : ω → α → ω ⊕ κ
  drained : ω → κ

namespace Reader

variable {α ω κ : Type} (r : Reader α ω κ)

def read : ω → List α → κ
  | w, [] => r.drained w
  | w, a :: rest => match r.take w a with
    | .inl v => read v rest
    | .inr k => k

def after : ω → List α → Option ω
  | w, [] => some w
  | w, a :: rest => match r.take w a with
    | .inl v => after v rest
    | .inr _ => none

variable {r} {w v : ω} {k : κ} {a : α} {l : List α}

theorem after_snoc (h : r.after w l = some v) {u : ω} (htake : r.take v a = .inl u) :
    r.after w (l ++ [a]) = some u := by
  induction l generalizing w with
  | nil =>
    cases h
    rw [List.nil_append,after,htake]
    rfl
  | cons b l ih =>
    rw [List.cons_append,after]
    rw [after] at h
    cases hb : r.take w b with
    | inl x =>
      rw [hb] at h
      exact ih h
    | inr x =>
      rw [hb] at h
      cases h

theorem read_after (h : r.after w l = some v) (rest : List α) :
    r.read w (l ++ rest) = r.read v rest := by
  induction l generalizing w with
  | nil =>
    cases h
    rfl
  | cons b l ih =>
    rw [List.cons_append,read]
    rw [after] at h
    cases hb : r.take w b with
    | inl x =>
      rw [hb] at h
      exact ih h
    | inr x =>
      rw [hb] at h
      cases h

theorem read_ended (h : r.after w l = some v) (htake : r.take v a = .inr k) (rest : List α) :
    r.read w (l ++ a :: rest) = k := by
  rw [read_after h,read,htake]

end Reader

inductive Sender (α : Type) where
  | sending (rest : List α) (whole : Bool)
  | ended

inductive Receiver (ω κ : Type) where
  | reading (w : ω)
  | ended (k : κ)
  | left (w : ω)

/-- A goroutine that sends its items on a channel and closes it, and one that takes them off; each selects
against the cancellation of their context. -/
structure Pipeline (α ω κ : Type) where
  cancelled : Bool
  sender : Sender α
  channel : Channel α
  receiver : Receiver ω κ

namespace Pipeline

/-- `cut` is a source that fails because of the cancellation: it has one last item at most. -/
inductive Event (α : Type) where
  | cancel
  | cut (last : Option α)
  | send
  | giveUp
  | close
  | receive
  | leave

variable {α ω κ : Type} (r : Reader α ω κ) (mayCut : α → Bool)

def start (capacity : ℕ) (w : ω) (items : List α) : Pipeline α ω κ :=
  ⟨false,.sending items true,.make capacity,.reading w⟩

def deliver (s : Pipeline α ω κ) (w : ω) : Option α → Channel α → Pipeline α ω κ
  | none, channel => { s with channel := channel, receiver := .ended (r.drained w) }
  | some a, channel => match r.take w a with
    | .inl v => { s with channel := channel, receiver := .reading v }
    | .inr k => { s with channel := channel, receiver := .ended k }

def closing (s : Pipeline α ω κ) : Option (Pipeline α ω κ) :=
  match s.channel.close with
  | .done channel => some { s with channel := channel, sender := .ended }
  | _ => none

def step (s : Pipeline α ω κ) : Event α → Option (Pipeline α ω κ)
  | .cancel => if s.cancelled then none else some { s with cancelled := true }
  | .cut last => match s.sender with
    | .sending _ true =>
      if s.cancelled && last.all mayCut then some { s with sender := .sending last.toList false }
      else none
    | _ => none
  | .send => match s.sender with
    | .sending (a :: rest) whole => match s.channel.send a with
      | .done channel => some { s with channel := channel, sender := .sending rest whole }
      | _ => none
    | _ => none
  | .giveUp => match s.sender with
    | .sending (_ :: _) _ => if s.cancelled then s.closing else none
    | _ => none
  | .close => match s.sender with
    | .sending [] _ => s.closing
    | _ => none
  | .receive => match s.receiver with
    | .reading w => match s.channel.receive with
      | .done (o,channel) => some (s.deliver r w o channel)
      | _ => none
    | _ => none
  | .leave => match s.receiver with
    | .reading w => if s.cancelled then some { s with receiver := .left w } else none
    | _ => none

inductive Taken (s : Pipeline α ω κ) : Event α → Pipeline α ω κ → Prop
  | cancelled (h : s.cancelled = false) : Taken s .cancel { s with cancelled := true }
  | cut {rest : List α} {last : Option α} (hsender : s.sender = .sending rest true)
      (hcancelled : s.cancelled = true) (hlast : last.all mayCut = true) :
      Taken s (.cut last) { s with sender := .sending last.toList false }
  | sent {a : α} {rest : List α} {whole : Bool} (hsender : s.sender = .sending (a :: rest) whole)
      (hopen : s.channel.closed = false) (hroom : s.channel.buffer.length < s.channel.capacity) :
      Taken s .send { s with
        channel := { s.channel with buffer := s.channel.buffer ++ [a] }
        sender := .sending rest whole }
  | gaveUp {a : α} {rest : List α} {whole : Bool} (hsender : s.sender = .sending (a :: rest) whole)
      (hcancelled : s.cancelled = true) (hopen : s.channel.closed = false) :
      Taken s .giveUp { s with channel := { s.channel with closed := true }, sender := .ended }
  | closed {whole : Bool} (hsender : s.sender = .sending [] whole) (hopen : s.channel.closed = false) :
      Taken s .close { s with channel := { s.channel with closed := true }, sender := .ended }
  | drained {w : ω} (hreceiver : s.receiver = .reading w) (hclosed : s.channel.closed = true)
      (hbuffer : s.channel.buffer = []) :
      Taken s .receive { s with receiver := .ended (r.drained w) }
  | took {w v : ω} {a : α} {rest : List α} (hreceiver : s.receiver = .reading w)
      (hbuffer : s.channel.buffer = a :: rest) (htake : r.take w a = .inl v) :
      Taken s .receive { s with channel := { s.channel with buffer := rest }, receiver := .reading v }
  | finished {w : ω} {k : κ} {a : α} {rest : List α} (hreceiver : s.receiver = .reading w)
      (hbuffer : s.channel.buffer = a :: rest) (htake : r.take w a = .inr k) :
      Taken s .receive { s with channel := { s.channel with buffer := rest }, receiver := .ended k }
  | left {w : ω} (hreceiver : s.receiver = .reading w) (hcancelled : s.cancelled = true) :
      Taken s .leave { s with receiver := .left w }

variable {r mayCut} {s t : Pipeline α ω κ} {e : Event α}

theorem of_closing (h : s.closing = some t) : s.channel.closed = false ∧
    t = { s with channel := { s.channel with closed := true }, sender := .ended } := by
  simp only [closing] at h
  split at h
  · next channel hclose =>
    obtain ⟨hopen,rfl⟩ := Channel.of_close_done hclose
    cases h
    exact ⟨hopen,rfl⟩
  · cases h

theorem taken_of_receive (h : step r mayCut s .receive = some t) : Taken r mayCut s .receive t := by
  simp only [step] at h
  split at h
  · next w hreceiver =>
    split at h
    · next o channel hreceive =>
      cases h
      cases o with
      | none =>
        obtain ⟨hclosed,hbuffer,rfl⟩ := Channel.of_receive_none hreceive
        exact .drained hreceiver hclosed hbuffer
      | some a =>
        have hchannel : s.channel.buffer = a :: channel.buffer ∧
            channel = { s.channel with buffer := channel.buffer } := by
          unfold Channel.receive at hreceive
          split at hreceive
          · next b rest hbuffer =>
            cases hreceive
            exact ⟨hbuffer,rfl⟩
          · split at hreceive <;> cases hreceive
        obtain ⟨hbuffer,hchannel⟩ := hchannel
        rw [deliver,hchannel]
        cases htake : r.take w a with
        | inl v => exact .took hreceiver hbuffer htake
        | inr k => exact .finished hreceiver hbuffer htake
    · cases h
  · cases h

theorem taken_of_step (h : step r mayCut s e = some t) : Taken r mayCut s e t := by
  cases e with
  | cancel =>
    simp only [step] at h
    split_ifs at h with hcancelled
    cases h
    exact .cancelled (by simpa using hcancelled)
  | cut last =>
    simp only [step] at h
    split at h
    · next hsender =>
      split_ifs at h with hcut
      cases h
      obtain ⟨hcancelled,hlast⟩ := Bool.and_eq_true_iff.mp hcut
      exact .cut hsender hcancelled hlast
    · cases h
  | send =>
    simp only [step] at h
    split at h
    · next a rest whole hsender =>
      split at h
      · next channel hsend =>
        have hroom := Channel.room_of_send_done hsend
        obtain ⟨hopen,rfl⟩ := Channel.of_send_done hsend
        cases h
        exact .sent hsender hopen hroom
      · cases h
    · cases h
  | giveUp =>
    simp only [step] at h
    split at h
    · next hsender =>
      split_ifs at h with hcancelled
      obtain ⟨hopen,rfl⟩ := of_closing h
      exact .gaveUp hsender hcancelled hopen
    · cases h
  | close =>
    simp only [step] at h
    split at h
    · next hsender =>
      obtain ⟨hopen,rfl⟩ := of_closing h
      exact .closed hsender hopen
    · cases h
  | receive => exact taken_of_receive h
  | leave =>
    simp only [step] at h
    split at h
    · next w hreceiver =>
      split_ifs at h with hcancelled
      cases h
      exact .left hreceiver hcancelled
    · cases h

end Pipeline

namespace Sender

variable {α : Type}

def pending : Sender α → List α
  | .sending rest _ => rest
  | .ended => []

def stepsLeft : Sender α → ℕ
  | .sending rest true => 2 * rest.length + 4
  | .sending rest false => 2 * rest.length + 1
  | .ended => 0

end Sender

namespace Receiver

variable {α ω κ : Type}

def stepsLeft : Receiver ω κ → ℕ
  | .reading _ => 1
  | _ => 0

def At (r : Reader α ω κ) (w : ω) (taken : List α) : Receiver ω κ → Prop
  | .reading v | .left v => r.after w taken = some v
  | .ended k => r.read w taken = k

end Receiver

namespace Pipeline

variable {α ω κ : Type} (r : Reader α ω κ) (mayCut : α → Bool) (capacity : ℕ) (w : ω) (items : List α)

def line (s : Pipeline α ω κ) (taken : List α) : List α :=
  taken ++ s.channel.buffer ++ s.sender.pending

def Traced (l : List α) : Prop :=
  ∃ n, ∃ last : Option α, last.all mayCut = true ∧ l <+: items.take n ++ last.toList

structure Inv (s : Pipeline α ω κ) (taken : List α) : Prop where
  wired : s.channel.capacity = capacity
  closed : s.channel.closed = true ↔ s.sender = .ended
  standing : s.receiver.At r w taken
  traced : Traced mayCut items (s.line taken)
  whole : (s.cancelled = false ∨ ∃ rest, s.sender = .sending rest true) → s.line taken = items
  left : ∀ v, s.receiver = .left v → s.cancelled = true

variable {r mayCut capacity w items} {s t : Pipeline α ω κ} {taken : List α} {e : Event α}

theorem traced_self : Traced mayCut items items :=
  ⟨items.length,none,rfl,by simp⟩

theorem Traced.of_prefix {l l' : List α} (h : Traced mayCut items l) (hl : l' <+: l) :
    Traced mayCut items l' := by
  obtain ⟨n,last,hlast,htraced⟩ := h
  exact ⟨n,last,hlast,hl.trans htraced⟩

theorem traced_cut {l rest : List α} (h : l ++ rest = items) {last : Option α}
    (hlast : last.all mayCut = true) : Traced mayCut items (l ++ last.toList) :=
  ⟨l.length,last,hlast,[],by rw [← h,List.take_left,List.append_nil]⟩

theorem inv_start : Inv r mayCut capacity w items (start capacity w items) [] where
  wired := rfl
  closed := by
    constructor <;> intro h <;> cases h
  standing := rfl
  traced := traced_self
  whole _ := rfl
  left v h := by cases h

theorem Inv.step (h : Inv r mayCut capacity w items s taken) (hs : step r mayCut s e = some t) :
    ∃ taken', Inv r mayCut capacity w items t taken' := by
  cases taken_of_step hs with
  | cancelled hc =>
    exact ⟨taken,h.wired,h.closed,h.standing,h.traced,fun _ => h.whole (.inl hc),fun _ _ => rfl⟩
  | @cut rest last hsender hcancelled hlast =>
    have hwhole := h.whole (.inr ⟨rest,hsender⟩)
    rw [line,hsender] at hwhole
    refine ⟨taken,h.wired,?_,h.standing,traced_cut hwhole hlast,?_,h.left⟩
    · simpa [hsender] using h.closed
    · rintro (hopen | ⟨rest',hrest⟩)
      · exact absurd (hcancelled.symm.trans hopen) (by decide)
      · cases hrest
  | @sent a rest whole hsender hopen hroom =>
    have hline : line { s with
        channel := { s.channel with buffer := s.channel.buffer ++ [a] }
        sender := .sending rest whole } taken = s.line taken := by
      simp [line,hsender,Sender.pending]
    refine ⟨taken,h.wired,?_,h.standing,hline ▸ h.traced,?_,h.left⟩
    · simpa [hsender] using h.closed
    · rw [hline]
      rintro (hc | ⟨rest',hrest⟩)
      · exact h.whole (.inl hc)
      · cases hrest
        exact h.whole (.inr ⟨_,hsender⟩)
  | gaveUp hsender hcancelled hopen =>
    refine ⟨taken,h.wired,⟨fun _ => rfl,fun _ => rfl⟩,h.standing,?_,?_,h.left⟩
    · refine h.traced.of_prefix ?_
      simp only [line,Sender.pending,List.append_nil]
      exact List.prefix_append _ _
    · rintro (hc | ⟨rest,hrest⟩)
      · exact absurd (hcancelled.symm.trans hc) (by decide)
      · cases hrest
  | closed hsender hopen =>
    have hline : line { s with channel := { s.channel with closed := true }, sender := .ended } taken =
        s.line taken := by
      simp [line,hsender,Sender.pending]
    refine ⟨taken,h.wired,⟨fun _ => rfl,fun _ => rfl⟩,h.standing,hline ▸ h.traced,?_,h.left⟩
    rw [hline]
    rintro (hc | ⟨rest,hrest⟩)
    · exact h.whole (.inl hc)
    · cases hrest
  | drained hreceiver hclosed hbuffer =>
    have hstanding := h.standing
    rw [hreceiver] at hstanding
    refine ⟨taken,h.wired,h.closed,?_,h.traced,h.whole,by intro v hv; cases hv⟩
    have hread := Reader.read_after hstanding []
    rw [List.append_nil] at hread
    exact hread
  | @took x v a rest hreceiver hbuffer htake =>
    have hline : line { s with
        channel := { s.channel with buffer := rest }
        receiver := (.reading v : Receiver ω κ) } (taken ++ [a]) = s.line taken := by
      simp [line,hbuffer]
    have hstanding := h.standing
    rw [hreceiver] at hstanding
    refine ⟨taken ++ [a],h.wired,h.closed,Reader.after_snoc hstanding htake,hline ▸ h.traced,?_,
      by intro v hv; cases hv⟩
    rw [hline]
    exact h.whole
  | @finished x k a rest hreceiver hbuffer htake =>
    have hline : line { s with
        channel := { s.channel with buffer := rest }
        receiver := (.ended k : Receiver ω κ) } (taken ++ [a]) = s.line taken := by
      simp [line,hbuffer]
    have hstanding := h.standing
    rw [hreceiver] at hstanding
    refine ⟨taken ++ [a],h.wired,h.closed,Reader.read_ended hstanding htake [],hline ▸ h.traced,?_,
      by intro v hv; cases hv⟩
    rw [hline]
    exact h.whole
  | left hreceiver hcancelled =>
    have hstanding := h.standing
    rw [hreceiver] at hstanding
    exact ⟨taken,h.wired,h.closed,hstanding,h.traced,h.whole,fun _ _ => hcancelled⟩

section Ends

def Terminal (ends : α → Bool) : List α → Prop
  | [] => True
  | a :: rest => (ends a = true → rest = []) ∧ Terminal ends rest

theorem Terminal.last {ends : α → Bool} {a : α} {before after : List α}
    (h : Terminal ends (before ++ a :: after)) (ha : ends a = true) : after = [] := by
  induction before with
  | nil => exact h.1 ha
  | cons b before ih => exact ih h.2

def Settled (s : Pipeline α ω κ) : Prop :=
  s.cancelled = false → s.receiver.stepsLeft = 0 → s.channel.buffer = [] ∧ s.sender.pending = []

variable {ends : α → Bool}

theorem Settled.step (hends : ∀ v a k, r.take v a = .inr k → ends a = true)
    (hterminal : Terminal ends items) (hs : Settled s) (h : Inv r mayCut capacity w items s taken)
    (ht : Pipeline.step r mayCut s e = some t) : Settled t := by
  intro hopen hstopped
  cases taken_of_step ht with
  | cancelled hc => cases hopen
  | cut hsender hcancelled hlast => exact absurd (hcancelled.symm.trans hopen) (by decide)
  | sent hsender hc hroom =>
    have hpending := (hs hopen hstopped).2
    rw [hsender] at hpending
    cases hpending
  | gaveUp hsender hcancelled hc => exact absurd (hcancelled.symm.trans hopen) (by decide)
  | closed hsender hc => exact ⟨(hs hopen hstopped).1,rfl⟩
  | drained hreceiver hclosed hbuffer =>
    refine ⟨hbuffer,?_⟩
    show s.sender.pending = []
    rw [h.closed.mp hclosed]
    rfl
  | took hreceiver hbuffer htake => cases hstopped
  | finished hreceiver hbuffer htake =>
    have hline := h.whole (.inl hopen)
    rw [line,hbuffer,List.append_assoc,List.cons_append] at hline
    rw [← hline] at hterminal
    exact List.append_eq_nil_iff.mp (hterminal.last (hends _ _ _ htake))
  | left hreceiver hcancelled => exact absurd (hcancelled.symm.trans hopen) (by decide)

theorem exists_settled (hends : ∀ v a k, r.take v a = .inr k → ends a = true)
    (hterminal : Terminal ends items) {es : List (Event α)}
    (h : exec (step r mayCut) (start capacity w items) es = some s) :
    ∃ taken, Inv r mayCut capacity w items s taken ∧ Settled s :=
  exec_invariant (Pipeline.step r mayCut)
    (I := fun s => ∃ taken, Inv r mayCut capacity w items s taken ∧ Settled s)
    (fun _ _ _ ⟨_,hinv,hs⟩ ht =>
      (hinv.step ht).elim fun taken' hinv' => ⟨taken',hinv',hs.step hends hterminal hinv ht⟩)
    ⟨[],inv_start,fun _ hstopped => by cases hstopped⟩ h

end Ends

section Results

def Event.ofParties : Event α → Bool
  | .send | .giveUp | .close | .receive | .leave => true
  | _ => false

def finished (s : Pipeline α ω κ) : Prop := s.sender = .ended ∧ s.receiver.stepsLeft = 0

def stepsLeft (s : Pipeline α ω κ) : ℕ :=
  s.sender.stepsLeft + s.channel.buffer.length + s.receiver.stepsLeft + if s.cancelled then 0 else 1

theorem closing_of_open (h : s.channel.closed = false) : ∃ t, s.closing = some t := by
  rw [closing,Channel.close,if_neg (by rw [h]; exact Bool.false_ne_true)]
  exact ⟨_,rfl⟩

theorem sender_steps (h : Inv r mayCut capacity w items s taken) {rest : List α} {whole : Bool}
    (hsender : s.sender = .sending rest whole)
    (hroom : rest = [] ∨ s.cancelled = true ∨ s.channel.buffer.length < capacity) :
    ∃ e t, e.ofParties = true ∧ step r mayCut s e = some t := by
  have hopen : s.channel.closed = false := by
    rcases hc : s.channel.closed with _ | _
    · rfl
    · have hended := h.closed.mp hc
      rw [hsender] at hended
      cases hended
  obtain ⟨t,ht⟩ := closing_of_open hopen
  cases rest with
  | nil => exact ⟨.close,t,rfl,by simp only [step,hsender,ht]⟩
  | cons a rest =>
    rcases hroom with hnil | hcancelled | hroom
    · cases hnil
    · exact ⟨.giveUp,t,rfl,by simp [step,hsender,hcancelled,ht]⟩
    · have hsend := Channel.send_of_room hopen (h.wired ▸ hroom) a
      exact ⟨.send,_,rfl,by simp only [step,hsender,hsend]; rfl⟩

theorem progress (hcapacity : 0 < capacity) (h : Inv r mayCut capacity w items s taken)
    (hs : Settled s) (hunfinished : ¬ s.finished) :
    ∃ e t, e.ofParties = true ∧ step r mayCut s e = some t := by
  cases hreceiver : s.receiver with
  | reading v =>
    cases hbuffer : s.channel.buffer with
    | cons a rest =>
      obtain ⟨b,channel,hreceive⟩ := Channel.receive_of_pos
        (c := s.channel) (by rw [hbuffer]; exact Nat.succ_pos _)
      exact ⟨.receive,_,rfl,by simp only [step,hreceiver,hreceive]; rfl⟩
    | nil =>
      cases hsender : s.sender with
      | ended =>
        have hreceive : s.channel.receive = .done (none,s.channel) := by
          rw [Channel.receive,hbuffer]
          exact if_pos (h.closed.mpr hsender)
        exact ⟨.receive,_,rfl,by simp only [step,hreceiver,hreceive]; rfl⟩
      | sending rest whole =>
        exact sender_steps h hsender (.inr (.inr (by rw [hbuffer]; exact hcapacity)))
  | ended k =>
    have hstopped : s.receiver.stepsLeft = 0 := by rw [hreceiver]; rfl
    cases hsender : s.sender with
    | ended => exact absurd ⟨hsender,hstopped⟩ hunfinished
    | sending rest whole =>
      refine sender_steps h hsender ?_
      rcases hc : s.cancelled with _ | _
      · have hpending := (hs hc hstopped).2
        rw [hsender] at hpending
        exact .inl hpending
      · exact .inr (.inl rfl)
  | left v =>
    cases hsender : s.sender with
    | ended => exact absurd ⟨hsender,by rw [hreceiver]; rfl⟩ hunfinished
    | sending rest whole => exact sender_steps h hsender (.inr (.inl (h.left v hreceiver)))

theorem stepsLeft_lt (h : step r mayCut s e = some t) : t.stepsLeft < s.stepsLeft := by
  cases taken_of_step h with
  | cancelled hc => simp [stepsLeft,hc]
  | @cut rest last hsender hcancelled hlast =>
    have hlength : last.toList.length ≤ 1 := by cases last <;> simp
    simp only [stepsLeft,hsender,Sender.stepsLeft]
    omega
  | @sent a rest whole hsender hopen hroom =>
    cases whole <;> simp only [stepsLeft,hsender,Sender.stepsLeft,List.length_append,
      List.length_cons,List.length_nil] <;> omega
  | @gaveUp a rest whole hsender hcancelled hopen =>
    cases whole <;> simp only [stepsLeft,hsender,Sender.stepsLeft] <;> omega
  | @closed whole hsender hopen =>
    cases whole <;> simp only [stepsLeft,hsender,Sender.stepsLeft] <;> omega
  | drained hreceiver hclosed hbuffer =>
    simp only [stepsLeft,hreceiver,Receiver.stepsLeft]
    omega
  | took hreceiver hbuffer htake =>
    simp only [stepsLeft,hreceiver,hbuffer,Receiver.stepsLeft,List.length_cons]
    omega
  | finished hreceiver hbuffer htake =>
    simp only [stepsLeft,hreceiver,hbuffer,Receiver.stepsLeft,List.length_cons]
    omega
  | left hreceiver hcancelled =>
    simp only [stepsLeft,hreceiver,Receiver.stepsLeft]
    omega

theorem length_le_stepsLeft {es : List (Event α)} (h : exec (step r mayCut) s es = some t) :
    es.length ≤ s.stepsLeft := by
  induction es generalizing s with
  | nil => exact Nat.zero_le _
  | cons e es ih =>
    obtain ⟨u,hu,hx⟩ := Option.bind_eq_some_iff.mp h
    have hlt := stepsLeft_lt hu
    have hle := ih hx
    rw [List.length_cons]
    omega

theorem Inv.stands (h : Inv r mayCut capacity w items s taken) :
    ∃ n, ∃ last : Option α, last.all mayCut = true ∧
      s.receiver.At r w (items.take n ++ last.toList) := by
  obtain ⟨n,last,hlast,htraced⟩ := h.traced.of_prefix
    (show taken <+: s.line taken by rw [line,List.append_assoc]; exact List.prefix_append _ _)
  rcases Nat.lt_or_ge (items.take n).length taken.length with hlong | hshort
  · have htaken : taken = items.take n ++ last.toList := by
      refine htraced.eq_of_length_le ?_
      have hlength : last.toList.length ≤ 1 := by cases last <;> simp
      rw [List.length_append]
      omega
    exact ⟨n,last,hlast,htaken ▸ h.standing⟩
  · have hprefix : taken <+: items :=
      (List.prefix_of_prefix_length_le htraced (List.prefix_append _ _) hshort).trans
        (List.take_prefix n items)
    refine ⟨taken.length,none,rfl,?_⟩
    rw [← List.prefix_iff_eq_take.mp hprefix,Option.toList_none,List.append_nil]
    exact h.standing

theorem Inv.reads_all (h : Inv r mayCut capacity w items s taken) (hs : Settled s) (hopen : s.cancelled = false) {k : κ}
    (hended : s.receiver = .ended k) : k = r.read w items := by
  obtain ⟨hbuffer,hpending⟩ := hs hopen (by rw [hended]; rfl)
  have hline := h.whole (.inl hopen)
  rw [line,hbuffer,hpending,List.append_nil,List.append_nil] at hline
  have hstanding := h.standing
  rw [hended,hline] at hstanding
  exact hstanding.symm

end Results

end Pipeline

end PrismGateway.Lib
