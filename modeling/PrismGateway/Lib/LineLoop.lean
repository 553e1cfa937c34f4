import Mathlib.Data.List.Basic

namespace PrismGateway.Lib

inductive Turn (ω : Type) where
  | more (out : List ω)
  | stop (out : List ω)

namespace Turn

variable {σ ι ρ ω : Type}

def stops : Turn ω → Bool
  | .more _ => false
  | .stop _ => true

def out : Turn ω → List ω
  | .more out => out
  | .stop out => out

/-- What is put out for a list of records; `finish` is for when they run out. -/
def run (step : ρ → Turn ω) (finish : List ω) : List ρ → List ω
  | [] => finish
  | r :: rest => match step r with
    | .more out => out ++ run step finish rest
    | .stop out => out

def scan (read : σ → ι → σ × Option ρ) (step : ρ → Turn ω) (finish : List ω) : σ → List ι → List ω
  | _, [] => finish
  | s, line :: rest => match read s line with
    | (t,none) => scan read step finish t rest
    | (t,some r) => match step r with
      | .more out => out ++ scan read step finish t rest
      | .stop out => out

def reads (read : σ → ι → σ × Option ρ) : σ → List ι → List ρ
  | _, [] => []
  | s, line :: rest => (read s line).2.toList ++ reads read (read s line).1 rest

theorem scan_eq_run (read : σ → ι → σ × Option ρ) (step : ρ → Turn ω) (finish : List ω) (s : σ)
    (lines : List ι) : scan read step finish s lines = run step finish (reads read s lines) := by
  induction lines generalizing s with
  | nil => rfl
  | cons line rest ih =>
    unfold scan reads
    rcases read s line with ⟨t,_ | r⟩
    · exact ih t
    · simp only [Option.toList_some,List.singleton_append,run]
      cases step r with
      | more out => simp only [ih t]
      | stop out => rfl

def EndsIn (bad : ω → Prop) (l : List ω) : Prop := ∃ e, l.getLast? = some e ∧ bad e

theorem not_endsIn_nil (bad : ω → Prop) : ¬ EndsIn bad [] := by
  rintro ⟨e,he,-⟩
  cases he

theorem endsIn_singleton {bad : ω → Prop} {e : ω} : EndsIn bad [e] ↔ bad e := by
  simp [EndsIn]

theorem endsIn_append {bad : ω → Prop} {out : List ω} (h : ∀ e ∈ out, ¬ bad e) (l : List ω) :
    EndsIn bad (out ++ l) ↔ EndsIn bad l := by
  cases l with
  | nil =>
    rw [List.append_nil]
    refine ⟨?_,fun hnil => absurd hnil (not_endsIn_nil bad)⟩
    rintro ⟨e,he,hbad⟩
    exact absurd hbad (h e (List.mem_of_getLast? he))
  | cons a l =>
    have hlast : (out ++ a :: l).getLast? = (a :: l).getLast? :=
      List.getLast?_append_of_ne_nil out (List.cons_ne_nil a l)
    unfold EndsIn
    rw [hlast]

theorem endsIn_run {bad : ω → Prop} {step : ρ → Turn ω}
    (h : ∀ r out, step r = .more out → ∀ e ∈ out, ¬ bad e) (finish : List ω) (records : List ρ) :
    EndsIn bad (run step finish records) ↔
      EndsIn bad (((records.find? (fun r => (step r).stops)).map (fun r => (step r).out)).getD finish) := by
  induction records with
  | nil => rfl
  | cons r rest ih =>
    cases hr : step r with
    | more out =>
      have hfind : (r :: rest).find? (fun r => (step r).stops) =
          rest.find? (fun r => (step r).stops) := by
        rw [List.find?_cons_of_neg]
        simp [hr,stops]
      rw [hfind,← ih]
      simp only [run,hr]
      exact endsIn_append (h r out hr) _
    | stop out =>
      have hfind : (r :: rest).find? (fun r => (step r).stops) = some r := by
        rw [List.find?_cons_of_pos]
        simp [hr,stops]
      rw [hfind]
      simp [run,hr,Turn.out]

def Closed (plain : ω → Prop) (l : List ω) : Prop :=
  ∃ items last, l = items ++ last ∧ (∀ e ∈ items, plain e) ∧ last.length ≤ 1

theorem closed_of_length {plain : ω → Prop} {l : List ω} (h : l.length ≤ 1) : Closed plain l :=
  ⟨[],l,rfl,nofun,h⟩

theorem Closed.append {plain : ω → Prop} {out l : List ω} (hout : ∀ e ∈ out, plain e)
    (h : Closed plain l) : Closed plain (out ++ l) := by
  obtain ⟨items,last,rfl,hitems,hlast⟩ := h
  refine ⟨out ++ items,last,(List.append_assoc out items last).symm,?_,hlast⟩
  intro e he
  rcases List.mem_append.mp he with he | he
  · exact hout e he
  · exact hitems e he

theorem closed_run {plain : ω → Prop} {step : ρ → Turn ω} {finish : List ω}
    (hmore : ∀ r out, step r = .more out → ∀ e ∈ out, plain e)
    (hstop : ∀ r out, step r = .stop out → Closed plain out) (hfinish : Closed plain finish)
    (records : List ρ) : Closed plain (run step finish records) := by
  induction records with
  | nil => exact hfinish
  | cons r rest ih =>
    unfold run
    cases hr : step r with
    | more out => exact ih.append (hmore r out hr)
    | stop out => exact hstop r out hr

end Turn

end PrismGateway.Lib
