import PrismGateway.Config.Types
import PrismGateway.Lib.Channel
import PrismGateway.Lib.Run

namespace PrismGateway.Benchmarking

open Config Lib

structure BenchmarkedModel extends ModelConfig where
  baseURL : String := ""

structure BenchmarkingConfig where
  intervalMinutes : ℤ := 0
  timeoutMs : ℤ := 0
  maxConcurrency : ℤ := 0
  messages : List (String × String) := []

structure Usage where
  promptTokens : ℤ
  completionTokens : ℤ
  totalTokens : ℤ

structure ChatRequest where
  model : String
  messages : List (String × String)
  timeoutMs : ℤ
  deriving DecidableEq

inductive Reply where
  | failed (message : String)
  | answered (usage : Option Usage)

structure ModelBenchmarkRow where
  provider : String
  model : String
  success : Bool
  latencyMs : ℤ
  promptTokens : ℤ := 0
  completionTokens : ℤ := 0
  totalTokens : ℤ := 0
  costUSD : Float := 0
  errorType : String := ""
  benchmarkName : String := "default"

def stringContains (s sub : String) : Bool :=
  (List.range (s.length + 1 - sub.length)).any
    (fun i => (s.toList.drop i).take sub.length = sub.toList)

def contains (s sub : String) : Bool :=
  0 < sub.length && sub.length ≤ s.length && (s = sub || 0 < s.length && stringContains s sub)

def classifyError (msg : String) : String :=
  if contains msg "timeout" || contains msg "context deadline exceeded" ||
      contains msg "deadline" then "timeout"
  else if contains msg "401" || contains msg "403" || contains msg "unauthorized" ||
      contains msg "authentication" then "auth_error"
  else if contains msg "429" || contains msg "rate limit" ||
      contains msg "too many requests" then "rate_limit"
  else if contains msg "502" || contains msg "503" || contains msg "504" ||
      contains msg "upstream" then "upstream_error"
  else "unknown"

def estimateCost (p : Pricing) (promptTokens completionTokens : ℤ) : Float :=
  Float.ofInt promptTokens / 1000000 * p.promptPer1M +
    Float.ofInt completionTokens / 1000000 * p.completionPer1M

structure GlobalConfig (κ : Type) where
  models : List BenchmarkedModel
  providers : String → Option κ

/-- A runner over providers `π` that are built from configurations `κ`. `pairFromConfig` is `none` when
the pair cannot be built or has no chat provider. -/
structure Runner (κ π : Type) where
  cfg : BenchmarkingConfig
  yaml : GlobalConfig κ
  cached : Bool
  registry : String → Option π
  withBaseURL : κ → String → κ
  pairFromConfig : κ → Option π

namespace Runner

variable {κ π : Type} (r : Runner κ π)

def eligibleModels (resolved : Option (GlobalConfig κ)) : List BenchmarkedModel :=
  let models := match r.yaml.models, r.cached, resolved with
    | [], true, some gc => gc.models
    | models, _, _ => models
  models.filter (fun m => m.type ≠ "embedding" && !m.mock.enabled && (r.registry m.provider).isSome)

def providerForModel (resolved : Option (GlobalConfig κ)) (m : BenchmarkedModel) : Option π :=
  if m.baseURL = "" then r.registry m.provider
  else
    let found := if r.cached then resolved.bind (fun gc => gc.providers m.provider) else none
    (found.or (r.yaml.providers m.provider)).bind
      (fun pc => r.pairFromConfig (r.withBaseURL pc m.baseURL))

def buildMessages : List (String × String) :=
  match r.cfg.messages with
  | [] => [("user","Say hello in one short sentence.")]
  | messages => messages

def chatRequest (m : BenchmarkedModel) : ChatRequest where
  model := m.name
  messages := r.buildMessages
  timeoutMs := if r.cfg.timeoutMs ≤ 0 then 15000 else r.cfg.timeoutMs

def maxConc : ℕ := if r.cfg.maxConcurrency ≤ 0 then 2 else r.cfg.maxConcurrency.toNat

theorem maxConc_pos : 0 < r.maxConc := by
  rw [maxConc]
  split_ifs <;> omega

end Runner

def benchmarkRow (m : BenchmarkedModel) (latencyMs : ℤ) : Reply → ModelBenchmarkRow
  | .failed message => {
      provider := m.provider
      model := m.name
      success := false
      latencyMs := latencyMs
      errorType := classifyError message }
  | .answered none => {
      provider := m.provider
      model := m.name
      success := true
      latencyMs := latencyMs }
  | .answered (some u) => {
      provider := m.provider
      model := m.name
      success := true
      latencyMs := latencyMs
      promptTokens := u.promptTokens
      completionTokens := u.completionTokens
      totalTokens := u.totalTokens
      costUSD := estimateCost m.pricing u.promptTokens u.completionTokens }

inductive Result where
  | unprovided
  | stored
  | unstored
  deriving DecidableEq

/-- Where the goroutine of a model is: in `benchmarkModel` up to `leaving`, then in its deferred
function. -/
inductive Goroutine where
  | begun
  | calling
  | storing (row : ModelBenchmarkRow)
  | leaving (result : Result)
  | signalling (result : Result)
  | exited (result : Result)

inductive Main where
  | acquiring (i : ℕ)
  | launching (i : ℕ)
  | collecting (j : ℕ)
  | returned
  deriving DecidableEq

structure Round (π : Type) where
  sem : Channel Unit
  finished : Channel Unit
  main : Main
  goroutines : List Goroutine
  calls : List (ℕ × π × ChatRequest)
  rows : List (ℕ × ModelBenchmarkRow)

inductive Event (κ : Type) where
  | acquire
  | launch
  | resolve (i : ℕ) (resolved : Option (GlobalConfig κ))
  | answer (i : ℕ) (reply : Reply) (latencyMs : ℤ)
  | store (i : ℕ) (ok : Bool)
  | release (i : ℕ)
  | signal (i : ℕ)
  | collect

namespace Round

section Step

variable {κ π : Type} (r : Runner κ π) (models : List BenchmarkedModel) (s : Round π)

def start : Round π where
  sem := Channel.make r.maxConc
  finished := Channel.make models.length
  main := match models with
    | [] => .returned
    | _ :: _ => .acquiring 0
  goroutines := []
  calls := []
  rows := []

def move (i : ℕ) (g : Goroutine) : Round π := { s with goroutines := s.goroutines.set i g }

def acquire : Option (Round π) :=
  match s.main, s.sem.send () with
  | .acquiring i, .done sem => some { s with sem := sem, main := .launching i }
  | _, _ => none

def launch : Option (Round π) :=
  match s.main with
  | .launching i => some { s with
      goroutines := s.goroutines ++ [.begun]
      main := if i + 1 < models.length then .acquiring (i + 1) else .collecting 0 }
  | _ => none

def resolve (i : ℕ) (resolved : Option (GlobalConfig κ)) (m : BenchmarkedModel) :
    Goroutine → Option (Round π)
  | .begun => match r.providerForModel resolved m with
    | none => some (s.move i (.leaving .unprovided))
    | some p => some { s.move i .calling with calls := s.calls ++ [(i,p,r.chatRequest m)] }
  | _ => none

def answer (i : ℕ) (reply : Reply) (latencyMs : ℤ) (m : BenchmarkedModel) :
    Goroutine → Option (Round π)
  | .calling => some (s.move i (.storing (benchmarkRow m latencyMs reply)))
  | _ => none

def store (i : ℕ) (ok : Bool) : Goroutine → Option (Round π)
  | .storing row =>
    if ok then some { s.move i (.leaving .stored) with rows := s.rows ++ [(i,row)] }
    else some (s.move i (.leaving .unstored))
  | _ => none

def release (i : ℕ) : Goroutine → Option (Round π)
  | .leaving result => match s.sem.receive with
    | .done (_,sem) => some { s.move i (.signalling result) with sem := sem }
    | _ => none
  | _ => none

def signal (i : ℕ) : Goroutine → Option (Round π)
  | .signalling result => match s.finished.send () with
    | .done finished => some { s.move i (.exited result) with finished := finished }
    | _ => none
  | _ => none

def collect : Option (Round π) :=
  match s.main, s.finished.receive with
  | .collecting j, .done (_,finished) => some { s with
      finished := finished
      main := if j + 1 < models.length then .collecting (j + 1) else .returned }
  | _, _ => none

def step (s : Round π) : Event κ → Option (Round π)
  | .acquire => s.acquire
  | .launch => s.launch models
  | .resolve i resolved =>
    (models[i]?).bind (fun m => (s.goroutines[i]?).bind (s.resolve r i resolved m))
  | .answer i reply latencyMs =>
    (models[i]?).bind (fun m => (s.goroutines[i]?).bind (s.answer i reply latencyMs m))
  | .store i ok => (s.goroutines[i]?).bind (s.store i ok)
  | .release i => (s.goroutines[i]?).bind (s.release i)
  | .signal i => (s.goroutines[i]?).bind (s.signal i)
  | .collect => s.collect models

end Step

section Taken

variable {κ π : Type} {r : Runner κ π} {models : List BenchmarkedModel} {s t : Round π} {i : ℕ}
  {e : Event κ} {g : Goroutine} {m : BenchmarkedModel}

inductive Taken (r : Runner κ π) (models : List BenchmarkedModel) (s : Round π) :
    Event κ → Round π → Prop
  | acquired {i : ℕ} {sem : Channel Unit} (hmain : s.main = .acquiring i)
      (hsend : s.sem.send () = .done sem) :
      Taken r models s .acquire { s with sem := sem, main := .launching i }
  | launched {i : ℕ} (hmain : s.main = .launching i) : Taken r models s .launch { s with
      goroutines := s.goroutines ++ [.begun]
      main := if i + 1 < models.length then .acquiring (i + 1) else .collecting 0 }
  | unprovided {i : ℕ} {resolved : Option (GlobalConfig κ)} {m : BenchmarkedModel}
      (hm : models[i]? = some m) (hg : s.goroutines[i]? = some .begun)
      (hp : r.providerForModel resolved m = none) :
      Taken r models s (.resolve i resolved) (s.move i (.leaving .unprovided))
  | called {i : ℕ} {resolved : Option (GlobalConfig κ)} {m : BenchmarkedModel} {p : π}
      (hm : models[i]? = some m) (hg : s.goroutines[i]? = some .begun) :
      Taken r models s (.resolve i resolved) { s.move i .calling with
        calls := s.calls ++ [(i,p,r.chatRequest m)] }
  | answered {i : ℕ} {reply : Reply} {latencyMs : ℤ} {m : BenchmarkedModel}
      (hm : models[i]? = some m) (hg : s.goroutines[i]? = some .calling) :
      Taken r models s (.answer i reply latencyMs)
        (s.move i (.storing (benchmarkRow m latencyMs reply)))
  | stored {i : ℕ} {row : ModelBenchmarkRow} (hg : s.goroutines[i]? = some (.storing row)) :
      Taken r models s (.store i true) { s.move i (.leaving .stored) with
        rows := s.rows ++ [(i,row)] }
  | unstored {i : ℕ} {row : ModelBenchmarkRow} (hg : s.goroutines[i]? = some (.storing row)) :
      Taken r models s (.store i false) (s.move i (.leaving .unstored))
  | released {i : ℕ} {result : Result} {token : Option Unit} {sem : Channel Unit}
      (hg : s.goroutines[i]? = some (.leaving result)) (hreceive : s.sem.receive = .done (token,sem)) :
      Taken r models s (.release i) { s.move i (.signalling result) with sem := sem }
  | signalled {i : ℕ} {result : Result} {finished : Channel Unit}
      (hg : s.goroutines[i]? = some (.signalling result))
      (hsend : s.finished.send () = .done finished) :
      Taken r models s (.signal i) { s.move i (.exited result) with finished := finished }
  | collected {j : ℕ} {token : Option Unit} {finished : Channel Unit}
      (hmain : s.main = .collecting j) (hreceive : s.finished.receive = .done (token,finished)) :
      Taken r models s .collect { s with
        finished := finished
        main := if j + 1 < models.length then .collecting (j + 1) else .returned }

theorem taken_resolve {resolved : Option (GlobalConfig κ)} (hm : models[i]? = some m)
    (hg : s.goroutines[i]? = some g) (h : s.resolve r i resolved m g = some t) :
    Taken r models s (.resolve i resolved) t := by
  cases g with
  | begun =>
    simp only [resolve] at h
    split at h
    · next hp => exact Option.some.inj h ▸ .unprovided hm hg hp
    · exact Option.some.inj h ▸ .called hm hg
  | _ => cases h

theorem taken_answer {reply : Reply} {latencyMs : ℤ} (hm : models[i]? = some m)
    (hg : s.goroutines[i]? = some g) (h : s.answer i reply latencyMs m g = some t) :
    Taken r models s (.answer i reply latencyMs) t := by
  cases g with
  | calling => exact Option.some.inj h ▸ .answered hm hg
  | _ => cases h

theorem taken_store {ok : Bool} (hg : s.goroutines[i]? = some g) (h : s.store i ok g = some t) :
    Taken r models s (.store i ok) t := by
  cases g with
  | storing row =>
    cases ok with
    | true => exact Option.some.inj h ▸ .stored hg
    | false => exact Option.some.inj h ▸ .unstored hg
  | _ => cases h

theorem taken_release (hg : s.goroutines[i]? = some g) (h : s.release i g = some t) :
    Taken r models s (.release i) t := by
  cases g with
  | leaving result =>
    simp only [release] at h
    split at h
    · next hreceive => exact Option.some.inj h ▸ .released hg hreceive
    · cases h
  | _ => cases h

theorem taken_signal (hg : s.goroutines[i]? = some g) (h : s.signal i g = some t) :
    Taken r models s (.signal i) t := by
  cases g with
  | signalling result =>
    simp only [signal] at h
    split at h
    · next hsend => exact Option.some.inj h ▸ .signalled hg hsend
    · cases h
  | _ => cases h

theorem taken_of_step (h : step r models s e = some t) : Taken r models s e t := by
  cases e with
  | acquire =>
    simp only [step,acquire] at h
    split at h
    · next hmain hsend => exact Option.some.inj h ▸ .acquired hmain hsend
    · cases h
  | launch =>
    simp only [step,launch] at h
    split at h
    · next hmain => exact Option.some.inj h ▸ .launched hmain
    · cases h
  | resolve i resolved =>
    obtain ⟨m,hm,h⟩ := Option.bind_eq_some_iff.mp h
    obtain ⟨g,hg,h⟩ := Option.bind_eq_some_iff.mp h
    exact taken_resolve hm hg h
  | answer i reply latencyMs =>
    obtain ⟨m,hm,h⟩ := Option.bind_eq_some_iff.mp h
    obtain ⟨g,hg,h⟩ := Option.bind_eq_some_iff.mp h
    exact taken_answer hm hg h
  | store i ok =>
    obtain ⟨g,hg,h⟩ := Option.bind_eq_some_iff.mp h
    exact taken_store hg h
  | release i =>
    obtain ⟨g,hg,h⟩ := Option.bind_eq_some_iff.mp h
    exact taken_release hg h
  | signal i =>
    obtain ⟨g,hg,h⟩ := Option.bind_eq_some_iff.mp h
    exact taken_signal hg h
  | collect =>
    simp only [step,collect] at h
    split at h
    · next hmain hreceive => exact Option.some.inj h ▸ .collected hmain hreceive
    · cases h

end Taken

end Round

end PrismGateway.Benchmarking
