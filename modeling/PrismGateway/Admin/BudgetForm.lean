import PrismGateway.Admin.TenantPatch
import PrismGateway.Admin.TenantRules
import PrismGateway.Frontend.AdminClient
import PrismGateway.Storage.ArrivalMerge

namespace PrismGateway.Admin

open Lib Config.Schemas Storage

section Number

def digitValue (base : ℕ) (c : Char) : Option ℕ :=
  let v := if c.isDigit then c.toNat - '0'.toNat else c.toLower.toNat - 'a'.toNat + 10
  if (c.isDigit || c.isAlpha) && v < base then some v else none

def natural (base : ℕ) (digits : List Char) : Option ℕ :=
  if digits = [] then none
  else (digits.mapM (digitValue base)).map (fun vs => vs.foldl (fun n v => base * n + v) 0)

def exponent : List Char → Option ℤ
  | [] => some 0
  | e :: rest =>
    if e = 'e' ∨ e = 'E' then match rest with
      | '-' :: digits => (natural 10 digits).map (fun n => -(n : ℤ))
      | '+' :: digits => (natural 10 digits).map (fun n => (n : ℤ))
      | digits => (natural 10 digits).map (fun n => (n : ℤ))
    else none

def scaled (m : ℕ) (e : ℤ) : Float :=
  Float.ofScientific m (decide (e < 0)) e.natAbs

def decimal (cs : List Char) : Option Float :=
  let (whole,rest) := cs.span Char.isDigit
  let (part,rest) := match rest with
    | '.' :: rest => rest.span Char.isDigit
    | rest => ([],rest)
  match natural 10 (whole ++ part), exponent rest with
  | some m, some e => some (scaled m (e - part.length))
  | _, _ => none

def unsigned (cs : List Char) : Option Float :=
  if cs = "Infinity".toList then some (1 / 0) else decimal cs

def numberOfText (s : String) : Option Float :=
  match (Frontend.trim s).toList with
  | [] => some 0
  | '+' :: cs => unsigned cs
  | '-' :: cs => (unsigned cs).map (fun x => -x)
  | '0' :: x :: digits =>
    if x = 'x' ∨ x = 'X' then (natural 16 digits).map Float.ofNat
    else if x = 'o' ∨ x = 'O' then (natural 8 digits).map Float.ofNat
    else if x = 'b' ∨ x = 'B' then (natural 2 digits).map Float.ofNat
    else unsigned ('0' :: x :: digits)
  | cs => unsigned cs

def numberOfItem : Json → Option Float
  | .null => some 0
  | .num x => some x
  | .str s => numberOfText s
  | .arr [] => some 0
  | .arr [j] => numberOfItem j
  | _ => none

def number : Json → Option Float
  | .bool b => some (if b then 1 else 0)
  | j => numberOfItem j

end Number

def unitsFrom (i : ℕ) : List Char → Json.Entries
  | [] => []
  | c :: cs =>
    if c.toNat < 0x10000 then (toString i,.str (String.singleton c)) :: unitsFrom (i + 1) cs
    else unitsFrom (i + 2) cs

def objectEntries : Json → Option Json.Entries
  | .null => none
  | .obj es => some es
  | .arr items => some (items.zipIdx.map (fun x => (toString x.2,x.1)))
  | .str s => some (unitsFrom 0 s.toList)
  | .num _ => some []
  | .bool _ => some []

inductive TagText where
  | blank
  | malformed
  | json (j : Json)

def parseTagBudgetsMonthly : TagText → Option Json.Entries
  | .blank => none
  | .malformed => none
  | .json j => (objectEntries j).map (fun es => es.filterMap fun e =>
      -- an assignment to `__proto__` leaves no key of its own
      if e.1 = "__proto__" then none
      else ((number e.2).filter Float.isFinite).map (fun x => (e.1,Json.num x)))

inductive EnforcementMode where
  | reportOnly
  | block
  | degrade
  deriving DecidableEq

def EnforcementMode.text : EnforcementMode → String
  | .reportOnly => "report_only"
  | .block => "block"
  | .degrade => "degrade"

/-- What `budgetSchema` makes of the fields of `EditBudgetDialog`. -/
structure BudgetForm where
  monthlyUsd : Option Float := none
  timezone : Option String := some "UTC"
  enabled : Bool := false
  mode : EnforcementMode := .reportOnly
  warnPctUi : Float := 80
  hardPctUi : Float := 100
  blockStatus : Int := 429
  degradeRouteGroup : String := ""
  includeCostInError : Bool := false
  tagBudgetsEnabled : Bool := false
  tagBudgetKeys : String := ""
  tagBudgetMonthlyByTag : TagText := .blank

namespace BudgetForm

variable (form : BudgetForm)

def valid : Bool :=
  form.monthlyUsd.all (fun x => 0 ≤ x) &&
    (0 ≤ form.warnPctUi && form.warnPctUi ≤ 100) && (0 ≤ form.hardPctUi && form.hardPctUi ≤ 100) &&
    (100 ≤ form.blockStatus && form.blockStatus ≤ 599) && !(form.hardPctUi ≤ form.warnPctUi) &&
    !(form.mode = .degrade && form.degradeRouteGroup = "")

def tagKeys : List String :=
  (((form.tagBudgetKeys.toList.splitOn ',').map String.ofList).map Frontend.trim).filter (· ≠ "")

def monthlyByTag : Option Json.Entries := parseTagBudgetsMonthly form.tagBudgetMonthlyByTag

def budgets : Json.Entries :=
  form.monthlyUsd.toList.map (fun x => ("monthly_usd",numberText x)) ++
    form.timezone.toList.map (fun t => ("timezone",Json.str t))

def thresholds : Json.Entries :=
  [("warn_pct",numberText (form.warnPctUi / 100)),("hard_pct",numberText (form.hardPctUi / 100))]

def modeEntries : Json.Entries :=
  match form.mode with
  | .reportOnly => []
  | .block => [("block_status",.num (Float.ofInt form.blockStatus))]
  | .degrade => [("degrade_route_group",.str form.degradeRouteGroup)]

def tagBudgets : Json.Entries :=
  ([("enabled",.bool form.tagBudgetsEnabled),("keys",.arr (form.tagKeys.map .str))] : Json.Entries) ++
    form.monthlyByTag.toList.map (fun m => ("monthly_usd_by_tag",Json.obj m))

def budgetEnforcement : Json.Entries :=
  ([("enabled",.bool form.enabled),("mode",.str form.mode.text),("thresholds",.obj form.thresholds),
    ("include_cost_in_error",.bool form.includeCostInError)] : Json.Entries) ++ form.modeEntries ++
    [("tag_budgets",Json.obj form.tagBudgets)]

def patch : Json :=
  .obj [("budgets",.obj form.budgets),("budget_enforcement",.obj form.budgetEnforcement)]

end BudgetForm

namespace BudgetForm

def flagAt (config : Json) (path : List String) : Bool :=
  match config.read path with
  | some (.bool b) => b
  | _ => false

def numberAt (config : Json) (path : List String) (otherwise : Float) : Float :=
  match config.read path with
  | some (.num x) => x
  | _ => otherwise

def modeOf : Option Json → Option EnforcementMode
  | none => some .reportOnly
  | some .null => some .reportOnly
  | some (.str t) => [EnforcementMode.reportOnly,.block,.degrade].find? (fun m => m.text = t)
  | _ => none

def opened (config : Json) : Option BudgetForm := do
  let mode ← modeOf (config.read ["budget_enforcement","mode"])
  let form : BudgetForm :=
    { monthlyUsd := match config.read ["budgets","monthly_usd"] with
        | some (.num x) => some x
        | some .null => some 0
        | _ => none
      timezone := match config.textAt ["budgets","timezone"] with
        | "" => some "UTC"
        | timezone => some timezone
      enabled := flagAt config ["budget_enforcement","enabled"]
      mode := mode
      warnPctUi := numberAt config ["budget_enforcement","thresholds","warn_pct"] 0.8 * 100
      hardPctUi := numberAt config ["budget_enforcement","thresholds","hard_pct"] 1 * 100
      blockStatus :=
        (Json.integerValue (numberAt config ["budget_enforcement","block_status"] 429)).getD 0
      degradeRouteGroup := config.textAt ["budget_enforcement","degrade_route_group"]
      includeCostInError := flagAt config ["budget_enforcement","include_cost_in_error"]
      tagBudgetsEnabled := flagAt config ["budget_enforcement","tag_budgets","enabled"]
      tagBudgetKeys := ",".intercalate
        (textsOf ((config.read ["budget_enforcement","tag_budgets","keys"]).getD .null))
      tagBudgetMonthlyByTag :=
        match config.read ["budget_enforcement","tag_budgets","monthly_usd_by_tag"] with
        | some (.obj m) => .json (.obj m)
        | _ => .json (.obj []) }
  if form.valid then some form else none

end BudgetForm

def saveBudget (cfg : Settings) (db : TenantTables) (readOrder patchOrder : Json.MapOrder)
    (tenantID : String) (version : Int) (form : BudgetForm) :
    Option (TenantTables × Except Failure Int) :=
  if form.valid then
    some (adminPatchTenantConfig cfg db readOrder patchOrder tenantID (.version version) (some form.patch))
  else none

end PrismGateway.Admin
