import Mathlib.Data.ENat.Basic
import PrismGateway.Api.Requests
import PrismGateway.Lib.Regex

namespace PrismGateway.Api.ConversationLog

open Lib

section Patterns

def digit (c : Char) : Bool := '0' ≤ c && c ≤ '9'

def letter (c : Char) : Bool := ('a' ≤ c && c ≤ 'z') || ('A' ≤ c && c ≤ 'Z')

def word (c : Char) : Bool := letter c || digit c || c = '_'

-- `\s` of the source's patterns
def blank (c : Char) : Bool := c = '\t' || c = '\n' || c = '\x0c' || c = '\r' || c = ' '

def mailbox (c : Char) : Bool := letter c || digit c || "._%+-".toList.contains c

def host (c : Char) : Bool := letter c || digit c || ".-".toList.contains c

def phoneSeparator (c : Char) : Bool := "-.".toList.contains c

def cardSeparator (c : Char) : Bool := blank c || c = '-'

def emailPattern : Regex Char :=
  .all [.one mailbox,.many mailbox,.one (· = '@'),.one host,.many host,.one (· = '.'),.times 2 letter,
    .many letter]

def phonePattern : Regex Char :=
  .all [.boundary word,.times 3 digit,.maybe phoneSeparator,.times 3 digit,.maybe phoneSeparator,
    .times 4 digit,.boundary word]

def creditCardPattern : Regex Char :=
  .all [.boundary word,.times 4 digit,.maybe cardSeparator,.times 4 digit,.maybe cardSeparator,
    .times 4 digit,.maybe cardSeparator,.times 4 digit,.boundary word]

end Patterns

structure Letters (α : Type) where
  char : α → Char
  mark : Char → α

def plain : Letters Char := ⟨id,id⟩

def placed : Letters (Char × Option ℕ) := ⟨Prod.fst,fun c => (c,none)⟩

section Texts

variable {α : Type} (view : Letters α)

def replaceAllString (r : Regex Char) (s : List α) (marker : String) : List α :=
  (r.comap view.char).replaceAll (marker.toList.map view.mark) none 0 s

def redactTextPII (s : List α) : List α :=
  let out := replaceAllString view emailPattern s "[REDACTED-EMAIL]"
  let out := replaceAllString view phonePattern out "[REDACTED-PHONE]"
  replaceAllString view creditCardPattern out "[REDACTED-CC]"

def redactConversationPreview (s : List α) : List α := redactTextPII view s

def truncateText (s : List α) (n : ℤ) : List α :=
  if n ≤ 0 ∨ s.length ≤ n then s else s.take n.toNat

end Texts

structure Tenant where
  id : String
  mode : String

def Tenant.loggingMode (tenant : Tenant) : String :=
  let mode := GoStrings.trimSpace tenant.mode
  if mode = "" then "metadata_only" else mode

structure Conversation where
  id : String
  requestID : String
  promptMessages : List String
  -- the messages of the choices
  choices : List ChatMessage
  piiRequestDecision : Option String
  piiResponseDecision : Option String
  jwtSub : Option String
  customerID : Option String

structure Row (T : Type) where
  id : String
  requestID : String
  tenantID : String
  jwtSub : Option String
  customerID : Option String
  promptPreview : T
  responsePreview : T
  promptRedacted : Option T
  responseRedacted : Option T
  piiDetected : Bool
  loggingMode : String
  deriving DecidableEq

def Row.map {T T' : Type} (f : T → T') (row : Row T) : Row T' :=
  { row with
    promptPreview := f row.promptPreview
    responsePreview := f row.responsePreview
    promptRedacted := row.promptRedacted.map f
    responseRedacted := row.responseRedacted.map f }

namespace Conversation

def promptFull (c : Conversation) : String := GoStrings.trimSpace (" ".intercalate c.promptMessages)

def responseFull (c : Conversation) : String :=
  match c.choices with
  | [] => ""
  | message :: _ => GoStrings.trimSpace message.textContent

def piiDetected (c : Conversation) : Bool :=
  c.piiRequestDecision.any (· != "allow") || c.piiResponseDecision.any (· != "allow")

def row {α : Type} (view : Letters α) (tenant : Tenant) (c : Conversation) (prompt response : List α) :
    Row (List α) where
  id := c.id
  requestID := c.requestID
  tenantID := tenant.id
  jwtSub := c.jwtSub
  customerID := c.customerID
  promptPreview := redactConversationPreview view (truncateText prompt 400)
  responsePreview := redactConversationPreview view (truncateText response 400)
  promptRedacted := some (redactTextPII view prompt)
  responseRedacted := some (redactTextPII view response)
  piiDetected := c.piiDetected
  loggingMode := "redacted"

end Conversation

def logged {α : Type} (view : Letters α) (enabled : Bool) (tenant : Option Tenant) (c : Conversation)
    (prompt response : List α) : Option (Row (List α)) :=
  match tenant with
  | none => none
  | some tenant =>
    if !enabled then none
    else if tenant.loggingMode = "disabled" then none
    else some (c.row view tenant prompt response)

def logConversationAsync (enabled : Bool) (tenant : Option Tenant) (c : Conversation) :
    Option (Row String) :=
  (logged plain enabled tenant c c.promptFull.toList c.responseFull.toList).map (·.map String.ofList)

section Places

abbrev Placed := List (Char × Option ℕ)

def place (s : String) : Placed := s.toList.zipIdx.map fun x => (x.1,some x.2)

def text (t : Placed) : String := String.ofList (t.map Prod.fst)

def kept (t : Placed) : List ℕ := t.filterMap Prod.snd

/-- The row of `logConversationAsync` with the place that each letter of its texts comes from. -/
def placedLog (enabled : Bool) (tenant : Option Tenant) (c : Conversation) : Option (Row Placed) :=
  logged placed enabled tenant c (place c.promptFull) (place c.responseFull)

def Conceals (full : String) (stored : Placed) : Prop :=
  ∀ i ∈ kept stored, i ∈ kept (redactTextPII placed (place full))

theorem text_place (s : String) : text (place s) = s := by
  rw [text,place,List.map_map]
  change String.ofList (s.toList.zipIdx.map Prod.fst) = s
  rw [List.zipIdx_map_fst,String.ofList_toList]

theorem replaceAllString_placed (r : Regex Char) (t : Placed) (marker : String) :
    (replaceAllString placed r t marker).map Prod.fst = replaceAllString plain r (t.map Prod.fst) marker := by
  have hmarker : (marker.toList.map placed.mark).map Prod.fst = marker.toList.map plain.mark := by
    rw [List.map_map]
    rfl
  have hplaced := Regex.replaceAll_comap Prod.fst r (marker.toList.map placed.mark) t none 0
  have hplain := Regex.replaceAll_comap id r (marker.toList.map plain.mark) (t.map Prod.fst) none 0
  rw [hmarker] at hplaced
  rw [List.map_id,List.map_id,List.map_id] at hplain
  exact hplaced.trans hplain.symm

theorem redactTextPII_placed (t : Placed) :
    (redactTextPII placed t).map Prod.fst = redactTextPII plain (t.map Prod.fst) := by
  simp only [redactTextPII,replaceAllString_placed]

theorem truncateText_map {α β : Type} (f : α → β) (s : List α) (n : ℤ) :
    (truncateText s n).map f = truncateText (s.map f) n := by
  simp only [truncateText,List.length_map]
  split_ifs
  · rfl
  · exact List.map_take

theorem placedLog_text (enabled : Bool) (tenant : Option Tenant) (c : Conversation) :
    (placedLog enabled tenant c).map (·.map text) = logConversationAsync enabled tenant c := by
  have hplace (s : String) : (place s).map Prod.fst = s.toList :=
    String.ofList_injective ((text_place s).trans (String.ofList_toList).symm)
  cases tenant with
  | none => rfl
  | some tenant =>
    simp only [placedLog,logConversationAsync,logged]
    split_ifs
    · rfl
    · rfl
    · simp only [Option.map_some,Row.map,Conversation.row,redactConversationPreview,text,redactTextPII_placed,
        truncateText_map,hplace]

end Places

section Modes

def Conversation.Within (c : Conversation) (n : ℕ∞) : Prop :=
  (c.promptFull.toList.length : ℕ∞) ≤ n ∧ (c.responseFull.toList.length : ℕ∞) ≤ n

def SameButTexts (c c' : Conversation) : Prop :=
  { c with promptMessages := c'.promptMessages, choices := c'.choices } = c'

def ConcealsTexts (c : Conversation) (row : Row Placed) : Prop :=
  Conceals c.promptFull row.promptPreview ∧ Conceals c.responseFull row.responsePreview ∧
    (∀ t ∈ row.promptRedacted, Conceals c.promptFull t) ∧ ∀ t ∈ row.responseRedacted, Conceals c.responseFull t

/-- What the logging mode promises of conversations whose texts have at most `n` letters. -/
structure ObeysMode (enabled : Bool) (tenant : Tenant) (n : ℕ∞) : Prop where
  metadata : tenant.loggingMode = "metadata_only" → ∀ c c' : Conversation, c.Within n → c'.Within n →
    SameButTexts c c' → logConversationAsync enabled (some tenant) c = logConversationAsync enabled (some tenant) c'
  redacted : tenant.loggingMode = "redacted" → ∀ c : Conversation, c.Within n →
    ∀ row ∈ placedLog enabled (some tenant) c, ConcealsTexts c row

theorem logged_of_enabled {α : Type} (view : Letters α) {tenant : Tenant} {c : Conversation}
    {prompt response : List α} (h : tenant.loggingMode ≠ "disabled") :
    logged view true (some tenant) c prompt response = some (c.row view tenant prompt response) := by
  simp only [logged,Bool.not_true,Bool.false_eq_true,if_false,if_neg h]

theorem logged_of_disabled {α : Type} (view : Letters α) (tenant : Tenant) (c : Conversation)
    (prompt response : List α) : logged view false (some tenant) c prompt response = none := rfl

theorem truncateText_of_le {α : Type} {s : List α} (h : s.length ≤ 400) : truncateText s 400 = s :=
  if_pos (.inr (by exact_mod_cast h))

theorem length_place (s : String) : (place s).length = s.toList.length := by
  rw [place,List.length_map,List.length_zipIdx]

theorem conceals_redacted (full : String) : Conceals full (redactTextPII placed (place full)) := fun _ hi => hi

theorem conceals_stored (full : String) : ∀ t ∈ some (redactTextPII placed (place full)), Conceals full t := by
  intro t ht
  rw [← Option.some.inj ht]
  exact conceals_redacted full

theorem conceals_preview {full : String} (h : (full.toList.length : ℕ∞) ≤ 400) :
    Conceals full (redactConversationPreview placed (truncateText (place full) 400)) := by
  have hlength : (place full).length ≤ 400 := by
    rw [length_place]
    exact_mod_cast h
  rw [truncateText_of_le hlength]
  exact conceals_redacted full

theorem concealsTexts_of_short {tenant : Tenant} {c : Conversation} (hc : c.Within 400) :
    ConcealsTexts c (c.row placed tenant (place c.promptFull) (place c.responseFull)) := by
  simp only [ConcealsTexts,Conversation.row]
  exact ⟨conceals_preview hc.1,conceals_preview hc.2,conceals_stored c.promptFull,
    conceals_stored c.responseFull⟩

theorem same_of_empty {enabled : Bool} {tenant : Option Tenant} {c c' : Conversation} (hc : c.Within 0)
    (hc' : c'.Within 0) (h : SameButTexts c c') :
    logConversationAsync enabled tenant c = logConversationAsync enabled tenant c' := by
  have hempty {s : String} (hs : (s.toList.length : ℕ∞) ≤ 0) : s.toList = [] :=
    List.length_eq_zero_iff.mp (by exact_mod_cast nonpos_iff_eq_zero.mp hs)
  rw [logConversationAsync,logConversationAsync,hempty hc.1,hempty hc.2,hempty hc'.1,hempty hc'.2,← h]
  rfl

end Modes

section Split

variable {α : Type} (view : Letters α)

def redactAfter (prev : Option α) (s : List α) : List α :=
  let out := (emailPattern.comap view.char).replaceAll ("[REDACTED-EMAIL]".toList.map view.mark) prev 0 s
  let out := (phonePattern.comap view.char).replaceAll ("[REDACTED-PHONE]".toList.map view.mark) prev 0 out
  (creditCardPattern.comap view.char).replaceAll ("[REDACTED-CC]".toList.map view.mark) prev 0 out

def Inert (c : Char) : Prop := mailbox c = false ∧ digit c = false

theorem emailPattern_inert {c : Char} (h : Inert c) (prev : Option Char) (s : List Char) :
    emailPattern.ends prev (c :: s) = [] :=
  Regex.ends_seq_of_nil (Regex.ends_one_of_not h.1) _

theorem digits_inert {c : Char} (h : Inert c) (n : ℕ) (prev : Option Char) (s : List Char) :
    (Regex.times (n + 1) digit).ends prev (c :: s) = [] :=
  Regex.ends_seq_of_nil (Regex.ends_one_of_not h.2) _

theorem phonePattern_inert {c : Char} (h : Inert c) (prev : Option Char) (s : List Char) :
    phonePattern.ends prev (c :: s) = [] :=
  Regex.ends_boundary_of_nil (Regex.ends_seq_of_nil (digits_inert h 2 prev s) _) word

theorem creditCardPattern_inert {c : Char} (h : Inert c) (prev : Option Char) (s : List Char) :
    creditCardPattern.ends prev (c :: s) = [] :=
  Regex.ends_boundary_of_nil (Regex.ends_seq_of_nil (digits_inert h 3 prev s) _) word

theorem redactAfter_inert {pad : List α} (hpad : ∀ x ∈ pad, Inert (view.char x)) (s : List α)
    (prev : Option α) :
    redactAfter view prev (pad ++ s) = pad ++ redactAfter view (pad.getLast?.or prev) s := by
  have skip {r : Regex Char} (hr : ∀ c, Inert c → ∀ prev s, r.ends prev (c :: s) = []) :
      ∀ x ∈ pad, ∀ prev s, (r.comap view.char).ends prev (x :: s) = [] := by
    intro x hx prev s
    rw [Regex.ends_comap,List.map_cons]
    exact hr _ (hpad x hx) _ _
  simp only [redactAfter]
  rw [Regex.replaceAll_append _ (skip fun _ h => emailPattern_inert h),
    Regex.replaceAll_append _ (skip fun _ h => phonePattern_inert h),
    Regex.replaceAll_append _ (skip fun _ h => creditCardPattern_inert h)]

theorem redactTextPII_inert {pad : List α} (hpad : ∀ x ∈ pad, Inert (view.char x)) (s : List α) :
    redactTextPII view (pad ++ s) = pad ++ redactAfter view pad.getLast? s := by
  change redactAfter view none (pad ++ s) = _
  rw [redactAfter_inert view hpad,Option.or_none]

end Split

section Divergence

instance (c : Char) : Decidable (Inert c) := inferInstanceAs (Decidable (_ ∧ _))

def padding : String := String.ofList (List.replicate 394 '!')

def cutAddress : String := padding ++ "ab@c.de"

def promptOnly (prompt : String) : Conversation := ⟨"conversation","request",[prompt],[],none,none,none,none⟩

def address : Placed :=
  [('a',some 394),('b',some 395),('@',some 396),('c',some 397),('.',some 398),('d',some 399),('e',some 400)]

theorem toList_padding : padding.toList = List.replicate 394 '!' := String.toList_ofList

theorem kept_place (s : String) : kept (place s) = List.range s.toList.length := by
  rw [kept,place,List.filterMap_map]
  change s.toList.zipIdx.filterMap (some ∘ Prod.snd) = _
  rw [List.filterMap_eq_map,List.zipIdx_map_snd,List.range_eq_range']

theorem kept_append (t t' : Placed) : kept (t ++ t') = kept t ++ kept t' := List.filterMap_append

theorem place_cutAddress : place cutAddress = place padding ++ address := by
  rw [place,place,cutAddress,String.toList_append,List.zipIdx_append,List.map_append,toList_padding,
    List.length_replicate]
  rfl

theorem length_padding : (place padding).length = 394 := by
  rw [length_place,toList_padding,List.length_replicate]

theorem last_padding : (place padding).getLast? = some ('!',some 393) := by
  rw [place,toList_padding,List.getLast?_map,List.getLast?_zipIdx,List.getLast?_replicate,if_neg (by decide),
    List.length_replicate,Option.map_some,Option.map_some]

theorem padding_inert : ∀ x ∈ place padding, Inert (placed.char x) := by
  intro x hx
  obtain ⟨y,hy,rfl⟩ := List.mem_map.mp hx
  have hletter : y.1 ∈ padding.toList := by
    rw [← List.zipIdx_map_fst 0 padding.toList]
    exact List.mem_map_of_mem hy
  rw [toList_padding] at hletter
  change Inert y.1
  rw [List.eq_of_mem_replicate hletter]
  decide

theorem not_mem_kept_padding : 394 ∉ kept (place padding) := by
  rw [kept_place,toList_padding,List.length_replicate,List.mem_range]
  exact lt_irrefl 394

theorem kept_cut {s : Placed} {i : ℕ} (h : i ∉ kept (place padding)) :
    i ∈ kept (redactTextPII placed (place padding ++ s)) ↔
      i ∈ kept (redactAfter placed (some ('!',some 393)) s) := by
  rw [redactTextPII_inert placed padding_inert,last_padding,kept_append,List.mem_append]
  exact or_iff_right h

theorem cut_address : truncateText (place cutAddress) 400 = place padding ++ address.take 6 := by
  have hlong : ¬ ((400 : ℤ) ≤ 0 ∨ ((place cutAddress).length : ℤ) ≤ 400) := by
    rw [place_cutAddress,List.length_append,length_padding]
    decide
  rw [truncateText,if_neg hlong,place_cutAddress,List.take_append,length_padding,
    List.take_of_length_le (by rw [length_padding]; decide)]
  rfl

theorem not_conceals_cut : ¬ Conceals cutAddress
    (redactConversationPreview placed (truncateText (place cutAddress) 400)) := by
  intro h
  have hkept := h 394
  rw [redactConversationPreview,cut_address,place_cutAddress,kept_cut not_mem_kept_padding,
    kept_cut not_mem_kept_padding] at hkept
  revert hkept
  decide

theorem promptOnly_within {prompt : String} {n : ℕ∞} :
    (promptOnly prompt).Within n ↔ ((promptOnly prompt).promptFull.toList.length : ℕ∞) ≤ n :=
  and_iff_left zero_le

theorem promptFull_cutAddress : (promptOnly cutAddress).promptFull = cutAddress := by
  decide +kernel

theorem length_cutAddress : cutAddress.toList.length = 401 := by
  rw [← length_place,place_cutAddress,List.length_append,length_padding]
  rfl

theorem exposes {tenant : Tenant} (h : tenant.loggingMode = "redacted") :
    ∃ row ∈ placedLog true (some tenant) (promptOnly cutAddress), ¬ ConcealsTexts (promptOnly cutAddress) row := by
  have hmode : tenant.loggingMode ≠ "disabled" := by
    rw [h]
    decide
  refine ⟨_,logged_of_enabled placed hmode,fun hconceals => not_conceals_cut ?_⟩
  have hpreview := hconceals.1
  simp only [Conversation.row,promptFull_cutAddress] at hpreview
  exact hpreview

theorem tells_apart {tenant : Tenant} (h : tenant.loggingMode = "metadata_only") :
    logConversationAsync true (some tenant) (promptOnly "a") ≠
      logConversationAsync true (some tenant) (promptOnly "b") := by
  have hmode : tenant.loggingMode ≠ "disabled" := by
    rw [h]
    decide
  rw [logConversationAsync,logConversationAsync,logged_of_enabled plain hmode,logged_of_enabled plain hmode]
  intro hrows
  have hpreviews := congrArg (Option.map Row.promptPreview) hrows
  simp only [Option.map_some,Row.map,Conversation.row] at hpreviews
  revert hpreviews
  decide

theorem obeysMode_iff (enabled : Bool) (tenant : Tenant) (n : ℕ∞) :
    ObeysMode enabled tenant n ↔ enabled = false ∨
      ((tenant.loggingMode = "metadata_only" → n = 0) ∧ (tenant.loggingMode = "redacted" → n ≤ 400)) := by
  cases enabled with
  | false =>
    have hnone (c : Conversation) : logConversationAsync false (some tenant) c = none := by
      rw [logConversationAsync,logged_of_disabled]
      rfl
    refine iff_of_true ⟨fun _ c c' _ _ _ => (hnone c).trans (hnone c').symm,fun _ c _ row hrow => ?_⟩ (.inl rfl)
    rw [placedLog,logged_of_disabled] at hrow
    cases hrow
  | true =>
    rw [or_iff_right Bool.noConfusion]
    constructor
    · intro h
      refine ⟨fun hmode => ?_,fun hmode => ?_⟩
      · by_contra hn
        have hwithin (letter : String) (hletter : (promptOnly letter).promptFull.toList.length = 1) :
            (promptOnly letter).Within n := by
          rw [promptOnly_within,hletter]
          exact Order.one_le_iff_pos.mpr (pos_iff_ne_zero.mpr hn)
        exact tells_apart hmode
          (h.metadata hmode _ _ (hwithin "a" (by decide)) (hwithin "b" (by decide)) rfl)
      · by_contra hn
        obtain ⟨row,hrow,hnot⟩ := exposes hmode
        have hwithin : (promptOnly cutAddress).Within n := by
          rw [promptOnly_within,promptFull_cutAddress,length_cutAddress]
          exact Order.add_one_le_of_lt (not_le.mp hn)
        exact hnot (h.redacted hmode _ hwithin row hrow)
    · rintro ⟨hmetadata,hredacted⟩
      refine ⟨fun hmode c c' hc hc' hsame => ?_,fun hmode c hc row hrow => ?_⟩
      · rw [hmetadata hmode] at hc hc'
        exact same_of_empty hc hc' hsame
      · have hshort : c.Within 400 := ⟨hc.1.trans (hredacted hmode),hc.2.trans (hredacted hmode)⟩
        have hne : tenant.loggingMode ≠ "disabled" := by
          rw [hmode]
          decide
        rw [placedLog,logged_of_enabled placed hne] at hrow
        rw [← Option.some.inj hrow]
        exact concealsTexts_of_short hshort

theorem mode_ignored : ¬ ObeysMode true ⟨"tenant",""⟩ ⊤ ∧ ¬ ObeysMode true ⟨"tenant","redacted"⟩ ⊤ := by
  constructor
  · intro h
    have hmode : (⟨"tenant",""⟩ : Tenant).loggingMode = "metadata_only" := by decide
    exact tells_apart hmode (h.metadata hmode _ _ ⟨le_top,le_top⟩ ⟨le_top,le_top⟩ rfl)
  · intro h
    have hmode : (⟨"tenant","redacted"⟩ : Tenant).loggingMode = "redacted" := by decide
    obtain ⟨row,hrow,hnot⟩ := exposes hmode
    exact hnot (h.redacted hmode _ ⟨le_top,le_top⟩ row hrow)

end Divergence

end PrismGateway.Api.ConversationLog
