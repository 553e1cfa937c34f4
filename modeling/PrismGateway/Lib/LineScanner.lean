import Mathlib.Data.List.TakeWhile

namespace PrismGateway.Lib.LineScanner

def newline : UInt8 := 10

def carriageReturn : UInt8 := 13

def dropCR (line : List UInt8) : List UInt8 :=
  if line.getLast? = some carriageReturn then line.dropLast else line

def isNewline (b : UInt8) : Bool := b = newline

/-- The tokens of a `bufio.Scanner` that splits lines. A line that does not fit the largest buffer with
its newline ends the scan. -/
def scan (maxTokenSize : ℕ) : List UInt8 → List (List UInt8)
  | [] => []
  | b :: data =>
    let line := (b :: data).takeWhile (fun b => !isNewline b)
    if maxTokenSize ≤ line.length then []
    else dropCR line :: scan maxTokenSize (data.drop line.length)
termination_by data => data.length
decreasing_by
  simp only [List.length_drop,List.length_cons]
  omega

def terminated (line : List UInt8) : List UInt8 := line ++ [newline]

def unlines (lines : List (List UInt8)) : List UInt8 := lines.flatMap terminated

def OneLine (line : List UInt8) : Prop := newline ∉ line

section Scan

variable {maxTokenSize : ℕ} {line : List UInt8} {lines : List (List UInt8)}

theorem takeWhile_terminated (h : OneLine line) (rest : List UInt8) :
    (terminated line ++ rest).takeWhile (fun b => !isNewline b) = line := by
  have hline : ∀ b ∈ line, (!isNewline b) = true := by
    intro b hb
    have hne : b ≠ newline := fun heq => h (heq ▸ hb)
    simp [isNewline,hne]
  rw [terminated,List.append_assoc,List.takeWhile_append_of_pos hline]
  simp [isNewline]

theorem scan_terminated (h : OneLine line) (rest : List UInt8) :
    scan maxTokenSize (terminated line ++ rest) =
      if maxTokenSize ≤ line.length then [] else dropCR line :: scan maxTokenSize rest := by
  have htake := takeWhile_terminated h rest
  have hdrop : (terminated line ++ rest).drop line.length = newline :: rest := by
    rw [terminated,List.append_assoc,List.drop_left]
    rfl
  cases hdata : terminated line ++ rest with
  | nil => simp [terminated] at hdata
  | cons b data =>
    rw [hdata] at htake hdrop
    have hrest : data.drop line.length = rest := by
      have htail := congrArg List.tail hdrop
      rwa [List.tail_drop] at htail
    rw [scan]
    simp only [htake,hrest]

theorem scan_unlines (h : ∀ line ∈ lines, OneLine line) :
    scan maxTokenSize (unlines lines) =
      (lines.takeWhile (fun line => line.length < maxTokenSize)).map dropCR := by
  induction lines with
  | nil => simp [unlines,scan]
  | cons line lines ih =>
    have hrest := ih fun l hl => h l (List.mem_cons_of_mem _ hl)
    have hunlines : unlines (line :: lines) = terminated line ++ unlines lines := rfl
    rw [hunlines,scan_terminated (h line List.mem_cons_self),hrest]
    by_cases hlong : maxTokenSize ≤ line.length
    · rw [if_pos hlong,List.takeWhile_cons_of_neg (by simpa using hlong)]
      rfl
    · rw [if_neg hlong,List.takeWhile_cons_of_pos (by simpa using hlong)]
      rfl

theorem length_dropCR_le (line : List UInt8) : (dropCR line).length ≤ line.length := by
  unfold dropCR
  split_ifs
  · rw [List.length_dropLast]
    omega
  · exact le_rfl

theorem dropCR_eq_iff : dropCR line = line ↔ line.getLast? ≠ some carriageReturn := by
  unfold dropCR
  split_ifs with h
  · refine ⟨fun heq => ?_,fun hne => absurd h hne⟩
    cases line with
    | nil => cases h
    | cons b line =>
      have hlen := congrArg List.length heq
      rw [List.length_dropLast,List.length_cons] at hlen
      omega
  · exact ⟨fun _ => h,fun _ => rfl⟩

def kept (maxTokenSize : ℕ) (lines : List (List UInt8)) : List (List UInt8) :=
  (lines.takeWhile (fun line => line.length < maxTokenSize)).map dropCR

theorem length_unlines_kept_le (lines : List (List UInt8)) :
    (unlines (kept maxTokenSize lines)).length ≤ (unlines lines).length := by
  induction lines with
  | nil => exact le_rfl
  | cons line lines ih =>
    by_cases hlong : line.length < maxTokenSize
    · have hkept : kept maxTokenSize (line :: lines) = dropCR line :: kept maxTokenSize lines := by
        rw [kept,List.takeWhile_cons_of_pos (by simpa using hlong)]
        rfl
      have hline := length_dropCR_le line
      simp only [hkept,unlines,List.flatMap_cons,terminated,List.length_append] at ih ⊢
      omega
    · have hkept : kept maxTokenSize (line :: lines) = [] := by
        rw [kept,List.takeWhile_cons_of_neg (by simpa using hlong)]
        rfl
      rw [hkept]
      exact Nat.zero_le _

theorem unlines_kept_eq_iff : unlines (kept maxTokenSize lines) = unlines lines ↔
    ∀ line ∈ lines, line.length < maxTokenSize ∧ line.getLast? ≠ some carriageReturn := by
  induction lines with
  | nil => simp [kept]
  | cons line lines ih =>
    rw [List.forall_mem_cons,← ih]
    by_cases hlong : line.length < maxTokenSize
    · have hkept : kept maxTokenSize (line :: lines) = dropCR line :: kept maxTokenSize lines := by
        rw [kept,List.takeWhile_cons_of_pos (by simpa using hlong)]
        rfl
      have hline := length_dropCR_le line
      have hrest := @length_unlines_kept_le maxTokenSize lines
      rw [hkept,← dropCR_eq_iff]
      constructor
      · intro heq
        have hsplit : terminated (dropCR line) ++ unlines (kept maxTokenSize lines) =
            terminated line ++ unlines lines := heq
        -- both parts can only have shrunk, so neither has
        have hlengths := congrArg List.length hsplit
        simp only [terminated,List.length_append,List.length_singleton] at hlengths
        obtain ⟨hfirst,hlater⟩ := List.append_inj hsplit (by
          simp only [terminated,List.length_append,List.length_singleton]
          omega)
        exact ⟨⟨hlong,List.append_cancel_right hfirst⟩,hlater⟩
      · rintro ⟨⟨-,hsame⟩,hlater⟩
        change terminated (dropCR line) ++ unlines (kept maxTokenSize lines) = _
        rw [hsame,hlater]
        rfl
    · have hkept : kept maxTokenSize (line :: lines) = [] := by
        rw [kept,List.takeWhile_cons_of_neg (by simpa using hlong)]
        rfl
      rw [hkept]
      constructor
      · intro heq
        have hlen := congrArg List.length heq
        simp [unlines,terminated] at hlen
      · rintro ⟨⟨hshort,-⟩,-⟩
        exact absurd hshort hlong

theorem kept_eq (h : ∀ line ∈ lines, line.length < maxTokenSize ∧
    line.getLast? ≠ some carriageReturn) : kept maxTokenSize lines = lines := by
  have hall : lines.takeWhile (fun line => line.length < maxTokenSize) = lines := by
    rw [List.takeWhile_eq_self_iff]
    intro line hline
    simpa using (h line hline).1
  rw [kept,hall]
  refine (List.map_congr_left fun line hline => ?_).trans (List.map_id _)
  exact dropCR_eq_iff.mpr (h line hline).2

end Scan

end PrismGateway.Lib.LineScanner
