import Mathlib.Data.List.Basic
import Mathlib.Data.Fin.Basic

namespace PrismGateway.Lib.Hex

def digits : List Char := "0123456789abcdef".toList

theorem length_digits : digits.length = 16 := by decide

def digit (d : Fin 16) : Char := digits.get (d.cast length_digits.symm)

def byte (b : Fin 256) : List Char :=
  [digit ⟨b.1 / 16,by omega⟩,digit ⟨b.1 % 16,by omega⟩]

def encode (bytes : List (Fin 256)) : List Char := bytes.flatMap byte

theorem digit_injective : ∀ d e : Fin 16, digit d = digit e → d = e := by decide

theorem byte_injective {b c : Fin 256} (h : byte b = byte c) : b = c := by
  obtain ⟨hhigh,hlow,-⟩ := by simpa only [byte,List.cons.injEq] using h
  have hhigh' := congrArg Fin.val (digit_injective _ _ hhigh)
  have hlow' := congrArg Fin.val (digit_injective _ _ hlow)
  simp only at hhigh' hlow'
  omega

theorem length_encode (bytes : List (Fin 256)) : (encode bytes).length = 2 * bytes.length := by
  induction bytes with
  | nil => rfl
  | cons b bytes ih =>
    rw [encode,List.flatMap_cons,List.length_append,← encode,ih,List.length_cons]
    change 2 + 2 * bytes.length = 2 * (bytes.length + 1)
    omega

theorem encode_injective {bytes bytes' : List (Fin 256)} (h : encode bytes = encode bytes') :
    bytes = bytes' := by
  induction bytes generalizing bytes' with
  | nil =>
    cases bytes' with
    | nil => rfl
    | cons c bytes' => cases h
  | cons b bytes ih =>
    cases bytes' with
    | nil => cases h
    | cons c bytes' =>
      obtain ⟨hbyte,hrest⟩ := List.append_inj (h : byte b ++ encode bytes = byte c ++ encode bytes') rfl
      rw [byte_injective hbyte,ih hrest]

theorem mem_digits_of_mem_encode {bytes : List (Fin 256)} {c : Char} (h : c ∈ encode bytes) :
    c ∈ digits := by
  obtain ⟨b,-,hb⟩ := List.mem_flatMap.mp h
  rcases List.mem_cons.mp hb with rfl | hb
  · exact List.get_mem _ _
  · rw [List.mem_singleton.mp hb]
    exact List.get_mem _ _

theorem colon_notMem_encode (bytes : List (Fin 256)) : ':' ∉ encode bytes := by
  intro h
  exact absurd (mem_digits_of_mem_encode h) (by decide)

end PrismGateway.Lib.Hex
