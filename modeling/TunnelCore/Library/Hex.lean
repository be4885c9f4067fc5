import Mathlib.Data.List.Basic

namespace TunnelCore.Hex

def encodeByte (b : UInt8) : List Char := [Nat.digitChar (b.toNat / 16), Nat.digitChar (b.toNat % 16)]

def encode (bytes : List UInt8) : List Char := bytes.flatMap encodeByte

def digitValue (c : Char) : Option Nat :=
  if '0' ≤ c ∧ c ≤ '9' then some (c.toNat - '0'.toNat)
  else if 'a' ≤ c ∧ c ≤ 'f' then some (c.toNat - 'a'.toNat + 10)
  else if 'A' ≤ c ∧ c ≤ 'F' then some (c.toNat - 'A'.toNat + 10)
  else none

def decode : List Char → Option (List UInt8)
  | [] => some []
  | [_] => none
  | high :: low :: rest => do
    let h ← digitValue high
    let l ← digitValue low
    return UInt8.ofNat (16 * h + l) :: (← decode rest)

theorem digitValue_digitChar : ∀ n < 16, digitValue (Nat.digitChar n) = some n := by decide

@[simp] theorem encode_append (xs ys : List UInt8) : encode (xs ++ ys) = encode xs ++ encode ys := List.flatMap_append

theorem encode_cons (b : UInt8) (bytes : List UInt8) : encode (b :: bytes) =
    Nat.digitChar (b.toNat / 16) :: Nat.digitChar (b.toNat % 16) :: encode bytes := rfl

theorem encode_eq_nil_iff {bytes : List UInt8} : encode bytes = [] ↔ bytes = [] := by
  cases bytes with
  | nil => exact iff_of_true rfl rfl
  | cons b bytes => exact iff_of_false (List.cons_ne_nil _ _) (List.cons_ne_nil _ _)

@[simp] theorem decode_encode (bytes : List UInt8) : decode (encode bytes) = some bytes := by
  induction bytes with
  | nil => rfl
  | cons b bytes ih =>
    have hb := b.toNat_lt
    have hvalue : 16 * (b.toNat / 16) + b.toNat % 16 = b.toNat := Nat.div_add_mod ..
    rw [encode_cons, decode, digitValue_digitChar _ (by omega), digitValue_digitChar _ (by omega), ih]
    change some (UInt8.ofNat (16 * (b.toNat / 16) + b.toNat % 16) :: bytes) = some (b :: bytes)
    rw [hvalue, UInt8.ofNat_toNat]

theorem mem_encode {c : Char} {bytes : List UInt8} (h : c ∈ encode bytes) : ∃ n < 16, c = Nat.digitChar n := by
  obtain ⟨b, -, hc⟩ := List.mem_flatMap.mp h
  have hb := b.toNat_lt
  rcases List.mem_cons.mp hc with rfl | hc
  · exact ⟨b.toNat / 16, by omega, rfl⟩
  · exact ⟨b.toNat % 16, by omega, List.mem_singleton.mp hc⟩

end TunnelCore.Hex
