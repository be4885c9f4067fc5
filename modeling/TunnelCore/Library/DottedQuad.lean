import TunnelCore.Library.Text
import TunnelCore.Library.Scan
import Mathlib.Algebra.Group.Nat.Defs

namespace TunnelCore.DottedQuad

open Text

def format (n : Nat) : List Char :=
  Nat.toDigits 10 (n / 2 ^ 24) ++ '.' :: (Nat.toDigits 10 (n / 2 ^ 16 % 256) ++ '.' ::
    (Nat.toDigits 10 (n / 2 ^ 8 % 256) ++ '.' :: Nat.toDigits 10 (n % 256)))

def parseOctet (digits : List Char) : Option Nat :=
  if digits ≠ [] ∧ digits.all Char.isDigit ∧ (digits.head? = some '0' → digits.length = 1) ∧ decimal digits ≤ 255 then
    some (decimal digits)
  else none

def parse (text : List Char) : Option Nat :=
  match text.splitOn '.' with
  | [a, b, c, d] => do
    let a ← parseOctet a
    let b ← parseOctet b
    let c ← parseOctet c
    let d ← parseOctet d
    return ((a * 256 + b) * 256 + c) * 256 + d
  | _ => none

variable {n : Nat} {text : List Char}

theorem isDigit_of_mem {c : Char} (h : c ∈ Nat.toDigits 10 n) : c.isDigit = true :=
  Nat.isDigit_of_mem_toDigits (by decide) (by decide) h

theorem dot_not_mem (n : Nat) : '.' ∉ Nat.toDigits 10 n := fun h => absurd (isDigit_of_mem h) (by decide)

theorem no_leading_zero : ∀ n < 256, (Nat.toDigits 10 n).head? = some '0' → (Nat.toDigits 10 n).length = 1 := by
  decide +kernel

theorem parseOctet_toDigits (h : n < 256) : parseOctet (Nat.toDigits 10 n) = some n := by
  rw [parseOctet, decimal_toDigits, if_pos]
  exact ⟨Nat.toDigits_ne_nil, List.all_eq_true.mpr fun c => isDigit_of_mem, no_leading_zero n h, Nat.le_of_lt_succ h⟩

theorem splitOn_format (n : Nat) : (format n).splitOn '.' =
    [Nat.toDigits 10 (n / 2 ^ 24), Nat.toDigits 10 (n / 2 ^ 16 % 256), Nat.toDigits 10 (n / 2 ^ 8 % 256),
      Nat.toDigits 10 (n % 256)] := by
  rw [format, Scan.splitOn_part (dot_not_mem _), Scan.splitOn_part (dot_not_mem _), Scan.splitOn_part (dot_not_mem _),
    List.splitOn_eq_singleton (dot_not_mem _)]

theorem parse_format (h : n < 2 ^ 32) : parse (format n) = some n := by
  rw [parse, splitOn_format]
  simp only
  rw [parseOctet_toDigits (by omega), parseOctet_toDigits (by omega), parseOctet_toDigits (by omega),
    parseOctet_toDigits (by omega)]
  refine congrArg some ?_
  omega

theorem parseOctet_eq_some {digits : List Char} (h : parseOctet digits = some n) :
    decimal digits = n ∧ n ≤ 255 ∧ digits ≠ [] := by
  rw [parseOctet] at h
  split at h
  next hdigits =>
    obtain rfl := Option.some.inj h
    exact ⟨rfl, hdigits.2.2.2, hdigits.1⟩
  · cases h

theorem parse_eq_some (h : parse text = some n) :
    ∃ a b c d, text.splitOn '.' = [a, b, c, d] ∧ d ≠ [] ∧ decimal a ≤ 255 ∧ decimal b ≤ 255 ∧ decimal c ≤ 255 ∧
      decimal d ≤ 255 ∧ n = ((decimal a * 256 + decimal b) * 256 + decimal c) * 256 + decimal d := by
  rw [parse] at h
  split at h
  next a b c d hsplit =>
    simp only [Option.bind_eq_bind, Option.pure_def, Option.bind_eq_some_iff] at h
    obtain ⟨x, hx, y, hy, z, hz, w, hw, hn⟩ := h
    obtain ⟨rfl, hx, -⟩ := parseOctet_eq_some hx
    obtain ⟨rfl, hy, -⟩ := parseOctet_eq_some hy
    obtain ⟨rfl, hz, -⟩ := parseOctet_eq_some hz
    obtain ⟨rfl, hw, hne⟩ := parseOctet_eq_some hw
    exact ⟨a, b, c, d, hsplit, hne, hx, hy, hz, hw, (Option.some.inj hn).symm⟩
  · cases h

theorem parse_lt (h : parse text = some n) : n < 2 ^ 32 := by
  obtain ⟨a, b, c, d, -, -, ha, hb, hc, hd, rfl⟩ := parse_eq_some h
  omega

theorem decimal_cut {digits rest : List Char} (h : digits ++ rest = Nat.toDigits 10 n) (hdigits : digits ≠ [])
    (hrest : rest ≠ []) : 10 ≤ n ∧ decimal digits ≤ n / 10 := by
  have hten : 10 ≤ n := by
    by_contra hsmall
    have hlength := congrArg List.length h
    rw [Nat.toDigits_of_lt_base (Nat.lt_of_not_le hsmall), List.length_append, List.length_singleton] at hlength
    have hfront := List.length_pos_of_ne_nil hdigits
    have hback := List.length_pos_of_ne_nil hrest
    omega
  obtain ⟨c, more, rfl⟩ := List.exists_cons_of_ne_nil hrest
  have hvalue : decimal (digits ++ [c]) ≤ n := by
    rw [← decimal_toDigits n, ← h, List.append_cons digits c more]
    exact decimal_le_append ..
  rw [decimal, List.foldl_append, ← decimal] at hvalue
  simp only [List.foldl_cons, List.foldl_nil] at hvalue
  omega

theorem parse_cut {m n : Nat} (hfront : text <+: format n) (h : parse text = some m) :
    m = n ∨ ∃ octet, m = n / 256 * 256 + octet ∧ 10 ≤ n % 256 ∧ octet ≤ n % 256 / 10 := by
  obtain ⟨a, b, c, d, hsplit, hne, -, -, -, -, rfl⟩ := parse_eq_some h
  have hparts : ∀ part ∈ [a, b, c, d], '.' ∉ part := fun part hpart =>
    Scan.not_mem_of_mem_splitOn (hsplit ▸ hpart)
  have htext : text = a ++ '.' :: (b ++ '.' :: (c ++ '.' :: d)) := by
    have hjoin : ['.'].intercalate (text.splitOn '.') = text := List.intercalate_splitOn '.'
    rw [← hjoin, hsplit]
    simp [List.intercalate_cons_cons]
  obtain ⟨rest, hrest⟩ := hfront
  rw [htext, format] at hrest
  simp only [List.append_assoc, List.cons_append] at hrest
  obtain ⟨ha, hrest⟩ := Scan.part_inj (hparts a (by simp)) (dot_not_mem _) hrest
  obtain ⟨hb, hrest⟩ := Scan.part_inj (hparts b (by simp)) (dot_not_mem _) hrest
  obtain ⟨hc, hrest⟩ := Scan.part_inj (hparts c (by simp)) (dot_not_mem _) hrest
  have hupper : ((n / 2 ^ 24 * 256 + n / 2 ^ 16 % 256) * 256 + n / 2 ^ 8 % 256) * 256 = n / 256 * 256 := by omega
  rw [ha, hb, hc, decimal_toDigits, decimal_toDigits, decimal_toDigits, hupper]
  by_cases hwhole : rest = []
  · rw [hwhole, List.append_nil] at hrest
    rw [hrest, decimal_toDigits]
    omega
  · obtain ⟨hten, hcut⟩ := decimal_cut hrest hne hwhole
    exact .inr ⟨decimal d, rfl, hten, hcut⟩

end TunnelCore.DottedQuad
