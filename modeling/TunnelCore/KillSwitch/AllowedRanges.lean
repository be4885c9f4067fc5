import TunnelCore.Library.Text
import Mathlib.Data.List.Infix

namespace TunnelCore.KillSwitch

open Text

/-- `\d{1,length}` -/
def isNumber (length : Nat) (s : List Char) : Bool := s ≠ [] ∧ s.length ≤ length ∧ s.all Char.isDigit

def isAddress (s : List Char) : Bool :=
  (s.splitOn '.').length = 4 ∧ (s.splitOn '.').all fun octet => isNumber 3 octet && decimal octet ≤ 255

/-- `$` of the expression also stands before a final newline, and `toInt` skips that newline. -/
def dropNewline (s : List Char) : List Char := if s.getLast? = some '\n' then s.dropLast else s

def isValidIpOrCidr (value : String) : Bool :=
  match (dropNewline value.toList).splitOn '/' with
  | [address] => isAddress address
  | [address, length] => isAddress address && isNumber 2 length && decimal length ≤ 32
  | _ => false

def amneziaDnsIp : String := "172.29.172.254"

def appendRanges (known ranges : List String) : List String :=
  ranges.foldl (fun known range => if range ≠ "" ∧ range ∉ known then known ++ [range] else known) known

theorem not_isValidIpOrCidr_empty : isValidIpOrCidr "" = false := by decide

variable {known ranges : List String}

theorem mem_appendRanges {r : String} :
    r ∈ appendRanges known ranges ↔ r ∈ known ∨ r ∈ ranges ∧ r ≠ "" := by
  induction ranges generalizing known with
  | nil => simp [appendRanges]
  | cons range ranges ih =>
    rw [appendRanges, List.foldl_cons, ← appendRanges, ih]
    split
    next h =>
      simp only [List.mem_append, List.mem_cons, List.not_mem_nil, or_false]
      constructor
      · rintro ((hk | rfl) | ⟨hr, hne⟩)
        · exact .inl hk
        · exact .inr ⟨.inl rfl, h.1⟩
        · exact .inr ⟨.inr hr, hne⟩
      · rintro (hk | ⟨rfl | hr, hne⟩)
        · exact .inl (.inl hk)
        · exact .inl (.inr rfl)
        · exact .inr ⟨hr, hne⟩
    next h =>
      simp only [List.mem_cons]
      constructor
      · rintro (hk | ⟨hr, hne⟩)
        · exact .inl hk
        · exact .inr ⟨.inr hr, hne⟩
      · rintro (hk | ⟨rfl | hr, hne⟩)
        · exact .inl hk
        · exact .inl (by_contra fun hk => h ⟨hne, hk⟩)
        · exact .inr ⟨hr, hne⟩

theorem nodup_appendRanges (h : known.Nodup) : (appendRanges known ranges).Nodup := by
  induction ranges generalizing known with
  | nil => exact h
  | cons range ranges ih =>
    rw [appendRanges, List.foldl_cons, ← appendRanges]
    apply ih
    split
    next hr =>
      exact List.nodup_append.mpr ⟨h, by simp, by
        intro a ha b hb
        rw [List.mem_singleton.mp hb]
        exact ne_of_mem_of_not_mem ha hr.2⟩
    · exact h

theorem appendRanges_eq_append (hempty : "" ∉ ranges) (h : (known ++ ranges).Nodup) :
    appendRanges known ranges = known ++ ranges := by
  induction ranges generalizing known with
  | nil => exact (List.append_nil known).symm
  | cons range ranges ih =>
    rw [List.mem_cons, not_or] at hempty
    have hnew : range ∉ known := fun hmem => (List.nodup_append.mp h).2.2 range hmem range (by simp) rfl
    rw [appendRanges, List.foldl_cons, ← appendRanges, if_pos ⟨hempty.1 ∘ Eq.symm, hnew⟩]
    rw [ih hempty.2 (by simpa using h), List.append_assoc, List.singleton_append]

theorem mem_appendRanges_of_valid (hv : ranges.all isValidIpOrCidr) {r : String} :
    r ∈ appendRanges known ranges ↔ r ∈ known ∨ r ∈ ranges := by
  rw [mem_appendRanges]
  constructor
  · rintro (h | h)
    · exact .inl h
    · exact .inr h.1
  · rintro (h | h)
    · exact .inl h
    · refine .inr ⟨h, ?_⟩
      rintro rfl
      exact Bool.false_ne_true (not_isValidIpOrCidr_empty.symm.trans (List.all_eq_true.mp hv _ h))

theorem appendRanges_valid (hk : known.all isValidIpOrCidr)
    (hv : ranges.all isValidIpOrCidr) : (appendRanges known ranges).all isValidIpOrCidr := by
  rw [List.all_eq_true] at hk ⊢
  intro r hr
  obtain h | h := (mem_appendRanges_of_valid hv).mp hr
  · exact hk r h
  · exact List.all_eq_true.mp hv r h

end TunnelCore.KillSwitch
