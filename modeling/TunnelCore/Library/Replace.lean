import TunnelCore.Library.Json
import TunnelCore.Library.Text
import Mathlib.Data.List.Infix

namespace TunnelCore.Text

section Occurrences

variable {α β : Type*} [DecidableEq β] (key : α → β) (before after : List α)

/-- `before` stands at the front of a text; characters are compared by `key`. -/
def occursAt (cs : List α) : Bool := (before.map key).isPrefixOf (cs.map key)

/-- Occurrences are replaced from the left; `skip` counts what is left of the one just replaced. -/
def replaceFrom : Nat → List α → List α
  | _, [] => []
  | skip + 1, _ :: cs => replaceFrom skip cs
  | 0, c :: cs =>
    if occursAt key before (c :: cs) then after ++ replaceFrom (before.length - 1) cs
    else c :: replaceFrom 0 cs

def replaceAll (cs : List α) : List α :=
  match before with
  | [] => cs.flatMap (after ++ [·]) ++ after
  | _ :: _ => replaceFrom key before after 0 cs

variable {key before after}

theorem replaceFrom_eq_self {cs : List α} (h : ¬ before.map key <:+: cs.map key) :
    replaceFrom key before after 0 cs = cs := by
  induction cs with
  | nil => rfl
  | cons c cs ih =>
    have hhead : ¬ occursAt key before (c :: cs) := fun hc => h (List.isPrefixOf_iff_prefix.mp hc).isInfix
    have htail : ¬ before.map key <:+: cs.map key := fun hcs => h (hcs.trans (List.suffix_cons _ _).isInfix)
    rw [replaceFrom, if_neg hhead, ih htail]

theorem infix_replaceFrom {cs : List α} (hne : before ≠ []) (h : before.map key <:+: cs.map key) :
    after <:+: replaceFrom key before after 0 cs := by
  induction cs with
  | nil => exact absurd (List.map_eq_nil_iff.mp (List.eq_nil_of_infix_nil h)) hne
  | cons c cs ih =>
    rw [replaceFrom]
    split
    next => exact (List.prefix_append _ _).isInfix
    next hhead =>
      rw [List.map_cons, List.infix_cons_iff] at h
      obtain hfront | hrest := h
      · exact absurd (List.isPrefixOf_iff_prefix.mpr hfront) hhead
      · exact (ih hrest).trans (List.suffix_cons _ _).isInfix

variable (key after) in
theorem replaceAll_eq_self_or (hne : before ≠ []) (cs : List α) :
    replaceAll key before after cs = cs ∨
      before.map key <:+: cs.map key ∧ after <:+: replaceAll key before after cs := by
  obtain ⟨b, bs, rfl⟩ := List.exists_cons_of_ne_nil hne
  by_cases h : (b :: bs).map key <:+: cs.map key
  · exact .inr ⟨h, infix_replaceFrom hne h⟩
  · exact .inl (replaceFrom_eq_self h)

end Occurrences

/-- Case folding, for the characters that fold to an ASCII one: the long s and the Kelvin sign are two of them. -/
def foldCase (c : Char) : Char := if c = '\u017f' then 's' else if c = '\u212a' then 'k' else c.toLower

def fold (s : String) : List Char := s.toList.map foldCase

end TunnelCore.Text
