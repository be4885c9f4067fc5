import Mathlib.Data.List.Infix

namespace TunnelCore.Scan

variable {α β : Type*}

/-- What a text gives that is searched from left to right for matches that do not overlap. `find` looks for a match at
the front of a text and says what it captures and how long it is; `skip` elements belong to the last match. -/
def scan (find : List α → Option (β × Nat)) : Nat → List α → List β
  | _, [] => []
  | skip + 1, _ :: xs => scan find skip xs
  | 0, x :: xs =>
    match find (x :: xs) with
    | some (capture, length) => capture :: scan find (length - 1) xs
    | none => scan find 0 xs

structure Stops (find : List α → Option (β × Nat)) (sep : α) : Prop where
  nil : find [] = none
  append (xs ys : List α) : find (xs ++ sep :: ys) = find xs
  length_le {xs : List α} {capture : β} {length : Nat} : find xs = some (capture, length) → length ≤ xs.length

variable {find : List α → Option (β × Nat)} {sep : α}

theorem scan_drop (skip : Nat) (xs : List α) : scan find skip xs = scan find 0 (xs.drop skip) := by
  induction xs generalizing skip with
  | nil => cases skip <;> rfl
  | cons x xs ih =>
    cases skip with
    | zero => rfl
    | succ skip => exact ih skip

variable {xs : List α}

theorem mem_scan {capture : β} {skip : Nat} (h : capture ∈ scan find skip xs) :
    ∃ ys length, ys <:+ xs ∧ find ys = some (capture, length) := by
  induction xs generalizing skip with
  | nil =>
    rw [scan] at h
    cases h
  | cons x xs ih =>
    have hrest {skip : Nat} (hrest : capture ∈ scan find skip xs) :
        ∃ ys length, ys <:+ x :: xs ∧ find ys = some (capture, length) := by
      obtain ⟨ys, length, hys, hfind⟩ := ih hrest
      exact ⟨ys, length, hys.trans (List.suffix_cons x xs), hfind⟩
    cases skip with
    | succ skip => exact hrest h
    | zero =>
      rw [scan] at h
      split at h
      next first length hfind =>
        rcases List.mem_cons.mp h with rfl | h
        · exact ⟨_, length, List.suffix_refl _, hfind⟩
        · exact hrest h
      · exact hrest h

theorem scan_of_found {capture : β} {length : Nat} (hfind : find xs = some (capture, length))
    (hlength : length ≠ 0) (hxs : xs ≠ []) : scan find 0 xs = capture :: scan find 0 (xs.drop length) := by
  obtain ⟨x, xs, rfl⟩ := List.exists_cons_of_ne_nil hxs
  obtain ⟨length, rfl⟩ := Nat.exists_eq_succ_of_ne_zero hlength
  rw [scan, hfind]
  exact congrArg (capture :: ·) (scan_drop length xs)

theorem Stops.scan_append (h : Stops find sep) {skip : Nat} (hskip : skip ≤ xs.length) (ys : List α) :
    scan find skip (xs ++ sep :: ys) = scan find skip xs ++ scan find 0 ys := by
  induction xs generalizing skip with
  | nil =>
    obtain rfl : skip = 0 := Nat.le_zero.mp hskip
    have hsep : find (sep :: ys) = none := (h.append [] ys).trans h.nil
    simp only [List.nil_append, scan, hsep]
  | cons x xs ih =>
    cases skip with
    | succ skip => exact ih (Nat.le_of_succ_le_succ hskip)
    | zero =>
      have happend : find (x :: (xs ++ sep :: ys)) = find (x :: xs) := h.append (x :: xs) ys
      rw [List.cons_append, scan, scan, happend]
      cases hfind : find (x :: xs) with
      | none => exact ih (Nat.zero_le _)
      | some found =>
        obtain ⟨capture, length⟩ := found
        have hlength : length - 1 ≤ xs.length := Nat.sub_le_of_le_add (h.length_le hfind)
        exact congrArg (capture :: ·) (ih hlength)

theorem Stops.scan_flatMap (h : Stops find sep) (parts : List (List α)) :
    scan find 0 (parts.flatMap (· ++ [sep])) = parts.flatMap (scan find 0) := by
  induction parts with
  | nil => rfl
  | cons part parts ih =>
    rw [List.flatMap_cons, List.flatMap_cons, List.append_assoc, List.singleton_append,
      h.scan_append (Nat.zero_le _), ih]

theorem prefix_append_cons {l a b : List α} (hl : sep ∉ l) : l <+: a ++ sep :: b ↔ l <+: a := by
  refine ⟨fun h => ?_, fun h => h.trans (List.prefix_append a _)⟩
  rcases List.prefix_or_prefix_of_prefix h (List.prefix_append a _) with h | ⟨l', rfl⟩
  · exact h
  · cases l' with
    | nil => rw [List.append_nil]
    | cons x l' =>
      obtain ⟨rfl, -⟩ := List.cons_prefix_cons.mp ((List.prefix_append_right_inj a).mp h)
      exact (hl (by simp)).elim

theorem infix_append_cons {l a b : List α} (hl : sep ∉ l) (h : l <:+: a ++ sep :: b) : l <:+: a ∨ l <:+: b := by
  rcases List.infix_append_iff.mp h with h | h | ⟨l₁, l₂, rfl, hl₁, hl₂⟩
  · exact .inl h
  · rcases List.infix_cons_iff.mp h with h | h
    · cases l with
      | nil => exact .inl (List.nil_infix)
      | cons x l =>
        obtain ⟨rfl, -⟩ := List.cons_prefix_cons.mp h
        exact (hl (List.mem_cons_self)).elim
    · exact .inr h
  · cases l₂ with
    | nil =>
      rw [List.append_nil]
      exact .inl hl₁.isInfix
    | cons x l₂ =>
      obtain ⟨rfl, -⟩ := List.cons_prefix_cons.mp hl₂
      exact (hl (by simp)).elim

theorem infix_flatMap_sep {l : List α} {parts : List (List α)} (hl : sep ∉ l) (hne : l ≠ [])
    (h : l <:+: parts.flatMap (· ++ [sep])) : ∃ part ∈ parts, l <:+: part := by
  induction parts with
  | nil => exact (hne (List.infix_nil.mp h)).elim
  | cons part parts ih =>
    rw [List.flatMap_cons, List.append_assoc, List.singleton_append] at h
    rcases infix_append_cons hl h with h | h
    · exact ⟨part, List.mem_cons_self, h⟩
    · obtain ⟨other, hmem, hother⟩ := ih h
      exact ⟨other, List.mem_cons_of_mem _ hmem, hother⟩

section Split

variable [BEq α] [LawfulBEq α]

theorem exists_splitOn (sep : α) (xs : List α) : sep ∉ xs ∨ ∃ a b, sep ∉ a ∧ xs = a ++ sep :: b := by
  by_cases h : sep ∈ xs
  · obtain ⟨a, b, rfl, ha⟩ := List.eq_append_cons_of_mem h
    exact .inr ⟨a, b, ha, rfl⟩
  · exact .inl h

theorem split_induction {motive : List α → Prop} (sep : α) (last : ∀ xs, sep ∉ xs → motive xs)
    (part : ∀ a b, sep ∉ a → motive b → motive (a ++ sep :: b)) (xs : List α) : motive xs := by
  induction hn : xs.length using Nat.strongRecOn generalizing xs with
  | ind n ih =>
    rcases exists_splitOn sep xs with h | ⟨a, b, ha, rfl⟩
    · exact last xs h
    · refine part a b ha (ih b.length ?_ b rfl)
      rw [← hn, List.length_append, List.length_cons]
      omega

theorem splitOn_part {a : List α} (ha : sep ∉ a) (b : List α) : (a ++ sep :: b).splitOn sep = a :: b.splitOn sep := by
  rw [List.splitOn_append_cons_self, List.splitOn_eq_singleton ha]
  rfl

theorem part_inj {a b x y : List α} (ha : sep ∉ a) (hb : sep ∉ b) (h : a ++ sep :: x = b ++ sep :: y) :
    a = b ∧ x = y := by
  have hsplit := congrArg (List.splitOn sep) h
  rw [splitOn_part ha, splitOn_part hb] at hsplit
  obtain rfl := (List.cons.inj hsplit).1
  exact ⟨rfl, (List.cons.inj (List.append_cancel_left h)).2⟩

theorem Stops.scan_splitOn (h : Stops find sep) (xs : List α) :
    scan find 0 xs = (xs.splitOn sep).flatMap (scan find 0) := by
  induction xs using split_induction sep with
  | last xs hxs => simp [List.splitOn_eq_singleton hxs]
  | part a b ha ih => rw [splitOn_part ha, List.flatMap_cons, ← ih, h.scan_append (Nat.zero_le _)]

theorem not_mem_of_mem_splitOn {xs part : List α} (h : part ∈ xs.splitOn sep) : sep ∉ part := by
  induction xs using split_induction sep with
  | last xs hxs =>
    rw [List.splitOn_eq_singleton hxs] at h
    rwa [List.mem_singleton.mp h]
  | part a b ha ih =>
    rw [splitOn_part ha] at h
    rcases List.mem_cons.mp h with rfl | h
    · exact ha
    · exact ih h

theorem infix_of_mem_splitOn {xs part : List α} (h : part ∈ xs.splitOn sep) : part <:+: xs := by
  induction xs using split_induction sep with
  | last xs hxs =>
    rw [List.splitOn_eq_singleton hxs] at h
    rw [List.mem_singleton.mp h]
  | part a b ha ih =>
    rw [splitOn_part ha] at h
    rcases List.mem_cons.mp h with rfl | h
    · exact (List.prefix_append part (sep :: b)).isInfix
    · exact (ih h).trans ((List.suffix_cons sep b).isInfix.trans (List.suffix_append a (sep :: b)).isInfix)

theorem exists_part_of_mem {c : α} {xs : List α} (hc : c ≠ sep) (h : c ∈ xs) : ∃ part ∈ xs.splitOn sep, c ∈ part := by
  induction xs using split_induction sep with
  | last xs hxs => exact ⟨xs, by simp [List.splitOn_eq_singleton hxs], h⟩
  | part a b ha ih =>
    rw [splitOn_part ha]
    rcases List.mem_append.mp h with h | h
    · exact ⟨a, List.mem_cons_self, h⟩
    · obtain ⟨part, hpart, hwithin⟩ := ih ((List.mem_cons.mp h).resolve_left hc)
      exact ⟨part, List.mem_cons_of_mem _ hpart, hwithin⟩

theorem exists_part_of_infix {l xs : List α} (hl : sep ∉ l) (h : l <:+: xs) : ∃ part ∈ xs.splitOn sep, l <:+: part := by
  induction xs using split_induction sep with
  | last xs hxs => exact ⟨xs, by simp [List.splitOn_eq_singleton hxs], h⟩
  | part a b ha ih =>
    rw [splitOn_part ha]
    rcases infix_append_cons hl h with h | h
    · exact ⟨a, List.mem_cons_self, h⟩
    · obtain ⟨part, hpart, hwithin⟩ := ih h
      exact ⟨part, List.mem_cons_of_mem _ hpart, hwithin⟩

end Split

end TunnelCore.Scan
