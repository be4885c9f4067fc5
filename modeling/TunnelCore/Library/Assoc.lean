import Mathlib.Data.List.Nodup
import Mathlib.Data.List.Perm.Subperm

namespace TunnelCore.Assoc

variable {κ β γ : Type*}

def keys (entries : List (κ × β)) : List κ := entries.map Prod.fst

theorem keys_map (f : β → γ) (entries : List (κ × β)) :
    keys (entries.map fun entry => (entry.1, f entry.2)) = keys entries := by
  rw [keys, List.map_map]
  rfl

variable {entries : List (κ × β)} {key : κ}

theorem keys_perm {others : List (κ × γ)} (h : (keys entries).Nodup)
    (hsub : ∀ entry ∈ entries, entry.1 ∈ keys others) (hlength : others.length = entries.length) :
    (keys entries).Perm (keys others) := by
  have hsubset : keys entries ⊆ keys others := by
    intro key hkey
    obtain ⟨entry, hentry, rfl⟩ := List.mem_map.mp hkey
    exact hsub entry hentry
  refine (List.subperm_of_subset h hsubset).perm_of_length_le ?_
  rw [keys, keys, List.length_map, List.length_map]
  exact Nat.le_of_eq hlength

/-- What a list of pairs says, read as a map: the first value under a key counts. -/
def read [BEq κ] (entries : List (κ × β)) (key : κ) : Option β := entries.lookup key

@[simp] theorem read_nil [BEq κ] : read ([] : List (κ × β)) = fun _ => none := rfl

variable [DecidableEq κ]

def adjust (key : κ) (f : β → β) : List (κ × β) → List (κ × β)
  | [] => []
  | (k, v) :: entries => if k = key then (k, f v) :: entries else (k, v) :: adjust key f entries

def eraseFirst (key : κ) (entries : List (κ × β)) : List (κ × β) := entries.eraseP (·.1 = key)

def eraseAll (key : κ) (entries : List (κ × β)) : List (κ × β) := entries.filter (·.1 ≠ key)

def insert (key : κ) (v : β) (entries : List (κ × β)) : List (κ × β) := (key, v) :: eraseAll key entries

theorem keys_adjust (key : κ) (f : β → β) (entries : List (κ × β)) : keys (adjust key f entries) = keys entries := by
  induction entries with
  | nil => rfl
  | cons entry entries ih =>
    obtain ⟨k, v⟩ := entry
    rw [adjust]
    split
    · rfl
    · exact congrArg (k :: ·) ih

theorem forall_mem_adjust {P : κ × β → Prop} {f : β → β}
    (hf : ∀ k v, P (k, v) → P (k, f v)) (h : ∀ entry ∈ entries, P entry) : ∀ entry ∈ adjust key f entries, P entry := by
  induction entries with
  | nil => exact h
  | cons first entries ih =>
    obtain ⟨k, v⟩ := first
    obtain ⟨hfirst, hrest⟩ := List.forall_mem_cons.mp h
    rw [adjust]
    split
    · exact List.forall_mem_cons.mpr ⟨hf k v hfirst, hrest⟩
    · exact List.forall_mem_cons.mpr ⟨hfirst, ih hrest⟩

theorem eraseFirst_eq_eraseAll (h : (keys entries).Nodup) (key : κ) :
    eraseFirst key entries = eraseAll key entries := by
  induction entries with
  | nil => rfl
  | cons entry entries ih =>
    obtain ⟨k, v⟩ := entry
    obtain ⟨hk, hrest⟩ := List.nodup_cons.mp h
    by_cases hkey : k = key
    · subst hkey
      rw [eraseFirst, eraseAll, List.eraseP_cons_of_pos (by simp), List.filter_cons_of_neg (by simp)]
      refine (List.filter_eq_self.mpr fun entry hentry => ?_).symm
      have hne : entry.1 ≠ k := fun he => hk (List.mem_map.mpr ⟨entry, hentry, he⟩)
      simpa using hne
    · rw [eraseFirst, eraseAll, List.eraseP_cons_of_neg (by simpa using hkey),
        List.filter_cons_of_pos (by simpa using hkey)]
      exact congrArg ((k, v) :: ·) (ih hrest)

theorem nodup_keys_eraseAll (h : (keys entries).Nodup) (key : κ) :
    (keys (eraseAll key entries)).Nodup := h.sublist (List.filter_sublist.map _)

theorem not_mem_keys_eraseAll (key : κ) (entries : List (κ × β)) : key ∉ keys (eraseAll key entries) := by
  intro hmem
  obtain ⟨entry, hentry, heq⟩ := List.mem_map.mp hmem
  exact of_decide_eq_true (List.mem_filter.mp hentry).2 heq

theorem nodup_keys_insert (h : (keys entries).Nodup) (key : κ) (v : β) :
    (keys (insert key v entries)).Nodup :=
  List.nodup_cons.mpr ⟨not_mem_keys_eraseAll key entries, nodup_keys_eraseAll h key⟩

theorem keys_eraseAll (key : κ) (entries : List (κ × β)) : keys (eraseAll key entries) = (keys entries).filter (· ≠ key) := by
  rw [keys, keys, eraseAll, List.filter_map]
  rfl

variable [BEq κ] [LawfulBEq κ]

theorem read_cons (k : κ) (v : β) (entries : List (κ × β)) :
    read ((k, v) :: entries) = Function.update (read entries) k (some v) := by
  funext key
  by_cases h : key = k
  · subst h
    simp [read]
  · simp [read, List.lookup_cons, beq_false_of_ne h, h]

theorem read_eq_none_iff : read entries key = none ↔ key ∉ keys entries := by
  induction entries with
  | nil => simp [read, keys]
  | cons entry entries ih =>
    obtain ⟨k, v⟩ := entry
    rw [read_cons]
    by_cases h : key = k
    · simp [keys, h]
    · simpa [keys, h] using ih

theorem mem_of_read {v : β} (h : read entries key = some v) :
    (key, v) ∈ entries := by
  induction entries with
  | nil => cases h
  | cons entry entries ih =>
    obtain ⟨k, w⟩ := entry
    rw [read_cons] at h
    by_cases hkey : key = k
    · subst hkey
      rw [Function.update_self] at h
      cases h
      exact .head _
    · rw [Function.update_of_ne hkey] at h
      exact .tail _ (ih h)

theorem read_of_mem (h : (keys entries).Nodup) {entry : κ × β} (hmem : entry ∈ entries) :
    read entries entry.1 = some entry.2 := by
  induction entries with
  | nil => cases hmem
  | cons first entries ih =>
    obtain ⟨k, w⟩ := first
    obtain ⟨hk, hrest⟩ := List.nodup_cons.mp h
    rw [read_cons]
    rcases List.mem_cons.mp hmem with rfl | hmem
    · exact Function.update_self ..
    · have hne : entry.1 ≠ k := fun he => hk (List.mem_map.mpr ⟨entry, hmem, he⟩)
      rw [Function.update_of_ne hne, ih hrest hmem]

theorem read_map (f : β → γ) (entries : List (κ × β)) :
    read (entries.map fun entry => (entry.1, f entry.2)) = fun key => (read entries key).map f := by
  induction entries with
  | nil => rfl
  | cons entry entries ih =>
    obtain ⟨k, v⟩ := entry
    rw [List.map_cons, read_cons, ih, read_cons]
    funext key
    by_cases h : key = k <;> simp [h]

theorem read_concat (h : read entries key = none) (v : β) :
    read (entries ++ [(key, v)]) = Function.update (read entries) key (some v) := by
  induction entries with
  | nil => exact read_cons key v []
  | cons entry entries ih =>
    obtain ⟨k, w⟩ := entry
    rw [read_cons] at h
    have hne : key ≠ k := fun he => by simp [he] at h
    have hrest : read entries key = none := by simpa [hne] using h
    rw [List.cons_append, read_cons, ih hrest, read_cons, Function.update_comm hne.symm]

theorem nodup_keys_concat (h : (keys entries).Nodup)
    (hnone : read entries key = none) (v : β) : (keys (entries ++ [(key, v)])).Nodup := by
  rw [keys, List.map_append, List.nodup_append]
  refine ⟨h, List.nodup_singleton _, ?_⟩
  intro a ha b hb
  rw [List.mem_singleton.mp hb]
  exact ne_of_mem_of_not_mem ha (read_eq_none_iff.mp hnone)

theorem read_adjust (key : κ) (f : β → β) (entries : List (κ × β)) :
    read (adjust key f entries) = Function.update (read entries) key ((read entries key).map f) := by
  induction entries with
  | nil => simp [adjust]
  | cons entry entries ih =>
    obtain ⟨k, v⟩ := entry
    rw [adjust]
    by_cases h : k = key
    · subst h
      simp [read_cons]
    · rw [if_neg h, read_cons, ih, read_cons, Function.update_comm h, Function.update_of_ne (Ne.symm h)]

theorem read_eraseAll (key : κ) (entries : List (κ × β)) :
    read (eraseAll key entries) = Function.update (read entries) key none := by
  induction entries with
  | nil => simp [eraseAll]
  | cons entry entries ih =>
    obtain ⟨k, v⟩ := entry
    by_cases h : k = key
    · subst h
      rw [eraseAll, List.filter_cons_of_neg (by simp), read_cons, Function.update_idem]
      exact ih
    · rw [eraseAll, List.filter_cons_of_pos (by simpa using h), read_cons, read_cons, Function.update_comm h,
        ← ih, eraseAll]

theorem read_insert (key : κ) (v : β) (entries : List (κ × β)) :
    read (insert key v entries) = Function.update (read entries) key (some v) := by
  rw [insert, read_cons, read_eraseAll, Function.update_idem]

theorem length_insert (h : (keys entries).Nodup) (key : κ) (v : β) :
    (insert key v entries).length = if read entries key = none then entries.length + 1 else entries.length := by
  have hlength : (insert key v entries).length = ((keys entries).filter (· ≠ key)).length + 1 := by
    rw [insert, List.length_cons, ← keys_eraseAll, keys, List.length_map]
  rw [hlength]
  split
  next hnone =>
    have hall : (keys entries).filter (· ≠ key) = keys entries :=
      List.filter_eq_self.mpr fun other hother => decide_eq_true (ne_of_mem_of_not_mem hother (read_eq_none_iff.mp hnone))
    rw [hall, keys, List.length_map]
  next hsome =>
    have hmem : key ∈ keys entries := by
      by_contra hmem
      exact hsome (read_eq_none_iff.mpr hmem)
    have herase : (keys entries).filter (· ≠ key) = (keys entries).erase key := by
      rw [h.erase_eq_filter]
      exact List.filter_congr fun other _ => by by_cases hother : other = key <;> simp [hother]
    have hpos := List.length_pos_of_mem hmem
    rw [herase, List.length_erase_of_mem hmem, Nat.sub_add_cancel hpos, keys, List.length_map]

theorem foldl_update_apply (g : Option β → γ → Option β) {entries : List (κ × γ)} (h : (keys entries).Nodup)
    (m : κ → Option β) (key : κ) :
    entries.foldl (fun m entry => Function.update m entry.1 (g (m entry.1) entry.2)) m key =
      (read entries key).elim (m key) (g (m key)) := by
  induction entries generalizing m with
  | nil => rfl
  | cons entry entries ih =>
    obtain ⟨k, v⟩ := entry
    obtain ⟨hk, hrest⟩ := List.nodup_cons.mp h
    rw [List.foldl_cons, ih hrest, read_cons]
    by_cases hkey : key = k
    · subst hkey
      simp [read_eq_none_iff.mpr hk]
    · simp [hkey]

end TunnelCore.Assoc
