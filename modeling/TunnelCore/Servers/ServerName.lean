import TunnelCore.Servers.Consistency
import Mathlib.Algebra.Group.Nat.Defs
import Mathlib.Data.List.Perm.Subperm
import Mathlib.Data.Nat.Find
import Mathlib.Order.Bounds.Defs

namespace TunnelCore.Servers

section Search

variable {α : Type} [DecidableEq α] {name : Nat → α} {used : List α}

/-- Some name among the first is not in use: there is one more of them than names in use. -/
theorem exists_not_mem (hname : Function.Injective name) (used : List α) :
    ∃ k, 0 < k ∧ k ≤ used.length + 1 ∧ name k ∉ used := by
  by_contra hall
  have hsub : (List.range' 1 (used.length + 1)).map name ⊆ used := by
    intro x hx
    obtain ⟨k, hk, rfl⟩ := List.mem_map.mp hx
    obtain ⟨hpos, hle⟩ := List.mem_range'_1.mp hk
    by_contra hfree
    exact hall ⟨k, hpos, by omega, hfree⟩
  have hnodup : ((List.range' 1 (used.length + 1)).map name).Nodup := List.Nodup.map hname List.nodup_range'
  have hlength := (List.subperm_of_subset hnodup hsub).length_le
  rw [List.length_map, List.length_range'] at hlength
  exact Nat.not_succ_le_self _ hlength

theorem exists_isLeast_not_mem (hname : Function.Injective name) (used : List α) :
    ∃ k ≤ used.length + 1, IsLeast {k | 0 < k ∧ name k ∉ used} k := by
  obtain ⟨k, hpos, hle, hfree⟩ := exists_not_mem hname used
  have hex : ∃ k, 0 < k ∧ name k ∉ used := ⟨k, hpos, hfree⟩
  exact ⟨Nat.find hex, (Nat.find_min' hex ⟨hpos, hfree⟩).trans hle, Nat.find_spec hex, fun j hj => Nat.find_min' hex hj⟩

end Search

/-- The name that `fromJson` shows for a server: the first text, or the second if that is empty. -/
def displayName (json : JsonObject) (key other : String) : String :=
  if (json.value key).toString = "" then (json.value other).toString else (json.value key).toString

/-- A legacy configuration is read without its name. -/
def storedServerDisplayName (env : Env) (r : Repository) (serverId : String) : String :=
  match r.serverJsonById serverId with
  | none => ""
  | some json =>
    let strippedJson := withoutStorageServerId json
    match configTypeFromJson env strippedJson with
    | .selfHostedAdmin | .selfHostedUser | .native => displayName strippedJson "description" "hostName"
    | .amneziaPremiumV2 | .amneziaFreeV3 | .externalPremium => displayName strippedJson "name" "description"
    | .amneziaPremiumV1 | .amneziaFreeV2 => (strippedJson.value "description").toString
    | .selfHosted | .invalid => ""

def usedNames (env : Env) (r : Repository) : List String :=
  (r.orderedServerIds.map (storedServerDisplayName env r)).filter (· ≠ "")

/-- `++i` on an `int`. -/
def increment (i : Int) : Int := (i + 1).bmod 4294967296

/-- The candidate with a number; `server` is the translation of "Server". -/
def serverName (server : String) (i : Int) : String := server ++ " " ++ toString i

/-- The loop; `none` when it has not stopped after `fuel` iterations. -/
def searchName (usedNames : List String) (server : String) : Nat → Int → Option String
  | 0, _ => none
  | fuel + 1, i =>
    let candidate := serverName server (increment i)
    if candidate ∈ usedNames then searchName usedNames server fuel (increment i) else some candidate

def nextAvailableServerName (env : Env) (server : String) (r : Repository) (fuel : Nat) : Option String :=
  searchName (usedNames env r) server fuel 0

variable {server : String} {used : List String}

theorem serverName_injective (server : String) : Function.Injective fun i : Nat => serverName server i := by
  intro i j h
  have hnumber : Nat.repr i = Nat.repr j := (String.append_right_inj _).mp h
  rw [← Text.decimal_toDigits i, ← Nat.toList_repr, hnumber, Nat.toList_repr, Text.decimal_toDigits]

theorem serverName_ne_empty (i : Int) : serverName server i ≠ "" := by
  intro h
  have hchars := congrArg String.toList h
  simp [serverName] at hchars

theorem increment_natCast {i : Nat} (hi : i + 1 < 2 ^ 31) : increment i = ((i + 1 : Nat) : Int) := by
  rw [increment, Int.bmod_def]
  omega

theorem mem_usedNames {env : Env} {r : Repository} {i : Int} :
    serverName server i ∈ usedNames env r ↔
      ∃ id ∈ r.orderedServerIds, storedServerDisplayName env r id = serverName server i := by
  rw [usedNames, List.mem_filter, List.mem_map]
  exact and_iff_left (by simpa using serverName_ne_empty i)

/-- The loop counts up to the first number that is free. -/
theorem searchName_eq {k : Nat} (hk : k < 2 ^ 31) (hfree : serverName server k ∉ used) (fuel : Nat) {i : Nat}
    (hi : i < k) (hused : ∀ j, i < j → j < k → serverName server j ∈ used) :
    searchName used server fuel i = if k ≤ i + fuel then some (serverName server k) else none := by
  induction fuel generalizing i with
  | zero => rw [searchName, if_neg (by omega)]
  | succ fuel ih =>
    rw [searchName, increment_natCast (by omega)]
    by_cases hlast : i + 1 = k
    · subst hlast
      rw [if_neg hfree, if_pos (by omega)]
    · rw [if_pos (hused (i + 1) (Nat.lt_succ_self i) (by omega)), ih (by omega) fun j hj => hused j (by omega)]
      exact if_congr (by omega) rfl rfl

/-- The loop stops after exactly as many iterations as the smallest number that no server displays says, and these are
at most one more than there are servers. -/
theorem nextAvailableServerName_least (env : Env) (server : String) (r : Repository)
    (h : r.orderedServerIds.length < 2 ^ 31 - 1) :
    ∃ k ≤ r.orderedServerIds.length + 1,
      IsLeast {k : Nat | 0 < k ∧ ∀ id ∈ r.orderedServerIds, storedServerDisplayName env r id ≠ serverName server k} k ∧
      ∀ fuel, nextAvailableServerName env server r fuel = if k ≤ fuel then some (serverName server k) else none := by
  obtain ⟨k, hle, hleast⟩ := exists_isLeast_not_mem (serverName_injective server) (usedNames env r)
  have hlength : (usedNames env r).length ≤ r.orderedServerIds.length :=
    (List.length_filter_le _ _).trans (List.length_map _).le
  have hfree (j : Nat) : serverName server j ∉ usedNames env r ↔
      ∀ id ∈ r.orderedServerIds, storedServerDisplayName env r id ≠ serverName server j := by
    rw [mem_usedNames]
    simp only [not_exists, not_and, ne_eq]
  have hbound : k ≤ r.orderedServerIds.length + 1 := hle.trans (Nat.succ_le_succ hlength)
  refine ⟨k, hbound, ?_, fun fuel => ?_⟩
  · simpa only [hfree] using hleast
  · have hused (j : Nat) (hpos : 0 < j) (hj : j < k) : serverName server j ∈ usedNames env r := by
      by_contra hnone
      exact Nat.not_lt.mpr (hleast.2 ⟨hpos, hnone⟩) hj
    have hsearch := searchName_eq (by omega) hleast.1.2 fuel hleast.1.1 hused
    rwa [Nat.zero_add] at hsearch

/-- The second server has taken the number 3 before the number 2 was in use. -/
def sampleNamed : Repository where
  settings := ⟨[], "", 0⟩
  serverJsonById id := some (sampleServer (if id = "a" then "Server 1" else "Server 3"))
  orderedServerIds := ["a", "b"]

theorem nextAvailableServerName_gap :
    sampleNamed.orderedServerIds.length = 2 ∧ ∃ k ≤ 3, ∀ fuel,
      nextAvailableServerName sampleEnv "Server" sampleNamed fuel =
        if k ≤ fuel then some (serverName "Server" k) else none := by
  obtain ⟨k, hk, -, hsearch⟩ := nextAvailableServerName_least sampleEnv "Server" sampleNamed (by decide)
  exact ⟨rfl, k, hk, hsearch⟩

example : nextAvailableServerName sampleEnv "Server" sampleNamed 2 = some "Server 2" := by decide

end TunnelCore.Servers
