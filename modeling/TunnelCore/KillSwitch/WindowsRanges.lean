import TunnelCore.KillSwitch.WindowsStrict
import TunnelCore.KillSwitch.WindowsTracking
import Mathlib.Algebra.Group.Nat.Defs
import Mathlib.Data.Set.Insert

namespace TunnelCore.WindowsFirewall

open Daemon Set

/-- The filters of `allowTrafficRange`: no other call on the ranges adds a permit of this weight. -/
def State.bypassFilters (w : State) : List Filter :=
  w.filters.filter fun f => f.action = .permit ∧ f.weight = highWeight

def matched (filters : List Filter) : Set Value :=
  {v | ∃ f ∈ filters, ∃ t : Traffic, f.covers t = true ∧ t.remoteAddress = v}

def State.permitted (w : State) : Set Value := matched w.bypassFilters

theorem matched_append (fs gs : List Filter) : matched (fs ++ gs) = matched fs ∪ matched gs := by
  ext v
  simp only [matched, List.mem_append, mem_ofPred_eq, mem_union, or_and_right, exists_or]

theorem matched_nil : matched [] = ∅ := by
  ext v
  simp [matched]

/-- `QHostAddress(addr)` as a filter condition: one address, and `::` where it is null. -/
def readBy (qt : Qt) (ranges : List String) : Set Value := {v | ∃ r ∈ ranges, importAddress (qt.hostAddress r) = v}

theorem Value.le_antisymm_iff {v x : Value} : v.le x = true ∧ x.le v = true ↔ x = v := by
  cases v with
  | uint32 a =>
    cases x with
    | uint32 b =>
      simp only [Value.le, decide_eq_true_eq, Value.uint32.injEq]
      exact ⟨fun h => BitVec.le_antisymm h.2 h.1, fun h => h ▸ ⟨BitVec.le_refl _, BitVec.le_refl _⟩⟩
    | byteArray16 b => simp [Value.le]
  | byteArray16 a =>
    cases x with
    | uint32 b => simp [Value.le]
    | byteArray16 b =>
      simp only [Value.le, decide_eq_true_eq, Value.byteArray16.injEq]
      exact ⟨fun h => BitVec.le_antisymm h.2 h.1, fun h => h ▸ ⟨BitVec.le_refl _, BitVec.le_refl _⟩⟩

theorem broadcastAddress_ofHost (a : QHostAddress) : broadcastAddress (.ofHost a) = a := by
  cases a with
  | null => rfl
  | ipv4 address => simp [IPAddress.ofHost, broadcastAddress]
  | ipv6 address => simp [IPAddress.ofHost, broadcastAddress]

theorem address_ofHost (a : QHostAddress) : (IPAddress.ofHost a).address = a := by
  cases a <;> rfl

theorem matched_rangeFilters (a : QHostAddress) (weight : Nat) :
    matched (rangeFilters .permit (.ofHost a) weight) = {importAddress a} := by
  have hcovers (layer : Layer) (t : Traffic) :
      (⟨layer, [rangeCondition (.ofHost a)], .permit, weight⟩ : Filter).covers t = true ↔
        layer = t.layer ∧ t.remoteAddress = importAddress a := by
    simp [Filter.covers, rangeCondition, Condition.holds, broadcastAddress_ofHost, address_ofHost,
      Value.le_antisymm_iff]
  ext v
  constructor
  · rintro ⟨f, hf, t, hc, rfl⟩
    obtain ⟨layer, -, rfl⟩ := List.mem_map.mp hf
    exact ((hcovers layer t).mp hc).2
  · rintro rfl
    have hlayer : ∃ layer, layer ∈ layers (IPAddress.ofHost a).address := by
      rw [address_ofHost]
      cases a <;> exact ⟨_, .head _⟩
    obtain ⟨layer, hlayer⟩ := hlayer
    refine ⟨_, List.mem_map_of_mem hlayer,
      { layer, remoteAddress := importAddress a, protocol := .tcp, localPort := 0, remotePort := 0, interfaceIndex := 0,
        appId := "" }, ?_, rfl⟩
    exact (hcovers layer _).mpr ⟨rfl, rfl⟩

theorem bypassFilters_of_filters {w w' : State} {added : List Filter} (h : w'.filters = w.filters ++ added) :
    w'.permitted = w.permitted ∪ matched (added.filter fun f => f.action = .permit ∧ f.weight = highWeight) := by
  rw [State.permitted, State.bypassFilters, h, List.filter_append, matched_append]
  rfl

theorem permitted_enableInterface (host : Host) (index : Int) (w : State) :
    (enableInterface host index w).permitted = w.permitted := by
  have hnone : (interfaceFilters host index).filter (fun f => f.action = .permit ∧ f.weight = highWeight) = [] := by
    rw [List.filter_eq_nil_iff]
    intro f hf hbypass
    exact interfaceFilters_weight hf (of_decide_eq_true hbypass).2
  rw [bypassFilters_of_filters (filters_enableInterface host index w), hnone, matched_nil, union_empty]

theorem permitted_allowTrafficRange (qt : Qt) (ranges : List String) (w : State) :
    (allowTrafficRange qt ranges w).permitted = w.permitted ∪ readBy qt ranges := by
  induction ranges generalizing w with
  | nil => simp [allowTrafficRange, readBy]
  | cons r ranges ih =>
    have hall : (rangeFilters .permit (.ofHost (qt.hostAddress r)) highWeight).filter
        (fun f => f.action = .permit ∧ f.weight = highWeight) =
          rangeFilters .permit (.ofHost (qt.hostAddress r)) highWeight := by
      rw [List.filter_eq_self]
      intro f hf
      obtain ⟨layer, -, rfl⟩ := List.mem_map.mp hf
      rfl
    have hone : (allowTrafficTo (.ofHost (qt.hostAddress r)) highWeight "" w).permitted =
        w.permitted ∪ {importAddress (qt.hostAddress r)} := by
      rw [allowTrafficTo, bypassFilters_of_filters (filters_enableFilters _ _ _), hall, matched_rangeFilters]
    have hread : readBy qt (r :: ranges) = {importAddress (qt.hostAddress r)} ∪ readBy qt ranges := by
      ext v
      simp [readBy, eq_comm]
    rw [allowTrafficRange, List.foldl_cons, ← allowTrafficRange, ih, hone, hread, union_assoc]

variable {w : State}

theorem State.Tracked.enableFilters (h : w.Tracked) (filters : List Filter) (peer : String) :
    (enableFilters filters peer w).Tracked := by
  induction filters generalizing w with
  | nil => exact h
  | cons f filters ih =>
    apply ih
    intro e he
    rw [Grows.mem_recorded_enableFilter]
    obtain he | he := List.mem_append.mp he
    · exact .inl (h e he)
    · obtain rfl := List.mem_singleton.mp he
      exact .inr rfl

theorem State.Tracked.enableInterface (h : w.Tracked) (host : Host) (index : Int) :
    (enableInterface host index w).Tracked := by
  refine List.foldlRecOn _ _ ?_ fun _ h _ _ => h.enableFilters _ _
  have hfirst : (if index < 0 then
      blockTrafficTo allv6 medWeight "killswitch" (blockTrafficTo allv4 medWeight "killswitch" w)
      else allowTrafficOfAdapter index medWeight w).Tracked := by
    split
    · exact (h.enableFilters _ _).enableFilters _ _
    · exact h.enableFilters _ _
  exact (((hfirst.enableFilters _ _).enableFilters _ _).enableFilters _ _).enableFilters _ _

theorem State.Tracked.allowTrafficRange (h : w.Tracked) (qt : Qt) (ranges : List String) :
    (allowTrafficRange qt ranges w).Tracked :=
  List.foldlRecOn ranges _ h fun _ h _ _ => h.enableFilters _ _

theorem State.Tracked.engine_allowAllTraffic (h : w.Tracked) : (allowAllTraffic w).engine = [] := by
  change w.engine.filter (fun e => e.1 ∉ w.recorded) = []
  rw [List.filter_eq_nil_iff]
  intro e he hkept
  exact of_decide_eq_true hkept (h e he)

end TunnelCore.WindowsFirewall

namespace TunnelCore.KillSwitch.Windows

open WindowsFirewall Daemon Set Text

def quad (address : List Char) : Nat := (address.splitOn '.').foldl (fun n octet => 256 * n + decimal octet) 0

/-- The address and the prefix length of an entry, as `isValidIpOrCidr` reads them. -/
def entry (range : String) : Nat × Nat :=
  match (dropNewline range.toList).splitOn '/' with
  | [address, length] => (quad address, decimal length)
  | parts => (quad (parts.headD []), 32)

def covers (range : String) (a : BitVec 32) : Prop :=
  a.toNat / 2 ^ (32 - (entry range).2) = (entry range).1 / 2 ^ (32 - (entry range).2)

instance (range : String) (a : BitVec 32) : Decidable (covers range a) := inferInstanceAs (Decidable (_ = _))

def denotedBy (ranges : List String) : Set Value :=
  {v | ∃ r ∈ ranges, ∃ a, covers r a ∧ .uint32 a = v}

def Exactly (s : State) : Prop := s.firewall.permitted = denotedBy s.allowedRanges

inductive RangeCall
  | addAllowedRange (ranges : List String)
  | resetAllowedRange (ranges : List String)
  | disableKillSwitch
  | disableAllTraffic

section Runs

variable (env : Env)

def rangeStep (s : State) : RangeCall → State
  | .addAllowedRange ranges => Windows.addAllowedRange env ranges s
  | .resetAllowedRange ranges => Windows.resetAllowedRange env ranges s
  | .disableKillSwitch => Windows.disableKillSwitch env s
  | .disableAllTraffic => Windows.disableAllTraffic env s

/-- The new list still has the addresses of the old one, Qt reads no address that is not in it, and every new address
is one that Qt reads. -/
structure Follows (qt : Qt) (old new : List String) : Prop where
  keeps : denotedBy old ⊆ denotedBy new
  reads : readBy qt new ⊆ denotedBy new
  complete : denotedBy new ⊆ denotedBy old ∪ readBy qt new

/-- The list is emptied, or the filters are, only when there is nothing in it. -/
def RangeCall.Plain (s : State) : RangeCall → Prop
  | .addAllowedRange ranges =>
    ranges.all isValidIpOrCidr → Follows env.qt s.allowedRanges (appendRanges s.allowedRanges ranges)
  | .resetAllowedRange ranges => ranges.all isValidIpOrCidr → Follows env.qt s.allowedRanges ranges
  | .disableKillSwitch | .disableAllTraffic => s.allowedRanges = []

end Runs

variable {env : Env} {s : State}

theorem follows_iff {qt : Qt} {old new : List String} :
    denotedBy old ∪ readBy qt new = denotedBy new ↔ Follows qt old new := by
  constructor
  · intro h
    exact ⟨h ▸ subset_union_left, h ▸ subset_union_right, h.ge⟩
  · rintro ⟨hkeeps, hreads, hcomplete⟩
    exact subset_antisymm (union_subset hkeeps hreads) hcomplete

theorem isAddress_quad_lt {address : List Char} (h : isAddress address = true) : quad address < 2 ^ 32 := by
  obtain ⟨hlength, hoctets⟩ := of_decide_eq_true h
  obtain ⟨a, b, c, d, hparts⟩ := List.length_eq_four.mp hlength
  simp only [hparts, List.all_cons, List.all_nil, Bool.and_true, Bool.and_eq_true, decide_eq_true_eq] at hoctets
  simp only [quad, hparts, List.foldl_cons, List.foldl_nil]
  omega

theorem entry_lt {range : String} (h : isValidIpOrCidr range = true) : (entry range).1 < 2 ^ 32 := by
  rw [isValidIpOrCidr] at h
  rw [entry]
  split at h
  next address hparts =>
    rw [hparts]
    exact isAddress_quad_lt h
  next address length hparts =>
    rw [hparts]
    simp only [Bool.and_eq_true] at h
    exact isAddress_quad_lt h.1.1
  · cases h

theorem denotedBy_eq_empty_iff {ranges : List String} (h : ranges.all isValidIpOrCidr) :
    denotedBy ranges = ∅ ↔ ranges = [] := by
  constructor
  · intro hempty
    rw [List.eq_nil_iff_forall_not_mem]
    intro r hr
    have hself : covers r (.ofNat 32 (entry r).1) := by
      rw [covers, BitVec.toNat_ofNat, Nat.mod_eq_of_lt (entry_lt (List.all_eq_true.mp h r hr))]
    exact eq_empty_iff_forall_notMem.mp hempty _ ⟨r, hr, _, hself, rfl⟩
  · rintro rfl
    simp [denotedBy]

/-- What every run of the calls keeps: each filter is written down, and the list holds valid entries only. -/
structure Kept (s : State) : Prop where
  tracked : s.firewall.Tracked
  valid : s.allowedRanges.all isValidIpOrCidr = true

theorem Kept.disableAllTraffic (h : Kept s) : Kept (disableAllTraffic env s) := ⟨h.tracked.enableInterface _ _, rfl⟩

theorem Kept.disableKillSwitch (h : Kept s) : Kept (disableKillSwitch env s) := by
  rw [Windows.disableKillSwitch]
  split
  · exact h.disableAllTraffic
  · refine ⟨fun e he => ?_, h.valid⟩
    change e ∈ (allowAllTraffic s.firewall).engine at he
    rw [h.tracked.engine_allowAllTraffic] at he
    cases he

theorem Kept.resetAllowedRange (h : Kept s) (ranges : List String) : Kept (resetAllowedRange env ranges s) := by
  rw [Windows.resetAllowedRange]
  split
  next hvalid =>
    refine ⟨State.Tracked.allowTrafficRange ?_ _ _, hvalid⟩
    split
    · exact h.tracked.enableInterface _ _
    · exact h.tracked
  · exact h

theorem Kept.addAllowedRange (h : Kept s) (ranges : List String) : Kept (addAllowedRange env ranges s) := by
  rw [Windows.addAllowedRange]
  split
  next hvalid =>
    have hnew : Kept { s with allowedRanges := appendRanges s.allowedRanges ranges } :=
      ⟨h.tracked, appendRanges_valid h.valid hvalid⟩
    exact hnew.resetAllowedRange _
  · exact h

theorem Kept.step (h : Kept s) (c : RangeCall) : Kept (rangeStep env s c) := by
  cases c with
  | addAllowedRange ranges => exact h.addAllowedRange ranges
  | resetAllowedRange ranges => exact h.resetAllowedRange ranges
  | disableKillSwitch => exact h.disableKillSwitch
  | disableAllTraffic => exact h.disableAllTraffic

theorem Kept.run (h : Kept s) (calls : List RangeCall) : Kept (calls.foldl (rangeStep env) s) := by
  induction calls generalizing s with
  | nil => exact h
  | cons c calls ih => exact ih (h.step c)

theorem exactly_disableAllTraffic_iff (h : Kept s) (hs : Exactly s) :
    Exactly (disableAllTraffic env s) ↔ s.allowedRanges = [] := by
  have hnone : denotedBy [] = ∅ := (denotedBy_eq_empty_iff rfl).mpr rfl
  change (enableInterface env.host (-1) s.firewall).permitted = denotedBy [] ↔ _
  rw [permitted_enableInterface, hs, hnone, denotedBy_eq_empty_iff h.valid]

theorem exactly_disableKillSwitch_iff (h : Kept s) (hs : Exactly s) :
    Exactly (disableKillSwitch env s) ↔ s.allowedRanges = [] := by
  rw [Windows.disableKillSwitch]
  split
  · exact exactly_disableAllTraffic_iff h hs
  · have hempty : (allowAllTraffic s.firewall).permitted = ∅ := by
      rw [State.permitted, State.bypassFilters, State.filters, h.tracked.engine_allowAllTraffic]
      exact matched_nil
    change (allowAllTraffic s.firewall).permitted = denotedBy s.allowedRanges ↔ _
    rw [hempty, eq_comm, denotedBy_eq_empty_iff h.valid]

theorem exactly_resetAllowedRange_iff {ranges : List String} (hvalid : ranges.all isValidIpOrCidr = true)
    {old : List String} (hs : s.firewall.permitted = denotedBy old) :
    Exactly (resetAllowedRange env ranges s) ↔ Follows env.qt old ranges := by
  rw [Windows.resetAllowedRange, if_pos hvalid, Exactly, permitted_allowTrafficRange, ← follows_iff]
  split
  · rw [permitted_enableInterface, hs]
  · rw [hs]

theorem exactly_step_iff (h : Kept s) (hs : Exactly s) (c : RangeCall) :
    Exactly (rangeStep env s c) ↔ c.Plain env s := by
  cases c with
  | addAllowedRange ranges =>
    by_cases hvalid : ranges.all isValidIpOrCidr = true
    · rw [rangeStep, Windows.addAllowedRange, if_pos hvalid, RangeCall.Plain, imp_iff_right hvalid]
      have hall := appendRanges_valid h.valid hvalid
      have hold : { s with allowedRanges := appendRanges s.allowedRanges ranges }.firewall.permitted =
          denotedBy s.allowedRanges := hs
      exact exactly_resetAllowedRange_iff hall hold
    · rw [rangeStep, Windows.addAllowedRange, if_neg hvalid]
      exact iff_of_true hs fun h => absurd h hvalid
  | resetAllowedRange ranges =>
    by_cases hvalid : ranges.all isValidIpOrCidr = true
    · rw [RangeCall.Plain, imp_iff_right hvalid]
      exact exactly_resetAllowedRange_iff hvalid hs
    · rw [rangeStep, Windows.resetAllowedRange, if_neg hvalid]
      exact iff_of_true hs fun h => absurd h hvalid
  | disableKillSwitch => exact exactly_disableKillSwitch_iff h hs
  | disableAllTraffic => exact exactly_disableAllTraffic_iff h hs

theorem kept_start (strict : Bool) : Kept (start strict) := ⟨fun _ h => (List.not_mem_nil h).elim, rfl⟩

theorem exactly_start (strict : Bool) : Exactly (start strict) := by
  have hnone : denotedBy [] = ∅ := (denotedBy_eq_empty_iff rfl).mpr rfl
  exact matched_nil.trans hnone.symm

theorem bypass_exact_iff (env : Env) (strict : Bool) (calls : List RangeCall) :
    (∀ past, past <+: calls → Exactly (past.foldl (rangeStep env) (start strict))) ↔
      Along (rangeStep env) (RangeCall.Plain env) (start strict) calls :=
  forall_prefix_iff_along (exactly_start strict)
    (fun past c hs => exactly_step_iff ((kept_start strict).run past) hs c) calls

def prefixAllowed : State := [.resetAllowedRange ["10.0.0.0/8"]].foldl (rangeStep sampleEnv) (start false)

def addressTakenBack : State :=
  [.addAllowedRange ["192.0.2.1"], .resetAllowedRange []].foldl (rangeStep sampleEnv) (start false)

/-- A prefix is valid and no host address, and a list without an address does not take its filter away. -/
theorem bypass_differs :
    sampleEnv.qt.Documented ∧
      (prefixAllowed.allowedRanges = ["10.0.0.0/8"] ∧ .uint32 0x0A000001 ∈ denotedBy prefixAllowed.allowedRanges ∧
        .uint32 0x0A000001 ∉ prefixAllowed.firewall.permitted) ∧
      addressTakenBack.allowedRanges = [] ∧ .uint32 0xC0000201 ∉ denotedBy addressTakenBack.allowedRanges ∧
        .uint32 0xC0000201 ∈ addressTakenBack.firewall.permitted := by
  refine ⟨sampleQt_documented, ⟨rfl, ?_, ?_⟩, rfl, ?_, ?_⟩
  · exact ⟨_, .head _, _, by decide, rfl⟩
  · change Value.uint32 0x0A000001 ∉ (allowTrafficRange sampleQt ["10.0.0.0/8"] {}).permitted
    rw [permitted_allowTrafficRange]
    rintro (⟨f, hf, -⟩ | ⟨r, hr, hread⟩)
    · cases hf
    · obtain rfl := List.mem_singleton.mp hr
      exact absurd hread (by decide)
  · rintro ⟨r, hr, -⟩
    cases hr
  · change Value.uint32 0xC0000201 ∈ (allowTrafficRange sampleQt [] (allowTrafficRange sampleQt ["192.0.2.1"] {})).permitted
    rw [permitted_allowTrafficRange, permitted_allowTrafficRange]
    exact .inl (.inr ⟨_, .head _, rfl⟩)

end TunnelCore.KillSwitch.Windows
