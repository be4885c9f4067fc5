import TunnelCore.Android.InetNetwork
import TunnelCore.Android.IpRangeSet

namespace TunnelCore.Android

open Spans

/-- Insertion into a `LinkedHashSet`: a value already present keeps its place. -/
def linkedAdd {α : Type*} [DecidableEq α] (s : List α) (x : α) : List α := if x ∈ s then s else s ++ [x]

def linkedAddAll {α : Type*} [DecidableEq α] (s xs : List α) : List α := xs.foldl linkedAdd s

structure Route where
  inetNetwork : InetNetwork
  included : Bool
deriving DecidableEq

inductive ConfigError
  | badConfig (message : String)
  | net (e : NetError)
deriving DecidableEq

structure Builder where
  addresses : List InetNetwork
  routes : List Route
  includedAddresses : List InetNetwork
  excludedAddresses : List InetNetwork
  mtu : Int

def ipv4Default : InetNetwork := ⟨⟨[0, 0, 0, 0], .inl rfl⟩, 0⟩

def ipv6DefaultRoute : InetNetwork := ⟨⟨List.replicate 16 0, .inr rfl⟩, 0⟩

def ipv6Global : InetNetwork := ⟨⟨0x20 :: List.replicate 15 0, .inr rfl⟩, 3⟩

def ipv4Loopback : InetNetwork := ⟨⟨[127, 0, 0, 0], .inl rfl⟩, 8⟩

def ipv6Loopback : InetNetwork := ⟨⟨List.replicate 15 0 ++ [1], .inr rfl⟩, 128⟩

def IpRangeSet.subnets (s : IpRangeSet) : Except NetError (List InetNetwork) :=
  List.flatten <$> s.ranges.mapM IpRange.subnets

namespace Builder

def addRoute (b : Builder) (route : InetNetwork) : Builder :=
  { b with routes := linkedAdd b.routes ⟨route, true⟩ }

def addRoutes (b : Builder) (routes : List InetNetwork) : Builder :=
  { b with routes := linkedAddAll b.routes (routes.map (⟨·, true⟩)) }

def excludeRoutes (b : Builder) (routes : List InetNetwork) : Builder :=
  { b with routes := linkedAddAll b.routes (routes.map (⟨·, false⟩)) }

def removeRoute (b : Builder) (route : InetNetwork) : Builder :=
  { b with routes := b.routes.filter (·.inetNetwork != route) }

def clearRoutes (b : Builder) : Builder := { b with routes := [] }

def prependRoutes (b : Builder) (block : Builder → Builder) : Builder :=
  { block b.clearRoutes with routes := linkedAddAll (block b.clearRoutes).routes b.routes }

def processSplitTunneling (b : Builder) : Except ConfigError Builder :=
  if b.includedAddresses ≠ [] ∧ b.excludedAddresses ≠ [] then
    .error (.badConfig "Config contains addresses for inclusive and exclusive split tunneling at the same time")
  else if b.includedAddresses ≠ [] then
    .ok ((((b.removeRoute ipv4Default).removeRoute ipv6DefaultRoute).removeRoute ipv6Global).prependRoutes
      (·.addRoutes b.includedAddresses))
  else if b.excludedAddresses ≠ [] then
    .ok (b.prependRoutes fun b =>
      ((b.addRoute ipv4Default).addRoute ipv6Global).excludeRoutes b.excludedAddresses)
  else .ok b

def isIncludedIpv6Default (r : Route) : Bool := r.included && r.inetNetwork == ipv6DefaultRoute

/-- `::/0` is replaced as it may cause LAN connection issues. -/
def replaceIpv6Default (b : Builder) : Builder :=
  if b.routes.any isIncludedIpv6Default then
    { b with routes := b.routes.filter (!isIncludedIpv6Default ·) }.prependRoutes (·.addRoute ipv6Global)
  else b

def applyRoute (s : IpRangeSet) (r : Route) : Except NetError IpRangeSet :=
  match IpRange.ofNetwork r.inetNetwork with
  | .error e => .error e
  | .ok range => s.call (if r.included then .add range else .remove range)

/-- The subnets that remain of the included routes, for systems that cannot exclude one. -/
def remainingSubnets (routes : List Route) : Except NetError (List InetNetwork) := do
  let s ← routes.foldlM applyRoute IpRangeSet.empty
  let s ← s.remove (← IpRange.ofNetwork ipv4Loopback)
  let s ← s.remove (← IpRange.ofNetwork ipv6Loopback)
  s.subnets

def TIRAMISU : Nat := 33

def isIncludedLoopback (r : Route) : Bool :=
  r.included && if r.inetNetwork.isIpv4 then r.inetNetwork.address.address.head? == some 127
    else r.inetNetwork == ipv6Loopback

def dropLoopback (b : Builder) : Builder := { b with routes := b.routes.filter (!isIncludedLoopback ·) }

def processRoutes (sdkInt : Nat) (b : Builder) : Except ConfigError Builder :=
  if sdkInt < TIRAMISU ∧ b.replaceIpv6Default.routes.any (!·.included) then
    match remainingSubnets b.replaceIpv6Default.routes with
    | .error e => .error (.net e)
    | .ok nets => .ok (b.replaceIpv6Default.clearRoutes.addRoutes nets).dropLoopback
  else .ok b.replaceIpv6Default.dropLoopback

def validate (b : Builder) : Except ConfigError Unit :=
  let errorMessage :=
    (if b.addresses = [] then "VPN interface network address not specified.\n" else "") ++
    (if b.routes = [] then "VPN interface route not specified.\n" else "") ++
    (if b.mtu = 0 then "MTU not set.\n" else "")
  if errorMessage ≠ "" then .error (.badConfig errorMessage) else .ok ()

/-- The routes that `configBuild` arrives at, before `validate` looks at them. -/
def builtRoutes (sdkInt : Nat) (b : Builder) : Except ConfigError (List Route) := do
  let b ← b.processSplitTunneling
  let b ← b.processRoutes sdkInt
  pure b.routes

def configBuild (sdkInt : Nat) (b : Builder) : Except ConfigError Builder := do
  let b ← b.processSplitTunneling
  let b ← b.processRoutes sdkInt
  b.validate
  pure b

end Builder

/-- One step of longest-prefix match. Two matching routes of one length have the same destination,
and the system lets a later route replace an earlier one with its destination. -/
def matchRoute (ip : IpAddress) (best : Option Route) (r : Route) : Option Route :=
  if r.inetNetwork.Contains ip then
    match best with
    | none => some r
    | some c => if c.inetNetwork.mask ≤ r.inetNetwork.mask then some r else some c
  else best

def longestMatch (routes : List Route) (ip : IpAddress) : Option Route := routes.foldl (matchRoute ip) none

def Tunnels (routes : List Route) (ip : IpAddress) : Prop :=
  ∃ r, longestMatch routes ip = some r ∧ r.included = true

def Covers (routes : List Route) (ip : IpAddress) : Prop :=
  ∃ r ∈ routes, r.included = true ∧ r.inetNetwork.Contains ip

instance (routes : List Route) (ip : IpAddress) : Decidable (Tunnels routes ip) :=
  match h : longestMatch routes ip with
  | none => isFalse (by simp [Tunnels, h])
  | some r => decidable_of_iff (r.included = true) (by simp [Tunnels, h])

theorem mem_linkedAdd {α : Type*} [DecidableEq α] {s : List α} {x y : α} :
    y ∈ linkedAdd s x ↔ y ∈ s ∨ y = x := by
  rw [linkedAdd]
  split
  next h => exact ⟨.inl, fun hy => hy.elim id fun hx => hx ▸ h⟩
  · simp

theorem mem_linkedAddAll {α : Type*} [DecidableEq α] {s xs : List α} {y : α} :
    y ∈ linkedAddAll s xs ↔ y ∈ s ∨ y ∈ xs := by
  induction xs generalizing s with
  | nil => simp [linkedAddAll]
  | cons x xs ih =>
    rw [show linkedAddAll s (x :: xs) = linkedAddAll (linkedAdd s x) xs from rfl, ih, mem_linkedAdd,
      List.mem_cons, or_assoc]

theorem linkedAddAll_append {α : Type*} [DecidableEq α] (s xs : List α) :
    ∃ ys, linkedAddAll s xs = s ++ ys ∧ ∀ y ∈ ys, y ∈ xs ∧ y ∉ s := by
  induction xs generalizing s with
  | nil => exact ⟨[], by simp [linkedAddAll], by simp⟩
  | cons x xs ih =>
    obtain ⟨ys, hys, hmem⟩ := ih (linkedAdd s x)
    rw [show linkedAddAll s (x :: xs) = linkedAddAll (linkedAdd s x) xs from rfl, hys]
    by_cases hx : x ∈ s
    · rw [linkedAdd, if_pos hx] at hmem ⊢
      exact ⟨ys, rfl, fun y hy => ⟨.tail _ (hmem y hy).1, (hmem y hy).2⟩⟩
    · rw [linkedAdd, if_neg hx] at hmem ⊢
      refine ⟨x :: ys, by simp, fun y hy => ?_⟩
      rcases List.mem_cons.mp hy with rfl | hy
      · exact ⟨.head _, hx⟩
      · exact ⟨.tail _ (hmem y hy).1, fun h => (hmem y hy).2 (List.mem_append_left _ h)⟩

namespace Builder

/-- The routes of an exclusive builder: the two includes, then one exclusion per network. -/
def ExclusiveForm (excluded : List InetNetwork) (routes : List Route) : Prop :=
  ∃ incs excs, routes = incs ++ excs ∧ (∀ r, r ∈ incs ↔ r = ⟨ipv4Default, true⟩ ∨ r = ⟨ipv6Global, true⟩) ∧
    ∀ r, r ∈ excs ↔ ∃ n ∈ excluded, r = ⟨n, false⟩

variable {excluded : List InetNetwork} {b : Builder}

theorem exclusiveForm_addAll {incs xs : List Route}
    (hi : ∀ r, r ∈ incs ↔ r = ⟨ipv4Default, true⟩ ∨ r = ⟨ipv6Global, true⟩)
    (hx : ∀ r, r ∈ xs ↔ ∃ n ∈ excluded, r = ⟨n, false⟩) : ExclusiveForm excluded (linkedAddAll incs xs) := by
  obtain ⟨excs, heq, hmem⟩ := linkedAddAll_append incs xs
  refine ⟨incs, excs, heq, hi, fun r => ⟨fun hr => (hx r).mp (hmem r hr).1, ?_⟩⟩
  rintro ⟨n, hn, rfl⟩
  have hall : (⟨n, false⟩ : Route) ∈ incs ++ excs :=
    heq ▸ mem_linkedAddAll.mpr (.inr ((hx _).mpr ⟨n, hn, rfl⟩))
  rcases List.mem_append.mp hall with h | h
  · simp [hi] at h
  · exact h

theorem ExclusiveForm.forall_mem {routes : List Route} (h : ExclusiveForm excluded routes) {P : Route → Prop}
    (h4 : P ⟨ipv4Default, true⟩) (h6 : P ⟨ipv6Global, true⟩) (hx : ∀ n ∈ excluded, P ⟨n, false⟩) :
    ∀ r ∈ routes, P r := by
  obtain ⟨incs, excs, rfl, hi, hx'⟩ := h
  intro r hr
  rcases List.mem_append.mp hr with hr | hr
  · rcases (hi r).mp hr with rfl | rfl
    · exact h4
    · exact h6
  · obtain ⟨n, hn, rfl⟩ := (hx' r).mp hr
    exact hx n hn

theorem exclusiveForm_not_ipv6Default {routes : List Route} (h : ExclusiveForm excluded routes) :
    ∀ r ∈ routes, isIncludedIpv6Default r = false := h.forall_mem (by decide) (by decide) fun _ _ => rfl

theorem exclusiveForm_not_loopback {routes : List Route} (h : ExclusiveForm excluded routes) :
    ∀ r ∈ routes, isIncludedLoopback r = false := h.forall_mem (by decide) (by decide) fun _ _ => rfl

/-- A builder in exclusive mode whose own routes are default routes. -/
structure Exclusive (b : Builder) : Prop where
  routes : ∀ r ∈ b.routes, r = ⟨ipv4Default, true⟩ ∨ r = ⟨ipv6DefaultRoute, true⟩
  included : b.includedAddresses = []
  excluded : b.excludedAddresses ≠ []
  valid : ∀ n ∈ b.excludedAddresses, n.Valid

theorem replaceIpv6Default_exclusiveForm {first tail : List Route}
    (heq : b.routes = first ++ tail) (hform : ExclusiveForm excluded first)
    (htail : ∀ r ∈ tail, isIncludedIpv6Default r = true) :
    ExclusiveForm excluded b.replaceIpv6Default.routes := by
  have hno := exclusiveForm_not_ipv6Default hform
  by_cases hany : b.routes.any isIncludedIpv6Default
  · have hfilter : b.routes.filter (!isIncludedIpv6Default ·) = first := by
      rw [heq, List.filter_append, List.filter_eq_self.mpr (by simpa using hno),
        List.filter_eq_nil_iff.mpr (by simpa using htail), List.append_nil]
    have hroutes : b.replaceIpv6Default.routes = linkedAddAll [⟨ipv6Global, true⟩] first := by
      rw [replaceIpv6Default, if_pos hany, hfilter]
      rfl
    obtain ⟨incs, excs, rfl, hi, hx⟩ := hform
    rw [hroutes, linkedAddAll, List.foldl_append]
    refine exclusiveForm_addAll (fun r => ?_) hx
    change r ∈ linkedAddAll _ incs ↔ _
    rw [mem_linkedAddAll, hi, List.mem_singleton]
    exact ⟨fun h => h.elim .inr id, .inr⟩
  · have hnil : tail = [] := by
      refine List.eq_nil_iff_forall_not_mem.mpr fun r hr => hany ?_
      exact List.any_eq_true.mpr ⟨r, heq ▸ List.mem_append_right _ hr, htail r hr⟩
    rw [replaceIpv6Default, if_neg hany, heq, hnil, List.append_nil]
    exact hform

theorem processSplitTunneling_exclusive (hi : b.includedAddresses = []) (hx : b.excludedAddresses ≠ []) :
    ∃ b', b.processSplitTunneling = .ok b' ∧ b'.routes = linkedAddAll (linkedAddAll
      [⟨ipv4Default, true⟩, ⟨ipv6Global, true⟩] (b.excludedAddresses.map (⟨·, false⟩))) b.routes := by
  refine ⟨b.prependRoutes fun b => ((b.addRoute ipv4Default).addRoute ipv6Global).excludeRoutes b.excludedAddresses,
    ?_, rfl⟩
  simp [processSplitTunneling, hi, hx]

theorem exclusive_routes (h : b.Exclusive) :
    ∃ b', b.processSplitTunneling = .ok b' ∧ ExclusiveForm b.excludedAddresses b'.replaceIpv6Default.routes := by
  obtain ⟨b', hsplit, hroutes⟩ := processSplitTunneling_exclusive h.included h.excluded
  refine ⟨b', hsplit, ?_⟩
  have hform : ExclusiveForm b.excludedAddresses (linkedAddAll [⟨ipv4Default, true⟩, ⟨ipv6Global, true⟩]
      (b.excludedAddresses.map (⟨·, false⟩))) :=
    exclusiveForm_addAll (by simp) fun r => by simp [eq_comm]
  obtain ⟨tail, heq, htail⟩ := linkedAddAll_append (linkedAddAll [⟨ipv4Default, true⟩, ⟨ipv6Global, true⟩]
    (b.excludedAddresses.map (⟨·, false⟩))) b.routes
  refine replaceIpv6Default_exclusiveForm (hroutes.trans heq) hform fun r hr => ?_
  obtain ⟨hb, hn⟩ := htail r hr
  rcases h.routes r hb with rfl | rfl
  · exact absurd (mem_linkedAddAll.mpr (.inl (by simp))) hn
  · decide

theorem dropLoopback_exclusiveForm (h : ExclusiveForm excluded b.routes) : b.dropLoopback.routes = b.routes :=
  List.filter_eq_self.mpr (by simpa using exclusiveForm_not_loopback h)

theorem builtRoutes_new (h : b.Exclusive) {sdkInt : Nat} (hsdk : TIRAMISU ≤ sdkInt) :
    ∃ routes, b.builtRoutes sdkInt = .ok routes ∧ ExclusiveForm b.excludedAddresses routes := by
  obtain ⟨b', hb, hform⟩ := exclusive_routes h
  refine ⟨b'.replaceIpv6Default.routes, ?_, hform⟩
  have hproc : b'.processRoutes sdkInt = .ok b'.replaceIpv6Default.dropLoopback := by
    rw [processRoutes, if_neg (by omega)]
  simp only [builtRoutes, hb, bind, Except.bind, hproc, pure, Except.pure, dropLoopback_exclusiveForm hform]

end Builder

theorem longestMatch_concat (routes : List Route) (r : Route) (ip : IpAddress) :
    longestMatch (routes ++ [r]) ip = matchRoute ip (longestMatch routes ip) r := by simp [longestMatch]

variable {routes : List Route}

theorem longestMatch_none {ip : IpAddress} (h : longestMatch routes ip = none) :
    ∀ r ∈ routes, ¬r.inetNetwork.Contains ip := by
  induction routes using List.reverseRecOn with
  | nil => simp
  | append_singleton routes r ih =>
    rw [longestMatch_concat, matchRoute.eq_def] at h
    intro r' hr'
    by_cases hr : r.inetNetwork.Contains ip
    · rw [if_pos hr] at h
      split at h
      · cases h
      · split at h <;> cases h
    · rw [if_neg hr] at h
      rcases List.mem_append.mp hr' with hm | hm
      · exact ih h r' hm
      · exact List.mem_singleton.mp hm ▸ hr

theorem longestMatch_some {ip : IpAddress} {c : Route} (h : longestMatch routes ip = some c) :
    c ∈ routes ∧ c.inetNetwork.Contains ip ∧
      ∀ r ∈ routes, r.inetNetwork.Contains ip → r.inetNetwork.mask ≤ c.inetNetwork.mask := by
  induction routes using List.reverseRecOn generalizing c with
  | nil => simp [longestMatch] at h
  | append_singleton routes r ih =>
    rw [longestMatch_concat, matchRoute.eq_def] at h
    simp only [List.mem_append, List.mem_singleton]
    by_cases hr : r.inetNetwork.Contains ip
    · rw [if_pos hr] at h
      cases hb : longestMatch routes ip with
      | none =>
        have hn := longestMatch_none hb
        simp only [hb] at h
        obtain rfl : r = c := Option.some.inj h
        refine ⟨.inr rfl, hr, fun r' hr' hc => ?_⟩
        rcases hr' with hm | rfl
        · exact absurd hc (hn r' hm)
        · exact Nat.le_refl _
      | some d =>
        obtain ⟨hd, hdc, hmax⟩ := ih hb
        simp only [hb] at h
        split at h
        next hle =>
          obtain rfl : r = c := Option.some.inj h
          refine ⟨.inr rfl, hr, fun r' hr' hc => ?_⟩
          rcases hr' with hm | rfl
          · exact (hmax r' hm hc).trans hle
          · exact Nat.le_refl _
        next hle =>
          obtain rfl : d = c := Option.some.inj h
          refine ⟨.inl hd, hdc, fun r' hr' hc => ?_⟩
          rcases hr' with hm | rfl
          · exact hmax r' hm hc
          · omega
    · rw [if_neg hr] at h
      obtain ⟨hc, hcc, hmax⟩ := ih h
      refine ⟨.inl hc, hcc, fun r' hr' hc' => ?_⟩
      rcases hr' with hm | rfl
      · exact hmax r' hm hc'
      · exact absurd hc' hr

theorem foldl_exclusions {excs : List Route} (hx : ∀ e ∈ excs, e.included = false) (ip : IpAddress)
    (best : Option Route) :
    (∃ r, excs.foldl (matchRoute ip) best = some r ∧ r.included = true) ↔
      ∃ c, best = some c ∧ c.included = true ∧
        ∀ e ∈ excs, e.inetNetwork.Contains ip → e.inetNetwork.mask < c.inetNetwork.mask := by
  induction excs generalizing best with
  | nil => simp
  | cons e excs ih =>
    have he := hx e (.head _)
    rw [List.foldl_cons, ih fun e' h => hx e' (.tail _ h)]
    by_cases hc : e.inetNetwork.Contains ip
    · cases best with
      | none => simp [matchRoute, hc, he]
      | some c =>
        by_cases hle : c.inetNetwork.mask ≤ e.inetNetwork.mask
        · simp [matchRoute, hc, hle, he, Nat.not_lt.mpr hle]
        · simp [matchRoute, hc, hle, Nat.not_le.mp hle]
    · simp [matchRoute, hc]

theorem tunnels_append {incs excs : List Route} (hi : ∀ r ∈ incs, r.included = true)
    (hx : ∀ e ∈ excs, e.included = false) (ip : IpAddress) :
    Tunnels (incs ++ excs) ip ↔ ∃ r ∈ incs, r.inetNetwork.Contains ip ∧
      ∀ e ∈ excs, e.inetNetwork.Contains ip → e.inetNetwork.mask < r.inetNetwork.mask := by
  rw [Tunnels, longestMatch, List.foldl_append, foldl_exclusions hx]
  constructor
  · rintro ⟨c, hc, -, hm⟩
    obtain ⟨hmem, hcon, -⟩ := longestMatch_some hc
    exact ⟨c, hmem, hcon, hm⟩
  · rintro ⟨r, hr, hcon, hm⟩
    cases hb : longestMatch incs ip with
    | none => exact absurd hcon (longestMatch_none hb _ hr)
    | some c =>
      obtain ⟨hc, -, hmax⟩ := longestMatch_some hb
      exact ⟨c, hb, hi c hc, fun e he hce => (hm e he hce).trans_le (hmax _ hr hcon)⟩

theorem Builder.ExclusiveForm.flags {excluded : List InetNetwork} {incs excs : List Route}
    (hi : ∀ r, r ∈ incs ↔ r = ⟨ipv4Default, true⟩ ∨ r = ⟨ipv6Global, true⟩)
    (hx : ∀ r, r ∈ excs ↔ ∃ n ∈ excluded, r = ⟨n, false⟩) :
    (∀ r ∈ incs, r.included = true) ∧ ∀ e ∈ excs, e.included = false := by
  constructor
  · intro r hr
    rcases (hi r).mp hr with rfl | rfl <;> rfl
  · intro e he
    obtain ⟨n, -, rfl⟩ := (hx e).mp he
    rfl

theorem tunnels_exclusiveForm {excluded : List InetNetwork}
    (h : Builder.ExclusiveForm excluded routes) (ip : IpAddress) :
    Tunnels routes ip ↔ ∃ n, (n = ipv4Default ∨ n = ipv6Global) ∧ n.Contains ip ∧
      ∀ e ∈ excluded, e.Contains ip → e.mask < n.mask := by
  obtain ⟨incs, excs, rfl, hi, hx⟩ := h
  obtain ⟨hinc, hexc⟩ := Builder.ExclusiveForm.flags hi hx
  rw [tunnels_append hinc hexc]
  simp only [hi, hx]
  constructor
  · rintro ⟨r, hr, hcon, hm⟩
    exact ⟨r.inetNetwork, hr.imp (congrArg _) (congrArg _), hcon, fun e he => hm ⟨e, false⟩ ⟨e, he, rfl⟩⟩
  · rintro ⟨n, hn, hcon, hm⟩
    exact ⟨⟨n, true⟩, by simpa using hn, hcon, by rintro _ ⟨e, he, rfl⟩; exact hm e he⟩

end TunnelCore.Android
