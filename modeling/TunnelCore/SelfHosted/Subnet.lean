import TunnelCore.SelfHosted.Allocation

namespace TunnelCore.SelfHosted

/-- The network of an address, as `subnetAddress/subnetCidr` stands in the server's file. -/
def InSubnet (subnetCidr subnetIp ip : Nat) : Prop := ip / 2 ^ (32 - subnetCidr) = subnetIp / 2 ^ (32 - subnetCidr)

instance (subnetCidr subnetIp ip : Nat) : Decidable (InSubnet subnetCidr subnetIp ip) :=
  inferInstanceAs (Decidable (_ = _))

section Network

variable {subnetCidr subnetIp : Nat}

theorem inSubnet_of_between {low ip high : Nat} (hlow : InSubnet subnetCidr subnetIp low)
    (hhigh : InSubnet subnetCidr subnetIp high) (hle : low ≤ ip) (hge : ip ≤ high) : InSubnet subnetCidr subnetIp ip := by
  refine Nat.le_antisymm ?_ ?_
  · exact hhigh ▸ Nat.div_le_div_right hge
  · exact hlow ▸ Nat.div_le_div_right hle

theorem lt_of_inSubnet (hsubnet : subnetIp < 2 ^ 32) {ip : Nat} (h : InSubnet subnetCidr subnetIp ip) : ip < 2 ^ 32 := by
  have hpow : 2 ^ 32 = 2 ^ (32 - (32 - subnetCidr)) * 2 ^ (32 - subnetCidr) := by
    rw [← Nat.pow_add]
    congr 1
    omega
  rw [hpow, ← Nat.div_lt_iff_lt_mul (Nat.two_pow_pos _)] at hsubnet ⊢
  rwa [h]

theorem not_inSubnet_of_wrap (hcidr : subnetCidr ≠ 0) (hsubnet : subnetIp < 2 ^ 32) {last : Nat}
    (hlast : InSubnet subnetCidr subnetIp last) (hwrap : 2 ^ 32 ≤ successor last) :
    ¬InSubnet subnetCidr subnetIp (successor last % 2 ^ 32) := by
  have hlt := lt_of_inSubnet hsubnet hlast
  obtain ⟨hnext, htop⟩ : successor last % 2 ^ 32 = 1 ∧ 2 ^ 32 - 2 ≤ last := by
    revert hwrap
    unfold successor
    split
    · omega
    · split <;> omega
  intro hin
  have hsame : 1 / 2 ^ (32 - subnetCidr) = last / 2 ^ (32 - subnetCidr) := by
    rw [← hnext]
    exact hin.trans hlast.symm
  have hsize : 2 ^ (32 - subnetCidr) ≤ 2 ^ 31 := Nat.pow_le_pow_right (by decide) (by omega)
  have hpos := Nat.two_pow_pos (32 - subnetCidr)
  have hbig : 2 ^ 32 - 2 ≤ last / 2 ^ (32 - subnetCidr) * 2 ^ 31 + 2 ^ 31 := by
    have hdiv := Nat.lt_div_mul_add hpos (a := last)
    have hmul : last / 2 ^ (32 - subnetCidr) * 2 ^ (32 - subnetCidr) ≤ last / 2 ^ (32 - subnetCidr) * 2 ^ 31 :=
      Nat.mul_le_mul_left _ hsize
    omega
  rw [← hsame] at hbig
  by_cases hone : 2 ^ (32 - subnetCidr) = 1
  · rw [hone, Nat.div_one, Nat.div_one] at hsame
    omega
  · rw [Nat.div_eq_of_lt (by omega)] at hbig
    omega

/-- From an address of the network, the next one is in the network exactly if a usable one is left above. -/
theorem inSubnet_successor_iff (hcidr : subnetCidr ≠ 0) (hsubnet : subnetIp < 2 ^ 32) {last : Nat}
    (hlast : InSubnet subnetCidr subnetIp last) :
    InSubnet subnetCidr subnetIp (successor last % 2 ^ 32) ↔
      ∃ ip, last < ip ∧ InSubnet subnetCidr subnetIp ip ∧ ip % 256 ≠ 0 ∧ ip % 256 ≠ 255 := by
  constructor
  · intro hin
    by_cases hwrap : 2 ^ 32 ≤ successor last
    · exact absurd hin (not_inSubnet_of_wrap hcidr hsubnet hlast hwrap)
    · rw [Nat.mod_eq_of_lt (Nat.lt_of_not_le hwrap)] at hin
      exact ⟨successor last, lt_successor last, hin, successor_last last⟩
  · rintro ⟨ip, hlt, hin, husable⟩
    have hle := successor_le_of_lt hlt husable
    rw [Nat.mod_eq_of_lt (Nat.lt_of_le_of_lt hle (lt_of_inSubnet hsubnet hin))]
    exact inSubnet_of_between hlast hin (Nat.le_of_lt (lt_successor last)) hle

theorem not_inSubnet_of_cut {listed octet : Nat} (hlisted : InSubnet subnetCidr subnetIp listed)
    (hten : 10 ≤ listed % 256) (hcut : octet ≤ listed % 256 / 10)
    (hout : ¬InSubnet subnetCidr subnetIp (listed / 256 * 256 + octet)) :
    ¬InSubnet subnetCidr subnetIp (listed / 256 * 256 + octet + 1) := by
  rw [InSubnet, ← hlisted] at hout ⊢
  have hpos := Nat.two_pow_pos (32 - subnetCidr)
  rcases Nat.le_total 8 (32 - subnetCidr) with hwide | hnarrow
  · -- the last octet is not part of the network
    refine absurd ?_ hout
    obtain ⟨more, hmore⟩ := Nat.exists_eq_add_of_le hwide
    rw [hmore, Nat.pow_add, ← Nat.div_div_eq_div_mul, ← Nat.div_div_eq_div_mul]
    congr 1
    omega
  · intro hnext
    have hdvd : 2 ^ (32 - subnetCidr) ∣ listed / 256 * 256 :=
      Nat.dvd_mul_left_of_dvd (Nat.pow_dvd_pow 2 hnarrow) _
    generalize 2 ^ (32 - subnetCidr) = size at hout hnext hpos hdvd
    -- the step to the next address enters a new block, so the octet after it is no smaller than the block
    have henter : size ∣ listed / 256 * 256 + octet + 1 := by
      by_contra hwithin
      exact hout ((Nat.succ_div_of_not_dvd hwithin).symm.trans hnext)
    have hblock : size ≤ octet + 1 := by
      rw [Nat.add_assoc, Nat.dvd_add_right hdvd] at henter
      exact Nat.le_of_dvd (Nat.succ_pos octet) henter
    have hend : listed < (listed / 256 * 256 + octet + 1) + size := by
      have := Nat.lt_div_mul_add hpos (a := listed)
      rw [← hnext, Nat.div_mul_cancel henter] at this
      exact this
    omega

end Network

/-- A creation counts from an address of the subnet that has a usable one of the subnet above it. -/
def HasRoom (setup : Setup) (subnetCidr subnetIp : Nat) (s : Server) : Event → Prop
  | .create _ sizes =>
    InSubnet subnetCidr subnetIp (lastIp setup sizes s) ∧
      ∃ ip, lastIp setup sizes s < ip ∧ InSubnet subnetCidr subnetIp ip ∧ ip % 256 ≠ 0 ∧ ip % 256 ≠ 255
  | .revoke _ => True

def AllInSubnet (subnetCidr subnetIp : Nat) (s : Server) : Prop := ∀ ip ∈ s.addresses, InSubnet subnetCidr subnetIp ip

section Clients

variable {setup : Setup} {subnetCidr subnetIp : Nat}

variable {s : Server}

theorem allInSubnet_create_iff (h : AllInSubnet subnetCidr subnetIp s) (key : Key) (sizes : List Nat) :
    AllInSubnet subnetCidr subnetIp (step setup s (.create key sizes)) ↔
      InSubnet subnetCidr subnetIp (successor (lastIp setup sizes s) % 2 ^ 32) := by
  rcases step_addresses setup s (.create key sizes) with ⟨_, _, heq, haddresses⟩ | ⟨row, heq, -⟩
  · cases heq
    rw [AllInSubnet, haddresses, List.forall_mem_append, List.forall_mem_singleton]
    exact and_iff_right h
  · cases heq

theorem AllInSubnet.revoke (h : AllInSubnet subnetCidr subnetIp s) (row : Nat) :
    AllInSubnet subnetCidr subnetIp (step setup s (.revoke row)) := by
  rcases step_addresses setup s (.revoke row) with ⟨_, _, heq, -⟩ | ⟨_, -, hsublist⟩
  · cases heq
  · exact fun ip hip => h ip (hsublist.subset hip)

/-- A read that cuts the last line short may find an address below the subnet; the one after it is then outside too. -/
theorem inSubnet_lastIp (hbase : setup.subnetIp = subnetIp) (hsections : WellSectioned setup.pskKey s.text)
    (h : AllInSubnet subnetCidr subnetIp s) {sizes : List Nat}
    (hnext : InSubnet subnetCidr subnetIp (successor (lastIp setup sizes s) % 2 ^ 32)) (hlt : subnetIp < 2 ^ 32) :
    InSubnet subnetCidr subnetIp (lastIp setup sizes s) := by
  revert hnext
  rw [lastIp]
  cases hread : (s.readIps sizes).getLast? with
  | none => exact fun _ => congrArg (· / _) hbase
  | some last =>
    obtain ⟨listed, hlisted, rfl | ⟨octet, rfl, hten, hcut⟩⟩ := hsections.cut_of_mem_stdOut (List.mem_of_getLast? hread)
    · exact fun _ => h last hlisted
    · intro hnext
      by_contra hout
      have hin := h listed hlisted
      have hbound := lt_of_inSubnet hlt hin
      have hsucc : successor (listed / 256 * 256 + octet) % 2 ^ 32 = listed / 256 * 256 + octet + 1 := by
        rw [successor, if_neg (by omega), if_neg (by omega)]
        omega
      rw [Option.getD_some, hsucc] at hnext
      exact not_inSubnet_of_cut hin hten hcut hout hnext

theorem allInSubnet_step_iff (hcidr : subnetCidr ≠ 0) (hbase : setup.subnetIp = subnetIp) (hlt : subnetIp < 2 ^ 32)
    (hsections : WellSectioned setup.pskKey s.text) (h : AllInSubnet subnetCidr subnetIp s) (e : Event) :
    AllInSubnet subnetCidr subnetIp (step setup s e) ↔ HasRoom setup subnetCidr subnetIp s e := by
  cases e with
  | create key sizes =>
    rw [allInSubnet_create_iff h, HasRoom]
    constructor
    · intro hnext
      have hlast := inSubnet_lastIp hbase hsections h hnext hlt
      exact ⟨hlast, (inSubnet_successor_iff hcidr hlt hlast).mp hnext⟩
    · rintro ⟨hlast, hroom⟩
      exact (inSubnet_successor_iff hcidr hlt hlast).mpr hroom
  | revoke row => exact iff_of_true (h.revoke row) trivial

theorem allInSubnet_zero (hlt : subnetIp < 2 ^ 32) (h : AllInSubnet 0 subnetIp s) (e : Event) :
    AllInSubnet 0 subnetIp (step setup s e) := by
  cases e with
  | create key sizes =>
    rw [allInSubnet_create_iff h, InSubnet, Nat.div_eq_of_lt hlt]
    exact Nat.div_eq_of_lt (Nat.mod_lt _ (by decide))
  | revoke row => exact h.revoke row

/-- A creation gives out the next usable address, whatever the mask is, and does not fail: the clients stay in the subnet
exactly as long as every creation finds one there. -/
theorem addresses_in_subnet_iff (hsubnet : DottedQuad.parse setup.subnetAddress = some subnetIp)
    (hpeers : ¬allowedIpsName <:+: setup.serverConfig) (subnetCidr : Nat) (events : List Event) :
    (∀ past, past <+: events → ∀ ip ∈ (run setup past).addresses, InSubnet subnetCidr subnetIp ip) ↔
      subnetCidr = 0 ∨ Along (step setup) (HasRoom setup subnetCidr subnetIp) ⟨setup.serverConfig, []⟩ events := by
  have hbase : setup.subnetIp = subnetIp := by rw [Setup.subnetIp, hsubnet]; rfl
  have hlt := DottedQuad.parse_lt hsubnet
  have hstart : AllInSubnet subnetCidr subnetIp ⟨setup.serverConfig, []⟩ := by
    rw [AllInSubnet, show (⟨setup.serverConfig, []⟩ : Server).addresses = [] from getIpsFromConf_of_quiet hpeers]
    simp
  by_cases hcidr : subnetCidr = 0
  · subst hcidr
    refine iff_of_true (fun past _ => ?_) (.inl rfl)
    exact List.foldlRecOn past (step setup) (motive := AllInSubnet 0 subnetIp) hstart
      fun s h e _ => allInSubnet_zero hlt h e
  · rw [or_iff_right hcidr]
    refine forall_prefix_iff_along (I := AllInSubnet subnetCidr subnetIp) hstart (fun past e h => ?_) events
    exact allInSubnet_step_iff hcidr hbase hlt (wellSectioned_run hpeers past) h e

end Clients

section Samples

def twoCreations : List Event := [.create firstKey [], .create secondKey []]

/-- Two clients are created in 10.8.1.0/24. -/
theorem addresses_in_subnet_two :
    (run defaultSetup twoCreations).addresses = [0x0A080101, 0x0A080102] ∧
      ∀ ip ∈ (run defaultSetup twoCreations).addresses, InSubnet 24 0x0A080100 ip := by
  have hsubnet : DottedQuad.parse defaultSetup.subnetAddress = some 0x0A080100 := by decide +kernel
  have hroom : Along (step defaultSetup) (HasRoom defaultSetup 24 0x0A080100) ⟨defaultSetup.serverConfig, []⟩
      twoCreations := by
    refine ⟨⟨by decide +kernel, 0x0A080101, ?_⟩, ⟨by decide +kernel, 0x0A080102, ?_⟩, trivial⟩
    · decide +kernel
    · decide +kernel
  refine ⟨by decide +kernel, ?_⟩
  exact (addresses_in_subnet_iff hsubnet (by decide +kernel) 24 twoCreations).mpr (.inr hroom) _ (List.prefix_refl _)

/-- The subnet 10.8.1.0/30 ends with 10.8.1.3, and the fourth client gets 10.8.1.4. -/
theorem fourth_client_outside :
    DottedQuad.parse defaultSetup.subnetAddress = some 0x0A080100 ∧ ¬allowedIpsName <:+: defaultSetup.serverConfig ∧
      (run defaultSetup (numberedCreations 4)).addresses = [0x0A080101, 0x0A080102, 0x0A080103, 0x0A080104] ∧
      ¬InSubnet 30 0x0A080100 0x0A080104 := by
  refine ⟨by decide +kernel, by decide +kernel, ?_, by decide⟩
  rw [Server.addresses, run_numberedCreations (by decide), addresses_numberedFile (by decide)]
  rfl

end Samples

end TunnelCore.SelfHosted
