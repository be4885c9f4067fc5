import TunnelCore.SelfHosted.AllowedIps
import Mathlib.Order.Iterate

namespace TunnelCore.SelfHosted

section Successor

theorem successor_last (n : Nat) : successor n % 256 ≠ 0 ∧ successor n % 256 ≠ 255 := by
  unfold successor
  split
  · omega
  · split <;> omega

theorem lt_successor (n : Nat) : n < successor n := by
  unfold successor
  split
  · omega
  · split <;> omega

theorem successor_le_of_lt {m n : Nat} (h : m < n) (hn : n % 256 ≠ 0 ∧ n % 256 ≠ 255) : successor m ≤ n := by
  unfold successor
  split
  · omega
  · split <;> omega

theorem successor_mono {m n : Nat} (h : m ≤ n) : successor m ≤ successor n :=
  successor_le_of_lt (Nat.lt_of_le_of_lt h (lt_successor n)) (successor_last n)

theorem iterate_successor_mono {m n : Nat} (h : m ≤ n) (ip : Nat) : successor^[m] ip ≤ successor^[n] ip :=
  Function.monotone_iterate_of_id_le (fun n => Nat.le_of_lt (lt_successor n)) h ip

end Successor

variable {setup : Setup}

def Server.addresses (s : Server) : List Nat := getIpsFromConf s.text

def Setup.subnetIp (setup : Setup) : Nat := (DottedQuad.parse setup.subnetAddress).getD 0

def Server.readIps (sizes : List Nat) (s : Server) : List Nat := getIpsFromConf (stdOut sizes (grepAllowedIps s.text))

def lastIp (setup : Setup) (sizes : List Nat) (s : Server) : Nat := (s.readIps sizes).getLast?.getD setup.subnetIp

def creations (events : List Event) : Nat := (events.filterMap Event.createdKey).length

def ReadsLast (s : Server) : Event → Prop
  | .create _ sizes => (s.readIps sizes).getLast? = s.addresses.getLast?
  | .revoke _ => True

instance (s : Server) : (e : Event) → Decidable (ReadsLast s e)
  | .create _ sizes => inferInstanceAs (Decidable ((s.readIps sizes).getLast? = s.addresses.getLast?))
  | .revoke _ => inferInstanceAs (Decidable True)

def WholeLines (s : Server) : Event → Prop
  | .create _ sizes => ∀ part ∈ reads sizes (grepAllowedIps s.text), part.getLast? = some '\n'
  | .revoke _ => True

def NoWrap (setup : Setup) (s : Server) : Event → Prop
  | .create _ sizes => successor (lastIp setup sizes s) < 2 ^ 32
  | .revoke _ => True

section Steps

theorem step_addresses (setup : Setup) (s : Server) (e : Event) :
    (∃ key sizes, e = .create key sizes ∧
        (step setup s e).addresses = s.addresses ++ [successor (lastIp setup sizes s) % 2 ^ 32]) ∨
      ∃ row, e = .revoke row ∧ (step setup s e).addresses.Sublist s.addresses := by
  cases e with
  | create key sizes =>
    exact .inl ⟨key, sizes, rfl, getIpsFromConf_configPart (Nat.mod_lt _ (by decide))⟩
  | revoke row =>
    refine .inr ⟨row, rfl, ?_⟩
    rw [step, Server.revokeWireGuard]
    split
    · exact .refl _
    · exact getIpsFromConf_withoutSection ..

theorem WellSectioned.step {s : Server} (h : WellSectioned setup.pskKey s.text) (e : Event) :
    WellSectioned setup.pskKey (step setup s e).text := by
  cases e with
  | create key sizes => exact h.append (Nat.mod_lt _ (by decide))
  | revoke row =>
    rw [SelfHosted.step, Server.revokeWireGuard]
    split
    · exact h
    · exact h.withoutSection _

theorem lastIp_le {s : Server} (h : WellSectioned setup.pskKey s.text) (sizes : List Nat) :
    lastIp setup sizes s = setup.subnetIp ∨ ∃ ip ∈ s.addresses, lastIp setup sizes s ≤ ip := by
  rw [lastIp]
  cases hread : (s.readIps sizes).getLast? with
  | none => exact .inl rfl
  | some last => exact .inr (h.le_of_mem_stdOut (List.mem_of_getLast? hread))

end Steps

section Runs

theorem creations_concat (past : List Event) (e : Event) :
    creations (past ++ [e]) = creations past + creations [e] := by
  rw [creations, List.filterMap_append, List.length_append]
  rfl

theorem creations_mono {past events : List Event} (h : past <+: events) : creations past ≤ creations events :=
  (h.sublist.filterMap _).length_le

theorem wellSectioned_run (hpeers : ¬allowedIpsName <:+: setup.serverConfig) (events : List Event) :
    WellSectioned setup.pskKey (run setup events).text := by
  induction events using List.reverseRecOn with
  | nil => exact wellSectioned_of_quiet hpeers
  | append_singleton past e ih =>
    rw [run_concat]
    exact ih.step e

theorem lastIp_le_iterate {past : List Event} (hsections : WellSectioned setup.pskKey (run setup past).text)
    (hpast : ∀ ip ∈ (run setup past).addresses, ip ≤ successor^[creations past] setup.subnetIp) (sizes : List Nat) :
    successor (lastIp setup sizes (run setup past)) ≤ successor^[creations past + 1] setup.subnetIp := by
  rw [Function.iterate_succ_apply']
  refine successor_mono ?_
  rcases lastIp_le hsections sizes with heq | ⟨ip, hip, hle⟩
  · rw [heq]
    exact iterate_successor_mono (Nat.zero_le _) setup.subnetIp
  · exact Nat.le_trans hle (hpast ip hip)

theorem addresses_le (hpeers : ¬allowedIpsName <:+: setup.serverConfig) (events : List Event) :
    ∀ ip ∈ (run setup events).addresses, ip ≤ successor^[creations events] setup.subnetIp := by
  induction events using List.reverseRecOn with
  | nil =>
    intro ip hip
    rw [show (run setup []).addresses = [] from getIpsFromConf_of_quiet hpeers] at hip
    cases hip
  | append_singleton past e ih =>
    intro ip hip
    rw [run_concat] at hip
    have hmore : successor^[creations past] setup.subnetIp ≤ successor^[creations (past ++ [e])] setup.subnetIp :=
      iterate_successor_mono (creations_mono (List.prefix_append past [e])) setup.subnetIp
    rcases step_addresses setup (run setup past) e with ⟨key, sizes, rfl, haddresses⟩ | ⟨row, rfl, hsublist⟩
    · rw [haddresses] at hip
      rcases List.mem_append.mp hip with hip | hip
      · exact Nat.le_trans (ih ip hip) hmore
      · rw [List.mem_singleton.mp hip, creations_concat]
        exact Nat.le_trans (Nat.mod_le ..) (lastIp_le_iterate (wellSectioned_run hpeers past) ih sizes)
    · exact Nat.le_trans (ih ip (hsublist.subset hip)) hmore

theorem along_noWrap (hpeers : ¬allowedIpsName <:+: setup.serverConfig) {events : List Event}
    (hwrap : successor^[creations events] setup.subnetIp < 2 ^ 32) :
    Along (step setup) (NoWrap setup) ⟨setup.serverConfig, []⟩ events := by
  induction events using List.reverseRecOn with
  | nil => trivial
  | append_singleton past e ih =>
    have hless := iterate_successor_mono (creations_mono (List.prefix_append past [e])) setup.subnetIp
    refine along_concat_iff.mpr ⟨ih (Nat.lt_of_le_of_lt hless hwrap), ?_⟩
    cases e with
    | create key sizes =>
      rw [creations_concat] at hwrap
      have hle := lastIp_le_iterate (wellSectioned_run hpeers past) (addresses_le hpeers past) sizes
      exact Nat.lt_of_le_of_lt hle hwrap
    | revoke row => trivial

def Usable (s : Server) : Prop := ∀ ip ∈ s.addresses, ip % 256 ≠ 0 ∧ ip % 256 ≠ 255

theorem usable_step {s : Server} {e : Event} (h : Usable s) (hwrap : NoWrap setup s e) : Usable (step setup s e) := by
  intro ip hip
  rcases step_addresses setup s e with ⟨key, sizes, rfl, haddresses⟩ | ⟨row, rfl, hsublist⟩
  · rw [haddresses] at hip
    rcases List.mem_append.mp hip with hip | hip
    · exact h ip hip
    · rw [List.mem_singleton.mp hip, Nat.mod_eq_of_lt hwrap]
      exact successor_last _
  · exact h ip (hsublist.subset hip)

end Runs

section Order

/-- What holds while every creation counts from the last address in the file. -/
structure Ordered (setup : Setup) (s : Server) : Prop where
  sections : WellSectioned setup.pskKey s.text
  increasing : s.addresses.Pairwise (· < ·)
  above : ∀ ip ∈ s.addresses, setup.subnetIp < ip
  usable : Usable s

theorem le_getLast {ips : List Nat} (h : ips.Pairwise (· < ·)) {last : Nat} (hlast : ips.getLast? = some last) :
    ∀ ip ∈ ips, ip ≤ last := by
  obtain ⟨front, rfl⟩ := List.getLast?_eq_some_iff.mp hlast
  intro ip hip
  rcases List.mem_append.mp hip with hip | hip
  · exact Nat.le_of_lt ((List.pairwise_append.mp h).2.2 ip hip last (List.mem_singleton_self _))
  · exact Nat.le_of_eq (List.mem_singleton.mp hip)

theorem increasing_concat_iff {ips : List Nat} (h : ips.Pairwise (· < ·)) {next : Nat} :
    (ips ++ [next]).Pairwise (· < ·) ↔ ∀ ip ∈ ips, ip < next := by
  rw [List.pairwise_append]
  refine ⟨fun hall ip hip => hall.2.2 ip hip next (List.mem_singleton_self _), fun hall => ⟨h, ?_, ?_⟩⟩
  · exact List.pairwise_singleton ..
  · intro ip hip other hother
    rw [List.mem_singleton.mp hother]
    exact hall ip hip

variable {s : Server} {sizes : List Nat}

theorem lastIp_of_readsLast {key : Key} (h : ReadsLast s (.create key sizes)) :
    lastIp setup sizes s = s.addresses.getLast?.getD setup.subnetIp :=
  congrArg (fun last : Option Nat => last.getD setup.subnetIp) h

theorem Ordered.lt_next (h : Ordered setup s) {key : Key} (hread : ReadsLast s (.create key sizes)) :
    setup.subnetIp < successor (lastIp setup sizes s) ∧
      ∀ ip ∈ s.addresses, ip < successor (lastIp setup sizes s) := by
  rw [lastIp_of_readsLast hread]
  cases hlast : s.addresses.getLast? with
  | none =>
    refine ⟨lt_successor _, fun ip hip => ?_⟩
    rw [List.getLast?_eq_none_iff.mp hlast] at hip
    cases hip
  | some last =>
    have hbelow : setup.subnetIp < last := h.above last (List.mem_of_getLast? hlast)
    refine ⟨Nat.lt_trans hbelow (lt_successor last), fun ip hip => ?_⟩
    exact Nat.lt_of_le_of_lt (le_getLast h.increasing hlast ip hip) (lt_successor last)

theorem Ordered.step {e : Event} (h : Ordered setup s) (hwrap : NoWrap setup s e) (hread : ReadsLast s e) :
    Ordered setup (step setup s e) := by
  have hsections := h.sections.step e
  have husable := usable_step h.usable hwrap
  rcases step_addresses setup s e with ⟨key, sizes, rfl, haddresses⟩ | ⟨row, rfl, hsublist⟩
  · rw [Nat.mod_eq_of_lt hwrap] at haddresses
    refine ⟨hsections, ?_, fun ip hip => ?_, husable⟩
    · rw [haddresses, increasing_concat_iff h.increasing]
      exact (h.lt_next hread).2
    · rw [haddresses] at hip
      rcases List.mem_append.mp hip with hip | hip
      · exact h.above ip hip
      · rw [List.mem_singleton.mp hip]
        exact (h.lt_next hread).1
  · exact ⟨hsections, h.increasing.sublist hsublist, fun ip hip => h.above ip (hsublist.subset hip), husable⟩

theorem Ordered.readsLast_of_empty (h : Ordered setup s) (hempty : s.addresses = []) (key : Key)
    (sizes : List Nat) : ReadsLast s (.create key sizes) := by
  have hnone : s.readIps sizes = [] := by
    refine List.eq_nil_iff_forall_not_mem.mpr fun found hfound => ?_
    obtain ⟨ip, hip, -⟩ := h.sections.le_of_mem_stdOut hfound
    exact List.not_mem_nil (hempty ▸ hip : ip ∈ [])
  rw [ReadsLast, hnone, hempty]

theorem Ordered.lastIp_lt (h : Ordered setup s) {key : Key} {last : Nat}
    (hlast : s.addresses.getLast? = some last) (hread : ¬ReadsLast s (.create key sizes)) :
    lastIp setup sizes s < last := by
  rw [lastIp]
  cases hfound : (s.readIps sizes).getLast? with
  | none => exact h.above last (List.mem_of_getLast? hlast)
  | some found =>
    obtain ⟨ip, hip, hle⟩ := h.sections.le_of_mem_stdOut (List.mem_of_getLast? hfound)
    have hbound : found ≤ last := Nat.le_trans hle (le_getLast h.increasing hlast ip hip)
    refine Nat.lt_of_le_of_ne hbound fun heq => hread ?_
    rw [ReadsLast, hfound, hlast]
    exact congrArg some heq

theorem Ordered.not_increasing {e : Event} (h : Ordered setup s) (hwrap : NoWrap setup s e)
    (hread : ¬ReadsLast s e) : ¬(SelfHosted.step setup s e).addresses.Pairwise (· < ·) := by
  rcases step_addresses setup s e with ⟨key, sizes, rfl, haddresses⟩ | ⟨row, rfl, -⟩
  · rw [haddresses, Nat.mod_eq_of_lt hwrap, increasing_concat_iff h.increasing]
    intro hall
    cases hlast : s.addresses.getLast? with
    | none => exact hread (h.readsLast_of_empty (List.getLast?_eq_none_iff.mp hlast) key sizes)
    | some last =>
      have hmem := List.mem_of_getLast? hlast
      have hle := successor_le_of_lt (h.lastIp_lt hlast hread) (h.usable last hmem)
      exact Nat.not_lt_of_le hle (hall last hmem)
  · exact (hread trivial).elim

theorem readsLast_of_wholeLines {e : Event} (h : WholeLines s e) : ReadsLast s e := by
  cases e with
  | create key sizes =>
    have hall : s.readIps sizes = s.addresses := (getIpsFromConf_stdOut h).trans (getIpsFromConf_grep s.text)
    exact congrArg List.getLast? hall
  | revoke row => trivial

/-- The addresses in the file stay increasing exactly as long as every creation counts from the last of them; they do if
no line is cut by the end of a read. No address ends in 0 or 255. -/
theorem addresses_increasing_iff {subnetIp : Nat} (hsubnet : DottedQuad.parse setup.subnetAddress = some subnetIp)
    (hpeers : ¬allowedIpsName <:+: setup.serverConfig) {events : List Event}
    (hwrap : successor^[creations events] subnetIp < 2 ^ 32) :
    ((∀ past, past <+: events → (run setup past).addresses.Pairwise (· < ·)) ↔
        Along (step setup) ReadsLast ⟨setup.serverConfig, []⟩ events) ∧
      (Along (step setup) WholeLines ⟨setup.serverConfig, []⟩ events →
        Along (step setup) ReadsLast ⟨setup.serverConfig, []⟩ events) ∧
      ∀ past, past <+: events → ∀ ip ∈ (run setup past).addresses, ip % 256 ≠ 0 ∧ ip % 256 ≠ 255 := by
  have hbase : setup.subnetIp = subnetIp := by rw [Setup.subnetIp, hsubnet]; rfl
  have hsteps := along_noWrap hpeers (hbase ▸ hwrap)
  have hnone : (⟨setup.serverConfig, []⟩ : Server).addresses = [] := getIpsFromConf_of_quiet hpeers
  have hnothing {P : Nat → Prop} : ∀ ip ∈ (⟨setup.serverConfig, []⟩ : Server).addresses, P ip := by simp [hnone]
  have hstart : Ordered setup ⟨setup.serverConfig, []⟩ :=
    ⟨wellSectioned_of_quiet hpeers, by simp [hnone], hnothing, hnothing⟩
  refine ⟨?_, ?_, ?_⟩
  · have hiff : (∀ past, past <+: events → ¬¬(run setup past).addresses.Pairwise (· < ·)) ↔
        Along (step setup) ReadsLast ⟨setup.serverConfig, []⟩ events :=
      forall_prefix_not_iff_along (K := Ordered setup) (fun _ h => not_not_intro h.increasing)
        (fun _ _ h hwrap hread => h.step hwrap hread) (fun _ _ h hwrap hread => h.not_increasing hwrap hread)
        hstart hsteps
    simpa only [not_not] using hiff
  · exact Along.of_invariant (I := fun _ => True) (fun s e _ h => ⟨trivial, readsLast_of_wholeLines h⟩) trivial
  · intro past hpast
    exact Along.foldl (I := Usable) (fun s e h hwrap => usable_step h hwrap) hnothing (hsteps.of_prefix hpast)

end Order

section Samples

/-- Two clients are created in the default subnet. -/
theorem addresses_increasing_two :
    Along (step defaultSetup) ReadsLast ⟨defaultSetup.serverConfig, []⟩ [.create firstKey [], .create secondKey []] ∧
      (run defaultSetup [.create firstKey [], .create secondKey []]).addresses.Pairwise (· < ·) := by
  have hreads : Along (step defaultSetup) ReadsLast ⟨defaultSetup.serverConfig, []⟩
      [.create firstKey [], .create secondKey []] := by decide +kernel
  have hsubnet : DottedQuad.parse defaultSetup.subnetAddress = some 0x0A080100 := by decide +kernel
  refine ⟨hreads, ?_⟩
  exact (addresses_increasing_iff hsubnet (by decide +kernel) (by decide)).1.mpr hreads _ (List.prefix_refl _)

def numberedKey (i : Nat) : Key where
  text := Nat.toDigits 10 i
  base64 := List.all_eq_true.mpr fun c hc => by
    simp [isBase64, Char.isAlphanum, DottedQuad.isDigit_of_mem hc]

def numberedCreations (n : Nat) : List Event := (List.range n).map fun i => .create (numberedKey i) []

/-- The section of a client that gets the address after those of the clients before it. -/
def numberedPart (i : Nat) : List Char := configPart defaultSetup.pskKey ⟨numberedKey i, 0x0A080101 + i⟩

def numberedFile (n : Nat) : List Char := defaultSetup.serverConfig ++ (List.range n).flatMap numberedPart

theorem numberedFile_succ (n : Nat) : numberedFile (n + 1) = numberedFile n ++ numberedPart n := by
  simp [numberedFile, List.range_succ]

theorem numberedFile_getLast? (n : Nat) : (numberedFile n).getLast? = some '\n' := by
  cases n with
  | zero => decide
  | succ n => simp [numberedFile_succ, numberedPart, configPart, peerBody, List.getLast?_cons]

theorem grepAllowedIps_append {xs : List Char} (h : xs.getLast? = some '\n') (ys : List Char) :
    grepAllowedIps (xs ++ ys) = grepAllowedIps xs ++ grepAllowedIps ys := by
  obtain ⟨body, rfl⟩ := List.getLast?_eq_some_iff.mp h
  have happend (zs : List Char) : grepAllowedIps (body ++ '\n' :: zs) = grepAllowedIps body ++ grepAllowedIps zs := by
    rw [grepAllowedIps, List.splitOn_append_cons_self, List.filter_append, List.flatMap_append]
    rfl
  have hnil : grepAllowedIps [] = [] := by decide
  rw [List.append_assoc, List.singleton_append, happend, happend, hnil, List.append_nil]

theorem grepAllowedIps_numberedFile (n : Nat) :
    grepAllowedIps (numberedFile n) = (List.range n).flatMap fun i => grepAllowedIps (numberedPart i) := by
  induction n with
  | zero => decide +kernel
  | succ n ih =>
    rw [numberedFile_succ, grepAllowedIps_append (numberedFile_getLast? n), ih, List.range_succ]
    simp

theorem addresses_numberedFile {n : Nat} (h : n ≤ 80) :
    getIpsFromConf (numberedFile n) = (List.range n).map (0x0A080101 + ·) := by
  induction n with
  | zero => decide +kernel
  | succ n ih =>
    rw [numberedFile_succ, numberedPart, getIpsFromConf_configPart (by simp only; omega), ih (by omega),
      List.range_succ, List.map_append]
    rfl

theorem numberedFile_fits {n : Nat} (h : n ≤ 79) : (grepAllowedIps (numberedFile n)).length ≤ bufferSize := by
  have hall : ((List.range 79).flatMap fun i => grepAllowedIps (numberedPart i)).length ≤ bufferSize := by decide +kernel
  refine Nat.le_trans ?_ hall
  obtain ⟨more, hmore⟩ := Nat.exists_eq_add_of_le h
  rw [grepAllowedIps_numberedFile, hmore, List.range_add, List.flatMap_append]
  exact (List.prefix_append ..).length_le

theorem run_numberedCreations {n : Nat} (h : n ≤ 80) :
    (run defaultSetup (numberedCreations n)).text = numberedFile n := by
  induction n with
  | zero => decide +kernel
  | succ n ih =>
    have hpast := ih (by omega)
    have hlast : lastIp defaultSetup [] (run defaultSetup (numberedCreations n)) = 0x0A080100 + n := by
      rw [lastIp, Server.readIps, hpast, getIpsFromConf_stdOut_of_fits (numberedFile_fits (by omega)),
        addresses_numberedFile (by omega)]
      cases n with
      | zero => decide +kernel
      | succ n => simp [List.range_succ]; omega
    have hnext : successor (lastIp defaultSetup [] (run defaultSetup (numberedCreations n))) % 2 ^ 32 =
        0x0A080101 + n := by
      rw [hlast, successor, if_neg (by omega), if_neg (by omega)]
      omega
    have hevents : numberedCreations (n + 1) = numberedCreations n ++ [.create (numberedKey n) []] := by
      simp [numberedCreations, List.range_succ]
    rw [hevents, run_concat, numberedFile_succ, ← hpast, numberedPart, ← hnext]
    rfl

theorem getLast?_eighty :
    (getIpsFromConf (stdOut [] ((List.range 80).flatMap fun i => grepAllowedIps (numberedPart i)))).getLast? =
      some 0x0A08014F := by decide +kernel

/-- The output for 80 clients is longer than the buffer, whose end cuts the line of the last of them. The next client
gets the address of that one, 10.8.1.80, once more. -/
theorem address_given_twice :
    DottedQuad.parse defaultSetup.subnetAddress = some 0x0A080100 ∧ ¬allowedIpsName <:+: defaultSetup.serverConfig ∧
      successor^[creations (numberedCreations 81)] 0x0A080100 < 2 ^ 32 ∧
      (run defaultSetup (numberedCreations 81)).addresses = (List.range 80).map (0x0A080101 + ·) ++ [0x0A080150] ∧
      ¬(run defaultSetup (numberedCreations 81)).addresses.Pairwise (· < ·) := by
  have haddresses : (run defaultSetup (numberedCreations 81)).addresses =
      (List.range 80).map (0x0A080101 + ·) ++ [0x0A080150] := by
    have hevents : numberedCreations 81 = numberedCreations 80 ++ [.create (numberedKey 80) []] := rfl
    have htext := run_numberedCreations (Nat.le_refl 80)
    have hlast : lastIp defaultSetup [] (run defaultSetup (numberedCreations 80)) = 0x0A08014F := by
      rw [lastIp, Server.readIps, htext, grepAllowedIps_numberedFile, getLast?_eighty]
      rfl
    rw [hevents, run_concat]
    rcases step_addresses defaultSetup (run defaultSetup (numberedCreations 80)) (.create (numberedKey 80) []) with
      ⟨key, sizes, heq, haddresses⟩ | ⟨row, heq, -⟩
    · cases heq
      rw [haddresses, hlast, Server.addresses, htext, addresses_numberedFile (Nat.le_refl 80)]
      rfl
    · cases heq
  refine ⟨by decide +kernel, by decide +kernel, by decide +kernel, haddresses, ?_⟩
  rw [haddresses]
  decide +kernel

end Samples

end TunnelCore.SelfHosted
