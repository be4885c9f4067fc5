import TunnelCore.Daemon.Config
import TunnelCore.Library.Runs

namespace TunnelCore.Daemon.DnsUtilsLinux

structure DnsLinkDomain where
  domain : String
  search : Bool
deriving DecidableEq

structure DnsDomain where
  ifindex : Int
  domain : String
  search : Bool
deriving DecidableEq

structure Link where
  domains : List DnsLinkDomain := []
  dns : List QHostAddress := []
  defaultRoute : Bool := false

/-- The links of the machine, and the domains that belong to none of them. -/
structure Machine where
  links : List Int
  nodup : links.Nodup
  positive : ∀ i ∈ links, 0 < i
  globals : List DnsLinkDomain

inductive Message
  | setLinkDNS (ifindex : Int) (resolvers : List QHostAddress)
  | setLinkDefaultRoute (ifindex : Int) (enable : Bool)
  | setLinkDomains (ifindex : Int) (domains : List DnsLinkDomain)
  | revertLink (ifindex : Int)
  | getDomains
deriving DecidableEq

def root : DnsLinkDomain := ⟨".", true⟩

section Resolver

variable (machine : Machine)

abbrev Resolver := Int → Link

def Resolver.change (ifindex : Int) (f : Link → Link) (r : Resolver) : Resolver :=
  if ifindex ∈ machine.links then Function.update r ifindex (f (r ifindex)) else r

def Resolver.execute (r : Resolver) : Message → Resolver
  | .setLinkDNS ifindex resolvers => r.change machine ifindex fun link => { link with dns := resolvers }
  | .setLinkDefaultRoute ifindex enable => r.change machine ifindex fun link => { link with defaultRoute := enable }
  | .setLinkDomains ifindex domains => r.change machine ifindex fun link => { link with domains := domains }
  | .revertLink ifindex => r.change machine ifindex fun _ => {}
  | .getDomains => r

def Resolver.allDomains (r : Resolver) : List DnsDomain :=
  machine.globals.map (fun d => ⟨0, d.domain, d.search⟩) ++
    machine.links.flatMap fun i => (r i).domains.map fun d => ⟨i, d.domain, d.search⟩

end Resolver

abbrev LinkDomains := AList fun _ : Int => List DnsLinkDomain

/-- A loop over the map that sets the domains of those links for which there is a `list`. -/
def LinkDomains.messages (list : List DnsLinkDomain → Option (List DnsLinkDomain)) (domains : LinkDomains) :
    List Message :=
  domains.entries.filterMap fun e => (list e.2).map (Message.setLinkDomains e.1)

structure State where
  ifindex : Int := 0
  linkDomains : LinkDomains := ∅
  /-- What the resolver has been sent and not executed. -/
  inbox : List Message := []
  /-- The answers to `Get` that have not been delivered, with `none` for an error. The other answers have no effect. -/
  replies : List (Option (List DnsDomain)) := []
  resolver : Resolver
  /-- The last call was `restoreResolvers`. -/
  restored : Bool := false
  /-- The links that were the VPN link. -/
  vpn : List Int := []

namespace State

def send (messages : List Message) (s : State) : State := { s with inbox := s.inbox ++ messages }

/-- `index` is what `if_nametoindex` returns. -/
def updateResolvers (index : Int) (resolvers : List QHostAddress) (s : State) : State :=
  let s := { s with ifindex := index, restored := false, vpn := index :: s.vpn }
  if index ≤ 0 then s
  else s.send [.setLinkDNS index resolvers, .setLinkDefaultRoute index true, .getDomains]

def restoreResolvers (s : State) : State :=
  let s' := { s with linkDomains := ∅, restored := true }.send (s.linkDomains.messages some)
  if s.ifindex > 0 then { s'.send [.revertLink s.ifindex] with ifindex := 0 } else s'

def collect (list : List DnsDomain) : LinkDomains :=
  list.foldl
    (fun domains d =>
      if d.ifindex = 0 then domains
      else domains.insert d.ifindex ((domains.lookup d.ifindex).getD [] ++ [⟨d.domain, d.search⟩])) ∅

def dropped (domains : List DnsLinkDomain) : Option (List DnsLinkDomain) :=
  if root ∈ domains then some (domains.filter (· ≠ root)) else none

def dnsDomainsReceived (reply : Option (List DnsDomain)) (s : State) : State :=
  match reply with
  | none => s
  | some list =>
    { s with linkDomains := collect list }.send
      ((collect list).messages dropped ++ [Message.setLinkDomains s.ifindex [root]])

end State

inductive Event
  | updateResolvers (index : Int) (resolvers : List QHostAddress)
  | restoreResolvers
  /-- The resolver executes the next message, and answers a `Get` with an error if it `fails`. -/
  | execute (fails : Bool)
  | deliver

section Runs

variable (machine : Machine)

def step (s : State) : Event → State
  | .updateResolvers index resolvers => s.updateResolvers index resolvers
  | .restoreResolvers => s.restoreResolvers
  | .execute fails =>
    match s.inbox with
    | [] => s
    | m :: inbox =>
      { s with
        inbox
        resolver := s.resolver.execute machine m
        replies := s.replies ++
          if m = .getDomains then [if fails then none else some (s.resolver.allDomains machine)] else [] }
  | .deliver =>
    match s.replies with
    | [] => s
    | reply :: replies => { s with replies }.dnsDomainsReceived reply

def start (resolver : Resolver) : State := { resolver }

def run (resolver : Resolver) (events : List Event) : State := events.foldl (step machine) (start resolver)

def caughtUp (s : State) : State := (List.replicate s.inbox.length (.execute false)).foldl (step machine) s

/-- If the last call was `restoreResolvers` and all is executed and delivered, the other links have the `original`
domains. -/
def Returned (original : Resolver) (s : State) : Prop :=
  s.restored = true → s.inbox = [] → s.replies = [] →
    ∀ i ∈ machine.links, i ∉ s.vpn → (s.resolver i).domains = (original i).domains

def State.settled (s : State) : Resolver := s.inbox.foldl (Resolver.execute machine) s.resolver

def State.Answered (s : State) : Prop := .getDomains ∉ s.inbox ∧ s.replies = []

def domainsOf (list : List DnsDomain) (i : Int) : List DnsLinkDomain :=
  (list.filter (·.ifindex = i)).map fun d => ⟨d.domain, d.search⟩

/-- `restoreResolvers` gives the original domains back or nothing has been taken, and an answer that comes after it
makes no difference. -/
def Event.Plain (original : Resolver) (s : State) : Event → Prop
  | .restoreResolvers =>
    s.Answered → ∀ i ∈ machine.links, i ∉ s.vpn →
      (s.linkDomains.lookup i).getD (s.settled machine i).domains = (original i).domains
  | .deliver =>
    s.restored = true → .getDomains ∉ s.inbox → ∀ reply, s.replies = [reply] →
      ∀ i ∈ machine.links, i ∉ s.vpn →
        (s.settled machine i).domains = (original i).domains ∧ ∀ list ∈ reply, root ∉ domainsOf list i
  | _ => True

end Runs

section Resolver

variable {machine : Machine} {r : Resolver} {i : Int}

theorem domains_change (hi : i ∈ machine.links) (j : Int) (f : Link → Link) :
    (r.change machine j f i).domains = if j = i then (f (r i)).domains else (r i).domains := by
  rw [Resolver.change]
  by_cases hj : j = i
  · subst hj
    rw [if_pos hi, if_pos rfl, Function.update_self]
  · rw [if_neg hj]
    split
    · rw [Function.update_of_ne (Ne.symm hj)]
    · rfl

theorem domains_execute (hi : i ∈ machine.links) (m : Message) :
    (r.execute machine m i).domains =
      match m with
      | .setLinkDomains j domains => if j = i then domains else (r i).domains
      | .revertLink j => if j = i then [] else (r i).domains
      | _ => (r i).domains := by
  cases m with
  | setLinkDNS j resolvers => exact (domains_change hi j _).trans (ite_self _)
  | setLinkDefaultRoute j enable => exact (domains_change hi j _).trans (ite_self _)
  | setLinkDomains j domains => exact domains_change hi j _
  | revertLink j => exact domains_change hi j _
  | getDomains => rfl

theorem domains_messages (hi : i ∈ machine.links) (list : List DnsLinkDomain → Option (List DnsLinkDomain))
    (domains : LinkDomains) (r : Resolver) :
    ((domains.messages list).foldl (Resolver.execute machine) r i).domains =
      ((domains.lookup i).bind list).getD (r i).domains := by
  obtain ⟨entries, hnodup⟩ := domains
  change ((entries.filterMap _).foldl (Resolver.execute machine) r i).domains =
    ((entries.dlookup i).bind list).getD (r i).domains
  induction entries generalizing r with
  | nil => rfl
  | cons e entries ih =>
    obtain ⟨j, ds⟩ := e
    obtain ⟨hnew, hnodup⟩ := List.nodupKeys_cons.mp hnodup
    replace ih := fun r => ih r hnodup
    have hstep : ((((list ds).map (Message.setLinkDomains j)).toList.foldl (Resolver.execute machine) r) i).domains =
        if j = i then (list ds).getD (r i).domains else (r i).domains := by
      cases list ds with
      | none => simp
      | some ds' => simpa using domains_execute hi (.setLinkDomains j ds')
    have hsplit : (List.filterMap (fun e : (_ : Int) × List DnsLinkDomain =>
        (list e.2).map (Message.setLinkDomains e.1)) (⟨j, ds⟩ :: entries)) =
          ((list ds).map (Message.setLinkDomains j)).toList ++
            entries.filterMap fun e => (list e.2).map (Message.setLinkDomains e.1) := by
      cases h : list ds with
      | none => simp [h]
      | some ds' => simp [h]
    rw [hsplit, List.foldl_append, ih, hstep]
    by_cases hj : j = i
    · subst hj
      rw [List.dlookup_eq_none.mpr hnew, if_pos rfl, List.dlookup_cons_eq]
      rfl
    · have hskip : List.dlookup i (⟨j, ds⟩ :: entries) = List.dlookup i entries :=
        List.dlookup_cons_ne _ _ (Ne.symm hj)
      rw [if_neg hj, hskip]

end Resolver

section Collect

theorem domainsOf_concat (list : List DnsDomain) (d : DnsDomain) (i : Int) :
    domainsOf (list ++ [d]) i = domainsOf list i ++ if d.ifindex = i then [⟨d.domain, d.search⟩] else [] := by
  rw [domainsOf, domainsOf, List.filter_append, List.map_append]
  split
  next h => simp [h]
  next h => simp [h]

theorem lookup_collect {i : Int} (hi : i ≠ 0) (list : List DnsDomain) :
    (State.collect list).lookup i = if domainsOf list i = [] then none else some (domainsOf list i) := by
  induction list using List.reverseRecOn with
  | nil => rfl
  | append_singleton list d ih =>
    rw [State.collect, List.foldl_append, ← State.collect, List.foldl_cons, List.foldl_nil, domainsOf_concat]
    by_cases hd : d.ifindex = i
    · have hzero : d.ifindex ≠ 0 := hd ▸ hi
      have hnew : domainsOf list i ++ [⟨d.domain, d.search⟩] ≠ [] := List.append_ne_nil_of_right_ne_nil _ nofun
      have hold : ((State.collect list).lookup i).getD [] = domainsOf list i := by
        rw [ih]
        split
        next hnone =>
          rw [hnone]
          rfl
        · rfl
      rw [if_neg hzero, if_pos hd, hd, AList.lookup_insert, hold, if_neg hnew]
    · rw [if_neg hd, List.append_nil, ← ih]
      split
      · rfl
      · exact AList.lookup_insert_ne (Ne.symm hd)

theorem flatMap_ite {α : Type} {i : Int} {links : List Int} (hi : i ∈ links) (hnodup : links.Nodup)
    (f : Int → List α) : links.flatMap (fun j => if j = i then f j else []) = f i := by
  obtain ⟨a, b, rfl⟩ := List.append_of_mem hi
  have hnone {l : List Int} (hl : i ∉ l) : l.flatMap (fun j => if j = i then f j else []) = [] := by
    rw [List.flatMap_eq_nil_iff]
    intro j hj
    exact if_neg (ne_of_mem_of_not_mem hj hl)
  have hsides := (List.nodup_middle.mp hnodup)
  rw [List.nodup_cons, List.mem_append, not_or] at hsides
  rw [List.flatMap_append, List.flatMap_cons, hnone hsides.1.1, hnone hsides.1.2, if_pos rfl, List.nil_append,
    List.append_nil]

theorem domainsOf_allDomains {machine : Machine} {i : Int} (hi : i ∈ machine.links) (r : Resolver) :
    domainsOf (r.allDomains machine) i = (r i).domains := by
  have hzero : (0 : Int) ≠ i := Int.ne_of_lt (machine.positive i hi)
  have hglobals : (machine.globals.map fun d => (⟨0, d.domain, d.search⟩ : DnsDomain)).filter (·.ifindex = i) = [] := by
    simp [List.filter_eq_nil_iff, hzero]
  have hlink (j : Int) : (((r j).domains.map fun d => (⟨j, d.domain, d.search⟩ : DnsDomain)).filter (·.ifindex = i)).map
      (fun d => (⟨d.domain, d.search⟩ : DnsLinkDomain)) = if j = i then (r j).domains else [] := by
    by_cases hj : j = i
    · simp [hj, List.filter_map, Function.comp_def]
    · simp [hj, List.filter_map, Function.comp_def]
  rw [domainsOf, Resolver.allDomains, List.filter_append, hglobals, List.nil_append, List.filter_flatMap,
    List.map_flatMap]
  simp only [hlink]
  exact flatMap_ite hi machine.nodup fun j => (r j).domains

end Collect

section Known

variable {machine : Machine} {original : Resolver} {s : State} {i : Int}

/-- The domains a link has are the original ones, with or without the root. -/
def Original (original domains : List DnsLinkDomain) : Prop :=
  domains = original ∨ domains = original.filter (· ≠ root)

theorem Original.filter {original domains : List DnsLinkDomain} (h : Original original domains) :
    Original original (domains.filter (· ≠ root)) := by
  rcases h with rfl | rfl
  · exact .inr rfl
  · exact .inr (by simp)

theorem Original.root_mem {original domains : List DnsLinkDomain} (h : Original original domains)
    (hroot : root ∈ domains) : root ∈ original := by
  rcases h with rfl | rfl
  · exact hroot
  · exact List.mem_of_mem_filter hroot

def Message.Known (machine : Machine) (original : Resolver) (vpn : List Int) : Message → Prop
  | .setLinkDomains i domains => i ∈ machine.links → i ∉ vpn → Original (original i).domains domains
  | .revertLink i => i ∈ vpn
  | _ => True

/-- Everything that is on its way about the other links is about their original domains. -/
structure Known (machine : Machine) (original : Resolver) (s : State) : Prop where
  ifindex : s.ifindex ≤ 0 ∨ s.ifindex ∈ s.vpn
  held : ∀ i ∈ machine.links, i ∉ s.vpn → Original (original i).domains (s.resolver i).domains
  sent : ∀ m ∈ s.inbox, m.Known machine original s.vpn
  saved : ∀ i ∈ machine.links, i ∉ s.vpn → ∀ domains ∈ s.linkDomains.lookup i, Original (original i).domains domains
  read : ∀ list, some list ∈ s.replies → ∀ i ∈ machine.links, i ∉ s.vpn →
    Original (original i).domains (domainsOf list i)

theorem known_start (resolver : Resolver) : Known machine resolver (start resolver) where
  ifindex := .inl (Int.le_refl _)
  held _ _ _ := .inl rfl
  sent := nofun
  saved := nofun
  read := nofun

theorem Message.Known.of_subset {vpn vpn' : List Int} {m : Message} (h : m.Known machine original vpn)
    (hsub : vpn ⊆ vpn') : m.Known machine original vpn' := by
  cases m with
  | setLinkDomains j domains => exact fun hlink hvpn => h hlink fun hmem => hvpn (hsub hmem)
  | revertLink j => exact hsub h
  | _ => trivial

theorem Known.ne_ifindex (h : Known machine original s) (hi : i ∈ machine.links) (hvpn : i ∉ s.vpn) :
    s.ifindex ≠ i := by
  rintro rfl
  rcases h.ifindex with hnone | hmem
  · exact absurd (machine.positive _ hi) (Int.not_lt.mpr hnone)
  · exact hvpn hmem

theorem mem_messages {list : List DnsLinkDomain → Option (List DnsLinkDomain)} {domains : LinkDomains} {m : Message}
    (h : m ∈ domains.messages list) :
    ∃ i ds, ∃ ds' ∈ domains.lookup i, list ds' = some ds ∧ m = .setLinkDomains i ds := by
  obtain ⟨⟨i, ds'⟩, he, hm⟩ := List.mem_filterMap.mp h
  obtain ⟨ds, hds, rfl⟩ := Option.map_eq_some_iff.mp hm
  exact ⟨i, ds, ds', AList.mem_lookup_iff.mpr he, hds, rfl⟩

theorem Known.updateResolvers (h : Known machine original s) (index : Int) (resolvers : List QHostAddress) :
    Known machine original (s.updateResolvers index resolvers) := by
  have hsub : s.vpn ⊆ index :: s.vpn := List.subset_cons_self _ _
  have hnew : Known machine original { s with ifindex := index, restored := false, vpn := index :: s.vpn } :=
    { ifindex := .inr (.head _)
      held := fun i hi hvpn => h.held i hi fun hmem => hvpn (hsub hmem)
      sent := fun m hm => (h.sent m hm).of_subset hsub
      saved := fun i hi hvpn => h.saved i hi fun hmem => hvpn (hsub hmem)
      read := fun list hlist i hi hvpn => h.read list hlist i hi fun hmem => hvpn (hsub hmem) }
  simp only [State.updateResolvers]
  split
  · exact hnew
  · refine { hnew with sent := fun m hm => ?_ }
    rcases List.mem_append.mp hm with hm | hm
    · exact hnew.sent m hm
    · simp only [List.mem_cons, List.not_mem_nil, or_false] at hm
      rcases hm with rfl | rfl | rfl <;> trivial

theorem Known.restoreResolvers (h : Known machine original s) : Known machine original s.restoreResolvers := by
  have hback : Known machine original
      ({ s with linkDomains := ∅, restored := true }.send (s.linkDomains.messages some)) :=
    { h with
      saved := nofun
      sent := by
        intro m hm
        rcases List.mem_append.mp hm with hm | hm
        · exact h.sent m hm
        · obtain ⟨i, ds, ds', hds', heq, rfl⟩ := mem_messages hm
          obtain rfl := Option.some.inj heq
          exact fun hi hvpn => h.saved i hi hvpn _ hds' }
  simp only [State.restoreResolvers]
  split
  next hpos =>
    refine { hback with ifindex := .inl (Int.le_refl _), sent := fun m hm => ?_ }
    rcases List.mem_append.mp hm with hm | hm
    · exact hback.sent m hm
    · obtain rfl := List.mem_singleton.mp hm
      exact h.ifindex.resolve_left (Int.not_le.mpr hpos)
  · exact hback

theorem Known.execute (h : Known machine original s) (fails : Bool) :
    Known machine original (step machine s (.execute fails)) := by
  rw [step]
  split
  · exact h
  next m inbox hinbox =>
    have hm := h.sent m (hinbox ▸ .head _)
    refine { ifindex := h.ifindex, held := ?_, sent := ?_, saved := h.saved, read := ?_ }
    · intro i hi hvpn
      rw [domains_execute hi]
      cases m with
      | setLinkDomains j domains =>
        change Original _ (if j = i then _ else _)
        split
        next hj =>
          subst hj
          exact hm hi hvpn
        · exact h.held i hi hvpn
      | revertLink j =>
        have hj : j ≠ i := ne_of_mem_of_not_mem hm hvpn
        change Original _ (if j = i then _ else _)
        rw [if_neg hj]
        exact h.held i hi hvpn
      | _ => exact h.held i hi hvpn
    · exact fun m' hm' => h.sent m' (hinbox ▸ .tail _ hm')
    · intro list hlist i hi hvpn
      rcases List.mem_append.mp hlist with hlist | hlist
      · exact h.read list hlist i hi hvpn
      · split at hlist
        · have hsame := List.mem_singleton.mp hlist
          split at hsame
          · cases hsame
          · obtain rfl := Option.some.inj hsame
            rw [domainsOf_allDomains hi]
            exact h.held i hi hvpn
        · cases hlist

theorem Known.dnsDomainsReceived (h : Known machine original s) {reply : Option (List DnsDomain)}
    (hread : ∀ list ∈ reply, ∀ i ∈ machine.links, i ∉ s.vpn → Original (original i).domains (domainsOf list i)) :
    Known machine original (s.dnsDomainsReceived reply) := by
  cases reply with
  | none => exact h
  | some list =>
    have hsaved : ∀ i ∈ machine.links, i ∉ s.vpn → ∀ domains ∈ (State.collect list).lookup i,
        Original (original i).domains domains := by
      intro i hi hvpn domains hdomains
      rw [lookup_collect (Int.ne_of_gt (machine.positive i hi))] at hdomains
      split at hdomains
      · cases hdomains
      · obtain rfl := Option.some.inj hdomains
        exact hread list rfl i hi hvpn
    refine { h with saved := hsaved, sent := fun m hm => ?_ }
    rcases List.mem_append.mp hm with hm | hm
    · exact h.sent m hm
    · rcases List.mem_append.mp hm with hm | hm
      · obtain ⟨i, ds, ds', hds', hdropped, rfl⟩ := mem_messages hm
        intro hi hvpn
        rw [State.dropped] at hdropped
        split at hdropped
        · obtain rfl := Option.some.inj hdropped
          exact (hsaved i hi hvpn ds' hds').filter
        · cases hdropped
      · obtain rfl := List.mem_singleton.mp hm
        exact fun hi hvpn => absurd rfl (h.ne_ifindex hi hvpn)

theorem Known.step (h : Known machine original s) (e : Event) : Known machine original (step machine s e) := by
  cases e with
  | updateResolvers index resolvers => exact h.updateResolvers index resolvers
  | restoreResolvers => exact h.restoreResolvers
  | execute fails => exact h.execute fails
  | deliver =>
    rw [DnsUtilsLinux.step]
    split
    · exact h
    next reply replies hreplies =>
      have hrest : Known machine original { s with replies } :=
        { h with read := fun list hlist => h.read list (hreplies ▸ .tail _ hlist) }
      refine hrest.dnsDomainsReceived fun list hlist => h.read list ?_
      rw [hreplies, Option.mem_def.mp hlist]
      exact .head _

theorem known_run (resolver : Resolver) (events : List Event) :
    Known machine resolver (run machine resolver events) := by
  induction events using List.reverseRecOn with
  | nil => exact known_start resolver
  | append_singleton events e ih =>
    rw [run, List.foldl_append]
    exact ih.step e

theorem settled_send (messages : List Message) :
    (s.send messages).settled machine = messages.foldl (Resolver.execute machine) (s.settled machine) :=
  List.foldl_append

/-- `Returned` before the resolver has caught up. -/
def Returning (machine : Machine) (original : Resolver) (s : State) : Prop :=
  s.restored = true → s.Answered →
    ∀ i ∈ machine.links, i ∉ s.vpn → (s.settled machine i).domains = (original i).domains

theorem returned_caughtUp_iff : Returned machine original (caughtUp machine s) ↔ Returning machine original s := by
  rw [caughtUp]
  generalize hlength : s.inbox.length = n
  induction n generalizing s with
  | zero =>
    have hinbox := List.length_eq_zero_iff.mp hlength
    rw [List.replicate_zero, List.foldl_nil, Returned, Returning, State.Answered, State.settled, hinbox]
    simp
  | succ n ih =>
    obtain ⟨m, inbox, hinbox⟩ := List.exists_cons_of_length_eq_add_one hlength
    rw [List.replicate_succ, List.foldl_cons, ih (s := step machine s (.execute false))]
    · rw [step, hinbox, Returning, Returning, State.Answered, State.Answered, State.settled, State.settled, hinbox]
      by_cases hm : m = .getDomains
      · simp [hm]
      · simp [hm, Ne.symm hm]
    · rw [step, hinbox]
      simpa [hinbox] using hlength

theorem settled_restoreResolvers (h : Known machine original s) (hi : i ∈ machine.links) (hvpn : i ∉ s.vpn) :
    (s.restoreResolvers.settled machine i).domains =
      (s.linkDomains.lookup i).getD (s.settled machine i).domains := by
  have hback : (({ s with linkDomains := ∅, restored := true }.send (s.linkDomains.messages some)).settled machine
      i).domains = (s.linkDomains.lookup i).getD (s.settled machine i).domains := by
    rw [settled_send, domains_messages hi, Option.bind_fun_some]
    rfl
  simp only [State.restoreResolvers]
  split
  · refine Eq.trans ?_ hback
    change (({ s with linkDomains := ∅, restored := true }.send (s.linkDomains.messages some)).send
      [.revertLink s.ifindex] |>.settled machine i).domains = _
    rw [settled_send, List.foldl_cons, List.foldl_nil, domains_execute hi]
    exact if_neg (h.ne_ifindex hi hvpn)
  · exact hback

theorem settled_dnsDomainsReceived (h : Known machine original s) (hi : i ∈ machine.links) (hvpn : i ∉ s.vpn)
    (list : List DnsDomain) :
    ((s.dnsDomainsReceived (some list)).settled machine i).domains =
      (State.dropped (domainsOf list i)).getD (s.settled machine i).domains := by
  have hlookup : ((State.collect list).lookup i).bind State.dropped = State.dropped (domainsOf list i) := by
    rw [lookup_collect (Int.ne_of_gt (machine.positive i hi))]
    split
    next hnone =>
      rw [hnone]
      rfl
    · rfl
  rw [State.dnsDomainsReceived, settled_send, List.foldl_append, List.foldl_cons, List.foldl_nil, domains_execute hi]
  change (if s.ifindex = i then _ else _) = _
  rw [if_neg (h.ne_ifindex hi hvpn), domains_messages hi, hlookup]
  rfl

theorem answered_restoreResolvers : s.restoreResolvers.Answered ↔ s.Answered := by
  have hback : .getDomains ∉ s.linkDomains.messages some := by
    intro hmem
    obtain ⟨_, _, _, _, _, heq⟩ := mem_messages hmem
    cases heq
  simp only [State.restoreResolvers]
  split <;> simp [State.Answered, State.send, hback]

theorem answered_dnsDomainsReceived (reply : Option (List DnsDomain)) :
    (s.dnsDomainsReceived reply).Answered ↔ s.Answered := by
  cases reply with
  | none => exact Iff.rfl
  | some list =>
    have hdropped : .getDomains ∉ (State.collect list).messages State.dropped := by
      intro hmem
      obtain ⟨_, _, _, _, _, heq⟩ := mem_messages hmem
      cases heq
    simp [State.Answered, State.dnsDomainsReceived, State.send, hdropped]

theorem returning_restoreResolvers_iff (h : Known machine original s) :
    Returning machine original s.restoreResolvers ↔ Event.restoreResolvers.Plain machine original s := by
  have hrestored : s.restoreResolvers.restored = true := by
    simp only [State.restoreResolvers]
    split <;> rfl
  have hvpn : s.restoreResolvers.vpn = s.vpn := by
    simp only [State.restoreResolvers]
    split <;> rfl
  rw [Returning, imp_iff_right hrestored, answered_restoreResolvers, hvpn]
  refine imp_congr_right fun _ => forall₂_congr fun i hi => imp_congr_right fun hother => ?_
  rw [settled_restoreResolvers h hi hother]

theorem dropped_getD_eq_iff {o domains settled : List DnsLinkDomain} (h : Original o domains) :
    (State.dropped domains).getD settled = o ↔ settled = o ∧ root ∉ domains := by
  rw [State.dropped]
  split
  next hroot =>
    refine iff_of_false (fun heq => ?_) fun hboth => hboth.2 hroot
    have hmem := h.root_mem hroot
    rw [← heq] at hmem
    exact absurd rfl (of_decide_eq_true (List.mem_filter.mp hmem).2)
  next hroot => exact (and_iff_left hroot).symm

theorem returning_deliver_iff (h : Known machine original s) (hs : Returning machine original s) :
    Returning machine original (step machine s .deliver) ↔ Event.deliver.Plain machine original s := by
  rw [step, Event.Plain]
  cases hreplies : s.replies with
  | nil => exact iff_of_true hs fun _ _ _ hone => nomatch hone
  | cons reply replies =>
    have hrest : Known machine original { s with replies } :=
      { h with read := fun list hlist => h.read list (hreplies ▸ .tail _ hlist) }
    -- what is left of the condition once the one reply has been delivered
    have hlast : Returning machine original ({ s with replies }.dnsDomainsReceived reply) ↔
        (s.restored = true → .getDomains ∉ s.inbox ∧ replies = [] → ∀ i ∈ machine.links, i ∉ s.vpn →
          (s.settled machine i).domains = (original i).domains ∧ ∀ list ∈ reply, root ∉ domainsOf list i) := by
      rw [Returning, answered_dnsDomainsReceived]
      cases reply with
      | none =>
        refine imp_congr_right fun _ => imp_congr_right fun _ => forall₂_congr fun i hi => ?_
        exact imp_congr_right fun _ => (and_iff_left nofun).symm
      | some list =>
        refine imp_congr_right fun _ => imp_congr_right fun _ => forall₂_congr fun i hi => ?_
        refine imp_congr_right fun hvpn => ?_
        have horiginal := h.read list (hreplies ▸ .head _) i hi hvpn
        rw [settled_dnsDomainsReceived hrest hi hvpn, dropped_getD_eq_iff horiginal]
        simp [State.settled]
    refine hlast.trans (imp_congr_right fun _ => ?_)
    constructor
    · rintro hall hget reply' heq
      obtain ⟨rfl, rfl⟩ := List.cons.inj heq
      exact hall ⟨hget, rfl⟩
    · rintro hall ⟨hget, rfl⟩
      exact hall hget reply rfl

theorem returning_step_iff (h : Known machine original s) (hs : Returning machine original s) (e : Event) :
    Returning machine original (step machine s e) ↔ e.Plain machine original s := by
  cases e with
  | updateResolvers index resolvers =>
    refine iff_of_true (fun hrestored => ?_) trivial
    simp only [step, State.updateResolvers] at hrestored
    split at hrestored <;> cases hrestored
  | restoreResolvers => exact returning_restoreResolvers_iff h
  | execute fails =>
    refine iff_of_true ?_ trivial
    rw [step]
    split
    · exact hs
    next m inbox hinbox =>
      intro hrestored hanswered
      refine fun i hi hvpn => Eq.trans ?_ (hs hrestored ?_ i hi hvpn)
      · rw [State.settled, State.settled, hinbox, List.foldl_cons]
      · obtain ⟨hget, hreplies⟩ := hanswered
        obtain ⟨hold, hnew⟩ := List.append_eq_nil_iff.mp hreplies
        refine ⟨?_, hold⟩
        rw [hinbox, List.mem_cons, not_or]
        refine ⟨?_, hget⟩
        rintro rfl
        rw [if_pos rfl] at hnew
        cases hnew
  | deliver => exact returning_deliver_iff h hs

end Known

theorem domains_returned_iff (machine : Machine) (original : Resolver) (events : List Event) :
    (∀ past, past <+: events → Returned machine original (caughtUp machine (run machine original past))) ↔
      Along (step machine) (Event.Plain machine original) (start original) events := by
  simp only [returned_caughtUp_iff]
  exact forall_prefix_iff_along (I := Returning machine original) (fun hrestored => Bool.noConfusion hrestored)
    (fun past e hs => returning_step_iff (known_run original past) hs e) events

def sampleMachine : Machine where
  links := [2, 5]
  nodup := by decide
  positive := by decide
  globals := []

def sampleResolver : Resolver := fun i => if i = 2 then { domains := [⟨"lan", false⟩, root] } else {}

def updateExecuted : List Event := [.updateResolvers 5 [], .execute false, .execute false, .execute false]

def answeredLate : State :=
  caughtUp sampleMachine (run sampleMachine sampleResolver (updateExecuted ++ [.restoreResolvers, .deliver]))

def updatedTwice : State :=
  caughtUp sampleMachine (run sampleMachine sampleResolver
    (updateExecuted ++ [.deliver, .execute false, .execute false] ++ updateExecuted ++ [.deliver, .restoreResolvers]))

/-- What was saved is overwritten by the second answer, and an answer that comes late removes the domain for good. -/
theorem domains_lost :
    ((2 : Int) ∈ sampleMachine.links ∧ (sampleResolver 2).domains = [⟨"lan", false⟩, root]) ∧
      (answeredLate.restored = true ∧ answeredLate.inbox = [] ∧ answeredLate.replies = [] ∧ answeredLate.vpn = [5] ∧
        (answeredLate.resolver 2).domains = [⟨"lan", false⟩]) ∧
      (updatedTwice.restored = true ∧ updatedTwice.inbox = [] ∧ updatedTwice.replies = [] ∧ updatedTwice.vpn = [5, 5] ∧
        (updatedTwice.resolver 2).domains = [⟨"lan", false⟩]) := by
  decide

end TunnelCore.Daemon.DnsUtilsLinux
