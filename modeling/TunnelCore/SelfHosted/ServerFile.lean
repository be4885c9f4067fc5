import TunnelCore.Library.DottedQuad
import TunnelCore.Library.Runs
import Mathlib.Data.List.InsertIdx
import Mathlib.Data.List.Nodup

namespace TunnelCore.SelfHosted

def isBase64 (c : Char) : Bool := c.isAlphanum || c = '+' || c = '/' || c = '='

structure Key where
  text : List Char
  base64 : text.all isBase64 = true
deriving DecidableEq

/-- A row of the clients table: its `clientId` is the public key. The address is the one in the client's own
configuration. -/
structure Client where
  publicKey : Key
  clientIp : Nat
deriving DecidableEq

/-- What is on the server besides the clients: the file the container was set up with, the preshared key, and the
subnet of the settings. -/
structure Setup where
  serverConfig : List Char
  pskKey : Key
  subnetAddress : List Char

def peerHeader : List Char := "Peer]".toList

def publicKeyName : List Char := "PublicKey".toList

def presharedKeyName : List Char := "PresharedKey".toList

def allowedIpsName : List Char := "AllowedIPs".toList

def subnetMask : List Char := "/32".toList

def field (name value : List Char) : List Char := name ++ ' ' :: '=' :: ' ' :: value

/-- The section of a client after its bracket: a line for each field, and an empty line. -/
def peerBody (pskKey : Key) (client : Client) : List Char :=
  peerHeader ++ '\n' :: (field publicKeyName client.publicKey.text ++ '\n' ::
    (field presharedKeyName pskKey.text ++ '\n' ::
      (field allowedIpsName (DottedQuad.format client.clientIp ++ subnetMask) ++ ['\n', '\n'])))

def configPart (pskKey : Key) (client : Client) : List Char := '[' :: peerBody pskKey client

section Addresses

/-- `\d+` and then as often `\.\d+` -/
def matchNumbers : Nat → List Char → Option (List Char)
  | 0, text =>
    let digits := text.takeWhile Char.isDigit
    if digits = [] then none else some digits
  | more + 1, text =>
    let digits := text.takeWhile Char.isDigit
    if digits = [] then none
    else
      match text.dropWhile Char.isDigit with
      | '.' :: rest => (matchNumbers more rest).map (digits ++ '.' :: ·)
      | _ => none

def entryStart : List Char := field allowedIpsName []

/-- `AllowedIPs = (\d+\.\d+\.\d+\.\d+)` at the front of a text -/
def matchEntry (text : List Char) : Option (List Char × Nat) :=
  if entryStart.isPrefixOf text then
    (matchNumbers 3 (text.drop entryStart.length)).map fun captured => (captured, entryStart.length + captured.length)
  else none

def getIpsFromConf (input : List Char) : List Nat := (Scan.scan matchEntry 0 input).filterMap DottedQuad.parse

def grepAllowedIps (text : List Char) : List Char :=
  ((text.splitOn '\n').filter fun line => allowedIpsName <:+: line).flatMap (· ++ ['\n'])

def bufferSize : Nat := 2048

/-- How an output is read from the channel: a read gives what has come, at least one byte and at most a buffer full.
The sizes of the first reads are given; all others fill the buffer. -/
def readsFrom : Nat → List Nat → List Char → List (List Char)
  | 0, _, _ => []
  | fuel + 1, sizes, output =>
    if output = [] then []
    else
      let size := max 1 (min bufferSize (sizes.headD bufferSize))
      output.take size :: readsFrom fuel sizes.tail (output.drop size)

def reads (sizes : List Nat) (output : List Char) : List (List Char) := readsFrom output.length sizes output

def stdOut (sizes : List Nat) (output : List Char) : List Char := (reads sizes output).flatMap (· ++ ['\n'])

def successor (lastIp : Nat) : Nat :=
  if lastIp % 256 = 254 then lastIp + 3 else if lastIp % 256 = 255 then lastIp + 2 else lastIp + 1

def nextIp (subnetAddress : List Char) (ips : List Nat) : Nat :=
  successor (ips.getLast?.getD ((DottedQuad.parse subnetAddress).getD 0)) % 2 ^ 32

end Addresses

structure Server where
  text : List Char
  clientsTable : List Client

def Server.newClient (setup : Setup) (key : Key) (sizes : List Nat) (s : Server) : Client :=
  ⟨key, nextIp setup.subnetAddress (getIpsFromConf (stdOut sizes (grepAllowedIps s.text)))⟩

/-- `prepareWireguardConfig`, and `appendClient` with the new client. -/
def Server.createClient (setup : Setup) (key : Key) (sizes : List Nat) (s : Server) : Server :=
  let client := s.newClient setup key sizes
  { text := s.text ++ configPart setup.pskKey client
    clientsTable :=
      if s.clientsTable.any (·.publicKey = key) then s.clientsTable else s.clientsTable ++ [client] }

def withoutSection (clientId text : List Char) : List Char :=
  let configSections := (text.splitOn '[').filter (· ≠ [])
  let kept :=
    match configSections.find? fun part => clientId <:+: part with
    | some part => configSections.erase part
    | none => configSections
  '[' :: ['['].intercalate kept

def Server.revokeWireGuard (row : Nat) (s : Server) : Server :=
  match s.clientsTable[row]? with
  | none => s
  | some client =>
    { text := withoutSection client.publicKey.text s.text
      clientsTable := s.clientsTable.eraseIdx row }

inductive Event
  | create (key : Key) (sizes : List Nat)
  | revoke (row : Nat)

def step (setup : Setup) (s : Server) : Event → Server
  | .create key sizes => s.createClient setup key sizes
  | .revoke row => s.revokeWireGuard row

def run (setup : Setup) (events : List Event) : Server := events.foldl (step setup) ⟨setup.serverConfig, []⟩

/-- What is stored: the file is bytes, and the app reads it as a text. -/
structure ServerFile where
  bytes : List UInt8
  clientsTable : List Client

def ServerFile.read (f : ServerFile) : Server := ⟨Text.fromUtf8 f.bytes, f.clientsTable⟩

/-- A creation appends the bytes of the new section to the file, a revocation writes a whole text in its place. -/
def ServerFile.step (setup : Setup) (f : ServerFile) : Event → ServerFile
  | .create key sizes =>
    { bytes := f.bytes ++ Text.toUtf8 (configPart setup.pskKey (f.read.newClient setup key sizes))
      clientsTable := (f.read.createClient setup key sizes).clientsTable }
  | .revoke row =>
    if row < f.clientsTable.length then
      { bytes := Text.toUtf8 (f.read.revokeWireGuard row).text
        clientsTable := (f.read.revokeWireGuard row).clientsTable }
    else f

def ServerFile.run (setup : Setup) (bytes : List UInt8) (events : List Event) : ServerFile :=
  events.foldl (ServerFile.step setup) ⟨bytes, []⟩

def Event.createdKey : Event → Option Key
  | .create key _ => some key
  | .revoke _ => none

def livingStep (keys : List Key) : Event → List Key
  | .create key _ => keys ++ [key]
  | .revoke row => keys.eraseIdx row

/-- The keys of the clients that were created and not revoked, in the order of their creation. -/
def living (events : List Event) : List Key := events.foldl livingStep []

def interfaceHeader : List Char := "Interface]".toList

def NowhereElse (setup : Setup) (clients : List Client) : Prop :=
  ∀ client ∈ clients, ¬client.publicKey.text <:+: setup.serverConfig ∧
    ∀ other ∈ clients, other ≠ client → ¬client.publicKey.text <:+: configPart setup.pskKey other

instance (setup : Setup) (clients : List Client) : Decidable (NowhereElse setup clients) :=
  inferInstanceAs (Decidable (∀ client ∈ clients, _))

section Sections

theorem Key.not_mem (key : Key) {c : Char} (hc : isBase64 c = false) : c ∉ key.text := by
  intro hmem
  rw [List.all_eq_true.mp key.base64 c hmem] at hc
  cases hc

theorem format_not_mem {c : Char} (hdot : c ≠ '.') (hdigit : c.isDigit = false) (n : Nat) :
    c ∉ DottedQuad.format n := by
  have hdigits (m : Nat) : c ∉ Nat.toDigits 10 m := fun h => by simp [DottedQuad.isDigit_of_mem h] at hdigit
  simp only [DottedQuad.format, List.mem_append, List.mem_cons, hdigits, hdot, or_self, not_false_eq_true]

theorem not_mem_field {c : Char} {name value : List Char} (hname : c ∉ name) (hvalue : c ∉ value) (hspace : c ≠ ' ')
    (hequals : c ≠ '=') : c ∉ field name value := by
  simp only [field, List.mem_append, List.mem_cons, hname, hvalue, hspace, hequals, or_self, not_false_eq_true]

theorem bracket_not_mem_peerBody (pskKey : Key) (client : Client) : '[' ∉ peerBody pskKey client := by
  have hkey (key : Key) : '[' ∉ key.text := key.not_mem (by decide)
  have hpublic := not_mem_field (by decide : '[' ∉ publicKeyName) (hkey client.publicKey) (by decide) (by decide)
  have hpreshared := not_mem_field (by decide : '[' ∉ presharedKeyName) (hkey pskKey) (by decide) (by decide)
  have hformat := format_not_mem (by decide : '[' ≠ '.') (by decide) client.clientIp
  have haddress : '[' ∉ DottedQuad.format client.clientIp ++ subnetMask := by
    rw [List.mem_append, not_or]
    exact ⟨hformat, by decide⟩
  have hallowed := not_mem_field (by decide : '[' ∉ allowedIpsName) haddress (by decide) (by decide)
  have hheader : '[' ∉ peerHeader := by decide
  simp only [peerBody, List.mem_append, List.mem_cons, hheader, hpublic, hpreshared, hallowed, List.not_mem_nil, or_self,
    false_or, or_false]
  decide

theorem publicKey_within_peerBody (pskKey : Key) (client : Client) : client.publicKey.text <:+: peerBody pskKey client := by
  rw [peerBody, field]
  refine List.IsInfix.trans ?_ (List.suffix_append ..).isInfix
  refine List.IsInfix.trans ?_ (List.suffix_cons ..).isInfix
  refine List.IsInfix.trans ?_ (List.prefix_append ..).isInfix
  refine List.IsInfix.trans ?_ (List.suffix_append ..).isInfix
  exact (List.suffix_append [' ', '=', ' '] client.publicKey.text).isInfix

theorem intercalate_bracket (first : List Char) (parts : List (List Char)) :
    ['['].intercalate (first :: parts) = first ++ parts.flatMap ('[' :: ·) := by
  induction parts generalizing first with
  | nil => simp
  | cons part parts ih => rw [List.intercalate_cons_cons, ih, List.flatMap_cons, List.append_assoc]; rfl

theorem erase_found {α : Type} [BEq α] [LawfulBEq α] {p : α → Bool} {xs : List α} {i : Nat} {x : α} (hi : xs[i]? = some x)
    (hx : p x = true) (hothers : ∀ j y, xs[j]? = some y → p y = true → j = i) :
    xs.find? p = some x ∧ xs.erase x = xs.eraseIdx i := by
  induction xs generalizing i with
  | nil => cases hi
  | cons y xs ih =>
    cases i with
    | zero =>
      obtain rfl : y = x := Option.some.inj hi
      exact ⟨List.find?_cons_of_pos hx, List.erase_cons_head y xs⟩
    | succ i =>
      have hy : ¬p y = true := fun hy => absurd (hothers 0 y rfl hy) (by omega)
      have hne : y ≠ x := fun he => hy (he ▸ hx)
      obtain ⟨hfind, herase⟩ := ih hi fun j z hz hp => Nat.succ.inj (hothers (j + 1) z hz hp)
      refine ⟨(List.find?_cons_of_neg hy).trans hfind, ?_⟩
      rw [List.erase_cons_tail (by simpa using hne), herase, List.eraseIdx_cons_succ]

theorem withoutSection_spec {clientId : List Char} {first : List Char} {parts : List (List Char)} {row : Nat}
    {part : List Char} (hsep : ∀ part ∈ first :: parts, '[' ∉ part) (hne : ∀ part ∈ first :: parts, part ≠ [])
    (hfirst : ¬clientId <:+: first) (hrow : parts[row]? = some part) (hpart : clientId <:+: part)
    (hothers : ∀ j other, parts[j]? = some other → clientId <:+: other → j = row) :
    withoutSection clientId ('[' :: (first ++ parts.flatMap ('[' :: ·))) =
      '[' :: (first ++ (parts.eraseIdx row).flatMap ('[' :: ·)) := by
  have hsections : (('[' :: (first ++ parts.flatMap ('[' :: ·))).splitOn '[').filter (· ≠ []) = first :: parts := by
    rw [← intercalate_bracket, ← List.nil_append ('[' :: _), Scan.splitOn_part List.not_mem_nil,
      List.splitOn_intercalate '[' hsep (by simp), List.filter_cons_of_neg (by simp)]
    exact List.filter_eq_self.mpr fun part hpart => by simpa using hne part hpart
  have hindex : (first :: parts)[row + 1]? = some part := hrow
  obtain ⟨hfind, herase⟩ := erase_found (p := fun part => decide (clientId <:+: part)) hindex (decide_eq_true hpart)
    fun j other hj hp => by
      cases j with
      | zero =>
        obtain rfl : first = other := Option.some.inj hj
        exact absurd (of_decide_eq_true hp) hfirst
      | succ j => exact congrArg Nat.succ (hothers j other hj (of_decide_eq_true hp))
  rw [withoutSection, hsections, hfind]
  simp only [herase, List.eraseIdx_cons_succ, intercalate_bracket]

end Sections

section File

variable {setup : Setup}

theorem run_concat (setup : Setup) (past : List Event) (e : Event) :
    run setup (past ++ [e]) = step setup (run setup past) e := by
  rw [run, List.foldl_append]
  rfl

theorem living_concat (past : List Event) (e : Event) : living (past ++ [e]) = livingStep (living past) e := by
  rw [living, List.foldl_append]
  rfl

theorem living_sublist (events : List Event) : (living events).Sublist (events.filterMap Event.createdKey) := by
  induction events using List.reverseRecOn with
  | nil => exact .slnil
  | append_singleton past e ih =>
    rw [living_concat, List.filterMap_append]
    cases e with
    | create key sizes => exact ih.append (.refl [key])
    | revoke row => exact ((List.eraseIdx_sublist _ row).trans ih).trans (List.sublist_append_left ..)

theorem createdKeys_of_concat {past : List Event} {e : Event}
    (h : ((past ++ [e]).filterMap Event.createdKey).Nodup) : (past.filterMap Event.createdKey).Nodup := by
  rw [List.filterMap_append] at h
  exact (List.nodup_append.mp h).1

theorem createClient_clientsTable {past : List Event} {key : Key} {sizes : List Nat} {s : Server}
    (hkeys : ((past ++ [Event.create key sizes]).filterMap Event.createdKey).Nodup)
    (htable : s.clientsTable.map Client.publicKey = living past) :
    ¬s.clientsTable.any (·.publicKey = key) = true := by
  rw [List.filterMap_append] at hkeys
  rw [List.any_eq_true]
  rintro ⟨client, hclient, hkey⟩
  have hliving : client.publicKey ∈ living past := htable ▸ List.mem_map_of_mem hclient
  exact (List.nodup_append.mp hkeys).2.2 _ ((living_sublist past).subset hliving) key (by simp [Event.createdKey])
    (of_decide_eq_true hkey)

theorem clientsTable_eq_living {events : List Event} (hkeys : (events.filterMap Event.createdKey).Nodup) :
    (run setup events).clientsTable.map Client.publicKey = living events := by
  induction events using List.reverseRecOn with
  | nil => rfl
  | append_singleton past e ih =>
    have htable := ih (createdKeys_of_concat hkeys)
    rw [run_concat, living_concat]
    cases e with
    | create key sizes =>
      simp only [step, livingStep, Server.createClient, Server.newClient, if_neg (createClient_clientsTable hkeys htable),
        List.map_append, htable, List.map_cons, List.map_nil]
    | revoke row =>
      rw [← htable, livingStep, List.eraseIdx_map]
      simp only [step, Server.revokeWireGuard]
      split
      next hnone => rw [List.eraseIdx_of_length_le (List.getElem?_eq_none_iff.mp hnone)]
      · rfl

theorem withoutSection_client {rest : List Char} (hconfig : setup.serverConfig = '[' :: (interfaceHeader ++ rest))
    (hrest : '[' ∉ rest) {clients : List Client} (hkeys : (clients.map Client.publicKey).Nodup)
    (helsewhere : NowhereElse setup clients) {row : Nat} {client : Client} (hrow : clients[row]? = some client) :
    withoutSection client.publicKey.text (setup.serverConfig ++ clients.flatMap (configPart setup.pskKey)) =
      setup.serverConfig ++ (clients.eraseIdx row).flatMap (configPart setup.pskKey) := by
  obtain ⟨first, hfirst, hbracket, hne⟩ : ∃ first, setup.serverConfig = '[' :: first ∧ '[' ∉ first ∧ first ≠ [] := by
    refine ⟨interfaceHeader ++ rest, hconfig, ?_, fun hnil => ?_⟩
    · rw [List.mem_append, not_or]
      exact ⟨by decide, hrest⟩
    · exact absurd (List.append_eq_nil_iff.mp hnil).1 (by decide)
  have hmem := List.mem_of_getElem? hrow
  have hflat (cs : List Client) : cs.flatMap (configPart setup.pskKey) =
      (cs.map (peerBody setup.pskKey)).flatMap ('[' :: ·) := by
    rw [List.flatMap_map]
    rfl
  rw [hflat, hflat, hfirst, List.cons_append, List.cons_append, ← List.eraseIdx_map]
  refine withoutSection_spec ?_ ?_ ?_ (by rw [List.getElem?_map, hrow]; rfl)
    (publicKey_within_peerBody setup.pskKey client) ?_
  · intro part hpart
    rcases List.mem_cons.mp hpart with rfl | hpart
    · exact hbracket
    · obtain ⟨other, -, rfl⟩ := List.mem_map.mp hpart
      exact bracket_not_mem_peerBody setup.pskKey other
  · intro part hpart
    rcases List.mem_cons.mp hpart with rfl | hpart
    · exact hne
    · obtain ⟨other, -, rfl⟩ := List.mem_map.mp hpart
      simp [peerBody]
  · intro hwithin
    refine (helsewhere client hmem).1 ?_
    rw [hfirst]
    exact hwithin.trans (List.suffix_cons '[' first).isInfix
  · intro j part hj hwithin
    rw [List.getElem?_map, Option.map_eq_some_iff] at hj
    obtain ⟨other, hother, rfl⟩ := hj
    have hsame : other = client := by
      by_contra hdifferent
      refine (helsewhere client hmem).2 other (List.mem_of_getElem? hother) hdifferent ?_
      exact hwithin.trans (List.suffix_cons '[' _).isInfix
    subst hsame
    obtain ⟨hj, hothereq⟩ := List.getElem?_eq_some_iff.mp hother
    obtain ⟨hr, hroweq⟩ := List.getElem?_eq_some_iff.mp hrow
    exact (List.Nodup.getElem_inj_iff (List.Nodup.of_map _ hkeys)).mp (hothereq.trans hroweq.symm)

theorem server_file_text {rest : List Char} (hconfig : setup.serverConfig = '[' :: (interfaceHeader ++ rest))
    (hrest : '[' ∉ rest) {events : List Event} (hkeys : (events.filterMap Event.createdKey).Nodup)
    (helsewhere : ∀ past, past <+: events → NowhereElse setup (run setup past).clientsTable) :
    (run setup events).text =
        setup.serverConfig ++ (run setup events).clientsTable.flatMap (configPart setup.pskKey) ∧
      (run setup events).clientsTable.map Client.publicKey = living events := by
  refine ⟨?_, clientsTable_eq_living hkeys⟩
  induction events using List.reverseRecOn with
  | nil => exact (List.append_nil _).symm
  | append_singleton past e ih =>
    have hpast := createdKeys_of_concat hkeys
    have htable : (run setup past).clientsTable.map Client.publicKey = living past := clientsTable_eq_living hpast
    have htext := ih hpast fun part hpart => helsewhere part (hpart.trans (List.prefix_append past [e]))
    rw [run_concat]
    cases e with
    | create key sizes =>
      simp only [step, Server.createClient, if_neg (createClient_clientsTable hkeys htable), htext,
        List.flatMap_append, List.append_assoc, List.flatMap_cons, List.flatMap_nil, List.append_nil]
    | revoke row =>
      simp only [step, Server.revokeWireGuard]
      split
      · exact htext
      next client hrow =>
        have hdistinct : ((run setup past).clientsTable.map Client.publicKey).Nodup := by
          rw [htable]
          exact hpast.sublist (living_sublist past)
        simp only [htext]
        exact withoutSection_client hconfig hrest hdistinct (helsewhere past (List.prefix_append past _)) hrow

theorem run_head (hconfig : setup.serverConfig.head? = some '[') (events : List Event) :
    (run setup events).text.head? = some '[' := by
  induction events using List.reverseRecOn with
  | nil => exact hconfig
  | append_singleton past e ih =>
    rw [run_concat]
    cases e with
    | create key sizes =>
      simp only [step, Server.createClient, List.head?_append, ih]
      rfl
    | revoke row =>
      simp only [step, Server.revokeWireGuard]
      split
      · exact ih
      · rfl

theorem ServerFile.step_toUtf8 {s : Server} (hs : s.text.head? = some '[') (e : Event) :
    ServerFile.step setup ⟨Text.toUtf8 s.text, s.clientsTable⟩ e =
      ⟨Text.toUtf8 (SelfHosted.step setup s e).text, (SelfHosted.step setup s e).clientsTable⟩ := by
  have hread : ServerFile.read ⟨Text.toUtf8 s.text, s.clientsTable⟩ = s := by
    rw [ServerFile.read, Text.fromUtf8_toUtf8]
    rw [hs]
    decide
  cases e with
  | create key sizes =>
    rw [ServerFile.step, hread]
    exact congrArg (ServerFile.mk · _) List.flatMap_append.symm
  | revoke row =>
    rw [ServerFile.step, hread]
    split
    · rfl
    next hrow =>
      simp only [SelfHosted.step, Server.revokeWireGuard, List.getElem?_eq_none (Nat.le_of_not_lt hrow)]

/-- A file that holds a text in UTF-8 goes on holding the text of the run. -/
theorem bytes_run (hconfig : setup.serverConfig.head? = some '[') (events : List Event) :
    ServerFile.run setup (Text.toUtf8 setup.serverConfig) events =
      ⟨Text.toUtf8 (run setup events).text, (run setup events).clientsTable⟩ := by
  induction events using List.reverseRecOn with
  | nil => rfl
  | append_singleton past e ih =>
    rw [run_concat, ← ServerFile.step_toUtf8 (run_head hconfig past), ← ih, ServerFile.run, List.foldl_append]
    rfl

/-- A file in UTF-8 is what it was, followed by the sections of the clients that were created and not revoked. -/
theorem server_file_bytes {rest : List Char} (hconfig : setup.serverConfig = '[' :: (interfaceHeader ++ rest))
    (hrest : '[' ∉ rest) {bytes : List UInt8} (hbytes : bytes = Text.toUtf8 setup.serverConfig) {events : List Event}
    (hkeys : (events.filterMap Event.createdKey).Nodup)
    (helsewhere : ∀ past, past <+: events → NowhereElse setup (ServerFile.run setup bytes past).clientsTable) :
    (ServerFile.run setup bytes events).bytes = bytes ++
        (ServerFile.run setup bytes events).clientsTable.flatMap (Text.toUtf8 ∘ configPart setup.pskKey) ∧
      (ServerFile.run setup bytes events).clientsTable.map Client.publicKey = living events := by
  subst hbytes
  have hhead : setup.serverConfig.head? = some '[' := by rw [hconfig]; rfl
  simp only [bytes_run hhead] at helsewhere ⊢
  obtain ⟨htext, htable⟩ := server_file_text hconfig hrest hkeys helsewhere
  refine ⟨?_, htable⟩
  rw [htext, Text.toUtf8, List.flatMap_append, List.flatMap_assoc]
  rfl

end File

section Samples

def defaultSetup : Setup where
  serverConfig := '[' :: (interfaceHeader ++ ['\n'])
  pskKey := ⟨"UFNL".toList, by decide⟩
  subnetAddress := "10.8.1.0".toList

def firstKey : Key := ⟨"Zmlyc3Q=".toList, by decide⟩

def secondKey : Key := ⟨"c2Vjb25k".toList, by decide⟩

/-- Two clients are created, and the first of them is revoked. -/
theorem server_file_bytes_revoked :
    (ServerFile.run defaultSetup (Text.toUtf8 defaultSetup.serverConfig)
        [.create firstKey [], .create secondKey [], .revoke 0]).bytes =
      Text.toUtf8 defaultSetup.serverConfig ++
        Text.toUtf8 (configPart defaultSetup.pskKey ⟨secondKey, 0x0A080102⟩) := by
  have helsewhere : ∀ past ∈ [.create firstKey [], .create secondKey [], .revoke 0].inits, NowhereElse defaultSetup
      (ServerFile.run defaultSetup (Text.toUtf8 defaultSetup.serverConfig) past).clientsTable := by decide +kernel
  have htable : (ServerFile.run defaultSetup (Text.toUtf8 defaultSetup.serverConfig)
      [.create firstKey [], .create secondKey [], .revoke 0]).clientsTable = [⟨secondKey, 0x0A080102⟩] := by
    decide +kernel
  have hconfig : defaultSetup.serverConfig = '[' :: (interfaceHeader ++ ['\n']) := rfl
  have hbytes := (server_file_bytes hconfig (by decide) rfl (by decide) fun past hpast =>
    helsewhere past ((List.mem_inits _ _).mpr hpast)).1
  rw [hbytes, htable, List.flatMap_singleton]
  rfl

/-- The first line of a file, and a comment in Latin-1: `# caf\xe9`. -/
def latin1File : List UInt8 := Text.toUtf8 "[Interface]\n# caf".toList ++ [0xE9, 0x0A]

/-- A client that comes and goes leaves three bytes in the place of one. -/
theorem latin1_byte_replaced : latin1File.count 0x5B = 1 ∧
    (ServerFile.run defaultSetup latin1File [.create firstKey [], .revoke 0]).clientsTable = [] ∧
    (ServerFile.run defaultSetup latin1File [.create firstKey [], .revoke 0]).bytes =
      Text.toUtf8 "[Interface]\n# caf".toList ++ [0xEF, 0xBF, 0xBD, 0x0A] := by decide +kernel

end Samples

end TunnelCore.SelfHosted
