import TunnelCore.Daemon.Config
import TunnelCore.Library.Runs

namespace TunnelCore.Daemon.DnsUtilsMacos

abbrev Units := List UInt16

/-- Values of a property list, as far as the class tells them apart. -/
inductive CFValue
  | string (text : Units)
  | array (values : List CFValue)
  | other (value : Nat)

inductive Key
  | domainName
  | searchDomains
  | serverAddresses
  | sortList
  | other (name : String)
deriving DecidableEq

abbrev Dictionary := Key → Option CFValue

def Dictionary.empty : Dictionary := fun _ => none

def Dictionary.set (name : Key) (value : CFValue) (dict : Dictionary) : Dictionary :=
  Function.update dict name (some value)

/-- `QString::fromUtf16` takes a byte order mark off, and reads the rest in the order it says. -/
def fromUtf16 : Units → Units
  | [] => []
  | unit :: units =>
    if unit = 0xFEFF then units
    else if unit = 0xFFFE then units.map fun u : UInt16 => u <<< 8 ||| u >>> 8
    else unit :: units

def isHighSurrogate (unit : UInt16) : Bool := 0xD800 ≤ unit && unit ≤ 0xDBFF

def isLowSurrogate (unit : UInt16) : Bool := 0xDC00 ≤ unit && unit ≤ 0xDFFF

/-- The text by way of UTF-8: an unpaired surrogate becomes a question mark. -/
def viaUtf8 : Units → Units
  | [] => []
  | [unit] => if isHighSurrogate unit || isLowSurrogate unit then [0x3F] else [unit]
  | unit :: next :: units =>
    if isHighSurrogate unit && isLowSurrogate next then unit :: next :: viaUtf8 units
    else if isHighSurrogate unit || isLowSurrogate unit then 0x3F :: viaUtf8 (next :: units)
    else unit :: viaUtf8 (next :: units)

/-- `CFStringCreateWithCString` of `qUtf8Printable`: the text ends before the first NUL. -/
def printable (text : Units) : Units := (viaUtf8 text).takeWhile (· ≠ 0)

/-- `none` is a null string. -/
def cfParseString : CFValue → Option Units
  | .string [] => none
  | .string text => some (fromUtf16 text)
  | _ => none

def cfParseStringList : CFValue → List (Option Units)
  | .array values => values.map cfParseString
  | _ => []

def cfDictSetString (dict : Dictionary) (name : Key) : Option Units → Dictionary
  | none => dict
  | some value => dict.set name (.string (printable value))

def cfDictSetStringList (dict : Dictionary) (name : Key) (valueList : List (Option Units)) : Dictionary :=
  if valueList = [] then dict
  else dict.set name (.array (valueList.map fun value => .string (printable (value.getD []))))

structure DnsBackup where
  domain : Option Units := none
  search : List (Option Units) := []
  servers : List (Option Units) := []
  sortlist : List (Option Units) := []

def DnsBackup.isValid (backup : DnsBackup) : Bool :=
  backup.domain.getD [] ≠ [] ∨ backup.search ≠ [] ∨ backup.servers ≠ [] ∨ backup.sortlist ≠ []

def backupOf : Option Dictionary → DnsBackup
  | none => {}
  | some config =>
    { domain := (config .domainName).bind cfParseString
      servers := ((config .serverAddresses).map cfParseStringList).getD []
      search := ((config .searchDomains).map cfParseStringList).getD []
      sortlist := ((config .sortList).map cfParseStringList).getD [] }

/-- The DNS entry that `restoreResolvers` makes of a backup, `none` if it removes the entry. -/
def DnsBackup.entry (backup : DnsBackup) : Option Dictionary :=
  if backup.isValid then
    let config := cfDictSetString .empty .domainName backup.domain
    let config := cfDictSetStringList config .searchDomains backup.search
    let config := cfDictSetStringList config .serverAddresses backup.servers
    some (cfDictSetStringList config .sortList backup.sortlist)
  else none

structure Machine where
  services : List String
  nodup : services.Nodup
  named : "" ∉ services
  /-- `QHostAddress::toString` -/
  text : QHostAddress → Units

structure State where
  /-- `Setup:/Network/Service/<uuid>/DNS` -/
  dns : String → Option Dictionary
  prevServices : AList (fun _ : String => DnsBackup) := ∅
  /-- The entries before the first update since the last restore. -/
  before : String → Option Dictionary := dns
  /-- The resolvers of the updates since the last restore, the latest first. -/
  updates : List (List QHostAddress) := []

def lan : Units := [0x6C, 0x61, 0x6E]

section Calls

variable (machine : Machine)

def dnsConfig (resolvers : List QHostAddress) : Dictionary :=
  cfDictSetString (cfDictSetStringList .empty .serverAddresses (resolvers.map fun addr => some (machine.text addr)))
    .domainName (some lan)

def State.backupService (uuid : String) (s : State) : State :=
  { s with prevServices := s.prevServices.insert uuid (backupOf (s.dns uuid)) }

def State.setEntry (uuid : String) (entry : Option Dictionary) (s : State) : State :=
  { s with dns := Function.update s.dns uuid entry }

def State.updateService (config : Dictionary) (s : State) (uuid : String) : State :=
  if uuid = "" then s else (s.backupService uuid).setEntry uuid (some config)

def State.updateResolvers (resolvers : List QHostAddress) (s : State) : State :=
  machine.services.foldl (State.updateService (dnsConfig machine resolvers))
    { s with before := if s.updates = [] then s.dns else s.before, updates := resolvers :: s.updates }

def State.restoreService (s : State) (uuid : String) : State :=
  s.setEntry uuid ((s.prevServices.lookup uuid).getD {}).entry

def State.restoreResolvers (s : State) : State :=
  { s.prevServices.keys.foldl State.restoreService s with prevServices := ∅, updates := [] }

end Calls

inductive Call
  | updateResolvers (resolvers : List QHostAddress)
  | restoreResolvers

section Runs

variable (machine : Machine)

def step (s : State) : Call → State
  | .updateResolvers resolvers => s.updateResolvers machine resolvers
  | .restoreResolvers => s.restoreResolvers

def start (dns : String → Option Dictionary) : State := { dns }

def run (dns : String → Option Dictionary) (calls : List Call) : State := calls.foldl (step machine) (start dns)

/-- After a restore every service has the entry that it had before the updates. -/
def Restored (s : State) : Prop := s.updates = [] → ∀ uuid ∈ machine.services, s.dns uuid = s.before uuid

def Verbatim (text : Units) : Prop := printable (fromUtf16 text) = text

/-- A dictionary that comes back as it was: it has an entry, none but the four that are saved, and these are texts. -/
structure Dictionary.Plain (dict : Dictionary) : Prop where
  nonempty : ∃ name, dict name ≠ none
  known : ∀ name, dict (.other name) = none
  domain : ∀ value ∈ dict .domainName, ∃ text, text ≠ [] ∧ value = .string text ∧ Verbatim text
  lists : ∀ name ∈ [Key.searchDomains, .serverAddresses, .sortList], ∀ value ∈ dict name,
    ∃ texts : List Units, texts ≠ [] ∧ value = .array (texts.map .string) ∧ ∀ text ∈ texts, Verbatim text

/-- There has been one update and the entries come back as they were, or there have been more and they were already what
comes back of the entry of the last but one. -/
def Call.Plain (s : State) : Call → Prop
  | .updateResolvers _ => True
  | .restoreResolvers =>
    match s.updates with
    | [] => True
    | [_] => ∀ uuid ∈ machine.services, ∀ dict ∈ s.before uuid, dict.Plain
    | _ :: resolvers :: _ =>
      ∀ uuid ∈ machine.services, s.before uuid = (backupOf (some (dnsConfig machine resolvers))).entry

end Runs

section Entries

def keptString (value : Option CFValue) : Option CFValue :=
  (value.bind cfParseString).map fun t => .string (printable t)

def keptList (value : Option CFValue) : Option CFValue :=
  let valueList := (value.map cfParseStringList).getD []
  if valueList = [] then none else some (.array (valueList.map fun t => .string (printable (t.getD []))))

def Dictionary.kept (dict : Dictionary) : Dictionary
  | .domainName => keptString (dict .domainName)
  | .searchDomains => keptList (dict .searchDomains)
  | .serverAddresses => keptList (dict .serverAddresses)
  | .sortList => keptList (dict .sortList)
  | .other _ => none

theorem cfDictSetString_apply (dict : Dictionary) (name k : Key) (value : Option Units) :
    cfDictSetString dict name value k =
      if k = name then (value.map fun t => CFValue.string (printable t)).or (dict k) else dict k := by
  cases value with
  | none => simp [cfDictSetString]
  | some t => simp [cfDictSetString, Dictionary.set, Function.update_apply]

theorem cfDictSetStringList_apply (dict : Dictionary) (name k : Key) (valueList : List (Option Units)) :
    cfDictSetStringList dict name valueList k =
      if k = name ∧ valueList ≠ [] then some (.array (valueList.map fun t => .string (printable (t.getD []))))
      else dict k := by
  rw [cfDictSetStringList]
  by_cases hnil : valueList = []
  · simp [hnil]
  · simp [hnil, Dictionary.set, Function.update_apply]

theorem entry_backupOf (dict : Dictionary) :
    (backupOf (some dict)).entry = if (backupOf (some dict)).isValid then some dict.kept else none := by
  rw [DnsBackup.entry]
  split
  · refine congrArg some (funext fun k => ?_)
    simp only [cfDictSetStringList_apply, cfDictSetString_apply, backupOf]
    cases k with
    | other name => rfl
    | _ =>
      simp only [Dictionary.kept, keptString, keptList, Dictionary.empty]
      simp
  · rfl

theorem verbatim_nil : Verbatim [] := rfl

theorem Verbatim.fromUtf16_ne_nil {text : Units} (h : Verbatim text) (hne : text ≠ []) : fromUtf16 text ≠ [] := by
  intro hnil
  rw [Verbatim, hnil] at h
  exact hne h.symm

theorem cfParseString_of_ne_nil {text : Units} (h : text ≠ []) :
    cfParseString (.string text) = some (fromUtf16 text) := by
  cases text with
  | nil => exact absurd rfl h
  | cons unit units => rfl

variable {value : Option CFValue}

theorem keptString_eq_self_iff :
    keptString value = value ↔ ∀ v ∈ value, ∃ text, text ≠ [] ∧ v = .string text ∧ Verbatim text := by
  cases value with
  | none => exact iff_of_true rfl nofun
  | some v =>
    have hone (P : CFValue → Prop) : (∀ v' ∈ some v, P v') ↔ P v := by simp
    rw [hone]
    constructor
    · intro h
      obtain ⟨t, ht, hv⟩ := Option.map_eq_some_iff.mp h
      cases v with
      | string text =>
        cases text with
        | nil => cases ht
        | cons unit units =>
          obtain rfl := Option.some.inj ht
          exact ⟨unit :: units, nofun, rfl, CFValue.string.inj hv⟩
      | array values => cases ht
      | other value => cases ht
    · rintro ⟨text, hne, rfl, hverbatim⟩
      rw [keptString, Option.bind_some, cfParseString_of_ne_nil hne, Option.map_some, hverbatim]

theorem printable_cfParseString_eq_iff {v : CFValue} :
    .string (printable ((cfParseString v).getD [])) = v ↔ ∃ text, v = .string text ∧ Verbatim text := by
  constructor
  · intro h
    cases v with
    | string text =>
      refine ⟨text, rfl, ?_⟩
      cases text with
      | nil => exact verbatim_nil
      | cons unit units => exact CFValue.string.inj h
    | array values => cases h
    | other value => cases h
  · rintro ⟨text, rfl, hverbatim⟩
    cases text with
    | nil => rfl
    | cons unit units => exact congrArg CFValue.string hverbatim

theorem forall_texts_iff {values : List CFValue} :
    (∀ v ∈ values, ∃ text, v = .string text ∧ Verbatim text) ↔
      ∃ texts : List Units, values = texts.map .string ∧ ∀ text ∈ texts, Verbatim text := by
  constructor
  · intro h
    induction values with
    | nil => exact ⟨[], rfl, nofun⟩
    | cons v values ih =>
      obtain ⟨text, rfl, htext⟩ := h v (.head _)
      obtain ⟨texts, rfl, htexts⟩ := ih fun v hv => h v (.tail _ hv)
      exact ⟨text :: texts, rfl, List.forall_mem_cons.mpr ⟨htext, htexts⟩⟩
  · rintro ⟨texts, rfl, htexts⟩ v hv
    obtain ⟨text, htext, rfl⟩ := List.mem_map.mp hv
    exact ⟨text, rfl, htexts text htext⟩

theorem keptList_eq_self_iff :
    keptList value = value ↔ ∀ v ∈ value,
      ∃ texts : List Units, texts ≠ [] ∧ v = .array (texts.map .string) ∧ ∀ text ∈ texts, Verbatim text := by
  cases value with
  | none => exact iff_of_true rfl nofun
  | some v =>
    have hone (P : CFValue → Prop) : (∀ v' ∈ some v, P v') ↔ P v := by simp
    rw [hone]
    cases v with
    | string text => exact iff_of_false nofun fun ⟨_, _, heq, _⟩ => nomatch heq
    | other value => exact iff_of_false nofun fun ⟨_, _, heq, _⟩ => nomatch heq
    | array values =>
      have hvalues : keptList (some (.array values)) = some (.array values) ↔
          values ≠ [] ∧ ∀ v ∈ values, CFValue.string (printable ((cfParseString v).getD [])) = v := by
        have hself (f : CFValue → CFValue) (l : List CFValue) : l.map f = l ↔ ∀ v ∈ l, f v = v := by
          have hinj := List.map_inj_left (f := f) (g := id) (l := l)
          rwa [List.map_id] at hinj
        cases values with
        | nil => exact iff_of_false nofun fun h => h.1 rfl
        | cons v values =>
          rw [keptList, Option.map_some, Option.getD_some, cfParseStringList, if_neg nofun, List.map_map,
            Option.some.injEq, CFValue.array.injEq, hself]
          exact (and_iff_right nofun).symm
      rw [hvalues]
      simp only [printable_cfParseString_eq_iff, forall_texts_iff, CFValue.array.injEq]
      constructor
      · rintro ⟨hne, texts, rfl, htexts⟩
        exact ⟨texts, fun hnil => hne (by rw [hnil, List.map_nil]), rfl, htexts⟩
      · rintro ⟨texts, hne, rfl, htexts⟩
        exact ⟨fun hnil => hne (List.map_eq_nil_iff.mp hnil), texts, rfl, htexts⟩

theorem kept_eq_self_iff {dict : Dictionary} :
    dict.kept = dict ↔ (∀ name, dict (.other name) = none) ∧ keptString (dict .domainName) = dict .domainName ∧
      ∀ name ∈ [Key.searchDomains, .serverAddresses, .sortList], keptList (dict name) = dict name := by
  constructor
  · intro h
    refine ⟨fun name => (congrFun h (.other name)).symm, congrFun h .domainName, ?_⟩
    simp only [List.forall_mem_cons]
    exact ⟨congrFun h .searchDomains, congrFun h .serverAddresses, congrFun h .sortList, nofun⟩
  · rintro ⟨hother, hdomain, hlists⟩
    funext k
    cases k with
    | domainName => exact hdomain
    | searchDomains => exact hlists _ (.head _)
    | serverAddresses => exact hlists _ (.tail _ (.head _))
    | sortList => exact hlists _ (.tail _ (.tail _ (.head _)))
    | other name => exact (hother name).symm

theorem valueList_ne_nil (h : keptList value = value) (hsome : value ≠ none) :
    (value.map cfParseStringList).getD [] ≠ [] := by
  intro hnil
  rw [keptList, if_pos hnil] at h
  exact hsome h.symm

theorem entry_backupOf_eq_iff (entry : Option Dictionary) :
    (backupOf entry).entry = entry ↔ ∀ dict ∈ entry, dict.Plain := by
  cases entry with
  | none => exact iff_of_true rfl nofun
  | some dict =>
    have hone (P : Dictionary → Prop) : (∀ dict' ∈ some dict, P dict') ↔ P dict := by simp
    rw [hone, entry_backupOf]
    constructor
    · intro h
      split at h
      next hvalid =>
        obtain ⟨hother, hdomain, hlists⟩ := kept_eq_self_iff.mp (Option.some.inj h)
        refine ⟨?_, hother, keptString_eq_self_iff.mp hdomain, ?_⟩
        swap
        · exact fun name hname => keptList_eq_self_iff.mp (hlists name hname)
        by_contra hempty
        simp only [not_exists, not_not] at hempty
        simp [DnsBackup.isValid, backupOf, hempty] at hvalid
      · cases h
    · rintro ⟨⟨name, hname⟩, hother, hdomain, hlists⟩
      have hstring := keptString_eq_self_iff.mpr hdomain
      have hkeptLists := fun name hname => keptList_eq_self_iff.mpr (hlists name hname)
      have hvalid : (backupOf (some dict)).isValid = true := by
        refine decide_eq_true ?_
        cases name with
        | domainName =>
          obtain ⟨v, hv⟩ := Option.ne_none_iff_exists'.mp hname
          obtain ⟨text, hne, rfl, hverbatim⟩ := hdomain v hv
          refine .inl ?_
          simp only [backupOf, hv, Option.bind_some, cfParseString_of_ne_nil hne, Option.getD_some]
          exact hverbatim.fromUtf16_ne_nil hne
        | searchDomains => exact .inr (.inl (valueList_ne_nil (hkeptLists _ (by simp)) hname))
        | serverAddresses => exact .inr (.inr (.inl (valueList_ne_nil (hkeptLists _ (by simp)) hname)))
        | sortList => exact .inr (.inr (.inr (valueList_ne_nil (hkeptLists _ (by simp)) hname)))
        | other name => exact absurd (hother name) hname
      rw [if_pos hvalid, kept_eq_self_iff.mpr ⟨hother, hstring, hkeptLists⟩]

end Entries

section Runs

variable {machine : Machine} {s : State}

theorem updateService_other (config : Dictionary) {uuid other : String} (h : other ≠ uuid) :
    (s.updateService config other).dns uuid = s.dns uuid ∧
      (s.updateService config other).prevServices.lookup uuid = s.prevServices.lookup uuid := by
  rw [State.updateService]
  split
  · exact ⟨rfl, rfl⟩
  · exact ⟨Function.update_of_ne (Ne.symm h) _ _, AList.lookup_insert_ne (Ne.symm h)⟩

theorem foldl_updateService_other (config : Dictionary) {uuid : String} {services : List String}
    (h : uuid ∉ services) (s : State) :
    (services.foldl (State.updateService config) s).dns uuid = s.dns uuid ∧
      (services.foldl (State.updateService config) s).prevServices.lookup uuid = s.prevServices.lookup uuid := by
  induction services generalizing s with
  | nil => exact ⟨rfl, rfl⟩
  | cons other services ih =>
    rw [List.mem_cons, not_or] at h
    obtain ⟨hdns, hprev⟩ := updateService_other (s := s) config (Ne.symm h.1)
    obtain ⟨hdns', hprev'⟩ := ih h.2 (s.updateService config other)
    exact ⟨hdns'.trans hdns, hprev'.trans hprev⟩

theorem foldl_updateService (config : Dictionary) {uuid : String} {services : List String} (hnodup : services.Nodup)
    (h : uuid ∈ services) (hne : uuid ≠ "") (s : State) :
    (services.foldl (State.updateService config) s).dns uuid = some config ∧
      (services.foldl (State.updateService config) s).prevServices.lookup uuid = some (backupOf (s.dns uuid)) := by
  induction services generalizing s with
  | nil => cases h
  | cons other services ih =>
    obtain ⟨hnew, hnodup⟩ := List.nodup_cons.mp hnodup
    rw [List.foldl_cons]
    by_cases hsame : other = uuid
    · subst hsame
      obtain ⟨hdns, hprev⟩ := foldl_updateService_other config hnew (s.updateService config other)
      rw [hdns, hprev, State.updateService, if_neg hne]
      exact ⟨Function.update_self _ _ _, AList.lookup_insert _⟩
    · have hlater := (List.mem_cons.mp h).resolve_left (Ne.symm hsame)
      obtain ⟨hdns, hprev⟩ := ih hnodup hlater (s.updateService config other)
      rw [(updateService_other config hsame).1] at hprev
      exact ⟨hdns, hprev⟩

theorem foldl_updateService_ghosts (config : Dictionary) (services : List String) (s : State) :
    (services.foldl (State.updateService config) s).before = s.before ∧
      (services.foldl (State.updateService config) s).updates = s.updates := by
  induction services generalizing s with
  | nil => exact ⟨rfl, rfl⟩
  | cons uuid services ih =>
    have hone : (s.updateService config uuid).before = s.before ∧
        (s.updateService config uuid).updates = s.updates := by
      rw [State.updateService]
      split <;> exact ⟨rfl, rfl⟩
    obtain ⟨hbefore, hupdates⟩ := ih (s.updateService config uuid)
    exact ⟨hbefore.trans hone.1, hupdates.trans hone.2⟩

theorem updates_updateResolvers (machine : Machine) (resolvers : List QHostAddress) (s : State) :
    (s.updateResolvers machine resolvers).updates = resolvers :: s.updates :=
  (foldl_updateService_ghosts _ _ _).2

theorem foldl_restoreService (uuids : List String) (s : State) :
    uuids.foldl State.restoreService s =
      { s with
        dns := fun uuid => if uuid ∈ uuids then ((s.prevServices.lookup uuid).getD {}).entry else s.dns uuid } := by
  induction uuids generalizing s with
  | nil => simp
  | cons other uuids ih =>
    rw [List.foldl_cons, ih]
    refine congrArg (fun dns => { s with dns }) (funext fun uuid => ?_)
    by_cases hlater : uuid ∈ uuids
    · rw [if_pos hlater, if_pos (.tail _ hlater)]
      rfl
    · rw [if_neg hlater]
      change Function.update s.dns other _ uuid = _
      rw [Function.update_apply]
      by_cases hsame : uuid = other
      · subst hsame
        rw [if_pos rfl, if_pos (.head _)]
      · rw [if_neg hsame, if_neg (by simp [hsame, hlater])]

theorem dns_restoreResolvers (s : State) (uuid : String) :
    s.restoreResolvers.dns uuid = ((s.prevServices.lookup uuid).map DnsBackup.entry).getD (s.dns uuid) := by
  rw [State.restoreResolvers, foldl_restoreService]
  change (if uuid ∈ s.prevServices.keys then ((s.prevServices.lookup uuid).getD {}).entry else s.dns uuid) = _
  split
  next hmem =>
    have hsome := AList.lookup_isSome.mpr (AList.mem_keys.mpr hmem)
    obtain ⟨backup, hbackup⟩ := Option.isSome_iff_exists.mp hsome
    rw [hbackup]
    rfl
  next hmem =>
    rw [AList.lookup_eq_none.mpr fun h => hmem (AList.mem_keys.mp h)]
    rfl

def State.prior (machine : Machine) (s : State) (uuid : String) : Option Dictionary :=
  match s.updates with
  | _ :: resolvers :: _ => some (dnsConfig machine resolvers)
  | _ => s.before uuid

/-- The backups are of what the last update found, and the entries are those that it has made. -/
structure Tracked (machine : Machine) (s : State) : Prop where
  idle : s.updates = [] → s.prevServices = ∅
  entry : ∀ resolvers past, s.updates = resolvers :: past → ∀ uuid ∈ machine.services,
    s.dns uuid = some (dnsConfig machine resolvers) ∧
      s.prevServices.lookup uuid = some (backupOf (s.prior machine uuid))

theorem Tracked.updateResolvers (h : Tracked machine s) (resolvers : List QHostAddress) :
    Tracked machine (s.updateResolvers machine resolvers) := by
  have hbefore : (s.updateResolvers machine resolvers).before = if s.updates = [] then s.dns else s.before :=
    (foldl_updateService_ghosts _ _ _).1
  have hupdates := updates_updateResolvers machine resolvers s
  refine ⟨fun hnone => ?_, fun resolvers' past hlast uuid huuid => ?_⟩
  · rw [hupdates] at hnone
    cases hnone
  · obtain ⟨rfl, rfl⟩ := List.cons.inj (hupdates.symm.trans hlast)
    have hprior : (s.updateResolvers machine resolvers).prior machine uuid = s.dns uuid := by
      rw [State.prior, hlast]
      cases hpast : s.updates with
      | nil =>
        change (s.updateResolvers machine resolvers).before uuid = s.dns uuid
        rw [hbefore, if_pos hpast]
      | cons last past => exact (h.entry last past hpast uuid huuid).1.symm
    rw [hprior]
    exact foldl_updateService _ machine.nodup huuid (ne_of_mem_of_not_mem huuid machine.named) _

theorem Tracked.restoreResolvers : Tracked machine s.restoreResolvers := ⟨fun _ => rfl, fun _ _ h => nomatch h⟩

theorem tracked_run (dns : String → Option Dictionary) (calls : List Call) :
    Tracked machine (run machine dns calls) := by
  induction calls using List.reverseRecOn with
  | nil => exact ⟨fun _ => rfl, fun _ _ h => nomatch h⟩
  | append_singleton calls c ih =>
    rw [run, List.foldl_append]
    cases c with
    | updateResolvers resolvers => exact ih.updateResolvers resolvers
    | restoreResolvers => exact Tracked.restoreResolvers

theorem restored_restoreResolvers_iff (h : Tracked machine s) (hs : Restored machine s) :
    Restored machine s.restoreResolvers ↔ Call.restoreResolvers.Plain machine s := by
  have hbefore : s.restoreResolvers.before = s.before := by
    rw [State.restoreResolvers, foldl_restoreService]
  have hupdates : s.restoreResolvers.updates = [] := rfl
  rw [Restored, imp_iff_right hupdates, Call.Plain, hbefore]
  cases hlast : s.updates with
  | nil =>
    refine iff_of_true (fun uuid huuid => ?_) trivial
    rw [dns_restoreResolvers, h.idle hlast]
    exact hs hlast uuid huuid
  | cons resolvers past =>
    have hdns (uuid : String) (huuid : uuid ∈ machine.services) :
        s.restoreResolvers.dns uuid = (backupOf (s.prior machine uuid)).entry := by
      rw [dns_restoreResolvers, (h.entry resolvers past hlast uuid huuid).2]
      rfl
    cases past with
    | nil =>
      refine forall₂_congr fun uuid huuid => ?_
      rw [hdns uuid huuid, State.prior, hlast]
      exact entry_backupOf_eq_iff (s.before uuid)
    | cons resolvers' past =>
      refine forall₂_congr fun uuid huuid => ?_
      rw [hdns uuid huuid, State.prior, hlast]
      exact eq_comm

end Runs

theorem dns_restored_iff (machine : Machine) (dns : String → Option Dictionary) (calls : List Call) :
    (∀ past, past <+: calls → Restored machine (run machine dns past)) ↔
      Along (step machine) (Call.Plain machine) (start dns) calls := by
  refine forall_prefix_iff_along (I := Restored machine) (fun _ _ _ => rfl) (fun past c hs => ?_) calls
  cases c with
  | updateResolvers resolvers =>
    refine iff_of_true (fun hnone => ?_) trivial
    rw [step, updates_updateResolvers] at hnone
    cases hnone
  | restoreResolvers => exact restored_restoreResolvers_iff (tracked_run dns past) hs

def sampleMachine : Machine where
  services := ["8A1B"]
  nodup := by decide
  named := by decide
  text _ := [0x31]

/-- The service has a name server "9" and an option that the class does not know. -/
def sampleEntry : Dictionary
  | .serverAddresses => some (.array [.string [0x39]])
  | .other "Options" => some (.string [0x61])
  | _ => none

def noEntry : String → Option Dictionary := fun _ => none

def restoredOnce : State :=
  run sampleMachine (fun _ => some sampleEntry) [.updateResolvers [.ipv4 1], .restoreResolvers]

def restoredAfterTwo : State :=
  run sampleMachine noEntry [.updateResolvers [.ipv4 1], .updateResolvers [.ipv4 2], .restoreResolvers]

/-- After one update the unknown option is gone, after two the entry of the first is taken for the user's. -/
theorem dns_not_restored :
    ((restoredOnce.before "8A1B").map (· (.other "Options")) = some (some (.string [0x61])) ∧
        (restoredOnce.dns "8A1B").map (· (.other "Options")) = some none) ∧
      (restoredAfterTwo.before "8A1B").map (· .domainName) = none ∧
        (restoredAfterTwo.dns "8A1B").map (· .domainName) = some (some (.string lan)) :=
  ⟨⟨rfl, rfl⟩, rfl, rfl⟩

end TunnelCore.Daemon.DnsUtilsMacos
