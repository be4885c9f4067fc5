import TunnelCore.Library.Json
import TunnelCore.Library.Text

namespace TunnelCore.Import

open Text

/-- What Qt gives `checkForMaliciousStrings`: its JSON reader, and the case folding it compares with. -/
structure Qt where
  fromJson : String → Option Json
  toCaseFolded : Char → Char

def containers : String := "containers"

/-- `ContainerUtils::containerToString(DockerContainer::OpenVpn)` -/
def openVpnContainer : String := "amnezia-openvpn"

/-- `ProtocolUtils::protoToString(Proto::OpenVpn)` -/
def openVpnProto : String := "openvpn"

def dangerousTags : List String :=
  ["up", "tls-verify", "ipchange", "client-connect", "route-up", "route-pre-down", "client-disconnect", "down",
    "learn-address", "auth-user-pass-verify"]

def command (rawLine : String) : List Char := firstSection ' ' (trimmed rawLine).toList

def openVpnWarning : String :=
  "This configuration contains an OpenVPN setup. OpenVPN configurations can include malicious " ++
    "scripts, so only add it if you fully trust the provider of this config. "

def dangerousLinesFound : String := "<br>In the imported configuration, potentially dangerous lines were found:"

/-- `QString("<br><i>%1</i>").arg(string)` -/
def item (string : String) : String := "<br><i>" ++ string ++ "</i>"

def warning (maliciousStrings : List String) : String :=
  if maliciousStrings = [] then openVpnWarning
  else maliciousStrings.foldl (fun text s => text ++ item s) (openVpnWarning ++ dangerousLinesFound)

def isOpenVpn (container : Json) : Bool := (container.toObject.value "container").toString = openVpnContainer

section

variable (qt : Qt)

/-- `contains(.., Qt::CaseInsensitive)` -/
def isDangerous (word : List Char) : Bool :=
  dangerousTags.any fun tag => word.map qt.toCaseFolded = tag.toList.map qt.toCaseFolded

def openVpnText (container : Json) : String :=
  let protocolConfig := ((container.toObject.value openVpnProto).toObject.value "last_config").toString
  let object := ((qt.fromJson protocolConfig).getD .null).toObject
  (object.value "config").toString

def maliciousStrings (text : String) : List String :=
  ((lines text).filter (· ≠ "")).filter fun rawLine => isDangerous qt (command rawLine)

def checkForMaliciousStrings (serverConfig : JsonObject) (warningText : String) : String :=
  (serverConfig.value containers).toArray.foldl (fun warningText container =>
    if isOpenVpn container then warning (maliciousStrings qt (openVpnText qt container)) else warningText) warningText

def openVpnContainers (serverConfig : JsonObject) : List Json :=
  (serverConfig.value containers).toArray.filter isOpenVpn

/-- The lines that the returned warning lists: the text is written anew for each OpenVPN container. -/
def listed (serverConfig : JsonObject) : List String :=
  match (openVpnContainers serverConfig).getLast? with
  | some container => maliciousStrings qt (openVpnText qt container)
  | none => []

def firstToken (line : String) : List Char := (line.toList.dropWhile isSpace).takeWhile fun c => !isSpace c

def afterFirstToken (line : String) : List Char := (line.toList.dropWhile isSpace).dropWhile fun c => !isSpace c

def Directive (line : String) : Prop := isDangerous qt (firstToken line) = true

/-- The first token ends at a space, or at the white space that ends the line. -/
def EndsAtSpace (line : String) : Prop :=
  (afterFirstToken line).head? = some ' ' ∨ ∀ c ∈ afterFirstToken line, isSpace c = true

/-- Case folding makes no white space a letter of a directive. -/
def Qt.KeepsSpaces : Prop :=
  ∀ c, isSpace c = true → ∀ tag ∈ dangerousTags, qt.toCaseFolded c ∉ tag.toList.map qt.toCaseFolded

def Lists (text line : String) : Prop := (item line).toList <:+: text.toList

end

theorem toList_trimmed (line : String) :
    (trimmed line).toList = firstToken line ++ (afterFirstToken line).rdropWhile isSpace := by
  have hline : firstToken line ++ afterFirstToken line = line.toList.dropWhile isSpace :=
    List.takeWhile_append_dropWhile
  have htoken : (firstToken line).rdropWhile isSpace = firstToken line := by
    rw [List.rdropWhile_eq_self_iff]
    intro hne hspace
    have hlast := List.mem_takeWhile_imp (List.getLast_mem hne)
    rw [hspace] at hlast
    exact absurd hlast (by decide)
  rw [trimmed, String.toList_ofList, ← hline, rdropWhile_append]
  split
  next h => rw [htoken, List.rdropWhile_eq_nil_iff.mpr h, List.append_nil]
  · rfl

theorem head?_trimmed_ne (line : String) : (trimmed line).toList.head? ≠ some ' ' := by
  intro h
  rw [trimmed, String.toList_ofList] at h
  obtain ⟨rest, hrest⟩ := List.rdropWhile_prefix isSpace (line.toList.dropWhile isSpace)
  obtain ⟨cs, hcs⟩ := List.head?_eq_some_iff.mp h
  have hfirst := List.head?_dropWhile_not isSpace line.toList
  rw [← hrest, hcs, List.cons_append] at hfirst
  exact absurd (show isSpace ' ' = false from hfirst) (by decide)

theorem command_eq (line : String) :
    command line = firstToken line ++ ((afterFirstToken line).rdropWhile isSpace).takeWhile (· ≠ ' ') := by
  have htoken : ∀ c ∈ firstToken line, decide (c ≠ ' ') = true := by
    intro c hc
    have hspace := List.mem_takeWhile_imp hc
    rw [decide_eq_true_eq]
    rintro rfl
    exact absurd hspace (by decide)
  rw [command, firstSection_eq_takeWhile (head?_trimmed_ne line), toList_trimmed, List.takeWhile_append_of_pos htoken]

theorem command_eq_firstToken_iff (line : String) : command line = firstToken line ↔ EndsAtSpace line := by
  rw [command_eq, List.append_right_eq_self]
  cases hrest : (afterFirstToken line).rdropWhile isSpace with
  | nil => exact iff_of_true rfl (.inr (List.rdropWhile_eq_nil_iff.mp hrest))
  | cons c rest =>
    have hspaces : ¬∀ c ∈ afterFirstToken line, isSpace c = true := by
      rw [← List.rdropWhile_eq_nil_iff, hrest]
      exact List.cons_ne_nil c rest
    have hhead : (afterFirstToken line).head? = some c := by
      obtain ⟨ending, hline⟩ := List.rdropWhile_prefix isSpace (afterFirstToken line)
      rw [← hline, hrest]
      rfl
    rw [EndsAtSpace, or_iff_left hspaces, hhead]
    by_cases hc : c = ' ' <;> simp [hc]

theorem lists_foldl {found : List String} {line : String} (h : line ∈ found) (text : String) :
    Lists (found.foldl (fun text s => text ++ item s) text) line := by
  induction found using List.reverseRecOn with
  | nil => cases h
  | append_singleton found s ih =>
    rw [List.foldl_append, List.foldl_cons, List.foldl_nil, Lists, String.toList_append]
    rcases List.mem_append.mp h with h | h
    · exact (ih h).trans (List.prefix_append _ _).isInfix
    · rw [List.mem_singleton.mp h]
      exact (List.suffix_append _ _).isInfix

theorem lists_warning {found : List String} {line : String} (h : line ∈ found) : Lists (warning found) line := by
  rw [warning, if_neg (List.ne_nil_of_mem h)]
  exact lists_foldl h _

theorem endsAtSpace_of_dangerous {qt : Qt} (hqt : qt.KeepsSpaces) {line : String}
    (h : isDangerous qt (command line) = true) : EndsAtSpace line := by
  have hspace : ∀ c ∈ command line, isSpace c ≠ true := by
    intro c hc hspace
    rw [isDangerous, List.any_eq_true] at h
    obtain ⟨tag, htag, heq⟩ := h
    apply hqt c hspace tag htag
    rw [← of_decide_eq_true heq]
    exact List.mem_map_of_mem hc
  rw [← command_eq_firstToken_iff]
  rw [command_eq] at hspace ⊢
  cases hrest : ((afterFirstToken line).rdropWhile isSpace).takeWhile (· ≠ ' ') with
  | nil => rw [List.append_nil]
  | cons c rest =>
    -- what follows the first token starts with white space
    have hfront := (List.takeWhile_prefix (· ≠ ' ')).trans (List.rdropWhile_prefix isSpace (afterFirstToken line))
    rw [hrest] at hfront hspace
    obtain ⟨ending, hafter⟩ := hfront
    have hfirst := List.head?_dropWhile_not (fun c => !isSpace c) (line.toList.dropWhile isSpace)
    rw [← afterFirstToken, ← hafter, List.cons_append, List.head?_cons] at hfirst
    exact absurd (by simpa using hfirst) (hspace c (by simp))

theorem mem_maliciousStrings_iff {qt : Qt} (hqt : qt.KeepsSpaces) {text line : String} (hd : Directive qt line) :
    line ∈ maliciousStrings qt text ↔ EndsAtSpace line ∧ line ∈ lines text := by
  have hne : line ≠ "" := by
    rintro rfl
    simp [Directive, firstToken, isDangerous, dangerousTags] at hd
  rw [maliciousStrings, List.mem_filter, List.mem_filter]
  constructor
  · rintro ⟨⟨hline, -⟩, hdangerous⟩
    exact ⟨endsAtSpace_of_dangerous hqt hdangerous, hline⟩
  · rintro ⟨hend, hline⟩
    rw [(command_eq_firstToken_iff line).mpr hend]
    exact ⟨⟨hline, decide_eq_true hne⟩, hd⟩

theorem checkForMaliciousStrings_eq (qt : Qt) (serverConfig : JsonObject) (warningText : String) :
    checkForMaliciousStrings qt serverConfig warningText =
      match (openVpnContainers serverConfig).getLast? with
      | some container => warning (maliciousStrings qt (openVpnText qt container))
      | none => warningText := by
  rw [checkForMaliciousStrings, openVpnContainers]
  induction (serverConfig.value containers).toArray using List.reverseRecOn with
  | nil => rfl
  | append_singleton cs c ih =>
    rw [List.foldl_append, List.filter_append]
    by_cases hc : isOpenVpn c
    · simp [hc]
    · simpa [hc] using ih

/-- The warning lists a directive exactly if it is in the last OpenVPN container and its first token ends at a space;
what is listed is part of the text. -/
theorem directive_listed_iff (qt : Qt) (hqt : qt.KeepsSpaces) (serverConfig : JsonObject) (warningText : String) :
    (∀ line, Directive qt line → (line ∈ listed qt serverConfig ↔ EndsAtSpace line ∧
      ∃ container, (openVpnContainers serverConfig).getLast? = some container ∧
        line ∈ lines (openVpnText qt container))) ∧
    (∀ line ∈ listed qt serverConfig, Lists (checkForMaliciousStrings qt serverConfig warningText) line) ∧
    (openVpnContainers serverConfig ≠ [] →
      checkForMaliciousStrings qt serverConfig warningText = warning (listed qt serverConfig)) := by
  rw [checkForMaliciousStrings_eq, listed]
  cases hlast : (openVpnContainers serverConfig).getLast? with
  | none => exact ⟨by simp, by simp, fun hne => absurd (List.getLast?_eq_none_iff.mp hlast) hne⟩
  | some container => exact ⟨fun line hd => by simp [mem_maliciousStrings_iff hqt hd], fun _ => lists_warning, fun _ => rfl⟩

section Samples

def lastConfigs : List (String × String) :=
  [("\x7b\"config\":\"client\"\x7d", "client"),
    ("\x7b\"config\":\"up /tmp/a\"\x7d", "up /tmp/a"),
    ("\x7b\"config\":\"up\\t/tmp/a\"\x7d", "up\t/tmp/a"),
    ("\x7b\"config\":\"client\\n\\tUP /tmp/a\\nverb 3\"\x7d", "client\n\tUP /tmp/a\nverb 3")]

def sampleQt : Qt where
  fromJson text := (lastConfigs.lookup text).map fun config => .object [("config", .string config)]
  toCaseFolded := Char.toLower

def openVpnSample (lastConfig : String) : Json :=
  .object [("container", .string openVpnContainer), (openVpnProto, .object [("last_config", .string lastConfig)])]

def configOf (samples : List (String × String)) : JsonObject :=
  [(containers, .array (samples.map fun sample => openVpnSample sample.1))]

theorem sampleQt_keepsSpaces : sampleQt.KeepsSpaces := by
  intro c hc tag htag hmem
  have hlower : c.toLower = c := dif_neg fun hupper => by
    simp only [isSpace, decide_eq_true_eq, List.mem_cons, List.not_mem_nil, or_false] at hc
    have hfrom : 65 ≤ c.toNat := hupper.1
    have hto : c.toNat ≤ 90 := hupper.2
    omega
  have hletters : (dangerousTags.all fun tag => (tag.toList.map Char.toLower).all (!isSpace ·)) = true := by
    decide +kernel
  have hfalse := List.all_eq_true.mp (List.all_eq_true.mp hletters tag htag) _ hmem
  rw [show sampleQt.toCaseFolded c = c from hlower, hc] at hfalse
  exact Bool.noConfusion hfalse

theorem directive_listed_indented :
    Lists (checkForMaliciousStrings sampleQt (configOf lastConfigs) "") "\tUP /tmp/a" := by
  obtain ⟨hiff, hlists, -⟩ := directive_listed_iff sampleQt sampleQt_keepsSpaces (configOf lastConfigs) ""
  refine hlists _ ((hiff _ (by unfold Directive; decide +kernel)).mpr ⟨.inl (by decide +kernel),
    openVpnSample "\x7b\"config\":\"client\\n\\tUP /tmp/a\\nverb 3\"\x7d", rfl, by decide +kernel⟩)

/-- The directive of an OpenVPN container that is not the last one, and a directive that a tab
follows, are not in the warning. -/
theorem directives_missed :
    (∃ container ∈ openVpnContainers (configOf (lastConfigs.take 2).reverse),
      "up /tmp/a" ∈ lines (openVpnText sampleQt container) ∧ Directive sampleQt "up /tmp/a" ∧
      ¬"up /tmp/a".toList <:+:
        (checkForMaliciousStrings sampleQt (configOf (lastConfigs.take 2).reverse) "").toList) ∧
    ∃ container ∈ openVpnContainers (configOf (lastConfigs.take 3)),
      "up\t/tmp/a" ∈ lines (openVpnText sampleQt container) ∧ Directive sampleQt "up\t/tmp/a" ∧
      ¬"up\t/tmp/a".toList <:+: (checkForMaliciousStrings sampleQt (configOf (lastConfigs.take 3)) "").toList := by
  unfold Directive
  constructor
  · refine ⟨openVpnSample "\x7b\"config\":\"up /tmp/a\"\x7d", .head _, ?_⟩
    decide +kernel
  · refine ⟨openVpnSample "\x7b\"config\":\"up\\t/tmp/a\"\x7d", .tail _ (.tail _ (.head _)), ?_⟩
    decide +kernel

end Samples

end TunnelCore.Import
