import TunnelCore.SelfHosted.ServerFile
import Mathlib.Data.List.Flatten

namespace TunnelCore.SelfHosted

section Matching

variable {sep : Char}

theorem takeWhile_append_sep {p : Char → Bool} (hsep : p sep = false) (xs ys : List Char) :
    (xs ++ sep :: ys).takeWhile p = xs.takeWhile p := by
  induction xs with
  | nil => exact List.takeWhile_cons_of_neg (by simp [hsep])
  | cons x xs ih => simp only [List.cons_append, List.takeWhile_cons, ih]

theorem dropWhile_append_sep {p : Char → Bool} (hsep : p sep = false) (xs ys : List Char) :
    (xs ++ sep :: ys).dropWhile p = xs.dropWhile p ++ sep :: ys := by
  induction xs with
  | nil => exact List.dropWhile_cons_of_neg (by simp [hsep])
  | cons x xs ih =>
    simp only [List.cons_append, List.dropWhile_cons, ih]
    split <;> rfl

theorem matchNumbers_append (hdigit : sep.isDigit = false) (hdot : sep ≠ '.') (more : Nat) (xs ys : List Char) :
    matchNumbers more (xs ++ sep :: ys) = matchNumbers more xs := by
  induction more generalizing xs with
  | zero => rw [matchNumbers, matchNumbers, takeWhile_append_sep hdigit]
  | succ more ih =>
    rw [matchNumbers, matchNumbers, takeWhile_append_sep hdigit, dropWhile_append_sep hdigit]
    cases xs.dropWhile Char.isDigit with
    | nil => simp [hdot]
    | cons c rest =>
      by_cases hc : c = '.'
      · subst hc
        simp only [List.cons_append, ih]
      · simp [hc]

theorem matchNumbers_spec {more : Nat} {text captured : List Char} (h : matchNumbers more text = some captured) :
    captured <+: text ∧ ∀ c ∈ captured, c.isDigit = true ∨ c = '.' := by
  have hdigits : ∀ c ∈ text.takeWhile Char.isDigit, c.isDigit = true ∨ c = '.' :=
    fun c hc => .inl (List.mem_takeWhile_imp hc)
  induction more generalizing text captured with
  | zero =>
    rw [matchNumbers] at h
    simp only [Option.ite_none_left_eq_some, Option.some.injEq] at h
    obtain ⟨-, rfl⟩ := h
    exact ⟨List.takeWhile_prefix _, hdigits⟩
  | succ more ih =>
    rw [matchNumbers] at h
    simp only [Option.ite_none_left_eq_some] at h
    obtain ⟨-, h⟩ := h
    split at h
    next rest hrest =>
      obtain ⟨tail, htail, rfl⟩ := Option.map_eq_some_iff.mp h
      obtain ⟨hfront, hchars⟩ := ih htail fun c hc => .inl (List.mem_takeWhile_imp hc)
      constructor
      · have hbehind := (List.prefix_append_right_inj (text.takeWhile Char.isDigit)).mpr
          (List.cons_prefix_cons.mpr ⟨rfl, hfront⟩ : '.' :: tail <+: '.' :: rest)
        rwa [← hrest, List.takeWhile_append_dropWhile] at hbehind
      · intro c hc
        rcases List.mem_append.mp hc with hc | hc
        · exact hdigits c hc
        · rcases List.mem_cons.mp hc with rfl | hc
          · exact .inr rfl
          · exact hchars c hc
    · cases h

theorem matchEntry_spec {text captured : List Char} {length : Nat} (h : matchEntry text = some (captured, length)) :
    length = entryStart.length + captured.length ∧ entryStart ++ captured <+: text ∧
      ∀ c ∈ captured, c.isDigit = true ∨ c = '.' := by
  rw [matchEntry] at h
  simp only [Option.ite_none_right_eq_some, List.isPrefixOf_iff_prefix] at h
  obtain ⟨⟨rest, rfl⟩, h⟩ := h
  rw [List.drop_left] at h
  obtain ⟨_, hnumbers, heq⟩ := Option.map_eq_some_iff.mp h
  obtain ⟨rfl, rfl⟩ := Prod.mk.inj heq
  obtain ⟨hfront, hchars⟩ := matchNumbers_spec hnumbers
  exact ⟨rfl, (List.prefix_append_right_inj _).mpr hfront, hchars⟩

theorem matchEntry_stops (hentry : sep ∉ entryStart) (hdigit : sep.isDigit = false) (hdot : sep ≠ '.') :
    Scan.Stops matchEntry sep where
  nil := by decide
  append xs ys := by
    rw [matchEntry, matchEntry]
    simp only [List.isPrefixOf_iff_prefix, Scan.prefix_append_cons hentry]
    by_cases hstart : entryStart <+: xs
    · rw [if_pos hstart, if_pos hstart, List.drop_append_of_le_length hstart.length_le,
        matchNumbers_append hdigit hdot]
    · rw [if_neg hstart, if_neg hstart]
  length_le h := by
    obtain ⟨rfl, hfront, -⟩ := matchEntry_spec h
    rw [← List.length_append]
    exact hfront.length_le

theorem matchEntry_stops_newline : Scan.Stops matchEntry '\n' := matchEntry_stops (by decide) (by decide) (by decide)

theorem matchEntry_stops_bracket : Scan.Stops matchEntry '[' := matchEntry_stops (by decide) (by decide) (by decide)

end Matching

section Addresses

variable {sep : Char} {text : List Char}

theorem getIpsFromConf_splitOn (h : Scan.Stops matchEntry sep) (text : List Char) :
    getIpsFromConf text = (text.splitOn sep).flatMap getIpsFromConf := by
  rw [getIpsFromConf, h.scan_splitOn, List.filterMap_flatMap]
  rfl

theorem getIpsFromConf_flatMap (h : Scan.Stops matchEntry sep) (parts : List (List Char)) :
    getIpsFromConf (parts.flatMap (· ++ [sep])) = parts.flatMap getIpsFromConf := by
  rw [getIpsFromConf, h.scan_flatMap, List.filterMap_flatMap]
  rfl

theorem getIpsFromConf_append (h : Scan.Stops matchEntry sep) (xs ys : List Char) :
    getIpsFromConf (xs ++ sep :: ys) = getIpsFromConf xs ++ getIpsFromConf ys := by
  rw [getIpsFromConf, h.scan_append (Nat.zero_le _), List.filterMap_append]
  rfl

theorem mem_getIpsFromConf {ip : Nat} (h : ip ∈ getIpsFromConf text) :
    ∃ captured, entryStart ++ captured <:+: text ∧ (∀ c ∈ captured, c.isDigit = true ∨ c = '.') ∧
      DottedQuad.parse captured = some ip := by
  obtain ⟨captured, hmem, hparse⟩ := List.mem_filterMap.mp h
  obtain ⟨ys, length, hys, hfind⟩ := Scan.mem_scan hmem
  obtain ⟨-, hfront, hchars⟩ := matchEntry_spec hfind
  exact ⟨captured, hfront.isInfix.trans hys.isInfix, hchars, hparse⟩

theorem not_mem_entry {c : Char} {captured : List Char} (h : ∀ c ∈ captured, c.isDigit = true ∨ c = '.')
    (hentry : c ∉ entryStart) (hc : ¬(c.isDigit = true ∨ c = '.')) : c ∉ entryStart ++ captured := by
  rw [List.mem_append, not_or]
  exact ⟨hentry, fun hmem => hc (h c hmem)⟩

theorem getIpsFromConf_eq_nil (h : ¬entryStart <:+: text) : getIpsFromConf text = [] := by
  refine List.eq_nil_iff_forall_not_mem.mpr fun ip hmem => ?_
  obtain ⟨captured, hwithin, -⟩ := mem_getIpsFromConf hmem
  exact h ((List.prefix_append entryStart captured).isInfix.trans hwithin)

theorem allowedIpsName_begins_entryStart : allowedIpsName <+: entryStart := List.prefix_append ..

theorem getIpsFromConf_of_quiet (h : ¬allowedIpsName <:+: text) : getIpsFromConf text = [] :=
  getIpsFromConf_eq_nil fun hentry => h (allowedIpsName_begins_entryStart.isInfix.trans hentry)

theorem field_infix_field {a b name value : List Char} (hname : ' ' ∉ name) (hvalue : ' ' ∉ value)
    (h : field a b <:+: field name value) : a <:+ name ∧ b <+: value := by
  obtain ⟨before, after, heq⟩ := h
  have hequals : (before ++ a) ++ ' ' :: '=' :: ' ' :: (b ++ after) = name ++ ' ' :: '=' :: ' ' :: value := by
    simpa [field] using heq
  have hbefore : ' ' ∉ before ++ a := by
    intro hmem
    have hcount := congrArg (List.count ' ') hequals
    have hpos := List.count_pos_iff.mpr hmem
    simp only [List.count_append, List.count_cons, List.count_eq_zero_of_not_mem hname,
      List.count_eq_zero_of_not_mem hvalue] at hcount hpos
    simp at hcount
    omega
  obtain ⟨rfl, hrest⟩ := Scan.part_inj hbefore hname hequals
  refine ⟨List.suffix_append .., ?_⟩
  simp only [List.cons.injEq, true_and] at hrest
  rw [← hrest]
  exact List.prefix_append ..

theorem matchNumbers_digits (hsep : sep.isDigit = false) (n : Nat) (rest : List Char) :
    (Nat.toDigits 10 n ++ sep :: rest).takeWhile Char.isDigit = Nat.toDigits 10 n ∧
      (Nat.toDigits 10 n ++ sep :: rest).dropWhile Char.isDigit = sep :: rest := by
  have hdigits : ∀ c ∈ Nat.toDigits 10 n, c.isDigit = true := fun c => DottedQuad.isDigit_of_mem
  rw [takeWhile_append_sep hsep, dropWhile_append_sep hsep, List.takeWhile_eq_self_iff.mpr hdigits,
    List.dropWhile_eq_nil_iff.mpr hdigits]
  exact ⟨rfl, rfl⟩

theorem matchNumbers_format (n : Nat) :
    matchNumbers 3 (DottedQuad.format n ++ subnetMask) = some (DottedQuad.format n) := by
  have hmore (more m : Nat) (rest : List Char) : matchNumbers (more + 1) (Nat.toDigits 10 m ++ '.' :: rest) =
      (matchNumbers more rest).map (Nat.toDigits 10 m ++ '.' :: ·) := by
    obtain ⟨htake, hdrop⟩ := matchNumbers_digits (by decide : '.'.isDigit = false) m rest
    rw [matchNumbers, htake, hdrop, if_neg Nat.toDigits_ne_nil]
    rfl
  have hlast (m : Nat) : matchNumbers 0 (Nat.toDigits 10 m ++ subnetMask) = some (Nat.toDigits 10 m) := by
    obtain ⟨htake, -⟩ := matchNumbers_digits (by decide : '/'.isDigit = false) m ['3', '2']
    have hmask : subnetMask = ['/', '3', '2'] := by decide
    rw [matchNumbers, hmask, htake, if_neg Nat.toDigits_ne_nil]
  rw [DottedQuad.format]
  simp only [List.append_assoc, List.cons_append, hmore, hlast, Option.map_some]

theorem getIpsFromConf_entry {ip : Nat} (hip : ip < 2 ^ 32) :
    getIpsFromConf (field allowedIpsName (DottedQuad.format ip ++ subnetMask)) = [ip] := by
  have htext : field allowedIpsName (DottedQuad.format ip ++ subnetMask) =
      entryStart ++ (DottedQuad.format ip ++ subnetMask) := by simp [entryStart, field]
  have hfind : matchEntry (entryStart ++ (DottedQuad.format ip ++ subnetMask)) =
      some (DottedQuad.format ip, entryStart.length + (DottedQuad.format ip).length) := by
    rw [matchEntry, if_pos (List.isPrefixOf_iff_prefix.mpr (List.prefix_append ..)), List.drop_left, matchNumbers_format]
    rfl
  have hrest : Scan.scan matchEntry 0 subnetMask = [] := by decide
  rw [htext, getIpsFromConf, Scan.scan_of_found hfind (by simp [entryStart, field]) (by simp [entryStart, field]),
    ← List.drop_drop, List.drop_left, List.drop_left, hrest]
  simp [DottedQuad.parse_format hip]

end Addresses

section Peer

variable (pskKey : Key) (client : Client)

theorem space_not_mem (key : Key) : ' ' ∉ key.text := key.not_mem (by decide)

theorem entry_infix_peerBody {value : List Char} (hvalue : '\n' ∉ value)
    (h : field allowedIpsName value <:+: peerBody pskKey client) :
    value <+: DottedQuad.format client.clientIp ++ subnetMask := by
  have hnewline : '\n' ∉ field allowedIpsName value := not_mem_field (by decide) hvalue (by decide) (by decide)
  have hspace : ' ' ∈ field allowedIpsName value := by simp [field]
  rw [peerBody] at h
  rcases Scan.infix_append_cons hnewline h with h | h
  · exact absurd (h.subset hspace) (by decide)
  rcases Scan.infix_append_cons hnewline h with h | h
  · exact absurd (field_infix_field (by decide) (space_not_mem client.publicKey) h).1 (by decide)
  rcases Scan.infix_append_cons hnewline h with h | h
  · exact absurd (field_infix_field (by decide) (space_not_mem pskKey) h).1 (by decide)
  rcases Scan.infix_append_cons hnewline h with h | h
  · refine (field_infix_field (by decide) ?_ h).2
    rw [List.mem_append, not_or]
    exact ⟨format_not_mem (by decide) (by decide) _, by decide⟩
  · exact absurd (h.subset hspace) (by decide)

theorem getIpsFromConf_peerBody (hip : client.clientIp < 2 ^ 32) :
    getIpsFromConf (peerBody pskKey client) = [client.clientIp] := by
  have hquiet {name : List Char} (key : Key) (hname : ' ' ∉ name) (hother : ¬allowedIpsName <:+ name) :
      getIpsFromConf (field name key.text) = [] :=
    getIpsFromConf_eq_nil fun h => hother (field_infix_field hname (space_not_mem key) h).1
  have happend := getIpsFromConf_append matchEntry_stops_newline
  have hheader : getIpsFromConf peerHeader = [] := by decide
  have hblank : getIpsFromConf ['\n'] = [] := by decide
  rw [peerBody, happend, happend, happend, happend, hheader, hquiet _ (by decide) (by decide),
    hquiet _ (by decide) (by decide), getIpsFromConf_entry hip, hblank]
  rfl

end Peer

section Reading

theorem flatMap_filter_of_nil {α β : Type*} {p : α → Bool} {f : α → List β} {xs : List α}
    (h : ∀ x ∈ xs, ¬p x = true → f x = []) : (xs.filter p).flatMap f = xs.flatMap f := by
  induction xs with
  | nil => rfl
  | cons x xs ih =>
    have hrest := ih fun y hy => h y (List.mem_cons_of_mem x hy)
    by_cases hx : p x = true
    · rw [List.filter_cons_of_pos hx, List.flatMap_cons, List.flatMap_cons, hrest]
    · rw [List.filter_cons_of_neg hx, List.flatMap_cons, h x List.mem_cons_self hx, hrest, List.nil_append]

theorem getIpsFromConf_grep (text : List Char) : getIpsFromConf (grepAllowedIps text) = getIpsFromConf text := by
  rw [grepAllowedIps, getIpsFromConf_flatMap matchEntry_stops_newline,
    getIpsFromConf_splitOn matchEntry_stops_newline text]
  refine flatMap_filter_of_nil fun line _ hline => getIpsFromConf_of_quiet fun hwithin => ?_
  exact hline (decide_eq_true hwithin)

theorem flatten_readsFrom {fuel : Nat} (sizes : List Nat) {output : List Char} (h : output.length ≤ fuel) :
    (readsFrom fuel sizes output).flatten = output := by
  induction fuel generalizing sizes output with
  | zero => exact (List.eq_nil_of_length_eq_zero (Nat.le_zero.mp h)).symm
  | succ fuel ih =>
    rw [readsFrom]
    split
    next hnil => exact hnil.symm
    next hne =>
      have hpos := List.length_pos_of_ne_nil hne
      rw [List.flatten_cons, ih, List.take_append_drop]
      rw [List.length_drop]
      omega

theorem flatten_reads (sizes : List Nat) (output : List Char) : (reads sizes output).flatten = output :=
  flatten_readsFrom sizes (Nat.le_refl _)

theorem getIpsFromConf_flatten {parts : List (List Char)} (h : ∀ part ∈ parts, part.getLast? = some '\n') :
    getIpsFromConf parts.flatten = parts.flatMap getIpsFromConf := by
  induction parts with
  | nil => rfl
  | cons part parts ih =>
    obtain ⟨body, rfl⟩ := List.getLast?_eq_some_iff.mp (h part List.mem_cons_self)
    have happend := getIpsFromConf_append matchEntry_stops_newline body
    rw [List.flatten_cons, List.flatMap_cons, List.append_assoc, List.singleton_append, happend, happend,
      ih fun other hother => h other (List.mem_cons_of_mem _ hother)]
    exact congrArg (· ++ _) (List.append_nil _).symm

theorem getIpsFromConf_stdOut {sizes : List Nat} {output : List Char}
    (h : ∀ part ∈ reads sizes output, part.getLast? = some '\n') :
    getIpsFromConf (stdOut sizes output) = getIpsFromConf output := by
  rw [stdOut, getIpsFromConf_flatMap matchEntry_stops_newline, ← getIpsFromConf_flatten h, flatten_reads]

variable {text : List Char}

theorem getLast?_grepAllowedIps (h : grepAllowedIps text ≠ []) :
    (grepAllowedIps text).getLast? = some '\n' := by
  rw [grepAllowedIps] at h ⊢
  cases hlines : ((text.splitOn '\n').filter fun line => allowedIpsName <:+: line).getLast? with
  | none => simp [List.getLast?_eq_none_iff.mp hlines] at h
  | some line =>
    obtain ⟨lines, hlines⟩ := List.getLast?_eq_some_iff.mp hlines
    rw [hlines]
    simp

theorem getIpsFromConf_stdOut_of_fits (h : (grepAllowedIps text).length ≤ bufferSize) :
    getIpsFromConf (stdOut [] (grepAllowedIps text)) = getIpsFromConf text := by
  rw [getIpsFromConf_stdOut, getIpsFromConf_grep]
  intro part hpart
  have hreads : reads [] (grepAllowedIps text) = [] ∨ reads [] (grepAllowedIps text) = [grepAllowedIps text] := by
    rw [reads]
    cases hlength : (grepAllowedIps text).length with
    | zero => exact .inl rfl
    | succ fuel =>
      have hsize : (grepAllowedIps text).length ≤ max 1 (min bufferSize bufferSize) := by
        rw [Nat.min_self]
        exact Nat.le_trans h (Nat.le_max_right ..)
      right
      rw [readsFrom, if_neg (List.ne_nil_of_length_eq_add_one hlength)]
      simp only [List.headD_nil, List.take_of_length_le hsize, List.drop_of_length_le hsize]
      cases fuel with
      | zero => rfl
      | succ fuel => rw [readsFrom, if_pos rfl]
  rcases hreads with hnone | hone
  · rw [hnone] at hpart
    cases hpart
  · rw [hone] at hpart
    obtain rfl := List.mem_singleton.mp hpart
    refine getLast?_grepAllowedIps fun hnil => ?_
    rw [hnil] at hone
    cases hone

theorem mem_getIpsFromConf_stdOut {sizes : List Nat} {ip : Nat}
    (h : ip ∈ getIpsFromConf (stdOut sizes (grepAllowedIps text))) :
    ∃ captured, entryStart ++ captured <:+: text ∧ (∀ c ∈ captured, c.isDigit = true ∨ c = '.') ∧
      DottedQuad.parse captured = some ip := by
  rw [stdOut, getIpsFromConf_flatMap matchEntry_stops_newline] at h
  obtain ⟨part, hpart, hip⟩ := List.mem_flatMap.mp h
  obtain ⟨captured, hwithin, hchars, hparse⟩ := mem_getIpsFromConf hip
  have houtput : part <:+: grepAllowedIps text := by
    rw [← flatten_reads sizes (grepAllowedIps text)]
    exact List.infix_of_mem_flatten hpart
  have hnewline : '\n' ∉ entryStart ++ captured := not_mem_entry hchars (by decide) (by decide)
  obtain ⟨line, hline, hwithin⟩ := Scan.infix_flatMap_sep hnewline (by simp [entryStart, field]) (hwithin.trans houtput)
  exact ⟨captured, hwithin.trans (Scan.infix_of_mem_splitOn (List.mem_filter.mp hline).1), hchars, hparse⟩

end Reading

section Editing

variable {pskKey : Key} {text : List Char}

/-- Whatever names allowed addresses in the file is the section of a client. -/
def WellSectioned (pskKey : Key) (text : List Char) : Prop :=
  ∀ part ∈ text.splitOn '[', ¬allowedIpsName <:+: part ∨
    ∃ client : Client, client.clientIp < 2 ^ 32 ∧ part = peerBody pskKey client

theorem wellSectioned_of_quiet (h : ¬allowedIpsName <:+: text) : WellSectioned pskKey text :=
  fun _ hpart => .inl fun hwithin => h (hwithin.trans (Scan.infix_of_mem_splitOn hpart))

theorem WellSectioned.append (h : WellSectioned pskKey text) {client : Client} (hip : client.clientIp < 2 ^ 32) :
    WellSectioned pskKey (text ++ configPart pskKey client) := by
  intro part hpart
  rw [configPart, List.splitOn_append_cons_self, List.splitOn_eq_singleton (bracket_not_mem_peerBody pskKey client)]
    at hpart
  rcases List.mem_append.mp hpart with hpart | hpart
  · exact h part hpart
  · exact .inr ⟨client, hip, List.mem_singleton.mp hpart⟩

theorem getIpsFromConf_configPart {client : Client} (hip : client.clientIp < 2 ^ 32) :
    getIpsFromConf (text ++ configPart pskKey client) = getIpsFromConf text ++ [client.clientIp] := by
  rw [configPart, getIpsFromConf_append matchEntry_stops_bracket, getIpsFromConf_peerBody pskKey client hip]

theorem withoutSection_eq (clientId text : List Char) :
    ∃ kept, kept.Sublist (text.splitOn '[') ∧ withoutSection clientId text = '[' :: ['['].intercalate kept := by
  rw [withoutSection]
  refine ⟨_, ?_, rfl⟩
  split
  · exact List.erase_sublist.trans List.filter_sublist
  · exact List.filter_sublist

theorem splitOn_kept {kept : List (List Char)} (h : ∀ part ∈ kept, '[' ∉ part) :
    ('[' :: ['['].intercalate kept).splitOn '[' = [] :: (if kept = [] then [[]] else kept) := by
  rw [← List.nil_append ('[' :: _), Scan.splitOn_part List.not_mem_nil]
  split
  next hnil =>
    rw [hnil]
    rfl
  next hne => rw [List.splitOn_intercalate '[' h hne]

theorem WellSectioned.withoutSection (h : WellSectioned pskKey text) (clientId : List Char) :
    WellSectioned pskKey (withoutSection clientId text) := by
  obtain ⟨kept, hkept, heq⟩ := withoutSection_eq clientId text
  intro part hpart
  rw [heq, splitOn_kept fun part hpart => Scan.not_mem_of_mem_splitOn (hkept.subset hpart)] at hpart
  have hnil : ¬allowedIpsName <:+: [] := by decide
  rcases List.mem_cons.mp hpart with rfl | hpart
  · exact .inl hnil
  · split at hpart
    · obtain rfl := List.mem_singleton.mp hpart
      exact .inl hnil
    · exact h part (hkept.subset hpart)

theorem getIpsFromConf_withoutSection (clientId text : List Char) :
    (getIpsFromConf (withoutSection clientId text)).Sublist (getIpsFromConf text) := by
  obtain ⟨kept, hkept, heq⟩ := withoutSection_eq clientId text
  rw [heq, getIpsFromConf_splitOn matchEntry_stops_bracket,
    splitOn_kept fun part hpart => Scan.not_mem_of_mem_splitOn (hkept.subset hpart),
    getIpsFromConf_splitOn matchEntry_stops_bracket text]
  split
  · exact List.nil_sublist _
  · exact hkept.flatMap getIpsFromConf

/-- However the output is cut into reads, what is found is an address of the file, the last octet of which may have lost
digits. -/
theorem WellSectioned.cut_of_mem_stdOut (h : WellSectioned pskKey text) {sizes : List Nat} {ip : Nat}
    (hip : ip ∈ getIpsFromConf (stdOut sizes (grepAllowedIps text))) :
    ∃ listed ∈ getIpsFromConf text,
      ip = listed ∨ ∃ octet, ip = listed / 256 * 256 + octet ∧ 10 ≤ listed % 256 ∧ octet ≤ listed % 256 / 10 := by
  obtain ⟨captured, hwithin, hchars, hparse⟩ := mem_getIpsFromConf_stdOut hip
  have hbracket : '[' ∉ entryStart ++ captured := not_mem_entry hchars (by decide) (by decide)
  obtain ⟨part, hpart, hwithin⟩ := Scan.exists_part_of_infix hbracket hwithin
  have hname : allowedIpsName <:+: part :=
    (allowedIpsName_begins_entryStart.trans (List.prefix_append ..)).isInfix.trans hwithin
  obtain ⟨client, hclient, rfl⟩ := (h part hpart).resolve_left (not_not_intro hname)
  have hentry : entryStart ++ captured = field allowedIpsName captured := by simp [entryStart, field]
  have hfront : captured <+: DottedQuad.format client.clientIp := by
    have hvalue := entry_infix_peerBody pskKey client (fun hmem => absurd (hchars _ hmem) (by decide)) (hentry ▸ hwithin)
    rw [show subnetMask = '/' :: ['3', '2'] by decide] at hvalue
    exact (Scan.prefix_append_cons fun hmem => absurd (hchars _ hmem) (by decide)).mp hvalue
  refine ⟨client.clientIp, ?_, DottedQuad.parse_cut hfront hparse⟩
  rw [getIpsFromConf_splitOn matchEntry_stops_bracket]
  refine List.mem_flatMap.mpr ⟨_, hpart, ?_⟩
  rw [getIpsFromConf_peerBody pskKey client hclient]
  exact List.mem_singleton_self _

theorem WellSectioned.le_of_mem_stdOut (h : WellSectioned pskKey text) {sizes : List Nat} {ip : Nat}
    (hip : ip ∈ getIpsFromConf (stdOut sizes (grepAllowedIps text))) :
    ∃ listed ∈ getIpsFromConf text, ip ≤ listed := by
  obtain ⟨listed, hlisted, rfl | ⟨octet, rfl, -, hcut⟩⟩ := h.cut_of_mem_stdOut hip
  · exact ⟨ip, hlisted, Nat.le_refl ip⟩
  · exact ⟨listed, hlisted, by omega⟩

end Editing

end TunnelCore.SelfHosted
