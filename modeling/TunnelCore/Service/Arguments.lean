import TunnelCore.Library.Text

namespace TunnelCore.Service

open Text

abbrev Validator := String → Bool

/-- The option names of a program; an option without a validator takes no value. -/
abbrev NamedArgs := List (String × Option Validator)

/-- The loop of `sanitizeArguments`; the second list holds the validators from `pos` on. -/
def sanitize (namedArgs : NamedArgs) : List Validator → List String → List String
  | _, [] => []
  | positionalArgs, key :: rest =>
    match namedArgs.lookup key with
    | some (some validator) =>
      match rest with
      | value :: rest' =>
        if validator value then key :: value :: sanitize namedArgs positionalArgs rest'
        else sanitize namedArgs positionalArgs (value :: rest')
      | [] => []
    | some none => key :: sanitize namedArgs positionalArgs rest
    | none =>
      match positionalArgs with
      | validator :: positionalArgs' =>
        if validator key then key :: sanitize namedArgs positionalArgs' rest
        else sanitize namedArgs (validator :: positionalArgs') rest
      | [] => sanitize namedArgs [] rest

def beginsWithDash (token : String) : Bool := token.toList.head? = some '-'

/-- The command lines that consist of options, each with one valid value that is no option itself, and of positional
arguments in their order. -/
def conforms (namedArgs : NamedArgs) : List Validator → List String → Bool
  | _, [] => true
  | positionalArgs, key :: rest =>
    match namedArgs.lookup key with
    | some (some validator) =>
      match rest with
      | value :: rest' => validator value && !beginsWithDash value && conforms namedArgs positionalArgs rest'
      | [] => false
    | some none => conforms namedArgs positionalArgs rest
    | none =>
      match positionalArgs with
      | validator :: positionalArgs' => validator key && conforms namedArgs positionalArgs' rest
      | [] => false

def optionValues (namedArgs : NamedArgs) : List String → List String
  | [] => []
  | key :: rest =>
    match namedArgs.lookup key with
    | some (some _) =>
      match rest with
      | value :: rest' => value :: optionValues namedArgs rest'
      | [] => []
    | _ => optionValues namedArgs rest

def remaining (namedArgs : NamedArgs) : List Validator → List String → List Validator
  | positionalArgs, [] => positionalArgs
  | positionalArgs, key :: rest =>
    match namedArgs.lookup key with
    | some (some _) =>
      match rest with
      | _ :: rest' => remaining namedArgs positionalArgs rest'
      | [] => positionalArgs
    | some none => remaining namedArgs positionalArgs rest
    | none => remaining namedArgs positionalArgs.tail rest

section Tokens

variable {namedArgs : NamedArgs} {positionalArgs : List Validator} {validator : Validator} {key : String}

theorem conforms_option (h : namedArgs.lookup key = some (some validator)) (value : String) (rest : List String) :
    conforms namedArgs positionalArgs (key :: value :: rest) =
      (validator value && !beginsWithDash value && conforms namedArgs positionalArgs rest) := by
  rw [conforms.eq_def]
  simp only [h]

theorem conforms_flag (h : namedArgs.lookup key = some none) (rest : List String) :
    conforms namedArgs positionalArgs (key :: rest) = conforms namedArgs positionalArgs rest := by
  rw [conforms.eq_def]
  simp only [h]

theorem conforms_positional (h : namedArgs.lookup key = none) (rest : List String) :
    conforms namedArgs (validator :: positionalArgs) (key :: rest) =
      (validator key && conforms namedArgs positionalArgs rest) := by
  rw [conforms.eq_def]
  simp only [h]

theorem optionValues_option (h : namedArgs.lookup key = some (some validator)) (value : String) (rest : List String) :
    optionValues namedArgs (key :: value :: rest) = value :: optionValues namedArgs rest := by
  rw [optionValues.eq_def]
  simp only [h]

theorem optionValues_flag (h : namedArgs.lookup key = some none) (rest : List String) :
    optionValues namedArgs (key :: rest) = optionValues namedArgs rest := by
  rw [optionValues.eq_def]
  simp only [h]

theorem optionValues_positional (h : namedArgs.lookup key = none) (rest : List String) :
    optionValues namedArgs (key :: rest) = optionValues namedArgs rest := by
  rw [optionValues.eq_def]
  simp only [h]

theorem remaining_option (h : namedArgs.lookup key = some (some validator)) (value : String) (rest : List String) :
    remaining namedArgs positionalArgs (key :: value :: rest) = remaining namedArgs positionalArgs rest := by
  rw [remaining.eq_def]
  simp only [h]

theorem remaining_flag (h : namedArgs.lookup key = some none) (rest : List String) :
    remaining namedArgs positionalArgs (key :: rest) = remaining namedArgs positionalArgs rest := by
  rw [remaining.eq_def]
  simp only [h]

theorem remaining_positional (h : namedArgs.lookup key = none) (rest : List String) :
    remaining namedArgs positionalArgs (key :: rest) = remaining namedArgs positionalArgs.tail rest := by
  rw [remaining.eq_def]
  simp only [h]

end Tokens

theorem conforms_sanitize_append (namedArgs : NamedArgs) (positionalArgs : List Validator) (args tokens : List String) :
    conforms namedArgs positionalArgs (sanitize namedArgs positionalArgs args ++ tokens) = true ↔
      (∀ v ∈ optionValues namedArgs (sanitize namedArgs positionalArgs args), beginsWithDash v = false) ∧
        conforms namedArgs (remaining namedArgs positionalArgs (sanitize namedArgs positionalArgs args)) tokens = true := by
  fun_induction sanitize namedArgs positionalArgs args with
  | case1 positionalArgs | case4 positionalArgs key validator hkey => simp [optionValues, remaining]
  | case2 positionalArgs key validator hkey value rest hvalid ih =>
    rw [List.cons_append, List.cons_append, conforms_option hkey, optionValues_option hkey, remaining_option hkey]
    simp [hvalid, ih, and_assoc]
  | case3 positionalArgs key validator hkey value rest hvalid ih => exact ih
  | case5 positionalArgs key rest hkey ih =>
    rw [List.cons_append, conforms_flag hkey, optionValues_flag hkey, remaining_flag hkey]
    exact ih
  | case6 key rest hkey validator positionalArgs hvalid ih =>
    rw [List.cons_append, conforms_positional hkey, optionValues_positional hkey, remaining_positional hkey, hvalid,
      Bool.true_and]
    exact ih
  | case7 key rest hkey validator positionalArgs hvalid ih => exact ih
  | case8 key rest hkey ih => exact ih

theorem option_of_conforms {namedArgs : NamedArgs} {positionalArgs : List Validator}
    (hdash : ∀ validator ∈ positionalArgs, ∀ token, validator token = true → beginsWithDash token = false)
    {tokens : List String} (h : conforms namedArgs positionalArgs tokens = true) :
    ∀ token ∈ tokens, beginsWithDash token = true → (namedArgs.lookup token).isSome = true := by
  fun_induction conforms namedArgs positionalArgs tokens with
  | case1 positionalArgs => exact List.forall_mem_nil _
  | case2 positionalArgs key validator hkey value rest ih =>
    rw [Bool.and_eq_true, Bool.and_eq_true, Bool.not_eq_true'] at h
    refine List.forall_mem_cons.mpr ⟨fun _ => by rw [hkey]; rfl, List.forall_mem_cons.mpr ⟨fun hv => ?_, ih hdash h.2⟩⟩
    exact absurd (hv.symm.trans h.1.2) (by decide)
  | case3 positionalArgs key validator hkey => cases h
  | case4 positionalArgs key rest hkey ih =>
    exact List.forall_mem_cons.mpr ⟨fun _ => by rw [hkey]; rfl, ih hdash h⟩
  | case5 key rest hkey validator positionalArgs ih =>
    rw [Bool.and_eq_true] at h
    rw [List.forall_mem_cons] at hdash
    refine List.forall_mem_cons.mpr ⟨fun hv => ?_, ih hdash.2 h.2⟩
    exact absurd (hv.symm.trans (hdash.1 key h.1)) (by decide)
  | case6 key rest hkey => cases h

theorem validated_of_sanitize (namedArgs : NamedArgs) (positionalArgs : List Validator) (args : List String) :
    ∀ v ∈ optionValues namedArgs (sanitize namedArgs positionalArgs args),
      ∃ key validator, namedArgs.lookup key = some (some validator) ∧ validator v = true := by
  fun_induction sanitize namedArgs positionalArgs args with
  | case1 positionalArgs | case4 positionalArgs key validator hkey => exact List.forall_mem_nil _
  | case2 positionalArgs key validator hkey value rest hvalid ih =>
    rw [optionValues_option hkey]
    exact List.forall_mem_cons.mpr ⟨⟨key, validator, hkey, hvalid⟩, ih⟩
  | case3 positionalArgs key validator hkey value rest hvalid ih => exact ih
  | case5 positionalArgs key rest hkey ih =>
    rw [optionValues_flag hkey]
    exact ih
  | case6 key rest hkey validator positionalArgs hvalid ih =>
    rw [optionValues_positional hkey]
    exact ih
  | case7 key rest hkey validator positionalArgs hvalid ih => exact ih
  | case8 key rest hkey ih => exact ih

inductive PermittedProcess
  | invalid
  | openVPN
  | wireguard
  | tun2Socks
  | certUtil
  | unknown
deriving DecidableEq

namespace PermittedProcess

def ofId : Int → PermittedProcess
  | 0 => .invalid
  | 1 => .openVPN
  | 2 => .wireguard
  | 3 => .tun2Socks
  | 4 => .certUtil
  | _ => .unknown

def hasPath : PermittedProcess → Bool
  | .invalid | .unknown => false
  | _ => true

end PermittedProcess

def isPort (v : String) : Bool :=
  match textToInt v with
  | some port => 0 < port ∧ port ≤ 65535
  | none => false

def startsWith (start v : String) : Bool := start.toList.isPrefixOf v.toList

def namedArgs : PermittedProcess → NamedArgs
  | .openVPN =>
    [("--config", some (· ≠ "")), ("--management", some (· ≠ "")), ("--management-client", none)]
  | .tun2Socks => [("-device", some (startsWith "tun://")), ("-proxy", some (startsWith "socks5://"))]
  | _ => []

def positionalArgs : PermittedProcess → List Validator
  | .openVPN => [isPort]
  | _ => []

def sanitizeArguments (proc : PermittedProcess) (args : List String) : List String :=
  match proc with
  | .openVPN | .tun2Socks => sanitize (namedArgs proc) (positionalArgs proc) args
  | .certUtil => args
  | _ => []

theorem exists_cons_of_beginsWithDash {v : String} (h : beginsWithDash v = true) : ∃ rest, v.toList = '-' :: rest := by
  rw [beginsWithDash, decide_eq_true_iff] at h
  exact List.head?_eq_some_iff.mp h

theorem not_beginsWithDash_of_isPort {v : String} (h : isPort v = true) : beginsWithDash v = false := by
  by_contra hdash
  obtain ⟨rest, hv⟩ := exists_cons_of_beginsWithDash (Bool.not_eq_false _ ▸ hdash)
  -- trimming keeps the dash in front, and no number after it is positive
  have htrim : (trimmed v).toList <+: '-' :: rest := by
    rw [trimmed, String.toList_ofList, hv, List.dropWhile_cons_of_neg (by decide)]
    exact List.rdropWhile_prefix _ _
  rw [isPort, textToInt] at h
  cases hchars : (trimmed v).toList with
  | nil => simp [hchars, textToInt.fit] at h
  | cons c digits =>
    rw [hchars, List.cons_prefix_cons] at htrim
    obtain ⟨rfl, -⟩ := htrim
    rw [hchars] at h
    simp only [textToInt.fit] at h
    split at h
    next port hport =>
      split at hport
      · cases hport
        rw [decide_eq_true_iff] at h
        omega
      · cases hport
    · cases h

theorem not_beginsWithDash_of_startsWith {start v : String} {c : Char} (hstart : start.toList.head? = some c)
    (hc : c ≠ '-') (h : startsWith start v = true) : beginsWithDash v = false := by
  by_contra hdash
  obtain ⟨rest, hv⟩ := exists_cons_of_beginsWithDash (Bool.not_eq_false _ ▸ hdash)
  obtain ⟨tail, hs⟩ := List.head?_eq_some_iff.mp hstart
  rw [startsWith, hs, hv, List.isPrefixOf_iff_prefix, List.cons_prefix_cons] at h
  exact hc h.1

end TunnelCore.Service
