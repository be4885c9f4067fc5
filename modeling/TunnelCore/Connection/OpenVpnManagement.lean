import TunnelCore.Library.Scan
import TunnelCore.Library.Text
import Mathlib.Algebra.Group.Nat.Defs

namespace TunnelCore.Connection.OpenVpn

open Text

section Qt

/-- `QString::simplified` -/
def simplified (raw : List Char) : List Char :=
  [' '].intercalate (((raw.map fun c => if isSpace c then ' ' else c).splitOn ' ').filter (· ≠ []))

/-- `QString::split` at a text; `skip` counts what is left of the separator just found. -/
def split (sep : List Char) : Nat → List Char → List (List Char)
  | _, [] => [[]]
  | skip + 1, _ :: cs => split sep skip cs
  | 0, c :: cs =>
    if sep <+: c :: cs then [] :: split sep (sep.length - 1) cs else (split sep 0 cs).modifyHead (c :: ·)

/-- `Qt::SkipEmptyParts` -/
def skipEmptyParts (parts : List (List Char)) : List (List Char) := parts.filter (· ≠ [])

/-- The position in a byte array is -1 where there is none. -/
def lastIndexOf (text data : List UInt8) : Int :=
  match (List.range (data.length + 1)).reverse.find? fun i => text.isPrefixOf (data.drop i) with
  | some i => i
  | none => -1

def indexOf (byte : UInt8) (start : Int) (data : List UInt8) : Int :=
  let start := if start < 0 then max (start + data.length) 0 else start
  match (data.drop start.toNat).findIdx? (· = byte) with
  | some i => start + i
  | none => -1

/-- `QByteArray::mid`; a negative length is compared as a `size_t`. -/
def mid (position length : Int) (data : List UInt8) : List UInt8 :=
  if data.length < position then []
  else if position < 0 then
    if length < 0 ∨ data.length ≤ length + position then data
    else data.take (length + position).toNat
  else if length < 0 ∨ data.length - position < length then data.drop position.toNat
  else (data.drop position.toNat).take length.toNat

def toInt (i : Int) : Int := i.bmod 4294967296

end Qt

section Texts

def interfaceInfo : List Char := ">INFO:OpenVPN Management Interface".toList

def statePrompt : List Char := ">STATE".toList

def connectedSuccess : List Char := "CONNECTED,SUCCESS".toList

def exitingSigter : List Char := "EXITING,SIGTER".toList

def reconnecting : List Char := "RECONNECTING".toList

def routeGateway : List Char := "ROUTE_GATEWAY".toList

def bestGateway : List Char := "net_route_v4_best_gw".toList

def controlMessage : List Char := "PUSH: Received control message".toList

def ifconfig : List Char := "ifconfig".toList

def fatal : List Char := "FATAL".toList

def adaptersInUse : List Char := "tap-windows6 adapters on this system are currently in use or disabled".toList

def byteCount : List UInt8 := toUtf8 ">BYTECOUNT:".toList

end Texts

inductive Effect
  | sendInitialData
  | sendByteCount
  | stopTimeoutTimer
  | connected
  | disconnecting
  | reconnecting
  | adaptersInUseError
  | unknownError
  | setBytesChanged (received sent : List UInt8)

/-- The effects outside the object are listed; the numbers of `setBytesChanged` are kept as their texts. -/
structure State where
  routeGateway : List Char
  vpnLocalAddress : List Char
  vpnGateway : List Char
  effects : List Effect

def State.emit (s : State) (effects : List Effect) : State := { s with effects := s.effects ++ effects }

/-- `none` stands for an access to an element that is not there. -/
def updateRouteGateway (line : List Char) (s : State) : Option State :=
  if bestGateway <:+: line then
    let params := line.splitOn ' '
    if params.length = 6 then do
      let gateway ← params[3]?
      return { s with routeGateway := gateway }
    else return s
  else do
    let line ← (skipEmptyParts (split routeGateway 0 line))[1]?
    if '/' ∉ line then return s
    let gateway ← (skipEmptyParts (line.splitOn '/'))[0]?
    return { s with routeGateway := gateway.filter (· ≠ ' ') }

def updateVpnGateway (line : List Char) (s : State) : Option State :=
  (line.splitOn ',').foldlM (fun s l =>
    if ifconfig <:+: l ∧ (l.splitOn ' ').length = 3 then do
      let vpnLocalAddress ← (l.splitOn ' ')[1]?
      let vpnGateway ← (l.splitOn ' ')[2]?
      return { s with vpnLocalAddress, vpnGateway }
    else return s) s

/-- The changes of the state after which the loop goes on to the next line. -/
def stateChange (line : List Char) : Option (List Effect) :=
  if interfaceInfo <:+: line ∨ ¬statePrompt <+: line then none
  else if connectedSuccess <:+: line then some [.sendByteCount, .stopTimeoutTimer, .connected]
  else if exitingSigter <:+: line then some [.disconnecting]
  else if reconnecting <:+: line then some [.reconnecting]
  else none

/-- The bytes of a line up to its first null character. -/
def dataOf (line : List Char) : List UInt8 := (toUtf8 line).takeWhile (· ≠ 0)

/-- Where the numbers begin: the sum is an `int`. -/
def countsStart (data : List UInt8) : Int := toInt (toInt (lastIndexOf byteCount data) + byteCount.length)

def countsOf (data : List UInt8) : List UInt8 :=
  let stop := toInt (indexOf 10 (toInt (lastIndexOf byteCount data)) data)
  mid (countsStart data) (toInt (stop - countsStart data + 1)) data

def trimmedBytes (bytes : List UInt8) : List UInt8 :=
  let isSpace (b : UInt8) : Bool := b = 32 || (9 ≤ b && b ≤ 13)
  (bytes.dropWhile isSpace).rdropWhile isSpace

def updateBytes (line : List Char) (s : State) : Option State :=
  if byteCount <:+: dataOf line then do
    let count := (countsOf (dataOf line)).splitOn 44
    let received ← count[0]?
    let sent ← count[1]?
    return s.emit [.setBytesChanged (trimmedBytes received) (trimmedBytes sent)]
  else return s

def routeLine (line : List Char) (s : State) : Option State :=
  if routeGateway <:+: line ∨ bestGateway <:+: line then updateRouteGateway line s else some s

def pushLine (line : List Char) (s : State) : Option State :=
  if controlMessage <:+: line then updateVpnGateway line s else some s

/-- A line that changes no state, and whether the loop goes on. -/
def handleLine (line : List Char) (s : State) : Option (State × Bool) := do
  let s := if interfaceInfo <:+: line then s.emit [.sendInitialData] else s
  let s ← routeLine line s
  let s ← pushLine line s
  if fatal <:+: line then
    return (s.emit [if adaptersInUse <:+: line then .adaptersInUseError else .unknownError], false)
  else return (← updateBytes line s, true)

/-- One signal, with the lines that can be read; afterwards an empty line is read. -/
def onReadyRead : List (List Char) → State → Option State
  | [], s => some s
  | raw :: rest, s =>
    let line := simplified raw
    if line = [] then some s
    else match stateChange line with
      | some effects => onReadyRead rest (s.emit effects)
      | none => (handleLine line s).bind fun r => if r.2 then onReadyRead rest r.1 else some r.1

def run (signals : List (List (List Char))) (s : State) : Option State :=
  signals.foldlM (fun s lines => onReadyRead lines s) s

/-- The lines that the loop reads and that tell no change of the state. -/
def handled : List (List Char) → List (List Char)
  | [] => []
  | raw :: rest =>
    let line := simplified raw
    if line = [] then []
    else if (stateChange line).isSome then handled rest
    else line :: if fatal <:+: line then [] else handled rest

/-- There is a second part between the mentions of the gateway, and if it has a slash then something else too. -/
def GatewayPart (line : List Char) : Prop :=
  ∃ part, (skipEmptyParts (split routeGateway 0 line))[1]? = some part ∧ ('/' ∈ part → ∃ c ∈ part, c ≠ '/')

structure Plain (line : List Char) : Prop where
  gateway : routeGateway <:+: line → ¬bestGateway <:+: line → GatewayPart line
  counts : ¬fatal <:+: line → byteCount <:+: dataOf line → 44 ∈ countsOf (dataOf line)

section Safety

variable {line : List Char}

theorem isSome_second_splitOn {α : Type} [DecidableEq α] {sep : α} {xs : List α} :
    (xs.splitOn sep)[1]?.isSome ↔ sep ∈ xs := by
  have hone : (xs.splitOn sep).length = 1 ↔ sep ∉ xs := length_splitOn_eq_one_iff
  have hpos : 0 < (xs.splitOn sep).length := List.length_pos_iff.mpr (List.splitOn_ne_nil _ _)
  rw [Option.isSome_iff_ne_none, ne_eq, List.getElem?_eq_none_iff, ← not_iff_not, ← hone, not_not]
  omega

theorem isSome_first_skipEmptyParts {sep : Char} :
    (skipEmptyParts (line.splitOn sep))[0]?.isSome ↔ ∃ c ∈ line, c ≠ sep := by
  rw [Option.isSome_iff_ne_none, ne_eq, List.getElem?_eq_none_iff, Nat.le_zero, List.length_eq_zero_iff, skipEmptyParts,
    List.filter_eq_nil_iff]
  constructor
  · intro h
    simp only [not_forall] at h
    obtain ⟨part, hpart, hne⟩ := h
    have hpart' : part ≠ [] := by simpa using hne
    obtain ⟨c, hc⟩ := List.exists_mem_of_ne_nil part hpart'
    refine ⟨c, (Scan.infix_of_mem_splitOn hpart).subset hc, ?_⟩
    rintro rfl
    exact Scan.not_mem_of_mem_splitOn hpart hc
  · rintro ⟨c, hc, hne⟩ h
    obtain ⟨part, hpart, hmem⟩ := Scan.exists_part_of_mem hne hc
    have hempty : part = [] := by simpa using h part hpart
    rw [hempty] at hmem
    cases hmem

theorem isSome_updateRouteGateway (s : State) :
    (updateRouteGateway line s).isSome ↔ (¬bestGateway <:+: line → GatewayPart line) := by
  rw [updateRouteGateway]
  split
  next hbest =>
    refine iff_of_true ?_ fun h => absurd hbest h
    by_cases hsix : (line.splitOn ' ').length = 6 <;> simp [hsix]
  next hbest =>
    rw [GatewayPart]
    simp only [hbest, not_false_eq_true, forall_const]
    cases hpart : (skipEmptyParts (split routeGateway 0 line))[1]? with
    | none => simp
    | some part =>
      simp only [Option.bind_eq_bind, Option.bind_some, Option.some.injEq, exists_eq_left']
      rw [← isSome_first_skipEmptyParts]
      by_cases hslash : '/' ∈ part
      · cases hfirst : (skipEmptyParts (part.splitOn '/'))[0]? <;> simp [hslash]
      · simp [hslash]

theorem isSome_routeLine (s : State) :
    (routeLine line s).isSome ↔ (routeGateway <:+: line → ¬bestGateway <:+: line → GatewayPart line) := by
  rw [routeLine]
  split
  next hmentioned =>
    rw [isSome_updateRouteGateway]
    exact ⟨fun h _ => h, fun h hbest => h (hmentioned.resolve_right hbest) hbest⟩
  next hnone => exact iff_of_true rfl fun h => absurd (.inl h) hnone

theorem isSome_updateVpnGateway (s : State) : (updateVpnGateway line s).isSome := by
  rw [updateVpnGateway]
  induction line.splitOn ',' generalizing s with
  | nil => rfl
  | cons l params ih =>
    rw [List.foldlM_cons]
    split
    next hthree =>
      have hone : 1 < (l.splitOn ' ').length := by omega
      have htwo : 2 < (l.splitOn ' ').length := by omega
      simp only [List.getElem?_eq_getElem hone, List.getElem?_eq_getElem htwo]
      exact ih _
    · exact ih s

theorem exists_pushLine (line : List Char) (s : State) : ∃ s', pushLine line s = some s' := by
  rw [pushLine]
  split
  · exact Option.isSome_iff_exists.mp (isSome_updateVpnGateway s)
  · exact ⟨s, rfl⟩

theorem isSome_updateBytes (s : State) :
    (updateBytes line s).isSome ↔ (byteCount <:+: dataOf line → 44 ∈ countsOf (dataOf line)) := by
  rw [updateBytes]
  split
  next hcount =>
    simp only [hcount, forall_const]
    rw [← isSome_second_splitOn]
    have hpos : 0 < ((countsOf (dataOf line)).splitOn 44).length := List.length_pos_iff.mpr (List.splitOn_ne_nil _ _)
    simp only [List.getElem?_eq_getElem hpos]
    cases hsecond : ((countsOf (dataOf line)).splitOn 44)[1]? <;> simp
  next hcount => exact iff_of_true rfl fun h => absurd h hcount

/-- A line that is not plain ends in an access to a missing element; any other is handled, and only a fatal one ends the
loop. -/
theorem handleLine_cases (line : List Char) (s : State) :
    Plain line ∧ (∃ s', handleLine line s = some (s', !decide (fatal <:+: line))) ∨
      ¬Plain line ∧ handleLine line s = none := by
  rw [handleLine]
  generalize (if interfaceInfo <:+: line then s.emit [.sendInitialData] else s) = s₀
  have hgateway : (routeLine line s₀).isSome ↔ _ := isSome_routeLine s₀
  cases hs₁ : routeLine line s₀ with
  | none =>
    rw [hs₁] at hgateway
    exact .inr ⟨fun h => absurd (hgateway.mpr h.gateway) Bool.false_ne_true, rfl⟩
  | some s₁ =>
    rw [hs₁] at hgateway
    obtain ⟨s₂, hs₂⟩ := exists_pushLine line s₁
    have hcounts : (updateBytes line s₂).isSome ↔ _ := isSome_updateBytes s₂
    simp only [Option.bind_eq_bind, Option.bind_some, hs₂]
    by_cases hfatal : fatal <:+: line
    · simp only [hfatal, if_true, decide_true, Bool.not_true]
      exact .inl ⟨⟨hgateway.mp rfl, fun h => absurd hfatal h⟩, _, rfl⟩
    · simp only [hfatal, if_false, decide_false, Bool.not_false]
      cases hs₃ : updateBytes line s₂ with
      | none =>
        rw [hs₃] at hcounts
        exact .inr ⟨fun h => absurd (hcounts.mpr (h.counts hfatal)) Bool.false_ne_true, rfl⟩
      | some s₃ =>
        rw [hs₃] at hcounts
        exact .inl ⟨⟨hgateway.mp rfl, fun _ => hcounts.mp rfl⟩, s₃, rfl⟩

theorem isSome_onReadyRead (lines : List (List Char)) (s : State) :
    (onReadyRead lines s).isSome ↔ ∀ line ∈ handled lines, Plain line := by
  induction lines generalizing s with
  | nil => simp [onReadyRead, handled]
  | cons raw rest ih =>
    rw [onReadyRead, handled]
    split
    · simp
    · cases hstate : stateChange (simplified raw) with
      | some effects => simpa using ih _
      | none =>
        simp only [Option.isSome_none, Bool.false_eq_true, if_false, List.forall_mem_cons]
        rcases handleLine_cases (simplified raw) s with ⟨hplain, s', hs'⟩ | ⟨hplain, hnone⟩
        · rw [hs', Option.bind_some]
          by_cases hfatal : fatal <:+: simplified raw
          · simp [hfatal, hplain]
          · simpa [hfatal, hplain] using ih s'
        · rw [hnone, Option.bind_none]
          exact iff_of_false Bool.false_ne_true fun h => hplain h.1

/-- Whatever signals come, no missing element is accessed if and only if all lines that are handled are plain. -/
theorem management_lines_safe_iff (signals : List (List (List Char))) (s : State) :
    (run signals s).isSome ↔ ∀ lines ∈ signals, ∀ line ∈ handled lines, Plain line := by
  induction signals generalizing s with
  | nil => simp [run]
  | cons lines signals ih =>
    rw [run, List.foldlM_cons, List.forall_mem_cons, ← isSome_onReadyRead lines s]
    cases onReadyRead lines s with
    | none => simp
    | some s' => simpa [run] using ih s'

def initial : State := ⟨[], [], [], []⟩

/-- A mention of the gateway without text around it, one with a slash alone behind it, and a single count. -/
theorem management_lines_crash :
    run [["ROUTE_GATEWAY".toList]] initial = none ∧ run [[">LOG:1,I,x ROUTE_GATEWAY/".toList]] initial = none ∧
      run [[">BYTECOUNT:5".toList]] initial = none :=
  ⟨by decide +kernel, by decide +kernel, by decide +kernel⟩

end Safety

end TunnelCore.Connection.OpenVpn
