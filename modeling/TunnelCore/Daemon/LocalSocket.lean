import TunnelCore.Library.Scan
import Mathlib.Algebra.GroupWithZero.Nat
import Mathlib.Algebra.Ring.Int.Defs
import Mathlib.Data.List.DropRight

namespace TunnelCore.Daemon.LocalSocket

open Scan

def newline : UInt8 := 10

def isSpace (b : UInt8) : Bool := b = 32 || (9 ≤ b && b ≤ 13)

def trimmed (bytes : List UInt8) : List UInt8 := (bytes.dropWhile isSpace).rdropWhile isSpace

def toInt (n : Int) : Int := n.bmod 4294967296

/-- `m_buffer.indexOf("\n")`, whose result has 64 bits -/
def indexOf (buffer : List UInt8) : Int := if newline ∈ buffer then buffer.idxOf newline else -1

/-- `left` of a negative length is empty. -/
def left (buffer : List UInt8) (length : Int) : List UInt8 := buffer.take length.toNat

/-- `remove(0, length)`, which does nothing for a negative length -/
def remove (buffer : List UInt8) (length : Int) : List UInt8 := buffer.drop length.toNat

structure Connection where
  buffer : List UInt8 := []
  commands : List (List UInt8) := []
deriving DecidableEq

def takeLine (pos : Int) (c : Connection) : Connection :=
  let command := trimmed (left c.buffer pos)
  let buffer := remove c.buffer (toInt (pos + 1))
  if command = [] then { c with buffer := buffer } else ⟨buffer, c.commands ++ [command]⟩

structure Read where
  bytes : List UInt8
  nonempty : bytes ≠ []

def bytesOf (reads : List Read) : List UInt8 := reads.flatMap Read.bytes

namespace DaemonLocalServerConnection

/-- One call. `reads` is what `readAll` returns before it has nothing more to return. -/
def readData : Nat → List Read → Connection → Option Connection
  | 0, _, _ => none
  | fuel + 1, reads, c =>
    let pos := toInt (indexOf c.buffer)
    if pos = -1 then
      match reads with
      | [] => some c
      | input :: reads => readData fuel reads { c with buffer := c.buffer ++ input.bytes }
    else readData fuel reads (takeLine pos c)

def run (fuel : Nat) (calls : List (List Read)) : Option Connection :=
  calls.foldlM (fun c reads => readData fuel reads c) {}

end DaemonLocalServerConnection

namespace LocalSocketController

def loop : Nat → Connection → Option Connection
  | 0, _ => none
  | fuel + 1, c =>
    let pos := toInt (indexOf c.buffer)
    if pos = -1 then some c else loop fuel (takeLine pos c)

def readData (fuel : Nat) (input : List UInt8) (c : Connection) : Option Connection :=
  loop fuel { c with buffer := c.buffer ++ input }

def run (fuel : Nat) (inputs : List (List UInt8)) : Option Connection :=
  inputs.foldlM (fun c input => readData fuel input c) {}

end LocalSocketController

def lines (stream : List UInt8) : List (List UInt8) := (stream.splitOn newline).dropLast

def rest (stream : List UInt8) : List UInt8 := (stream.splitOn newline).getLastD []

def framed (stream : List UInt8) : Connection := ⟨rest stream, ((lines stream).map trimmed).filter (· ≠ [])⟩

/-- Both the index of a line's end and the one after it are values of an `int`. -/
def Short (line : List UInt8) : Prop := line.length < 2147483647

section Lines

variable {a b stream : List UInt8}

theorem lines_of_not_mem (h : newline ∉ stream) : lines stream = [] := by
  rw [lines, List.splitOn_eq_singleton h]
  rfl

theorem rest_of_not_mem (h : newline ∉ stream) : rest stream = stream := by
  rw [rest, List.splitOn_eq_singleton h]
  rfl

theorem lines_part (ha : newline ∉ a) (b : List UInt8) : lines (a ++ newline :: b) = a :: lines b := by
  rw [lines, splitOn_part ha, List.dropLast_cons_of_ne_nil (List.splitOn_ne_nil _ _), lines]

theorem rest_part (ha : newline ∉ a) (b : List UInt8) : rest (a ++ newline :: b) = rest b := by
  rw [rest, splitOn_part ha, rest]
  cases h : b.splitOn newline with
  | nil => exact absurd h (List.splitOn_ne_nil _ _)
  | cons part parts => rfl

theorem not_mem_rest (stream : List UInt8) : newline ∉ rest stream := by
  induction stream using split_induction newline with
  | last xs h => rwa [rest_of_not_mem h]
  | part a b ha ih => rwa [rest_part ha]

theorem length_rest_le (stream : List UInt8) : (rest stream).length ≤ stream.length := by
  induction stream using split_induction newline with
  | last xs h => rw [rest_of_not_mem h]
  | part a b ha ih =>
    rw [rest_part ha, List.length_append, List.length_cons]
    omega

theorem lines_append (x y : List UInt8) : lines (x ++ y) = lines x ++ lines (rest x ++ y) := by
  induction x using split_induction newline with
  | last xs h => rw [lines_of_not_mem h, rest_of_not_mem h, List.nil_append]
  | part a b ha ih =>
    rw [List.append_assoc, List.cons_append, lines_part ha, lines_part ha, rest_part ha, ih, List.cons_append]

theorem rest_append (x y : List UInt8) : rest (x ++ y) = rest (rest x ++ y) := by
  induction x using split_induction newline with
  | last xs h => rw [rest_of_not_mem h]
  | part a b ha ih => rw [List.append_assoc, List.cons_append, rest_part ha, rest_part ha, ih]

theorem framed_append (x y : List UInt8) :
    framed (x ++ y) = ⟨(framed (rest x ++ y)).buffer, (framed x).commands ++ (framed (rest x ++ y)).commands⟩ := by
  rw [framed, lines_append, List.map_append, List.filter_append, rest_append]
  rfl

theorem lines_rest (stream : List UInt8) : lines (rest stream) = [] := lines_of_not_mem (not_mem_rest stream)

end Lines

section Line

variable {a b : List UInt8} {c : Connection}

theorem indexOf_part (ha : newline ∉ a) (b : List UInt8) : indexOf (a ++ newline :: b) = a.length := by
  rw [indexOf, if_pos (by simp), List.idxOf_append_of_notMem ha, List.idxOf_cons_self, Nat.add_zero]

theorem toInt_indexOf_of_not_mem {buffer : List UInt8} (h : newline ∉ buffer) : toInt (indexOf buffer) = -1 := by
  rw [indexOf, if_neg h]
  rfl

theorem toInt_of_lt {n : Nat} (h : n < 2147483648) : toInt n = n := by
  rw [toInt, Int.bmod_def]
  omega

theorem takeLine_buffer (pos : Int) (c : Connection) : (takeLine pos c).buffer = remove c.buffer (toInt (pos + 1)) := by
  rw [takeLine]
  split <;> rfl

theorem takeLine_part (ha : newline ∉ a) (hshort : Short a) (hbuffer : c.buffer = a ++ newline :: b) :
    takeLine (toInt (indexOf c.buffer)) c = ⟨b, c.commands ++ [trimmed a].filter (· ≠ [])⟩ := by
  have hlength : a.length < 2147483647 := hshort
  have hpos : toInt (indexOf c.buffer) = a.length := by
    rw [hbuffer, indexOf_part ha]
    exact toInt_of_lt (by omega)
  have hnext : toInt ((a.length : Int) + 1) = (a.length + 1 : Nat) := toInt_of_lt (n := a.length + 1) (by omega)
  rw [hpos, takeLine, hnext, hbuffer, left, remove, Int.toNat_natCast, Int.toNat_natCast, List.take_left]
  have hdrop : (a ++ newline :: b).drop (a.length + 1) = b := by simp [List.drop_append]
  rw [hdrop]
  by_cases hempty : trimmed a = []
  · simp [hempty]
  · simp [hempty]

theorem remove_le_of_long {n : Nat} (h : 2147483647 ≤ n) :
    (toInt (toInt n + 1)).toNat ≤ n ∧ 2147483647 ≤ n - (toInt (toInt n + 1)).toNat := by
  rw [toInt, toInt, Int.bmod_def, Int.bmod_def]
  omega

end Line

section Loops

variable {c result : Connection}

theorem framed_of_not_mem {stream : List UInt8} (h : newline ∉ stream) : framed stream = ⟨stream, []⟩ := by
  rw [framed, rest_of_not_mem h, lines_of_not_mem h]
  rfl

theorem framed_part {a : List UInt8} (ha : newline ∉ a) (b : List UInt8) :
    framed (a ++ newline :: b) = ⟨rest b, [trimmed a].filter (· ≠ []) ++ (framed b).commands⟩ := by
  rw [framed, rest_part ha, lines_part ha, List.map_cons, ← List.singleton_append, List.filter_append]
  rfl

namespace DaemonLocalServerConnection

variable {fuel : Nat} {reads : List Read}

theorem readData_of_mem (h : toInt (indexOf c.buffer) ≠ -1) :
    readData (fuel + 1) reads c = readData fuel reads (takeLine (toInt (indexOf c.buffer)) c) := by
  cases reads <;> exact if_neg h

theorem readData_nil (h : toInt (indexOf c.buffer) = -1) : readData (fuel + 1) [] c = some c := if_pos h

theorem readData_cons (input : Read) (reads : List Read) (h : toInt (indexOf c.buffer) = -1) :
    readData (fuel + 1) (input :: reads) c = readData fuel reads { c with buffer := c.buffer ++ input.bytes } := if_pos h

theorem readData_of_short (hfuel : reads.length + (c.buffer ++ bytesOf reads).length < fuel)
    (hshort : ∀ line ∈ lines (c.buffer ++ bytesOf reads), Short line) :
    readData fuel reads c = some ⟨(framed (c.buffer ++ bytesOf reads)).buffer,
      c.commands ++ (framed (c.buffer ++ bytesOf reads)).commands⟩ := by
  induction fuel generalizing reads c with
  | zero => omega
  | succ fuel ih =>
    rcases exists_splitOn newline c.buffer with hno | ⟨a, b, ha, hbuffer⟩
    · have hpos := toInt_indexOf_of_not_mem hno
      cases reads with
      | nil =>
        have hall : c.buffer ++ bytesOf [] = c.buffer := List.append_nil _
        rw [readData_nil hpos, hall, framed_of_not_mem hno, List.append_nil]
      | cons input reads =>
        have hall : c.buffer ++ bytesOf (input :: reads) = (c.buffer ++ input.bytes) ++ bytesOf reads := by
          rw [bytesOf, List.flatMap_cons, ← List.append_assoc, bytesOf]
        rw [hall] at hfuel hshort ⊢
        rw [List.length_cons] at hfuel
        have hnext : reads.length + (c.buffer ++ input.bytes ++ bytesOf reads).length < fuel := by omega
        rw [readData_cons input reads hpos]
        exact ih hnext hshort
    · have hline : Short a := by
        refine hshort a ?_
        rw [hbuffer, List.append_assoc, List.cons_append, lines_part ha]
        exact List.mem_cons_self
      have hpos : toInt (indexOf c.buffer) ≠ -1 := by
        have hlength : a.length < 2147483647 := hline
        rw [hbuffer, indexOf_part ha, toInt_of_lt (by omega)]
        omega
      have hall : c.buffer ++ bytesOf reads = a ++ newline :: (b ++ bytesOf reads) := by
        rw [hbuffer, List.append_assoc, List.cons_append]
      rw [hall] at hfuel hshort ⊢
      rw [lines_part ha] at hshort
      rw [readData_of_mem hpos, takeLine_part ha hline hbuffer, framed_part ha, ← List.append_assoc]
      refine ih ?_ fun line hline => hshort line (List.mem_cons_of_mem _ hline)
      simp only [List.length_append, List.length_cons] at hfuel ⊢
      omega

theorem long_of_readData {more : List UInt8} (hlong : ∃ line ∈ lines (c.buffer ++ (bytesOf reads ++ more)), ¬Short line)
    (h : readData fuel reads c = some result) : ∃ line ∈ lines (result.buffer ++ more), ¬Short line := by
  induction fuel generalizing reads c with
  | zero => cases h
  | succ fuel ih =>
    by_cases hpos : toInt (indexOf c.buffer) = -1
    · cases reads with
      | nil =>
        rw [readData_nil hpos] at h
        cases h
        exact hlong
      | cons input reads =>
        rw [readData_cons input reads hpos] at h
        refine ih ?_ h
        rw [bytesOf, List.flatMap_cons, List.append_assoc, ← List.append_assoc c.buffer] at hlong
        exact hlong
    · rw [readData_of_mem hpos] at h
      refine ih ?_ h
      rcases exists_splitOn newline c.buffer with hno | ⟨a, b, ha, hbuffer⟩
      · exact absurd (toInt_indexOf_of_not_mem hno) hpos
      · obtain ⟨line, hmem, hline⟩ := hlong
        rw [hbuffer, List.append_assoc, List.cons_append, lines_part ha] at hmem
        by_cases hshort : Short a
        · rw [takeLine_part ha hshort hbuffer]
          rcases List.mem_cons.mp hmem with rfl | hmem
          · exact absurd hshort hline
          · exact ⟨line, hmem, hline⟩
        · -- whatever the narrowed index is, what is removed leaves a long line in front
          obtain ⟨hle, hleft⟩ := remove_le_of_long (Nat.not_lt.mp hshort)
          have hdrop : (takeLine (toInt (indexOf c.buffer)) c).buffer =
              a.drop (toInt (toInt a.length + 1)).toNat ++ newline :: b := by
            rw [takeLine_buffer, hbuffer, indexOf_part ha, remove, List.drop_append_of_le_length hle]
          refine ⟨a.drop (toInt (toInt a.length + 1)).toNat, ?_, ?_⟩
          · rw [hdrop, List.append_assoc, List.cons_append, lines_part fun hin => ha (List.mem_of_mem_drop hin)]
            exact List.mem_cons_self
          · rw [Short, List.length_drop]
            omega

end DaemonLocalServerConnection

namespace LocalSocketController

theorem loop_eq (fuel : Nat) (c : Connection) : loop fuel c = DaemonLocalServerConnection.readData fuel [] c := by
  induction fuel generalizing c with
  | zero => rfl
  | succ fuel ih =>
    rw [loop, DaemonLocalServerConnection.readData]
    split
    · rfl
    · exact ih _

end LocalSocketController

end Loops

section Runs

variable {ι : Type} {call : Nat → ι → Connection → Option Connection} {bytes : ι → List UInt8} {reads : ι → Nat}

/-- What the run lemmas use of a `readData` that gets some `bytes` in some number of `reads`. -/
structure Frames (call : Nat → ι → Connection → Option Connection) (bytes : ι → List UInt8) (reads : ι → Nat) :
    Prop where
  of_short : ∀ fuel i c, reads i + (c.buffer ++ bytes i).length < fuel →
    (∀ line ∈ lines (c.buffer ++ bytes i), Short line) → call fuel i c =
      some ⟨(framed (c.buffer ++ bytes i)).buffer, c.commands ++ (framed (c.buffer ++ bytes i)).commands⟩
  long : ∀ fuel i c more result, (∃ line ∈ lines (c.buffer ++ (bytes i ++ more)), ¬Short line) →
    call fuel i c = some result → ∃ line ∈ lines (result.buffer ++ more), ¬Short line

theorem Frames.foldlM_of_short (h : Frames call bytes reads) {fuel : Nat} {is : List ι} (past : List UInt8)
    (hfuel : (is.map reads).sum + (past ++ is.flatMap bytes).length < fuel)
    (hshort : ∀ line ∈ lines (past ++ is.flatMap bytes), Short line) :
    is.foldlM (fun c i => call fuel i c) (framed past) = some (framed (past ++ is.flatMap bytes)) := by
  induction is generalizing past with
  | nil => rw [List.flatMap_nil, List.append_nil]; rfl
  | cons i is ih =>
    rw [List.flatMap_cons, ← List.append_assoc] at hfuel hshort ⊢
    rw [List.map_cons, List.sum_cons] at hfuel
    have hcall : call fuel i (framed past) = some (framed (past ++ bytes i)) := by
      rw [framed_append]
      refine h.of_short fuel i (framed past) ?_ fun line hline => hshort line ?_
      · have hrest := length_rest_le past
        simp only [framed, List.length_append] at hfuel ⊢
        omega
      · rw [lines_append, lines_append past]
        exact List.mem_append_left _ (List.mem_append_right _ hline)
    rw [List.foldlM_cons, hcall]
    exact ih (past ++ bytes i) (by omega) hshort

theorem Frames.long_of_foldlM (h : Frames call bytes reads) {fuel : Nat} {is : List ι} {c result : Connection}
    (hlong : ∃ line ∈ lines (c.buffer ++ is.flatMap bytes), ¬Short line)
    (hrun : is.foldlM (fun c i => call fuel i c) c = some result) : ∃ line ∈ lines result.buffer, ¬Short line := by
  induction is generalizing c with
  | nil =>
    cases hrun
    rwa [List.flatMap_nil, List.append_nil] at hlong
  | cons i is ih =>
    rw [List.foldlM_cons, Option.bind_eq_bind, Option.bind_eq_some_iff] at hrun
    obtain ⟨next, hnext, hrun⟩ := hrun
    exact ih (h.long fuel i c (is.flatMap bytes) next hlong hnext) hrun

theorem Frames.run_eq_iff (h : Frames call bytes reads) (is : List ι) :
    (∃ fuel, is.foldlM (fun c i => call fuel i c) {} = some (framed (is.flatMap bytes))) ↔
      ∀ line ∈ lines (is.flatMap bytes), Short line := by
  constructor
  · rintro ⟨fuel, hrun⟩ line hmem
    by_contra hlong
    obtain ⟨other, hother, -⟩ := h.long_of_foldlM (c := {}) ⟨line, hmem, hlong⟩ hrun
    rw [framed, lines_rest] at hother
    cases hother
  · intro hshort
    exact ⟨_, h.foldlM_of_short [] (Nat.lt_succ_self _) hshort⟩

theorem DaemonLocalServerConnection.frames :
    Frames DaemonLocalServerConnection.readData bytesOf List.length where
  of_short _ _ _ := readData_of_short
  long _ _ _ _ _ := long_of_readData

theorem LocalSocketController.frames : Frames LocalSocketController.readData id fun _ => 0 where
  of_short fuel input c hfuel hshort := by
    have hall : c.buffer ++ input ++ bytesOf [] = c.buffer ++ input := List.append_nil _
    rw [readData, loop_eq, DaemonLocalServerConnection.readData_of_short]
    · simp only [hall, id]
    · simpa only [hall, id, List.length_nil] using hfuel
    · simpa only [hall, id] using hshort
  long fuel input c more result hlong hread := by
    rw [readData, loop_eq] at hread
    refine DaemonLocalServerConnection.long_of_readData ?_ hread
    rw [id, ← List.append_assoc] at hlong
    exact hlong

/-- However the bytes arrive, the two ends pass on the trimmed lines of the stream that are not empty, in order, and keep
what follows the last newline, if and only if no line is longer than an `int` can count. -/
theorem readData_frames_iff (calls : List (List Read)) (inputs : List (List UInt8)) :
    ((∃ fuel, DaemonLocalServerConnection.run fuel calls = some (framed (calls.flatMap bytesOf))) ↔
        ∀ line ∈ lines (calls.flatMap bytesOf), Short line) ∧
      ((∃ fuel, LocalSocketController.run fuel inputs = some (framed inputs.flatten)) ↔
        ∀ line ∈ lines inputs.flatten, Short line) := by
  refine ⟨DaemonLocalServerConnection.frames.run_eq_iff calls, ?_⟩
  have hrun := LocalSocketController.frames.run_eq_iff inputs
  rwa [List.flatMap_id] at hrun

end Runs

section Samples

def oversized : List UInt8 := List.replicate 2147483648 97 ++ [newline]

theorem newline_not_mem_replicate (n : Nat) : newline ∉ List.replicate n 97 :=
  fun h => absurd (List.eq_of_mem_replicate h) (by decide)

theorem lines_oversized : lines oversized = [List.replicate 2147483648 97] := by
  rw [oversized, lines_part (newline_not_mem_replicate _), lines_of_not_mem List.not_mem_nil]

theorem toInt_indexOf_oversized : toInt (indexOf oversized) = -2147483648 := by
  rw [oversized, indexOf_part (newline_not_mem_replicate _), List.length_replicate]
  rfl

def oversizedRead : Read := ⟨oversized, List.append_ne_nil_of_right_ne_nil _ (List.cons_ne_nil _ _)⟩

theorem takeLine_oversized : takeLine (-2147483648) ⟨oversized, []⟩ = ⟨oversized, []⟩ := by
  have hleft : left oversized (-2147483648) = [] := List.take_zero
  have hremove : remove oversized (toInt (-2147483648 + 1)) = oversized := List.drop_zero
  rw [takeLine, hleft, hremove]
  rfl

theorem loop_oversized (fuel : Nat) : LocalSocketController.loop fuel ⟨oversized, []⟩ = none := by
  induction fuel with
  | zero => rfl
  | succ fuel ih =>
    rw [LocalSocketController.loop, toInt_indexOf_oversized]
    simp only [takeLine_oversized, ih]
    rfl

/-- The index of the newline becomes negative, no byte is removed, and the call does not return. -/
theorem readData_oversized_hangs :
    lines oversized = [List.replicate 2147483648 97] ∧
      (∀ fuel, LocalSocketController.run fuel [oversized] = none) ∧
      ∀ fuel, DaemonLocalServerConnection.run fuel [[oversizedRead]] = none := by
  refine ⟨lines_oversized, fun fuel => ?_, fun fuel => ?_⟩
  · rw [LocalSocketController.run, List.foldlM_cons, LocalSocketController.readData, List.nil_append, loop_oversized]
    rfl
  · cases fuel with
    | zero => rfl
    | succ fuel =>
      rw [DaemonLocalServerConnection.run, List.foldlM_cons, DaemonLocalServerConnection.readData_cons _ _ rfl,
        List.nil_append, ← LocalSocketController.loop_eq, oversizedRead, loop_oversized]
      rfl

end Samples

end TunnelCore.Daemon.LocalSocket
