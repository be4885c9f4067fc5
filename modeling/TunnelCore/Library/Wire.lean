import TunnelCore.Library.BigEndian

namespace TunnelCore.Wire

variable {α β : Type}

abbrev Reader := StateT (List UInt8) Option

def Reads (p : Reader α) (bytes : List UInt8) (a : α) : Prop := ∀ rest, p.run (bytes ++ rest) = some (a, rest)

variable {p : Reader α} {a : α} {bytes : List UInt8}

theorem Reads.bind {f : α → Reader β} {bytes more : List UInt8} {b : β} (hp : Reads p bytes a)
    (hf : Reads (f a) more b) : Reads (p >>= f) (bytes ++ more) b := by
  intro rest
  rw [StateT.run_bind, List.append_assoc, hp]
  exact hf rest

theorem Reads.pure (a : α) : Reads (pure a) [] a := fun _ => rfl

theorem Reads.map (f : α → β) (hp : Reads p bytes a) :
    Reads (f <$> p) bytes (f a) := by
  intro rest
  rw [StateT.run_map, hp]
  rfl

theorem Reads.get {f : List UInt8 → Reader α}
    (h : ∀ rest, (f (bytes ++ rest)).run (bytes ++ rest) = some (a, rest)) : Reads (get >>= f) bytes a := h

def take (n : Nat) : Reader (List UInt8) := fun bytes =>
  if n ≤ bytes.length then some (bytes.take n, bytes.drop n) else none

theorem reads_take (bytes : List UInt8) : Reads (take bytes.length) bytes bytes := by
  intro rest
  change (if _ then _ else _) = _
  rw [if_pos (by simp), List.take_left, List.drop_left]

def uint (n : Nat) : Reader Nat := BigEndian.value <$> take n

theorem reads_uint {n x : Nat} (h : x < 256 ^ n) : Reads (uint n) (BigEndian.bytes n x) x := by
  have hread := (reads_take (BigEndian.bytes n x)).map BigEndian.value
  rwa [BigEndian.length_bytes, BigEndian.value_bytes, Nat.mod_eq_of_lt h] at hread

theorem reads_byte {n : Nat} (h : n < 256) : Reads (uint 1) [UInt8.ofNat n] n := by
  have hread := reads_uint (n := 1) (x := n) h
  rwa [BigEndian.bytes, Nat.pow_zero, Nat.div_one, BigEndian.bytes] at hread

def count (p : Reader α) : Nat → Reader (List α)
  | 0 => pure []
  | n + 1 => do
    let a ← p
    let rest ← count p n
    return a :: rest

theorem Reads.count_one (h : Reads p bytes a) :
    Reads (count p 1) bytes [a] := by
  have hread : Reads (count p 1) (bytes ++ ([] ++ [])) [a] := h.bind ((Reads.pure []).bind (Reads.pure [a]))
  rwa [List.append_nil, List.append_nil] at hread

def many (p : Reader α) : Nat → Reader (List α)
  | 0 => fun bytes => if bytes = [] then some ([], []) else none
  | fuel + 1 => fun bytes =>
    if bytes = [] then some ([], [])
    else p.run bytes >>= fun (a, rest) => (many p fuel).run rest >>= fun (as, rest) => some (a :: as, rest)

theorem many_nil (p : Reader α) (fuel : Nat) : (many p fuel).run [] = some ([], []) := by
  cases fuel with
  | zero => rfl
  | succ fuel => rfl

theorem Reads.many_one (h : Reads p bytes a) (hne : bytes ≠ []) (fuel : Nat) :
    (many p (fuel + 1)).run bytes = some ([a], []) := by
  have hread := h []
  rw [List.append_nil] at hread
  change (if _ then _ else _) = _
  rw [if_neg hne, hread]
  exact congrArg (· >>= fun (as, rest) => some (a :: as, rest)) (many_nil p fuel)

def all (p : Reader α) (bytes : List UInt8) : Option α :=
  match p.run bytes with
  | some (a, []) => some a
  | _ => none

theorem Reads.all_eq (h : Reads p bytes a) : all p bytes = some a := by
  have hread := h []
  rw [List.append_nil] at hread
  rw [all, hread]

end TunnelCore.Wire
