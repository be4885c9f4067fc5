import TunnelCore.Android.IpAddress

namespace TunnelCore.Android

open IpAddress

/-- `IpRange`; the two proof fields are the checks of its `init` block. -/
structure IpRange where
  start : IpAddress
  stop : IpAddress
  same_size : start.size = stop.size
  start_le : start ≤ stop
deriving DecidableEq

namespace IpRange

def make (start stop : IpAddress) : Except NetError IpRange :=
  if hs : start.size = stop.size then
    if hle : start ≤ stop then .ok ⟨start, stop, hs, hle⟩
    else .error (.startAfterEnd start stop)
  else .error (.mixedFamilies start stop)

def contains (r other : IpRange) : Bool := r.start ≤ other.start && other.stop ≤ r.stop

def isIntersect (r other : IpRange) : Bool := r.start ≤ other.stop && other.start ≤ r.stop

/-- `start > stop && !start.isMinIp() && start.dec() == stop` -/
def startsAfter (start stop : IpAddress) : Except NetError Bool :=
  if stop < start && !start.isMinIp then start.dec.map (· == stop) else .ok false

/-- `stop < start && !stop.isMaxIp() && stop.inc() == start` -/
def endsBefore (stop start : IpAddress) : Except NetError Bool :=
  if stop < start && !stop.isMaxIp then stop.inc.map (· == start) else .ok false

def plus (r other : IpRange) : Except NetError (Option IpRange) := do
  if ← startsAfter r.start other.stop then some <$> make other.start r.stop
  else if ← endsBefore r.stop other.start then some <$> make r.start other.stop
  else if !r.isIntersect other then pure none
  else some <$> make (minOf r.start other.start) (maxOf r.stop other.stop)

def leftOf (r other : IpRange) : Except NetError (List IpRange) :=
  if r.start < other.start then do
    let last ← other.start.dec
    let piece ← make r.start last
    pure [piece]
  else pure []

def rightOf (r other : IpRange) : Except NetError (List IpRange) :=
  if other.stop < r.stop then do
    let first ← other.stop.inc
    let piece ← make first r.stop
    pure [piece]
  else pure []

def minus (r other : IpRange) : Except NetError (Option (List IpRange)) :=
  if other.contains r then pure (some [])
  else if !r.isIntersect other then pure none
  else do
    let left ← r.leftOf other
    let right ← r.rightOf other
    pure (some (left ++ right))

def compareTo (r other : IpRange) : Int :=
  if r.start.compareTo other.start = 0 then r.stop.compareTo other.stop
  else r.start.compareTo other.start

def lo (r : IpRange) : Nat := r.start.rank

def hi (r : IpRange) : Nat := r.stop.rank

theorem lo_le_hi (r : IpRange) : r.lo ≤ r.hi := le_iff.mp r.start_le

variable {r s : IpRange}

theorem ext_bounds (hlo : r.lo = s.lo) (hhi : r.hi = s.hi) : r = s := by
  cases r
  cases s
  simp only [mk.injEq]
  exact ⟨rank_injective hlo, rank_injective hhi⟩

theorem make_spec (start stop : IpAddress) (hs : start.size = stop.size) (hle : start.rank ≤ stop.rank) :
    ∃ t, make start stop = .ok t ∧ t.lo = start.rank ∧ t.hi = stop.rank :=
  ⟨⟨start, stop, hs, le_iff.mpr hle⟩, by rw [make, dif_pos hs, dif_pos (le_iff.mpr hle)], rfl, rfl⟩

theorem compareTo_sign (r s : IpRange) :
    (r.compareTo s < 0 ↔ r.lo < s.lo ∨ r.lo = s.lo ∧ r.hi < s.hi) ∧
      (r.compareTo s = 0 ↔ r.lo = s.lo ∧ r.hi = s.hi) := by
  have hl := IpAddress.compareTo_sign r.start s.start
  have hh := IpAddress.compareTo_sign r.stop s.stop
  simp only [compareTo, lo, hi]
  split <;> omega

theorem compareTo_eq_zero : r.compareTo s = 0 ↔ r = s := by
  rw [(compareTo_sign r s).2]
  exact ⟨fun h => ext_bounds h.1 h.2, fun h => h ▸ ⟨rfl, rfl⟩⟩

theorem isIntersect_iff : r.isIntersect s = true ↔ r.lo ≤ s.hi ∧ s.lo ≤ r.hi := by
  simp [isIntersect, le_iff, lo, hi]

theorem contains_iff : r.contains s = true ↔ r.lo ≤ s.lo ∧ s.hi ≤ r.hi := by
  simp [contains, le_iff, lo, hi]

theorem startsAfter_spec (start stop : IpAddress) :
    startsAfter start stop = .ok (decide (start.rank = stop.rank + 1)) := by
  by_cases hg : stop < start ∧ start.isMinIp = false
  · obtain ⟨prev, hd, _, hr⟩ := dec_spec start hg.2
    have he : (prev == stop) = decide (start.rank = stop.rank + 1) := by
      rw [Bool.eq_iff_iff, beq_iff_eq, ← rank_inj, decide_eq_true_iff]
      omega
    simp [startsAfter, hg, hd, Except.map, he]
  · have hn : start.rank ≠ stop.rank + 1 := by
      intro h
      exact hg ⟨lt_iff.mpr (by omega), not_isMinIp_of_lt (size_eq_of_rank_succ h) (by omega)⟩
    simp only [startsAfter, hn, decide_false]
    rw [if_neg (by simpa using hg)]

theorem endsBefore_spec (stop start : IpAddress) :
    endsBefore stop start = .ok (decide (start.rank = stop.rank + 1)) := by
  by_cases hg : stop < start ∧ stop.isMaxIp = false
  · obtain ⟨next, hd, _, hr⟩ := inc_spec stop hg.2
    have he : (next == start) = decide (start.rank = stop.rank + 1) := by
      rw [Bool.eq_iff_iff, beq_iff_eq, ← rank_inj, decide_eq_true_iff]
      omega
    simp [endsBefore, hg, hd, Except.map, he]
  · have hn : start.rank ≠ stop.rank + 1 := by
      intro h
      exact hg ⟨lt_iff.mpr (by omega), not_isMaxIp_of_lt (size_eq_of_rank_succ h) (by omega)⟩
    simp only [endsBefore, hn, decide_false]
    rw [if_neg (by simpa using hg)]

def Touches (r s : IpRange) : Prop := r.lo ≤ s.hi + 1 ∧ s.lo ≤ r.hi + 1

theorem size_eq_of_touches (h : r.Touches s) : r.start.size = s.start.size := by
  obtain ⟨h1, h2⟩ := h
  have hr := r.same_size
  have hs := s.same_size
  simp only [lo, hi] at h1 h2
  rcases r.start.size_cases with a | a <;> rcases s.start.size_cases with b | b
  · rw [a, b]
  · have := (rank_of_size_four (hr ▸ a)).2
    have := (rank_of_size_sixteen b).1
    omega
  · have := (rank_of_size_sixteen a).1
    have := (rank_of_size_four (hs ▸ b)).2
    omega
  · rw [a, b]

theorem plus_of_touches (h : r.Touches s) :
    ∃ t, r.plus s = .ok (some t) ∧ t.lo = min r.lo s.lo ∧ t.hi = max r.hi s.hi := by
  have hsz := size_eq_of_touches h
  have hr := r.lo_le_hi
  have hs := s.lo_le_hi
  have hsr := r.same_size
  have hss := s.same_size
  obtain ⟨h1, h2⟩ := h
  simp only [plus, startsAfter_spec, endsBefore_spec, bind, Except.bind]
  simp only [lo, hi] at *
  by_cases ha : r.start.rank = s.stop.rank + 1
  · obtain ⟨t, hm, hlo, hhi⟩ := make_spec s.start r.stop (by omega) (by omega)
    exact ⟨t, by simp [ha, hm, Functor.map, Except.map], by simp only [lo] at hlo; omega,
      by simp only [hi] at hhi; omega⟩
  · by_cases hb : s.start.rank = r.stop.rank + 1
    · obtain ⟨t, hm, hlo, hhi⟩ := make_spec r.start s.stop (by omega) (by omega)
      exact ⟨t, by simp [ha, hb, hm, Functor.map, Except.map], by simp only [lo] at hlo; omega,
        by simp only [hi] at hhi; omega⟩
    · have hx : r.isIntersect s = true := isIntersect_iff.mpr (by simp only [lo, hi]; omega)
      have hmin : (minOf r.start s.start).size = r.start.size := by unfold minOf; split <;> omega
      have hmax : (maxOf r.stop s.stop).size = r.start.size := by unfold maxOf; split <;> omega
      obtain ⟨t, hm, hlo, hhi⟩ := make_spec (minOf r.start s.start) (maxOf r.stop s.stop) (by omega)
        (by rw [rank_minOf, rank_maxOf]; omega)
      rw [rank_minOf] at hlo
      rw [rank_maxOf] at hhi
      exact ⟨t, by simp [ha, hb, hx, hm, Functor.map, Except.map], hlo, hhi⟩

theorem plus_of_not_touches (h : ¬r.Touches s) : r.plus s = .ok none := by
  have hr := r.lo_le_hi
  have hs := s.lo_le_hi
  simp only [Touches, lo, hi] at h hr hs
  have hn : r.isIntersect s = false := by
    rw [← Bool.not_eq_true, isIntersect_iff]
    simp only [lo, hi]
    omega
  have ha : r.start.rank ≠ s.stop.rank + 1 := by omega
  have hb : s.start.rank ≠ r.stop.rank + 1 := by omega
  simp [plus, startsAfter_spec, endsBefore_spec, bind, Except.bind, ha, hb, hn, pure, Except.pure]

theorem leftOf_spec (hsz : r.start.size = s.start.size) :
    ∃ left, r.leftOf s = .ok left ∧
      left.map (fun p => (p.lo, p.hi)) = if r.lo < s.lo then [(r.lo, s.lo - 1)] else [] := by
  by_cases h : r.start.rank < s.start.rank
  · obtain ⟨last, hd, hls, hlr⟩ := dec_spec s.start (not_isMinIp_of_lt hsz h)
    obtain ⟨t, hm, hlo, hhi⟩ := make_spec r.start last (by omega) (by omega)
    refine ⟨[t], by simp [leftOf, lt_iff.mpr h, hd, hm, bind, Except.bind, pure, Except.pure], ?_⟩
    have hl : last.rank = s.start.rank - 1 := by omega
    simp [lo, h, hhi, hl] at hlo ⊢
    exact hlo
  · have hn : ¬r.start < s.start := fun hc => h (lt_iff.mp hc)
    exact ⟨[], by simp [leftOf, hn, pure, Except.pure], by simp [lo, h]⟩

theorem rightOf_spec (hsz : r.start.size = s.start.size) :
    ∃ right, r.rightOf s = .ok right ∧
      right.map (fun p => (p.lo, p.hi)) = if s.hi < r.hi then [(s.hi + 1, r.hi)] else [] := by
  have hsr := r.same_size
  have hss := s.same_size
  by_cases h : s.stop.rank < r.stop.rank
  · obtain ⟨first, hd, hfs, hfr⟩ := inc_spec s.stop (not_isMaxIp_of_lt (by omega) h)
    obtain ⟨t, hm, hlo, hhi⟩ := make_spec first r.stop (by omega) (by omega)
    refine ⟨[t], by simp [rightOf, lt_iff.mpr h, hd, hm, bind, Except.bind, pure, Except.pure], ?_⟩
    simp [hi, h, hlo, hfr] at hhi ⊢
    exact hhi
  · have hn : ¬s.stop < r.stop := fun hc => h (lt_iff.mp hc)
    exact ⟨[], by simp [rightOf, hn, pure, Except.pure], by simp [hi, h]⟩

def remainder (r s : IpRange) : List (Nat × Nat) :=
  (if r.lo < s.lo then [(r.lo, s.lo - 1)] else []) ++ (if s.hi < r.hi then [(s.hi + 1, r.hi)] else [])

theorem minus_of_intersect (h : r.lo ≤ s.hi ∧ s.lo ≤ r.hi) :
    ∃ pieces, r.minus s = .ok (some pieces) ∧ pieces.map (fun p => (p.lo, p.hi)) = r.remainder s := by
  by_cases hc : s.contains r = true
  · have hb := contains_iff.mp hc
    refine ⟨[], by simp [minus, hc, pure, Except.pure], ?_⟩
    rw [remainder, if_neg (by omega), if_neg (by omega)]
    rfl
  · have hsz := size_eq_of_touches (r := r) (s := s) ⟨by omega, by omega⟩
    obtain ⟨left, hl, hlb⟩ := leftOf_spec hsz
    obtain ⟨right, hr, hrb⟩ := rightOf_spec hsz
    refine ⟨left ++ right, ?_, by rw [List.map_append, hlb, hrb, remainder]⟩
    simp [minus, hc, isIntersect_iff.mpr h, hl, hr, bind, Except.bind, pure, Except.pure]

theorem minus_of_disjoint (h : ¬(r.lo ≤ s.hi ∧ s.lo ≤ r.hi)) : r.minus s = .ok none := by
  have hr := r.lo_le_hi
  have hs := s.lo_le_hi
  have hc : ¬s.contains r = true := by rw [contains_iff]; omega
  have hi : ¬r.isIntersect s = true := by rwa [isIntersect_iff]
  simp [minus, hc, hi, pure, Except.pure]

end IpRange

end TunnelCore.Android
