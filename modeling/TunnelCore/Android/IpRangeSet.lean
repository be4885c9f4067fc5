import TunnelCore.Android.IpRange
import TunnelCore.Library.Spans
import Mathlib

namespace TunnelCore.Android

open TreeSet Spans

instance : Span IpRange := ⟨IpRange.lo, IpRange.hi, IpRange.lo_le_hi⟩

theorem IpRange.lexicographic : Lexicographic IpRange.compareTo where
  neg a b := (IpRange.compareTo_sign a b).1
  zero a b := (IpRange.compareTo_sign a b).2
  ext _ _ := IpRange.ext_bounds

theorem IpRange.lawful : Lawful IpRange.compareTo := IpRange.lexicographic.lawful

/-- The `TreeSet` is the list of its elements in ascending order. -/
structure IpRangeSet where
  ranges : List IpRange

namespace IpRangeSet

def empty : IpRangeSet := ⟨[]⟩

def addLoop (ranges : List IpRange) (rangeToAdd : IpRange) : Except NetError (List IpRange) :=
  match _h : ceiling IpRange.compareTo ranges rangeToAdd with
  | none => .ok (TreeSet.add IpRange.compareTo ranges rangeToAdd)
  | some upperRange =>
    match upperRange.plus rangeToAdd with
    | .error e => .error e
    | .ok none => .ok (TreeSet.add IpRange.compareTo ranges rangeToAdd)
    | .ok (some mergedRange) => addLoop (TreeSet.remove IpRange.compareTo ranges upperRange) mergedRange
termination_by ranges.length
decreasing_by exact length_remove_lt IpRange.lawful (List.mem_of_find?_eq_some _h)

def add (s : IpRangeSet) (ipRange : IpRange) : Except NetError IpRangeSet :=
  match floor IpRange.compareTo s.ranges ipRange with
  | none => mk <$> addLoop s.ranges ipRange
  | some lowerRange =>
    match lowerRange.plus ipRange with
    | .error e => .error e
    | .ok none => mk <$> addLoop s.ranges ipRange
    | .ok (some mergedRange) =>
      if mergedRange.compareTo lowerRange = 0 then .ok s
      else mk <$> addLoop (TreeSet.remove IpRange.compareTo s.ranges lowerRange) mergedRange

def unvisited (ipRange : IpRange) (ranges : List IpRange) (current : IpRange) : Nat :=
  (ranges.filter (fun e => 0 < e.compareTo current && e.start ≤ ipRange.stop)).length

def remaining (ipRange : IpRange) (ranges : List IpRange) : Option IpRange → Nat
  | none => 0
  | some current => if current.start ≤ ipRange.stop then unvisited ipRange ranges current + 2 else 1

theorem remaining_next {ipRange current : IpRange} (ranges : List IpRange) (h : current.start ≤ ipRange.stop) :
    remaining ipRange ranges (higher IpRange.compareTo ranges current) <
      remaining ipRange ranges (some current) := by
  have hcur : remaining ipRange ranges (some current) = unvisited ipRange ranges current + 2 := if_pos h
  rw [hcur]
  cases hn : higher IpRange.compareTo ranges current with
  | none => exact Nat.succ_pos _
  | some next =>
    by_cases hs : next.start ≤ ipRange.stop
    · have hnext : remaining ipRange ranges (some next) = unvisited ipRange ranges next + 2 := if_pos hs
      have hm : next ∈ ranges := List.mem_of_find?_eq_some hn
      have hgt : 0 < next.compareTo current := by simpa using List.find?_some hn
      rw [hnext]
      have himp : ∀ e : IpRange, 0 < e.compareTo next → 0 < e.compareTo current := fun e he => by
        rw [← IpRange.lawful.neg_swap] at he hgt ⊢
        exact IpRange.lawful.trans _ _ _ hgt he
      have hsub : ranges.filter (fun e => 0 < e.compareTo next && e.start ≤ ipRange.stop) =
          (ranges.filter (fun e => 0 < e.compareTo current && e.start ≤ ipRange.stop)).filter
            (fun e => 0 < e.compareTo next && e.start ≤ ipRange.stop) := by
        rw [List.filter_filter]
        apply List.filter_congr
        intro e _
        have := himp e
        by_cases h1 : 0 < e.compareTo next <;> simp_all
      have hlt : unvisited ipRange ranges next < unvisited ipRange ranges current := by
        rw [unvisited, hsub, unvisited]
        apply List.length_filter_lt_length_iff_exists.mpr
        refine ⟨next, by simp [hm, hgt, hs], ?_⟩
        have hz := (IpRange.lawful.eq_zero next next).mpr rfl
        simp [hz]
      omega
    · have hnext : remaining ipRange ranges (some next) = 1 := if_neg hs
      rw [hnext]
      omega

variable {pieces : List IpRange} {a b : IpRange} {ranges : List IpRange} {c r : IpRange}

theorem minus_unvisited {current ipRange next : IpRange}
    (hm : current.minus ipRange = .ok (some pieces)) (hn : 0 < next.compareTo current) :
    ∀ p ∈ pieces, (0 < p.compareTo next && decide (p.start ≤ ipRange.stop)) = false := by
  by_cases hi : current.lo ≤ ipRange.hi ∧ ipRange.lo ≤ current.hi
  · obtain ⟨pieces', hm', hb⟩ := IpRange.minus_of_intersect hi
    have he : pieces = pieces' := by rw [hm] at hm'; simpa using hm'
    subst he
    intro p hp
    have hpb : (p.lo, p.hi) ∈ current.remainder ipRange := hb ▸ List.mem_map_of_mem hp
    rw [← IpRange.lawful.neg_swap, IpRange.lexicographic.neg] at hn
    have hc := IpRange.lexicographic.neg next p
    have hs := IpRange.lawful.neg_swap next p
    have hle : p.start ≤ ipRange.stop ↔ p.lo ≤ ipRange.hi := IpAddress.le_iff
    rw [Bool.and_eq_false_iff, decide_eq_false_iff_not, decide_eq_false_iff_not, ← hs, hc, hle]
    change (current.lo < next.lo ∨ current.lo = next.lo ∧ current.hi < next.hi) at hn
    change ¬(next.lo < p.lo ∨ next.lo = p.lo ∧ next.hi < p.hi) ∨ ¬p.lo ≤ ipRange.hi
    simp only [IpRange.remainder, List.mem_append] at hpb
    rcases hpb with h | h <;> split at h <;> simp only [List.mem_singleton, List.not_mem_nil, Prod.mk.injEq] at h
    · omega
    · omega
  · rw [IpRange.minus_of_disjoint hi] at hm
    simp at hm

theorem remaining_replace {ipRange current : IpRange} (ranges : List IpRange)
    (hm : current.minus ipRange = .ok (some pieces)) :
    remaining ipRange (addAll IpRange.compareTo (TreeSet.remove IpRange.compareTo ranges current) pieces)
        (higher IpRange.compareTo ranges current) ≤
      remaining ipRange ranges (higher IpRange.compareTo ranges current) := by
  cases hn : higher IpRange.compareTo ranges current with
  | none => exact Nat.le_refl _
  | some next =>
    have hgt : 0 < next.compareTo current := by simpa using List.find?_some hn
    simp only [remaining, unvisited]
    rw [filter_addAll (minus_unvisited hm hgt), TreeSet.remove, List.filter_filter]
    have hle := (List.monotone_filter_right ranges (p := fun e =>
      (0 < e.compareTo next && decide (e.start ≤ ipRange.stop)) && decide (e.compareTo current ≠ 0))
      (q := fun e => 0 < e.compareTo next && decide (e.start ≤ ipRange.stop))
      (fun e he => (Bool.and_eq_true_iff.mp he).1)).length_le
    split <;> omega

def removeLoop (ipRange : IpRange) (ranges : List IpRange) : Option IpRange → Except NetError (List IpRange)
  | none => .ok ranges
  | some currentRange =>
    if _hs : currentRange.start ≤ ipRange.stop then
      match _hm : currentRange.minus ipRange with
      | .error e => .error e
      | .ok none => removeLoop ipRange ranges (higher IpRange.compareTo ranges currentRange)
      | .ok (some remainingRanges) =>
        removeLoop ipRange
          (addAll IpRange.compareTo (TreeSet.remove IpRange.compareTo ranges currentRange) remainingRanges)
          (higher IpRange.compareTo ranges currentRange)
    else .ok ranges
termination_by current => remaining ipRange ranges current
decreasing_by
  · exact remaining_next _ _hs
  · exact Nat.lt_of_le_of_lt (remaining_replace _ _hm) (remaining_next _ _hs)

def remove (s : IpRangeSet) (ipRange : IpRange) : Except NetError IpRangeSet :=
  mk <$> removeLoop ipRange s.ranges
    ((floor IpRange.compareTo s.ranges ipRange).orElse fun _ => ceiling IpRange.compareTo s.ranges ipRange)

theorem plus_points {a b t : IpRange} (ht : a.Touches b) (hlo : t.lo = min a.lo b.lo)
    (hhi : t.hi = max a.hi b.hi) : points t = points a ∪ points b :=
  points_join ht.1 ht.2 hlo hhi

theorem lt_iff_bounds : a.compareTo b < 0 ↔ a.lo < b.lo ∨ a.lo = b.lo ∧ a.hi < b.hi :=
  (IpRange.compareTo_sign a b).1

theorem nonneg_iff_bounds : 0 ≤ a.compareTo b ↔ b.lo < a.lo ∨ b.lo = a.lo ∧ b.hi ≤ a.hi := by
  rw [← Int.not_lt, lt_iff_bounds]
  omega

theorem gap_of_lt (hs : Separated ranges) (ha : a ∈ ranges)
    (hb : b ∈ ranges) (h : a.compareTo b < 0) : a.hi + 1 < b.lo :=
  hs.gap IpRange.lexicographic ha hb h

/-- `addLoop` absorbs every stored range that touches the new one, provided that none of them
sorts before it. -/
theorem addLoop_spec (ranges : List IpRange) (r : IpRange) (hs : Separated ranges)
    (hr : ∀ e ∈ ranges, e.hi + 1 < r.lo ∨ 0 ≤ e.compareTo r) :
    ∃ out, addLoop ranges r = .ok out ∧ Separated out ∧ cover out = cover ranges ∪ points r := by
  induction hn : ranges.length using Nat.strong_induction_on generalizing ranges r with
  | _ n ih =>
    have insert_apart (hall : ∀ e ∈ ranges, Apart e r) :
        ∃ out, Except.ok (ε := NetError) (TreeSet.add IpRange.compareTo ranges r) = .ok out ∧
          Separated out ∧ cover out = cover ranges ∪ points r :=
      ⟨_, rfl, separated_add IpRange.lexicographic hs hall, cover_add IpRange.lawful ranges r⟩
    rw [addLoop]
    split
    next hc =>
      apply insert_apart
      intro e he
      have := ceiling_none hc e he
      exact .inl ((hr e he).resolve_right (by omega))
    next u hc =>
      obtain ⟨hu, hur, hfirst⟩ := ceiling_some (hs.sorted IpRange.lexicographic) hc
      rw [nonneg_iff_bounds] at hur
      have hule := u.lo_le_hi
      by_cases ht : u.Touches r
      · obtain ⟨t, hp, hlo, hhi⟩ := IpRange.plus_of_touches ht
        have hnext : ∀ e ∈ TreeSet.remove IpRange.compareTo ranges u,
            e.hi + 1 < t.lo ∨ 0 ≤ e.compareTo t := by
          intro e he
          obtain ⟨he, hne⟩ := (mem_remove IpRange.lawful).mp he
          rcases hr e he with h | h
          · exact .inl (by omega)
          · have hgap := gap_of_lt hs hu he ((hfirst e he h).resolve_left hne)
            exact .inr (nonneg_iff_bounds.mpr (by omega))
        obtain ⟨out, ho, hos, hoc⟩ := ih _ (hn ▸ length_remove_lt IpRange.lawful hu)
          (TreeSet.remove IpRange.compareTo ranges u) t (separated_remove hs u) hnext rfl
        refine ⟨out, by rw [hp]; exact ho, hos, ?_⟩
        rw [hoc, plus_points ht hlo hhi, ← Set.union_assoc, cover_remove IpRange.lawful hu]
      · rw [IpRange.plus_of_not_touches ht]
        simp only [IpRange.Touches] at ht
        apply insert_apart
        intro e he
        rcases hr e he with h | h
        · exact .inl h
        · right
          change r.hi + 1 < e.lo
          rcases hfirst e he h with rfl | hlt
          · omega
          · have := gap_of_lt hs hu he hlt
            omega

theorem add_of_addLoop {s : IpRangeSet} {r t : IpRange} (hs : Separated ranges)
    (ht : ∀ e ∈ ranges, e.hi + 1 < t.lo ∨ 0 ≤ e.compareTo t)
    (hc : cover ranges ∪ points t = cover s.ranges ∪ points r) :
    ∃ s', mk <$> addLoop ranges t = .ok s' ∧ Separated s'.ranges ∧
      cover s'.ranges = cover s.ranges ∪ points r := by
  obtain ⟨out, ho, hos, hoc⟩ := addLoop_spec ranges t hs ht
  exact ⟨⟨out⟩, by rw [ho]; rfl, hos, hoc.trans hc⟩

theorem floor_bounds (hs : Separated ranges) {l r : IpRange}
    (hf : floor IpRange.compareTo ranges r = some l) : l ∈ ranges ∧ (l.lo < r.lo ∨ l.lo = r.lo ∧ l.hi ≤ r.hi) := by
  obtain ⟨hl, hlr, -⟩ := floor_some (hs.sorted IpRange.lexicographic) hf
  have := IpRange.compareTo_sign l r
  exact ⟨hl, by omega⟩

theorem gap_below_floor (hs : Separated ranges) {l r e : IpRange}
    (hf : floor IpRange.compareTo ranges r = some l) (he : e ∈ ranges) (hne : e ≠ l) (h : e.compareTo r ≤ 0) :
    e.hi + 1 < l.lo := by
  obtain ⟨hl, -, hlast⟩ := floor_some (hs.sorted IpRange.lexicographic) hf
  exact gap_of_lt hs he hl ((hlast e he h).resolve_left hne)

theorem gap_above_floor (hs : Separated ranges) {l r e : IpRange}
    (hf : floor IpRange.compareTo ranges r = some l) (he : e ∈ ranges) (hne : e ≠ l) (h : 0 ≤ e.compareTo r) :
    l.hi + 1 < e.lo := by
  obtain ⟨hl, hlex⟩ := floor_bounds hs hf
  rw [nonneg_iff_bounds] at h
  refine gap_of_lt hs hl he ?_
  rcases IpRange.lawful.trichotomy l e with h' | h' | h'
  · exact h'
  · exact absurd h'.symm hne
  · rw [lt_iff_bounds] at h'
    have := l.lo_le_hi
    have := e.lo_le_hi
    omega

theorem add_spec (s : IpRangeSet) (r : IpRange) (hs : Separated s.ranges) :
    ∃ s', s.add r = .ok s' ∧ Separated s'.ranges ∧ cover s'.ranges = cover s.ranges ∪ points r := by
  rw [add]
  split
  next hf => exact add_of_addLoop hs (fun e he => .inr (Int.le_of_lt (floor_none hf e he))) rfl
  next l hf =>
    obtain ⟨hl, hlex⟩ := floor_bounds hs hf
    have hle := l.lo_le_hi
    by_cases ht : l.Touches r
    · obtain ⟨t, hp, hlo, hhi⟩ := IpRange.plus_of_touches ht
      have hpt := plus_points ht hlo hhi
      rw [hp]
      simp only
      by_cases heq : t.compareTo l = 0
      · rw [if_pos heq]
        rw [IpRange.compareTo_eq_zero.mp heq] at hpt
        have hsub : points r ⊆ cover s.ranges := fun n hn => ⟨l, hl, by rw [hpt]; exact .inr hn⟩
        exact ⟨s, rfl, hs, (Set.union_eq_left.mpr hsub).symm⟩
      · rw [if_neg heq]
        apply add_of_addLoop (separated_remove hs l)
        · intro e he
          obtain ⟨he, hne⟩ := (mem_remove IpRange.lawful).mp he
          by_cases h : e.compareTo r ≤ 0
          · have := gap_below_floor hs hf he hne h
            exact .inl (by omega)
          · have h0 : 0 ≤ e.compareTo r := by omega
            have := gap_above_floor hs hf he hne h0
            rw [nonneg_iff_bounds] at h0
            exact .inr (nonneg_iff_bounds.mpr (by omega))
        · rw [hpt, ← Set.union_assoc, cover_remove IpRange.lawful hl]
    · rw [IpRange.plus_of_not_touches ht]
      simp only [IpRange.Touches] at ht
      refine add_of_addLoop hs (fun e he => ?_) rfl
      by_cases h : e.compareTo r ≤ 0
      · by_cases hne : e = l
        · subst hne
          have := r.lo_le_hi
          exact .inl (by omega)
        · have := gap_below_floor hs hf he hne h
          exact .inl (by omega)
      · exact .inr (by omega)

def Clear (r e : IpRange) : Prop := ¬(e.lo ≤ r.hi ∧ r.lo ≤ e.hi)

theorem mem_remainder {x : Nat × Nat} : x ∈ c.remainder r ↔
    (c.lo < r.lo ∧ x.1 = c.lo ∧ x.2 = r.lo - 1) ∨ (r.hi < c.hi ∧ x.1 = r.hi + 1 ∧ x.2 = c.hi) := by
  simp only [IpRange.remainder, List.mem_append]
  split <;> split <;> simp [*, Prod.ext_iff]

theorem bounds_of_mem_pieces {c r p : IpRange} (hi : c.lo ≤ r.hi ∧ r.lo ≤ c.hi)
    (hb : pieces.map (fun p => (p.lo, p.hi)) = c.remainder r) (hp : p ∈ pieces) :
    c.lo ≤ p.lo ∧ p.hi ≤ c.hi ∧ Clear r p := by
  have hm : (p.lo, p.hi) ∈ c.remainder r := hb ▸ List.mem_map_of_mem hp
  have := c.lo_le_hi
  have := p.lo_le_hi
  have := r.lo_le_hi
  rw [mem_remainder] at hm
  simp only [Clear]
  omega

theorem cover_pieces (hi : c.lo ≤ r.hi ∧ r.lo ≤ c.hi)
    (hb : pieces.map (fun p => (p.lo, p.hi)) = c.remainder r) : cover pieces = points c \ points r := by
  ext n
  constructor
  · rintro ⟨p, hp, hn⟩
    obtain ⟨h1, h2, h3⟩ := bounds_of_mem_pieces hi hb hp
    change p.lo ≤ n ∧ n ≤ p.hi at hn
    change (c.lo ≤ n ∧ n ≤ c.hi) ∧ ¬(r.lo ≤ n ∧ n ≤ r.hi)
    simp only [Clear] at h3
    omega
  · rintro ⟨hc, hr⟩
    change c.lo ≤ n ∧ n ≤ c.hi at hc
    change ¬(r.lo ≤ n ∧ n ≤ r.hi) at hr
    obtain ⟨x, hx, hn⟩ : ∃ x ∈ c.remainder r, x.1 ≤ n ∧ n ≤ x.2 := by
      by_cases h : n < r.lo
      · exact ⟨(c.lo, r.lo - 1), mem_remainder.mpr (.inl ⟨by omega, rfl, rfl⟩), hc.1, by simp only; omega⟩
      · exact ⟨(r.hi + 1, c.hi), mem_remainder.mpr (.inr ⟨by omega, rfl, rfl⟩), by simp only; omega, hc.2⟩
    rw [← hb, List.mem_map] at hx
    obtain ⟨p, hp, rfl⟩ := hx
    exact ⟨p, hp, hn⟩

theorem separated_pieces (hb : pieces.map (fun p => (p.lo, p.hi)) = c.remainder r) : Separated pieces := by
  have hr := r.lo_le_hi
  have h : (c.remainder r).Pairwise (fun x y => x.2 + 1 < y.1) := by
    simp only [IpRange.remainder]
    split <;> split <;> simp
    omega
  rw [← hb, List.pairwise_map] at h
  exact h

theorem cover_of_clear {r : IpRange} (h : ∀ e ∈ ranges, Clear r e) :
    cover ranges \ points r = cover ranges := by
  refine sdiff_eq_left.mpr (Set.disjoint_left.mpr ?_)
  rintro n ⟨e, he, hn⟩ hr
  exact h e he ⟨hn.1.trans hr.2, hr.1.trans hn.2⟩

theorem replace_spec {r c : IpRange} {ranges pieces : List IpRange} (hs : Separated ranges) (hc : c ∈ ranges)
    (hi : c.lo ≤ r.hi ∧ r.lo ≤ c.hi) (hb : pieces.map (fun p => (p.lo, p.hi)) = c.remainder r) :
    Separated (addAll IpRange.compareTo (TreeSet.remove IpRange.compareTo ranges c) pieces) ∧
      cover (addAll IpRange.compareTo (TreeSet.remove IpRange.compareTo ranges c) pieces) \ points r =
        cover ranges \ points r := by
  constructor
  · apply separated_addAll IpRange.lexicographic (separated_remove hs c) (separated_pieces hb)
    intro e he p hp
    obtain ⟨he, hne⟩ := (mem_remove IpRange.lawful).mp he
    obtain ⟨h1, h2, -⟩ := bounds_of_mem_pieces hi hb hp
    rcases IpRange.lawful.trichotomy e c with h | h | h
    · have := gap_of_lt hs he hc h
      exact .inl (by change e.hi + 1 < p.lo; omega)
    · exact absurd h hne
    · have := gap_of_lt hs hc he h
      exact .inr (by change p.hi + 1 < e.lo; omega)
  · rw [cover_addAll IpRange.lawful, cover_pieces hi hb, ← cover_remove IpRange.lawful hc,
      Set.union_sdiff_distrib, Set.union_sdiff_distrib, sdiff_idem]

theorem higher_mem_ne (hs : Separated ranges) {c n : IpRange}
    (hn : higher IpRange.compareTo ranges c = some n) : n ∈ ranges ∧ n ≠ c := by
  obtain ⟨h1, h2, -⟩ := higher_some (hs.sorted IpRange.lexicographic) hn
  refine ⟨h1, fun h => ?_⟩
  rw [h, IpRange.compareTo_eq_zero.mpr rfl] at h2
  omega

theorem clear_of_start_gt (hs : Separated ranges) {r c : IpRange} (hc : c ∈ ranges)
    (hst : ¬c.start ≤ r.stop) (hb : ∀ e ∈ ranges, e.compareTo c < 0 → Clear r e) : ∀ e ∈ ranges, Clear r e := by
  intro e he
  have hgt : r.hi < c.lo := Nat.lt_of_not_le fun h => hst (IpAddress.le_iff.mpr h)
  rcases IpRange.lawful.trichotomy e c with h | rfl | h
  · exact hb e he h
  · exact fun hh => by omega
  · have := gap_of_lt hs hc he h
    have := c.lo_le_hi
    exact fun hh => by omega

theorem removeLoop_spec (r : IpRange) (ranges : List IpRange) (current : Option IpRange)
    (hs : Separated ranges) (hc : ∀ c, current = some c → c ∈ ranges)
    (hb : ∀ e ∈ ranges, (∀ c, current = some c → e.compareTo c < 0) → Clear r e) :
    ∃ out, removeLoop r ranges current = .ok out ∧ Separated out ∧ cover out = cover ranges \ points r := by
  induction hk : remaining r ranges current using Nat.strong_induction_on generalizing ranges current with
  | _ k ih =>
    cases current with
    | none =>
      have hclear : ∀ e ∈ ranges, Clear r e := fun e he => hb e he (by simp)
      exact ⟨ranges, by rw [removeLoop], hs, (cover_of_clear hclear).symm⟩
    | some c =>
      have hcm := hc c rfl
      have hbelow : ∀ e ∈ ranges, e.compareTo c < 0 → Clear r e := fun e he h => hb e he (by simpa using h)
      have hsorted := hs.sorted IpRange.lexicographic
      by_cases hst : c.start ≤ r.stop
      · have hlt := remaining_next ranges hst
        by_cases hx : c.lo ≤ r.hi ∧ r.lo ≤ c.hi
        · obtain ⟨pieces, hm, hpb⟩ := IpRange.minus_of_intersect hx
          have hle := remaining_replace ranges hm
          obtain ⟨hsep, hcov⟩ := replace_spec hs hcm hx hpb
          have hclear : ∀ e ∈ addAll IpRange.compareTo (TreeSet.remove IpRange.compareTo ranges c) pieces,
              (∀ n, higher IpRange.compareTo ranges c = some n → e.compareTo n < 0) → Clear r e := by
            intro e he h
            rcases (mem_addAll IpRange.lawful).mp he with hp | hr
            · exact (bounds_of_mem_pieces hx hpb hp).2.2
            · obtain ⟨he, hne⟩ := (mem_remove IpRange.lawful).mp hr
              exact hbelow e he ((le_of_lt_higher IpRange.lawful hsorted he h).resolve_left hne)
          obtain ⟨out, ho, hos, hoc⟩ := ih _ (by omega) _ _ hsep (fun n hn =>
            (mem_addAll IpRange.lawful).mpr (.inr ((mem_remove IpRange.lawful).mpr (higher_mem_ne hs hn)))) hclear rfl
          refine ⟨out, ?_, hos, hoc.trans hcov⟩
          rw [removeLoop, dif_pos hst]
          split <;> simp_all
        · have hm := IpRange.minus_of_disjoint hx
          have hclear : ∀ e ∈ ranges, (∀ n, higher IpRange.compareTo ranges c = some n → e.compareTo n < 0) →
              Clear r e := by
            intro e he h
            rcases le_of_lt_higher IpRange.lawful hsorted he h with rfl | hlt
            · exact hx
            · exact hbelow e he hlt
          obtain ⟨out, ho, hos, hoc⟩ := ih _ (by omega) ranges _ hs (fun n hn => (higher_mem_ne hs hn).1) hclear rfl
          refine ⟨out, ?_, hos, hoc⟩
          rw [removeLoop, dif_pos hst]
          split <;> simp_all
      · have hclear := clear_of_start_gt hs hcm hst hbelow
        exact ⟨ranges, by rw [removeLoop, dif_neg hst], hs, (cover_of_clear hclear).symm⟩

theorem remove_spec (s : IpRangeSet) (r : IpRange) (hs : Separated s.ranges) :
    ∃ s', s.remove r = .ok s' ∧ Separated s'.ranges ∧ cover s'.ranges = cover s.ranges \ points r := by
  have hsorted := hs.sorted IpRange.lexicographic
  have hmem : ∀ c, ((floor IpRange.compareTo s.ranges r).orElse fun _ =>
      ceiling IpRange.compareTo s.ranges r) = some c → c ∈ s.ranges := by
    intro c hc
    cases hf : floor IpRange.compareTo s.ranges r with
    | some l =>
      obtain rfl : l = c := by simpa [hf] using hc
      exact (floor_bounds hs hf).1
    | none => exact (ceiling_some hsorted (by simpa [hf] using hc)).1
  have hclear : ∀ e ∈ s.ranges, (∀ c, ((floor IpRange.compareTo s.ranges r).orElse fun _ =>
      ceiling IpRange.compareTo s.ranges r) = some c → e.compareTo c < 0) → Clear r e := by
    intro e he h
    cases hf : floor IpRange.compareTo s.ranges r with
    | some l =>
      obtain ⟨hl, hlex⟩ := floor_bounds hs hf
      have hel := gap_of_lt hs he hl (h l (by simp [hf]))
      exact fun hh => by omega
    | none =>
      have hge := floor_none hf e he
      cases hcl : ceiling IpRange.compareTo s.ranges r with
      | none =>
        have := ceiling_none hcl e he
        omega
      | some u =>
        have heu := h u (by simp [hf, hcl])
        rcases (ceiling_some hsorted hcl).2.2 e he (Int.le_of_lt hge) with rfl | hue
        · exact absurd heu (IpRange.lawful.irrefl e)
        · exact absurd (IpRange.lawful.trans _ _ _ heu hue) (IpRange.lawful.irrefl e)
  obtain ⟨out, ho, hos, hoc⟩ := removeLoop_spec r s.ranges _ hs hmem hclear
  exact ⟨⟨out⟩, by rw [remove, ho]; rfl, hos, hoc⟩

inductive Call where
  | add (ipRange : IpRange)
  | remove (ipRange : IpRange)

def call (s : IpRangeSet) : Call → Except NetError IpRangeSet
  | .add ipRange => s.add ipRange
  | .remove ipRange => s.remove ipRange

def run (s : IpRangeSet) : List Call → Except NetError IpRangeSet
  | [] => .ok s
  | c :: calls =>
    match s.call c with
    | .error e => .error e
    | .ok s' => s'.run calls

def addresses (r : IpRange) : Set IpAddress := {ip | r.start ≤ ip ∧ ip ≤ r.stop}

def covered (s : IpRangeSet) : Set IpAddress := {ip | ∃ r ∈ s.ranges, ip ∈ addresses r}

def Call.meaning (ips : Set IpAddress) : Call → Set IpAddress
  | .add ipRange => ips ∪ addresses ipRange
  | .remove ipRange => ips \ addresses ipRange

structure Canonical (s : IpRangeSet) : Prop where
  sorted : s.ranges.Pairwise (fun a b => a.compareTo b < 0)
  disjoint : s.ranges.Pairwise (fun a b => Disjoint (addresses a) (addresses b))
  not_adjacent : ∀ a ∈ s.ranges, ∀ b ∈ s.ranges, a.stop.inc ≠ .ok b.start

theorem addresses_eq (r : IpRange) : addresses r = Set.preimage IpAddress.rank (points r) := by
  ext ip
  exact and_congr IpAddress.le_iff IpAddress.le_iff

theorem covered_eq (s : IpRangeSet) : s.covered = Set.preimage IpAddress.rank (cover s.ranges) := by
  ext ip
  simp only [covered, addresses_eq, cover, Set.mem_ofPred_eq, Set.mem_preimage]

theorem canonical_of_separated {s : IpRangeSet} (hs : Separated s.ranges) : s.Canonical where
  sorted := hs.sorted IpRange.lexicographic
  disjoint := by
    refine hs.imp fun {a b} hab => Set.disjoint_left.mpr fun ip ha hb => ?_
    rw [addresses_eq] at ha hb
    have h1 : ip.rank ≤ a.hi := ha.2
    have h2 : b.lo ≤ ip.rank := hb.1
    change a.hi + 1 < b.lo at hab
    omega
  not_adjacent := by
    intro a ha b hb h
    have hmax : a.stop.isMaxIp = false := by
      by_contra hm
      simp [IpAddress.inc, Bool.not_eq_false _ |>.mp hm] at h
    obtain ⟨ip, hinc, -, hrank⟩ := IpAddress.inc_spec a.stop hmax
    rw [hinc] at h
    have hb' : b.lo = a.hi + 1 := (congrArg IpAddress.rank (Except.ok.inj h).symm).trans hrank
    have := a.lo_le_hi
    have := b.lo_le_hi
    rcases IpRange.lawful.trichotomy a b with hlt | rfl | hgt
    · have := gap_of_lt hs ha hb hlt
      omega
    · omega
    · have := gap_of_lt hs hb ha hgt
      omega

theorem call_spec (s : IpRangeSet) (c : Call) (hs : Separated s.ranges) :
    ∃ s', s.call c = .ok s' ∧ Separated s'.ranges ∧ s'.covered = c.meaning s.covered := by
  cases c with
  | add r =>
    obtain ⟨s', h, hs', hc⟩ := s.add_spec r hs
    refine ⟨s', h, hs', ?_⟩
    rw [covered_eq, hc, Call.meaning, covered_eq, addresses_eq, Set.preimage_union]
  | remove r =>
    obtain ⟨s', h, hs', hc⟩ := s.remove_spec r hs
    refine ⟨s', h, hs', ?_⟩
    rw [covered_eq, hc, Call.meaning, covered_eq, addresses_eq, Set.preimage_sdiff]

theorem run_spec (calls : List Call) (s : IpRangeSet) (hs : Separated s.ranges) :
    ∃ s', s.run calls = .ok s' ∧ Separated s'.ranges ∧ s'.covered = calls.foldl Call.meaning s.covered := by
  induction calls generalizing s with
  | nil => exact ⟨s, rfl, hs, rfl⟩
  | cons c calls ih =>
    obtain ⟨t, ht, hts, htc⟩ := s.call_spec c hs
    obtain ⟨s', h, hs', hc⟩ := ih t hts
    exact ⟨s', by rw [run, ht]; exact h, hs', by rw [hc, htc, List.foldl_cons]⟩

theorem covered_empty : empty.covered = ∅ := by
  rw [covered_eq, empty, cover_nil, Set.preimage_empty]

/-- From the empty set no sequence of calls fails, the stored ranges stay sorted, disjoint and
non-adjacent, and the covered addresses are the calls folded as union and difference. -/
theorem run_empty_canonical (calls : List Call) : ∃ s, empty.run calls = .ok s ∧ s.Canonical ∧
    s.covered = calls.foldl Call.meaning ∅ := by
  obtain ⟨s, h, hs, hc⟩ := run_spec calls empty List.Pairwise.nil
  exact ⟨s, h, canonical_of_separated hs, covered_empty ▸ hc⟩

end IpRangeSet

end TunnelCore.Android
