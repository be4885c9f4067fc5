import TunnelCore.RouteMonitor.Rows
import Mathlib.Data.List.MinMax
import Mathlib.Data.Prod.Lex

namespace TunnelCore.RouteMonitor

structure InterfaceMetrics where
  ipv4 : UInt64 → Option UInt32
  ipv6 : UInt64 → Option UInt32

def InterfaceMetrics.of (metrics : InterfaceMetrics) : Family → UInt64 → Option UInt32
  | .inet6 => metrics.ipv6
  | .inet => metrics.ipv4
  | .unspec => fun _ => none

def ulongMax : UInt32 := 0xffffffff

/-- The sum of both metrics, with the test for overflow that the source makes. -/
def routeMetric (row : Row) (interfaceMetric : UInt32) : UInt32 :=
  if row.metric + interfaceMetric < row.metric then ulongMax else row.metric + interfaceMetric

theorem routeMetric_toNat (row : Row) (m : UInt32) :
    (routeMetric row m).toNat = min (row.metric.toNat + m.toNat) (2 ^ 32 - 1) := by
  have hr := row.metric.toNat_lt
  have hm := m.toNat_lt
  rw [routeMetric]
  split
  next h =>
    rw [UInt32.lt_iff_toNat_lt, UInt32.toNat_add] at h
    rw [show ulongMax.toNat = 2 ^ 32 - 1 from rfl]
    omega
  next h =>
    rw [UInt32.lt_iff_toNat_lt, UInt32.toNat_add] at h
    rw [UInt32.toNat_add]
    omega

structure Search where
  nextHop : SockaddrInet
  bestLuid : UInt64
  bestMatch : Int
  bestMetric : UInt32

def Search.start (data : Row) : Search where
  nextHop := .blank data.destinationPrefix.family
  bestLuid := 0
  bestMatch := -1
  bestMetric := ulongMax

section

variable (luid : UInt64) (metrics : InterfaceMetrics) (data : Row)

/-- The interface to write the route to, with `0` for none: a row for the very prefix is left to do
its work. -/
def interfaceFor (row : Row) : UInt64 :=
  if row.destinationPrefix.prefixLength = data.destinationPrefix.prefixLength then 0 else row.interfaceLuid

def consider (best : Search) (row : Row) : Search :=
  if row.interfaceLuid = luid then best
  else if row.destinationPrefix.prefixLength < best.bestMatch then best
  else if row.protocol = data.protocol ∧ row.metric = data.metric then best
  else if row.destinationPrefix.routeContainsDest data.destinationPrefix = false then best
  else
    match metrics.of data.destinationPrefix.family row.interfaceLuid with
    | none => best
    | some m =>
      if row.destinationPrefix.prefixLength = best.bestMatch ∧ routeMetric row m ≥ best.bestMetric then best
      else
        { nextHop := row.nextHop
          bestLuid := interfaceFor data row
          bestMatch := row.destinationPrefix.prefixLength
          bestMetric := routeMetric row m }

def search (table : List Row) : Search := table.foldl (consider luid metrics data) (.start data)

/-- A row the traffic to the excluded prefix could take outside the tunnel. -/
def Eligible (row : Row) : Prop :=
  row.interfaceLuid ≠ luid ∧ ¬(row.protocol = data.protocol ∧ row.metric = data.metric) ∧
    row.destinationPrefix.Covers data.destinationPrefix ∧
    (metrics.of data.destinationPrefix.family row.interfaceLuid).isSome

instance (row : Row) : Decidable (Eligible luid metrics data row) := inferInstanceAs (Decidable (_ ∧ _))

/-- Route metric plus interface metric, saturated at the largest 32-bit number. -/
def cost (row : Row) : Nat :=
  min (row.metric.toNat + ((metrics.of data.destinationPrefix.family row.interfaceLuid).getD 0).toNat) (2 ^ 32 - 1)

/-- Rows in the order the system prefers them: longer prefixes first, then lower costs. -/
def rank (row : Row) : ℕᵒᵈ ×ₗ ℕ := toLex (OrderDual.toDual row.destinationPrefix.prefixLength, cost metrics data row)

def Best (table : List Row) (row : Row) : Prop :=
  row ∈ table ∧ Eligible luid metrics data row ∧ ∀ r ∈ table, Eligible luid metrics data r →
    r.destinationPrefix.prefixLength < row.destinationPrefix.prefixLength ∨
      r.destinationPrefix.prefixLength = row.destinationPrefix.prefixLength ∧ cost metrics data row ≤ cost metrics data r

def Search.record : Option Row → Search
  | none => .start data
  | some row =>
    { nextHop := row.nextHop
      bestLuid := interfaceFor data row
      bestMatch := row.destinationPrefix.prefixLength
      bestMetric := routeMetric row ((metrics.of data.destinationPrefix.family row.interfaceLuid).getD 0) }

end

section

variable {luid : UInt64} {metrics : InterfaceMetrics} {data : Row}

theorem rank_lt_iff {r c : Row} : rank metrics data r < rank metrics data c ↔
    c.destinationPrefix.prefixLength < r.destinationPrefix.prefixLength ∨
      r.destinationPrefix.prefixLength = c.destinationPrefix.prefixLength ∧ cost metrics data r < cost metrics data c := by
  rw [rank, rank, Prod.Lex.toLex_lt_toLex]
  simp only [OrderDual.toDual_lt_toDual, OrderDual.toDual_inj]

theorem rank_le_iff {r c : Row} : rank metrics data r ≤ rank metrics data c ↔
    c.destinationPrefix.prefixLength < r.destinationPrefix.prefixLength ∨
      r.destinationPrefix.prefixLength = c.destinationPrefix.prefixLength ∧ cost metrics data r ≤ cost metrics data c := by
  rw [rank, rank, Prod.Lex.toLex_le_toLex]
  simp only [OrderDual.toDual_lt_toDual, OrderDual.toDual_inj]

variable {row : Row}

theorem consider_of_not_eligible {best : Search} (h : ¬Eligible luid metrics data row) :
    consider luid metrics data best row = best := by
  rw [consider]
  split
  · rfl
  next hl =>
  split
  · rfl
  split
  · rfl
  next ho =>
  split
  · rfl
  next hc =>
  rw [Bool.not_eq_false, IpAddressPrefix.routeContainsDest_iff] at hc
  cases hm : metrics.of data.destinationPrefix.family row.interfaceLuid with
  | none => rfl
  | some m => exact absurd ⟨hl, ho, hc, by rw [hm]; rfl⟩ h

theorem consider_of_eligible {best : Search} (h : Eligible luid metrics data row) :
    consider luid metrics data best row =
      if row.destinationPrefix.prefixLength < best.bestMatch ∨
          row.destinationPrefix.prefixLength = best.bestMatch ∧ best.bestMetric.toNat ≤ cost metrics data row then best
      else Search.record metrics data (some row) := by
  obtain ⟨hl, ho, hc, hm⟩ := h
  obtain ⟨m, hm⟩ := Option.isSome_iff_exists.mp hm
  have hcost : cost metrics data row = (routeMetric row m).toNat := by
    rw [routeMetric_toNat, cost, hm, Option.getD_some]
  have hge : routeMetric row m ≥ best.bestMetric ↔ best.bestMetric.toNat ≤ cost metrics data row := by
    rw [hcost]
    exact UInt32.le_iff_toNat_le
  rw [consider, if_neg hl, if_neg ho, (IpAddressPrefix.routeContainsDest_iff _ _).mpr hc, hm]
  simp only [Bool.true_eq_false, if_false, hge]
  by_cases hshort : row.destinationPrefix.prefixLength < best.bestMatch
  · rw [if_pos hshort, if_pos (.inl hshort)]
  · rw [if_neg hshort]
    simp only [hshort, false_or, Search.record, hm, Option.getD_some]

theorem consider_record (chosen : Option Row) (h : Eligible luid metrics data row) :
    consider luid metrics data (.record metrics data chosen) row =
      .record metrics data
        (Option.casesOn chosen (some row) fun c =>
          if rank metrics data row < rank metrics data c then some row else some c) := by
  rw [consider_of_eligible h]
  cases chosen with
  | none =>
    refine if_neg ?_
    rintro (hlt | ⟨heq, -⟩)
    · exact absurd hlt (by simp [Search.record, Search.start])
    · exact absurd heq (by simp [Search.record, Search.start])
  | some c =>
    have hcost : (routeMetric c ((metrics.of data.destinationPrefix.family c.interfaceLuid).getD 0)).toNat =
        cost metrics data c := routeMetric_toNat c _
    simp only [Search.record, hcost, rank_lt_iff, Nat.cast_lt, Nat.cast_inj]
    split
    next hkeep => rw [if_neg (by omega)]
    next htake => rw [if_pos (by omega)]

theorem search_eq_record (table : List Row) : search luid metrics data table =
    .record metrics data ((table.filter (Eligible luid metrics data ·)).argmin (rank metrics data)) := by
  induction table using List.reverseRecOn with
  | nil => rfl
  | append_singleton table row ih =>
    have hlast : search luid metrics data (table ++ [row]) =
        consider luid metrics data (search luid metrics data table) row := List.foldl_concat ..
    rw [hlast, ih, List.filter_append]
    by_cases h : Eligible luid metrics data row
    · rw [consider_record _ h, List.filter_singleton, decide_eq_true h, cond_true, List.argmin_concat]
    · rw [consider_of_not_eligible h, List.filter_singleton, decide_eq_false h, cond_false, List.append_nil]

theorem best_of_argmin {table : List Row}
    (h : (table.filter (Eligible luid metrics data ·)).argmin (rank metrics data) = some row) :
    Best luid metrics data table row := by
  obtain ⟨hmem, helig⟩ := List.mem_filter.mp (List.argmin_mem h)
  refine ⟨hmem, of_decide_eq_true helig, fun r hr her => ?_⟩
  have hle := List.le_of_mem_argmin (List.mem_filter.mpr ⟨hr, decide_eq_true her⟩) h
  rcases rank_le_iff.mp hle with hlt | ⟨heq, hcost⟩
  · exact .inl hlt
  · exact .inr ⟨heq.symm, hcost⟩

theorem Best.unique_rank {table : List Row} {r c : Row} (hr : Best luid metrics data table r)
    (hc : Best luid metrics data table c) :
    r.destinationPrefix.prefixLength = c.destinationPrefix.prefixLength ∧ cost metrics data r = cost metrics data c := by
  have h₁ := hr.2.2 c hc.1 hc.2.1
  have h₂ := hc.2.2 r hr.1 hr.2.1
  omega

theorem Best.perm {table table' : List Row} (h : table.Perm table')
    (hrow : Best luid metrics data table row) : Best luid metrics data table' row :=
  ⟨h.mem_iff.mp hrow.1, hrow.2.1, fun r hr => hrow.2.2 r (h.mem_iff.mpr hr)⟩

theorem search_cases (luid : UInt64) (metrics : InterfaceMetrics) (data : Row) (table : List Row) :
    (∀ row ∈ table, ¬Eligible luid metrics data row) ∧ search luid metrics data table = .start data ∨
    ∃ row, Best luid metrics data table row ∧ search luid metrics data table = .record metrics data (some row) := by
  rw [search_eq_record]
  cases h : (table.filter (Eligible luid metrics data ·)).argmin (rank metrics data) with
  | none =>
    rw [List.argmin_eq_none, List.filter_eq_nil_iff] at h
    exact .inl ⟨fun row hrow he => h row hrow (decide_eq_true he), rfl⟩
  | some row => exact .inr ⟨row, best_of_argmin h, rfl⟩

end

inductive Code
  | noError
  | errorNotFound
  | errorObjectAlreadyExists
  | other (code : Nat)
deriving DecidableEq

inductive OsCall
  | deleteIpForwardEntry2 (row : Row)
  | createIpForwardEntry2 (row : Row)
deriving DecidableEq

structure Os where
  delete : Row → Code
  create : Row → Code

def Os.Refuses (os : Os) : OsCall → Prop
  | .deleteIpForwardEntry2 row => os.delete row ≠ .noError ∧ os.delete row ≠ .errorNotFound
  | .createIpForwardEntry2 row => os.create row ≠ .noError ∧ os.create row ≠ .errorObjectAlreadyExists

instance (os : Os) : DecidablePred os.Refuses
  | .deleteIpForwardEntry2 _ => inferInstanceAs (Decidable (_ ∧ _))
  | .createIpForwardEntry2 _ => inferInstanceAs (Decidable (_ ∧ _))

structure Outcome where
  result : Bool
  data : Row
  calls : List OsCall
deriving DecidableEq

/-- The end of `updateExclusionRoute`: the new entry is recorded and, if it has an interface, created. -/
def writeRoute (os : Os) (entry : Row) (calls : List OsCall) : Outcome :=
  if entry.interfaceLuid = 0 then ⟨true, entry, calls⟩
  else
    match os.create entry with
    | .errorObjectAlreadyExists =>
      ⟨true, { entry with interfaceLuid := 0 }, calls ++ [.createIpForwardEntry2 entry]⟩
    | .noError => ⟨true, entry, calls ++ [.createIpForwardEntry2 entry]⟩
    | _ =>
      ⟨false, { entry with interfaceLuid := 0, nextHop := .blank entry.destinationPrefix.family },
        calls ++ [.createIpForwardEntry2 entry]⟩

def updateExclusionRoute (luid : UInt64) (metrics : InterfaceMetrics) (os : Os) (table : List Row) (data : Row) : Outcome :=
  let best := search luid metrics data table
  if best.bestMatch < 0 then ⟨false, data, []⟩
  else if data.interfaceLuid = best.bestLuid ∧ best.nextHop = data.nextHop then ⟨true, data, []⟩
  else
    let entry := { data with interfaceLuid := best.bestLuid, nextHop := best.nextHop }
    if data.interfaceLuid = 0 then writeRoute os entry []
    else if os.Refuses (.deleteIpForwardEntry2 data) then ⟨false, data, [.deleteIpForwardEntry2 data]⟩
    else writeRoute os entry [.deleteIpForwardEntry2 data]

section

variable {os : Os} {entry : Row} {calls : List OsCall}

theorem writeRoute_calls : (writeRoute os entry calls).calls =
    if entry.interfaceLuid = 0 then calls else calls ++ [.createIpForwardEntry2 entry] := by
  rw [writeRoute]
  split
  · rfl
  · split <;> rfl

theorem writeRoute_nextHop (h : (writeRoute os entry calls).result = true) :
    (writeRoute os entry calls).data.nextHop = entry.nextHop := by
  rw [writeRoute] at h ⊢
  split
  · rfl
  next hluid =>
    rw [if_neg hluid] at h
    cases hc : os.create entry with
    | noError | errorObjectAlreadyExists => rfl
    | errorNotFound | other => simp [hc] at h

theorem writeRoute_result : (writeRoute os entry calls).result = false ↔
    entry.interfaceLuid ≠ 0 ∧ os.Refuses (.createIpForwardEntry2 entry) := by
  rw [writeRoute]
  split
  next hluid => simp [hluid]
  next hluid =>
    rw [and_iff_right hluid, Os.Refuses]
    cases os.create entry <;> simp

variable {luid : UInt64} {metrics : InterfaceMetrics} {table : List Row} {data row : Row}

/-- What the search chose: the interface to write the route to, and the next hop. -/
def choice (data row : Row) : UInt64 × SockaddrInet := (interfaceFor data row, row.nextHop)

def chosenEntry (data row : Row) : Row := { data with interfaceLuid := interfaceFor data row, nextHop := row.nextHop }

theorem updateExclusionRoute_of_none (h : search luid metrics data table = .start data) :
    updateExclusionRoute luid metrics os table data = ⟨false, data, []⟩ := by
  rw [updateExclusionRoute, h]
  exact if_pos (Int.negSucc_lt_zero 0)

theorem updateExclusionRoute_of_some (h : search luid metrics data table = .record metrics data (some row)) :
    updateExclusionRoute luid metrics os table data =
      if (data.interfaceLuid, data.nextHop) = choice data row then ⟨true, data, []⟩
      else if data.interfaceLuid = 0 then writeRoute os (chosenEntry data row) []
      else if os.Refuses (.deleteIpForwardEntry2 data) then ⟨false, data, [.deleteIpForwardEntry2 data]⟩
      else writeRoute os (chosenEntry data row) [.deleteIpForwardEntry2 data] := by
  rw [updateExclusionRoute, h]
  simp only [Search.record, choice, Prod.mk.injEq, eq_comm (a := row.nextHop)]
  exact if_neg (by omega)

theorem chosen_nextHop (h : search luid metrics data table = .record metrics data (some row))
    (hr : (updateExclusionRoute luid metrics os table data).result = true) :
    (updateExclusionRoute luid metrics os table data).data.nextHop = row.nextHop := by
  rw [updateExclusionRoute_of_some h] at hr ⊢
  split
  next hsame => exact (Prod.mk.inj hsame).2
  next hdiff =>
    rw [if_neg hdiff] at hr
    split
    next hzero => exact writeRoute_nextHop (by rwa [if_pos hzero] at hr)
    next hzero =>
      rw [if_neg hzero] at hr
      split
      next hrefused => simp [hrefused] at hr
      next hdeleted => exact writeRoute_nextHop (by rwa [if_neg hdeleted] at hr)

theorem chosen_calls (h : search luid metrics data table = .record metrics data (some row)) {c : OsCall}
    (hc : c ∈ (updateExclusionRoute luid metrics os table data).calls) :
    (data.interfaceLuid, data.nextHop) ≠ choice data row ∧
      (c = .deleteIpForwardEntry2 data ∨
        c = .createIpForwardEntry2 (chosenEntry data row) ∧ (chosenEntry data row).interfaceLuid = row.interfaceLuid) := by
  have hcreate : ∀ {c : OsCall} {calls : List OsCall}, c ∈ (writeRoute os (chosenEntry data row) calls).calls →
      c ∈ calls ∨ c = .createIpForwardEntry2 (chosenEntry data row) ∧
        (chosenEntry data row).interfaceLuid = row.interfaceLuid := by
    intro c calls hc
    rw [writeRoute_calls] at hc
    split at hc
    · exact .inl hc
    next hluid =>
      refine (List.mem_append.mp hc).imp_right fun hlast => ⟨List.mem_singleton.mp hlast, ?_⟩
      change interfaceFor data row = row.interfaceLuid
      exact if_neg fun hexact => hluid (if_pos hexact)
  rw [updateExclusionRoute_of_some h] at hc
  split at hc
  · cases hc
  next hdiff =>
  refine ⟨hdiff, ?_⟩
  split at hc
  · exact (hcreate hc).elim (fun hnil => absurd hnil List.not_mem_nil) .inr
  split at hc
  · exact .inl (List.mem_singleton.mp hc)
  · exact (hcreate hc).imp_left List.mem_singleton.mp

theorem chosen_created (h : search luid metrics data table = .record metrics data (some row))
    (hnew : (data.interfaceLuid, data.nextHop) ≠ choice data row) (hluid : (chosenEntry data row).interfaceLuid ≠ 0)
    (hdeleted : data.interfaceLuid = 0 ∨ ¬os.Refuses (.deleteIpForwardEntry2 data)) :
    .createIpForwardEntry2 (chosenEntry data row) ∈ (updateExclusionRoute luid metrics os table data).calls := by
  have hwritten : ∀ calls, .createIpForwardEntry2 (chosenEntry data row) ∈
      (writeRoute os (chosenEntry data row) calls).calls := by
    intro calls
    rw [writeRoute_calls, if_neg hluid]
    exact List.mem_append_right _ (List.mem_singleton_self _)
  rw [updateExclusionRoute_of_some h, if_neg hnew]
  split
  · exact hwritten _
  next hold =>
    rw [if_neg (hdeleted.resolve_left hold)]
    exact hwritten _

theorem chosen_fails_iff (h : search luid metrics data table = .record metrics data (some row)) :
    (updateExclusionRoute luid metrics os table data).result = false ↔
      ∃ c ∈ (updateExclusionRoute luid metrics os table data).calls, os.Refuses c := by
  rw [updateExclusionRoute_of_some h]
  split
  · simp
  split
  · rw [writeRoute_result, writeRoute_calls]
    split
    next hluid => simp [hluid]
    next hluid => simp [hluid]
  split
  next hrefused => simp [hrefused]
  next hdeleted =>
    rw [writeRoute_result, writeRoute_calls]
    split
    next hluid => simp [hluid, hdeleted]
    next hluid => simp [hluid, hdeleted]

theorem updateExclusionRoute_perm {table' : List Row} (hperm : table.Perm table')
    (hties : ∀ r c, Best luid metrics data table r → Best luid metrics data table c → choice data r = choice data c) :
    updateExclusionRoute luid metrics os table' data = updateExclusionRoute luid metrics os table data := by
  obtain ⟨hnone, hsearch⟩ | ⟨row, hbest, hsearch⟩ := search_cases luid metrics data table <;>
    obtain ⟨hnone', hsearch'⟩ | ⟨row', hbest', hsearch'⟩ := search_cases luid metrics data table'
  · rw [updateExclusionRoute_of_none hsearch, updateExclusionRoute_of_none hsearch']
  · exact absurd hbest'.2.1 (hnone row' (hperm.mem_iff.mpr hbest'.1))
  · exact absurd hbest.2.1 (hnone' row (hperm.mem_iff.mp hbest.1))
  · have hchoice := hties row row' hbest (hbest'.perm hperm.symm)
    have hentry : chosenEntry data row = chosenEntry data row' := by
      obtain ⟨hluid, hhop⟩ := Prod.mk.inj hchoice
      rw [chosenEntry, chosenEntry, hluid, hhop]
    rw [updateExclusionRoute_of_some hsearch, updateExclusionRoute_of_some hsearch', hchoice, hentry]

end

/-- `updateExclusionRoute` uses the next hop of the best eligible row, for every order of the table, and
fails only when there is none or the system refuses a call; calls are made only for a new choice, and
the route of a new choice is created unless the old one cannot be deleted. -/
theorem updateExclusionRoute_takes_best_route (luid : UInt64) (metrics : InterfaceMetrics) (os : Os) (table : List Row)
    (data : Row) :
    ((∃ row ∈ table, Eligible luid metrics data row) →
      ∃ row, Best luid metrics data table row ∧
        ((updateExclusionRoute luid metrics os table data).result = true →
          (updateExclusionRoute luid metrics os table data).data.nextHop = row.nextHop) ∧
        (∀ c ∈ (updateExclusionRoute luid metrics os table data).calls,
          (data.interfaceLuid, data.nextHop) ≠ choice data row ∧
          (c = .deleteIpForwardEntry2 data ∨
            c = .createIpForwardEntry2 (chosenEntry data row) ∧
              (chosenEntry data row).interfaceLuid = row.interfaceLuid)) ∧
        ((data.interfaceLuid, data.nextHop) ≠ choice data row → (chosenEntry data row).interfaceLuid ≠ 0 →
          data.interfaceLuid = 0 ∨ ¬os.Refuses (.deleteIpForwardEntry2 data) →
          .createIpForwardEntry2 (chosenEntry data row) ∈ (updateExclusionRoute luid metrics os table data).calls)) ∧
    (∀ r c, Best luid metrics data table r → Best luid metrics data table c →
      r.destinationPrefix.prefixLength = c.destinationPrefix.prefixLength ∧
        cost metrics data r = cost metrics data c) ∧
    (∀ table', table.Perm table' →
      (∀ r c, Best luid metrics data table r → Best luid metrics data table c → choice data r = choice data c) →
      updateExclusionRoute luid metrics os table' data = updateExclusionRoute luid metrics os table data) ∧
    ((updateExclusionRoute luid metrics os table data).result = false ↔
      (∀ row ∈ table, ¬Eligible luid metrics data row) ∨
        ∃ c ∈ (updateExclusionRoute luid metrics os table data).calls, os.Refuses c) ∧
    ((∀ row ∈ table, ¬Eligible luid metrics data row) →
      (updateExclusionRoute luid metrics os table data).calls = []) := by
  have hcases := search_cases luid metrics data table
  refine ⟨?_, fun r c => Best.unique_rank, ?_, ?_, ?_⟩
  · rintro ⟨r, hr, her⟩
    obtain ⟨hnone, -⟩ | ⟨row, hbest, hsearch⟩ := hcases
    · exact absurd her (hnone r hr)
    · exact ⟨row, hbest, chosen_nextHop hsearch, fun c => chosen_calls hsearch, chosen_created hsearch⟩
  · exact fun table' hperm hties => updateExclusionRoute_perm hperm hties
  · obtain ⟨hnone, hsearch⟩ | ⟨row, hbest, hsearch⟩ := hcases
    · rw [updateExclusionRoute_of_none hsearch]
      exact iff_of_true rfl (.inl hnone)
    · rw [chosen_fails_iff hsearch, or_iff_right fun hnone => hnone row hbest.1 hbest.2.1]
  · intro hnone
    obtain ⟨-, hsearch⟩ | ⟨row, hbest, -⟩ := hcases
    · rw [updateExclusionRoute_of_none hsearch]
    · exact absurd hbest.2.1 (hnone row hbest.1)

def gatewayRow : Row where
  interfaceLuid := 5
  destinationPrefix := ⟨.blank .inet, 0, Nat.zero_le _⟩
  nextHop := .inet 0 ⟨#[192, 168, 0, 1], rfl⟩
  protocol := 2
  metric := 1
  age := 0

def hostRow : Row where
  interfaceLuid := 0
  destinationPrefix := ⟨.inet 0 ⟨#[1, 2, 3, 4], rfl⟩, 32, le_rfl⟩
  nextHop := .blank .inet
  protocol := mibIpprotoNetmgmt
  metric := exclusionRouteMetric
  age := 0

/-- The default route is eligible, and the update fails because the system refuses to create the route. -/
theorem updateExclusionRoute_fails_on_refusal :
    let metrics : InterfaceMetrics := ⟨fun _ => some 10, fun _ => none⟩
    let os : Os := ⟨fun _ => .noError, fun _ => .other 5⟩
    Eligible 7 metrics hostRow gatewayRow ∧ (updateExclusionRoute 7 metrics os [gatewayRow] hostRow).result = false := by
  decide +kernel

end TunnelCore.RouteMonitor
