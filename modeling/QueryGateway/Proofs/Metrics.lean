import Mathlib.Algebra.Order.BigOperators.Group.List
import Mathlib.Algebra.Order.Ring.Int
import Mathlib.Data.List.GetD
import Mathlib.Data.List.Induction
import Mathlib.Data.List.Infix
import QueryGateway.Metrics
import QueryGateway.Proofs.Keyed

/-!
# Summaries of metrics

A window keeps the end of what was recorded, and a summary tells of each data source what its
metrics in the window amount to.  Sums are formed in 64 bits, so they are exact as long as none of
the sums on the way leaves that range; the percentile is exact whatever the latencies are.

## Main definitions

* `MetricWindow.ofLog` — the window after metrics recorded in turn.
* `RunningSumsFit` — no sum on the way leaves the range of 64 signed bits.
* `MetricSummary.Describes` — what a summary says of a group of metrics.

## Main results

* `MetricWindow.entries_ofLog` — the window is the end of what was recorded.
* `toInt_foldl_add` — sums that fit are exact.
* `le_countP_getElem` — how many values lie below and above a position of a sorted list.
* `MetricSummary.describes_ofMetrics` — a summary describes its group.
* `MetricWindow.summary_describes` — the window and its summary after any metrics.
-/

namespace QueryGateway

/-! ### The window -/

/-- A metric as it is kept: it bears the instant at which it was recorded. -/
def Metric.stamped (entry : Instant × Metric) : Metric := { entry.2 with timestamp := entry.1 }

namespace MetricWindow

/-- The window after metrics recorded in turn, each at an instant. -/
def ofLog (capacity : Nat) (log : List (Instant × Metric)) : MetricWindow :=
  log.foldl (fun w (now, m) => w.record now m) (empty capacity)

theorem ofLog_concat (capacity : Nat) (log : List (Instant × Metric)) (entry : Instant × Metric) :
    ofLog capacity (log ++ [entry]) = (ofLog capacity log).record entry.1 entry.2 :=
  List.foldl_concat _ _ _ _

theorem entries_record (w : MetricWindow) (entry : Instant × Metric) :
    (w.record entry.1 entry.2).entries =
      (w.entries ++ [Metric.stamped entry]).drop (w.entries.length + 1 - w.capacity) := by
  simp [record, Metric.stamped]

theorem capacity_ofLog (capacity : Nat) (log : List (Instant × Metric)) :
    (ofLog capacity log).capacity = (empty capacity).capacity := by
  induction log using List.reverseRecOn with
  | nil => rfl
  | append_singleton log entry ih => rw [ofLog_concat, ← ih, record]

/-- The window is the end of what was recorded. -/
theorem entries_ofLog (capacity : Nat) (log : List (Instant × Metric)) :
    (ofLog capacity log).entries =
      (log.map Metric.stamped).drop (log.length - (empty capacity).capacity) := by
  induction log using List.reverseRecOn with
  | nil =>
    rw [List.map_nil, List.drop_nil]
    rfl
  | append_singleton log entry ih =>
    rw [ofLog_concat, entries_record, capacity_ofLog, ih]
    -- what falls out now follows what fell out before
    rw [← List.drop_append_of_le_length (by simp), List.drop_drop, List.map_append,
      List.map_singleton]
    congr 1
    simp only [List.length_append, List.length_drop, List.length_map, List.length_singleton]
    omega

theorem length_entries_ofLog (capacity : Nat) (log : List (Instant × Metric)) :
    (ofLog capacity log).entries.length = min log.length (empty capacity).capacity := by
  rw [entries_ofLog, List.length_drop, List.length_map]
  omega

end MetricWindow

/-! ### Sums -/

/-- No sum that is formed on the way leaves the range of 64 signed bits. -/
def RunningSumsFit (xs : List Int64) : Prop :=
  ∀ start, start <+: xs → -9223372036854775808 ≤ (start.map Int64.toInt).sum ∧
    (start.map Int64.toInt).sum < 9223372036854775808

/-- Sums that fit are exact. -/
theorem toInt_foldl_add {xs : List Int64} (h : RunningSumsFit xs) :
    (xs.foldl (· + ·) 0).toInt = (xs.map Int64.toInt).sum := by
  induction xs using List.reverseRecOn with
  | nil => rfl
  | append_singleton xs x ih =>
    have hstart : RunningSumsFit xs :=
      fun start hs => h start (hs.trans (List.prefix_append xs [x]))
    have hwhole := h (xs ++ [x]) (List.prefix_refl _)
    rw [List.map_append, List.sum_append, List.map_singleton, List.sum_singleton] at hwhole ⊢
    rw [List.foldl_concat, Int64.toInt_add, ih hstart, Int.bmod_eq_of_le] <;> omega

/-- The mean of integers, rounded toward zero, is not below all of them and not above all. -/
theorem exists_le_tdiv_le {xs : List Int} (h : xs ≠ []) :
    (∃ x ∈ xs, x ≤ xs.sum.tdiv xs.length) ∧ ∃ x ∈ xs, xs.sum.tdiv xs.length ≤ x := by
  have hpos : (0 : Int) < xs.length := by
    have := List.length_pos_iff.mpr h
    omega
  have hmod := Int.mul_tdiv_add_tmod xs.sum xs.length
  have hlow : -(xs.length : Int) < xs.sum.tmod xs.length := Int.lt_tmod_of_pos _ hpos
  have hhigh : xs.sum.tmod xs.length < xs.length := Int.tmod_lt_of_pos _ hpos
  constructor
  · by_contra hnone
    push Not at hnone
    -- all are above the mean, so the sum is too large for it
    have hsum := List.card_nsmul_le_sum xs (xs.sum.tdiv xs.length + 1) fun x hx =>
      Int.add_one_le_of_lt (hnone x hx)
    rw [nsmul_eq_mul, Int.mul_add, Int.mul_one] at hsum
    omega
  · by_contra hnone
    push Not at hnone
    have hsum := List.sum_le_card_nsmul xs (xs.sum.tdiv xs.length - 1) fun x hx =>
      Int.le_sub_one_of_lt (hnone x hx)
    rw [nsmul_eq_mul, Int.mul_sub, Int.mul_one] at hsum
    omega

/-! ### The percentile -/

/-- In a sorted list, the values up to a position are at most the one there, and the values from it
on are at least that. -/
theorem le_countP_getElem {xs : List Int64} (h : xs.Pairwise (· ≤ ·)) {i : Nat}
    (hi : i < xs.length) :
    i + 1 ≤ xs.countP (· ≤ xs[i]) ∧ xs.length - i ≤ xs.countP (xs[i] ≤ ·) := by
  have hle : ∀ j k (hj : j < xs.length) (hk : k < xs.length), j ≤ k → xs[j] ≤ xs[k] := by
    intro j k hj hk hjk
    rcases Nat.lt_or_eq_of_le hjk with hlt | rfl
    · exact List.pairwise_iff_getElem.mp h j k hj hk hlt
    · exact Int64.le_refl _
  have hfirst : (xs.take (i + 1)).countP (· ≤ xs[i]) = (xs.take (i + 1)).length := by
    refine List.countP_eq_length.mpr fun x hx => ?_
    obtain ⟨j, hj, rfl⟩ := List.getElem_of_mem hx
    rw [List.length_take] at hj
    rw [List.getElem_take]
    exact decide_eq_true (hle j i (by omega) hi (by omega))
  have hlast : (xs.drop i).countP (xs[i] ≤ ·) = (xs.drop i).length := by
    refine List.countP_eq_length.mpr fun x hx => ?_
    obtain ⟨j, hj, rfl⟩ := List.getElem_of_mem hx
    rw [List.length_drop] at hj
    rw [List.getElem_drop]
    exact decide_eq_true (hle i (i + j) hi (by omega) (by omega))
  have htake := (List.take_sublist (i + 1) xs).countP_le (p := (· ≤ xs[i]))
  have hdrop := (List.drop_sublist i xs).countP_le (p := (xs[i] ≤ ·))
  rw [hfirst, List.length_take] at htake
  rw [hlast, List.length_drop] at hdrop
  omega

/-! ### A group of metrics -/

namespace MetricSummary

/-- What a summary says of a group of metrics. -/
structure Describes (s : MetricSummary) (group : List Metric) : Prop where
  ne_nil : group ≠ []
  totalQueries : s.totalQueries = group.length
  successCount : s.successCount = group.countP (·.outcome = .success)
  errorCount : s.errorCount = group.countP (·.outcome = .error)
  /-- Every query either gave rows or failed. -/
  outcomes : s.totalQueries = s.successCount + s.errorCount
  totalRows : RunningSumsFit (group.map Metric.rows) →
    s.totalRows.toInt = (group.map fun m => m.rows.toInt).sum
  /-- The mean is exact up to rounding toward zero.  The count is one of the sums. -/
  mean : RunningSumsFit (group.map Metric.latencyMs) → group.length < 9223372036854775808 →
    s.avgLatencyMs.toInt = (group.map fun m : Metric => m.latencyMs.toInt).sum.tdiv group.length
  mean_bounds : RunningSumsFit (group.map Metric.latencyMs) → group.length < 9223372036854775808 →
    (∃ m ∈ group, m.latencyMs ≤ s.avgLatencyMs) ∧ ∃ m ∈ group, s.avgLatencyMs ≤ m.latencyMs
  /-- The percentile is one of the latencies: more than 95 percent of them are at most that, and at
  least 5 percent are at least that. -/
  p95_mem : ∃ m ∈ group, m.latencyMs = s.p95LatencyMs
  p95_above : 95 * group.length < 100 * group.countP fun m => m.latencyMs ≤ s.p95LatencyMs
  p95_below : 5 * group.length ≤ 100 * group.countP fun m => s.p95LatencyMs ≤ m.latencyMs

theorem p95Index_lt {length : Nat} (h : 0 < length) :
    p95Index length < length ∧ 95 * length < 100 * (p95Index length + 1) ∧
      100 * p95Index length ≤ 95 * length := by
  unfold p95Index
  omega

/-- The percentile of a group stands at its place among the sorted latencies. -/
theorem exists_p95 (name : String) {group : List Metric} (h : group ≠ []) :
    ∃ sorted : List Int64, sorted.Perm (group.map Metric.latencyMs) ∧ sorted.Pairwise (· ≤ ·) ∧
      ∃ hi : p95Index group.length < sorted.length,
        (ofMetrics name group).p95LatencyMs = sorted[p95Index group.length] := by
  have hperm : ((group.map Metric.latencyMs).mergeSort (· ≤ ·)).Perm (group.map Metric.latencyMs) :=
    List.mergeSort_perm _ _
  have hlength := hperm.length_eq
  rw [List.length_map] at hlength
  have hi := (p95Index_lt (List.length_pos_iff.mpr h)).1
  refine ⟨_, hperm, ?_, hlength ▸ hi, ?_⟩
  · have hsorted := @List.pairwise_mergeSort Int64 (fun a b => decide (a ≤ b))
      (fun a b c hab hbc => decide_eq_true
        (Int64.le_trans (of_decide_eq_true hab) (of_decide_eq_true hbc)))
      (fun a b => by simpa using Int64.le_total a b) (group.map Metric.latencyMs)
    exact hsorted.imp of_decide_eq_true
  · show List.getD _ (p95Index (List.length _)) 0 = _
    rw [List.getD_eq_getElem _ _ (by rw [hlength]; exact hi)]
    congr 1
    rw [hlength]

/-- A summary describes the group that it is made of. -/
theorem describes_ofMetrics (name : String) {group : List Metric} (h : group ≠ []) :
    (ofMetrics name group).Describes group := by
  have hmean : RunningSumsFit (group.map Metric.latencyMs) →
      group.length < 9223372036854775808 → (ofMetrics name group).avgLatencyMs.toInt =
        (group.map fun m : Metric => m.latencyMs.toInt).sum.tdiv group.length := by
    intro hfit hlength
    show ((group.map Metric.latencyMs).foldl (· + ·) 0 / Int64.ofNat group.length).toInt = _
    have hcount : (Int64.ofNat group.length).toInt = group.length := Int64.toInt_ofNat_of_lt hlength
    have hne : Int64.ofNat group.length ≠ -1 := by
      intro heq
      rw [heq] at hcount
      have : (-1 : Int64).toInt = -1 := by decide
      omega
    rw [Int64.toInt_div_of_ne_right _ _ hne, toInt_foldl_add hfit, hcount, List.map_map]
    rfl
  obtain ⟨sorted, hperm, hsorted, hi, hp95⟩ := exists_p95 name h
  have hcount : ∀ p : Int64 → Bool, group.countP (fun m => p m.latencyMs) = sorted.countP p :=
    fun p => (List.countP_map ..).symm.trans (hperm.countP_eq p).symm
  have hlength : sorted.length = group.length := by simpa using hperm.length_eq
  obtain ⟨hbelow, habove⟩ := le_countP_getElem hsorted hi
  obtain ⟨-, hindex, hindex'⟩ := p95Index_lt (List.length_pos_iff.mpr h)
  constructor
  case ne_nil => exact h
  case totalQueries => rfl
  case successCount => rfl
  case errorCount => rfl
  case mean => exact hmean
  case outcomes =>
    show group.length = _ + _
    rw [List.length_eq_countP_add_countP (·.outcome = .success)]
    congr 1
    refine List.countP_congr fun m _ => ?_
    cases m.outcome <;> simp
  case totalRows =>
    intro hfit
    show ((group.map Metric.rows).foldl (· + ·) 0).toInt = _
    rw [toInt_foldl_add hfit, List.map_map]
    rfl
  case mean_bounds =>
    intro hfit hlength
    have hne : (group.map fun m : Metric => m.latencyMs.toInt) ≠ [] := by simpa using h
    obtain ⟨⟨x, hx, hle⟩, y, hy, hge⟩ := exists_le_tdiv_le hne
    rw [List.length_map, ← hmean hfit hlength] at hle hge
    obtain ⟨m, hm, rfl⟩ := List.mem_map.mp hx
    obtain ⟨n, hn, rfl⟩ := List.mem_map.mp hy
    exact ⟨⟨m, hm, Int64.le_iff_toInt_le.mpr hle⟩, n, hn, Int64.le_iff_toInt_le.mpr hge⟩
  case p95_mem =>
    rw [hp95]
    exact List.mem_map.mp (hperm.mem_iff.mp (List.getElem_mem hi))
  case p95_above =>
    rw [hp95, hcount (· ≤ sorted[p95Index group.length])]
    omega
  case p95_below =>
    rw [hp95, hcount (sorted[p95Index group.length] ≤ ·)]
    omega

end MetricSummary

/-! ### The summary of a window -/

/-- Groups told apart by a key make up the whole. -/
theorem sum_length_filter {α : Type} (key : α → String) {names : List String} (h : names.Nodup)
    {xs : List α} (hxs : ∀ x ∈ xs, key x ∈ names) :
    (names.map fun name => (xs.filter fun x => key x = name).length).sum = xs.length := by
  induction names generalizing xs with
  | nil =>
    cases xs with
    | nil => rfl
    | cons x xs => exact absurd (hxs x List.mem_cons_self) List.not_mem_nil
  | cons name names ih =>
    obtain ⟨hname, hnodup⟩ := List.nodup_cons.mp h
    have hrest : ∀ x ∈ xs.filter fun x => !decide (key x = name), key x ∈ names := by
      intro x hx
      obtain ⟨hmem, hne⟩ := List.mem_filter.mp hx
      exact (List.mem_cons.mp (hxs x hmem)).resolve_left (by simpa using hne)
    rw [List.map_cons, List.sum_cons, List.length_eq_length_filter_add (l := xs)
      (fun x => decide (key x = name)), ← ih hnodup hrest]
    congr 2
    refine List.map_congr_left fun other hother => ?_
    -- the other groups lie outside this one
    rw [List.filter_filter]
    congr 1
    refine List.filter_congr fun x _ => ?_
    by_cases hx : key x = other
    · have hne : other ≠ name := fun heq => hname (heq ▸ hother)
      simp [hx, hne]
    · simp [hx]

namespace MetricWindow

variable (w : MetricWindow)

theorem pairwise_dataSources : w.dataSources.Pairwise (· < ·) := Keyed.sorted_sort _

theorem mem_dataSources {name : String} :
    name ∈ w.dataSources ↔ ∃ m ∈ w.entries, m.dataSource = name := by
  unfold dataSources
  rw [Keyed.mem_keys_sort]
  simp

theorem map_dataSource_summary : w.summary.map MetricSummary.dataSource = w.dataSources := by
  unfold summary
  rw [List.map_map]
  exact List.map_id _

/-- Whatever was recorded, the window is its end, up to the capacity, and the summary has one entry
for each data source in the window, in ascending order, that describes the metrics of that source;
the entries count every metric in the window once. -/
theorem summary_describes (capacity : Nat) (log : List (Instant × Metric)) :
    ((ofLog capacity log).entries <:+ log.map Metric.stamped ∧
      (ofLog capacity log).entries.length =
        min log.length (if capacity = 0 then 1000 else capacity)) ∧
    ((ofLog capacity log).summary.map MetricSummary.dataSource).Pairwise (· < ·) ∧
    (∀ name, name ∈ (ofLog capacity log).summary.map MetricSummary.dataSource ↔
      ∃ m ∈ (ofLog capacity log).entries, m.dataSource = name) ∧
    (∀ s ∈ (ofLog capacity log).summary,
      s.Describes ((ofLog capacity log).entries.filter fun m => m.dataSource = s.dataSource)) ∧
    ((ofLog capacity log).summary.map MetricSummary.totalQueries).sum =
      (ofLog capacity log).entries.length := by
  refine ⟨⟨?_, length_entries_ofLog capacity log⟩, ?_, ?_, ?_, ?_⟩
  · rw [entries_ofLog]
    exact List.drop_suffix _ _
  · rw [map_dataSource_summary]
    exact pairwise_dataSources _
  · intro name
    rw [map_dataSource_summary, mem_dataSources]
  · intro s hs
    obtain ⟨name, hname, rfl⟩ := List.mem_map.mp hs
    obtain ⟨m, hm, hsource⟩ := (mem_dataSources _).mp hname
    refine MetricSummary.describes_ofMetrics name (List.ne_nil_of_mem (a := m) ?_)
    exact List.mem_filter.mpr ⟨hm, decide_eq_true hsource⟩
  · have hnodup : (ofLog capacity log).dataSources.Nodup :=
      (pairwise_dataSources _).imp fun hlt => String.ne_of_lt hlt
    rw [← sum_length_filter Metric.dataSource hnodup fun m hm =>
      (mem_dataSources _).mpr ⟨m, hm, rfl⟩]
    unfold summary
    rw [List.map_map]
    rfl

/-- Three metrics for a window of two, with a sum of latencies that is negative and odd. -/
def threeMetrics : List (Instant × Metric) :=
  [(⟨1, 0⟩, .success "main" "users" 9 1), (⟨2, 0⟩, .error "main" "users" 4),
    (⟨3, 0⟩, .success "main" "orders" (-7) 3)]

theorem summary_describes_three : ∃ s ∈ (ofLog 2 threeMetrics).summary,
    s.Describes (ofLog 2 threeMetrics).entries ∧ RunningSumsFit [4, -7] ∧
      s.totalQueries = 2 ∧ s.avgLatencyMs.toInt = -1 := by
  obtain ⟨-, -, hnames, hdescribes, -⟩ := summary_describes 2 threeMetrics
  have hentries : (ofLog 2 threeMetrics).entries =
      threeMetrics.tail.map Metric.stamped := rfl
  have hmain : "main" ∈ (ofLog 2 threeMetrics).summary.map MetricSummary.dataSource := by
    rw [hnames, hentries]
    decide
  obtain ⟨s, hs, hsource⟩ := List.mem_map.mp hmain
  have hgroup : (ofLog 2 threeMetrics).entries.filter (fun m => m.dataSource = s.dataSource) =
      (ofLog 2 threeMetrics).entries := by
    rw [hentries, hsource]
    decide
  have h := hdescribes s hs
  rw [hgroup] at h
  have hfit : RunningSumsFit [4, -7] := by
    intro start hstart
    rw [← List.mem_inits] at hstart
    simp only [List.inits, List.map_cons, List.map_nil, List.mem_cons, List.not_mem_nil,
      or_false] at hstart
    rcases hstart with rfl | rfl | rfl <;> decide
  exact ⟨s, hs, h, hfit, h.totalQueries, h.mean hfit (by decide)⟩

end MetricWindow
end QueryGateway
