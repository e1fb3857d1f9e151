import FieldSearch.Proofs.Outcome
import FieldSearch.Store.Basic
import Mathlib

/-!
# Opening a store

The libraries beneath a store insist on some of their arguments, and stop a program that
calls them with others.  A pool has to have room for a connection, must not keep more of
them than there is room for, and has to be given some time to come up with one.  A
connection can be told to wait for so long and no longer.

What the options say of the connections is brought into bounds before it gets there, and
what they say of the two times is not.  With no time to come up with a connection, no
store is ever opened: the program stops.  With too long a time to wait, the connection is
the one that stops, out of sight: a store that keeps connections then cannot be opened,
and one that keeps none is opened and is of no use.  Other options open every database
that can be opened.

## Main results

* `isAdmissible_iff`, `canConnect_iff`: what a pool and a connection insist on.
* `outcome_open?`: which stores are opened.
* `launch?_eq_none_iff`: when the program stops.
* `opens_within_limits`: all of it for every store.
-/

namespace FieldSearch

/-! ## What the libraries insist on -/

/-- An argument that a library insists on, beside those that it compares it with. -/
inductive Demand where
  /-- The room of a pool. -/
  | size (connections : Nat)
  /-- The connections that a pool keeps, and its room. -/
  | idle (connections room : Nat)
  /-- The time that a pool has to come up with a connection. -/
  | connectionTimeout (milliseconds : Nat)
  /-- The time for which a connection waits for a lock. -/
  | busyTimeout (milliseconds : Nat)

/-- The argument is one that the library takes. -/
def Demand.Met : Demand → Prop
  | .size connections => 0 < connections
  | .idle connections room => connections ≤ room
  | .connectionTimeout milliseconds => 0 < milliseconds
  | .busyTimeout milliseconds => milliseconds ≤ 2147483647

namespace PoolSettings

/-- What is demanded of the settings when the pool is built. -/
def demands (settings : PoolSettings) : List Demand :=
  [.size settings.size, .idle settings.idle settings.size,
    .connectionTimeout settings.connectionTimeoutMs]

/-- **A pool is built if all its demands are met.** -/
theorem isAdmissible_iff {settings : PoolSettings} :
    settings.isAdmissible = true ↔ ∀ demand ∈ settings.demands, demand.Met := by
  simp [isAdmissible, demands, Demand.Met, and_assoc]

/-- **A connection can be had if its demand is met.** -/
theorem canConnect_iff {settings : PoolSettings} :
    settings.canConnect = true ↔ (Demand.busyTimeout settings.busyTimeoutMs).Met := by
  rw [canConnect, decide_eq_true_eq]
  rfl

end PoolSettings

namespace FileStore

variable {store : FileStore}

/-- What is demanded in opening a store: by its pool, and by each connection that is kept and gets
as far as being told how long to wait. -/
def demands (store : FileStore) : List Demand :=
  store.pool.demands ++
    if store.connects then List.replicate store.pool.idle (.busyTimeout store.pool.busyTimeoutMs)
    else []

/-- The connections of every pool are within its bounds. -/
theorem pool_bounded (store : FileStore) :
    0 < store.pool.size ∧ store.pool.idle ≤ store.pool.size := by
  refine ⟨?_, store.options.idle_le_size store.inMemory⟩
  rw [pool, FileOptions.pool]
  dsimp only
  split
  · exact Nat.one_pos
  · exact Nat.lt_of_lt_of_le Nat.one_pos (Nat.le_max_right _ 1)

theorem isAdmissible_pool_iff :
    store.pool.isAdmissible = true ↔ 0 < store.options.connectionTimeoutMs := by
  rw [PoolSettings.isAdmissible_iff, PoolSettings.demands]
  constructor
  · intro hAll
    exact hAll (.connectionTimeout store.pool.connectionTimeoutMs) (by simp)
  · intro hTime
    exact List.forall_mem_cons.mpr ⟨store.pool_bounded.1, List.forall_mem_cons.mpr
      ⟨store.pool_bounded.2, List.forall_mem_singleton.mpr hTime⟩⟩

/-- A store keeps no connection only if it is in a file and is told to keep none. -/
theorem idle_eq_zero_iff :
    store.pool.idle = 0 ↔ store.inMemory = false ∧ store.options.minConnections = 0 := by
  rw [pool, FileOptions.pool]
  cases store.inMemory with
  | true => simp
  | false => simp

/-- **All demands are met** if there is time to come up with a connection, and the connections that
are kept are not told to wait for too long. -/
theorem demands_met_iff :
    (∀ demand ∈ store.demands, demand.Met) ↔
      0 < store.options.connectionTimeoutMs ∧
        (store.connects = true → 0 < store.pool.idle →
          store.options.busyTimeoutMs ≤ 2147483647) := by
  rw [demands, List.forall_mem_append, ← PoolSettings.isAdmissible_iff, isAdmissible_pool_iff]
  refine and_congr_right fun _ => ?_
  cases hConnects : store.connects with
  | false => simp
  | true =>
      rw [if_pos rfl]
      constructor
      · intro hAll _ hIdle
        exact hAll _ (List.mem_replicate.mpr ⟨by omega, rfl⟩)
      · intro hWait demand hMem
        obtain ⟨hIdle, rfl⟩ := List.mem_replicate.mp hMem
        exact hWait rfl (Nat.pos_of_ne_zero hIdle)

/-! ## What comes of it -/

/-- **The program stops** for want of time, and for nothing else. -/
theorem launch?_eq_none_iff :
    store.launch? = none ↔ store.options.connectionTimeoutMs = 0 := by
  rw [launch?]
  by_cases hTime : 0 < store.options.connectionTimeoutMs
  · rw [if_pos (isAdmissible_pool_iff.mpr hTime)]
    exact iff_of_false (Option.some_ne_none _) (Nat.pos_iff_ne_zero.mp hTime)
  · rw [if_neg fun h => hTime (isAdmissible_pool_iff.mp h)]
    exact iff_of_true rfl (Nat.eq_zero_of_not_pos hTime)

/-- A store that keeps no connection, or has one, is opened, and no other one is. -/
theorem outcome_open? (hTime : 0 < store.options.connectionTimeoutMs) :
    store.open?.outcome =
      if store.pool.idle = 0 ∨ store.isReachable = true then .ok store
      else .error store.unreachable := by
  have hAdmissible := isAdmissible_pool_iff.mpr hTime
  unfold open?
  by_cases hOpens : store.pool.idle = 0 ∨ store.isReachable = true
  · have hPasses : ¬ (!store.pool.isAdmissible ||
        (!store.isReachable && decide (0 < store.pool.idle))) = true := by
      rw [hAdmissible]
      rcases hOpens with hIdle | hReachable
      · simp [hIdle]
      · simp [hReachable]
    rw [if_neg hPasses, if_pos hOpens]
    rfl
  · have hFails : (!store.pool.isAdmissible ||
        (!store.isReachable && decide (0 < store.pool.idle))) = true := by
      obtain ⟨hIdle, hNot⟩ := not_or.mp hOpens
      simp [hNot, Nat.pos_of_ne_zero hIdle]
    rw [if_pos hFails, if_neg hOpens]
    rfl

/-- A store without connections gives nothing and takes nothing. -/
theorem useless_of_not_isReachable (hNot : store.isReachable = false) :
    (∀ schema prepared, (store.fetch schema prepared).outcome = .error store.unreachable) ∧
      ∀ command, store.change command = (.error store.unreachable, store) := by
  refine ⟨fun schema prepared => ?_, fun command => ?_⟩
  · have hRefused : store.fetchRecords schema prepared = .error store.unreachable := by
      rw [fetchRecords, hNot]
      rfl
    exact Logged.outcome_bind_eq_error.mpr (.inl hRefused)
  · rw [change, hNot]
    rfl

/-- **A store is opened, or there is a fault, if there is time for it.**  The connections of a pool
are always within its bounds, so it stops the program just where it has no time to come up with one.
Otherwise the store is opened, or there is a fault of the store.  Connections that are told to wait
for longer than they can are not to be had: a store that keeps some is not opened, and one that
keeps none is opened and is of no use.  With a time that they can wait for, a store is opened unless
it keeps connections to a database that cannot be opened. -/
theorem opens_within_limits (store : FileStore) :
    (0 < store.pool.size ∧ store.pool.idle ≤ store.pool.size) ∧
    ((∀ demand ∈ store.demands, demand.Met) ↔ 0 < store.options.connectionTimeoutMs ∧
      (store.connects = true → 0 < store.pool.idle →
        store.options.busyTimeoutMs ≤ 2147483647)) ∧
    (store.launch? = none ↔ store.options.connectionTimeoutMs = 0) ∧
    ∀ opening, store.launch? = some opening →
      (opening.outcome = .ok store ∨ opening.outcome = .error store.unreachable) ∧
      (store.options.busyTimeoutMs ≤ 2147483647 →
        (opening.outcome = .ok store ↔ store.pool.idle = 0 ∨ store.refusal = none)) ∧
      (2147483647 < store.options.busyTimeoutMs →
        (opening.outcome = .ok store ↔
          store.inMemory = false ∧ store.options.minConnections = 0) ∧
        (∀ schema prepared, (store.fetch schema prepared).outcome = .error store.unreachable) ∧
        ∀ command, store.change command = (.error store.unreachable, store)) := by
  refine ⟨store.pool_bounded, demands_met_iff, launch?_eq_none_iff, fun opening hLaunch => ?_⟩
  have hTime : 0 < store.options.connectionTimeoutMs := by
    refine Nat.pos_of_ne_zero fun hZero => ?_
    rw [launch?_eq_none_iff.mpr hZero] at hLaunch
    cases hLaunch
  obtain rfl : store.open? = opening := by
    rw [launch?, if_pos (isAdmissible_pool_iff.mpr hTime)] at hLaunch
    exact Option.some.inj hLaunch
  have hOpens : store.open?.outcome = .ok store ↔
      store.pool.idle = 0 ∨ store.isReachable = true := by
    rw [outcome_open? hTime]
    split
    next hOpens => exact iff_of_true rfl hOpens
    next hFails =>
      refine iff_of_false (fun h => ?_) hFails
      cases h
  refine ⟨?_, fun hShort => ?_, fun hLong => ?_⟩
  · rw [outcome_open? hTime]
    split
    · exact .inl rfl
    · exact .inr rfl
  · have hConnects : store.pool.canConnect = true := PoolSettings.canConnect_iff.mpr hShort
    rw [hOpens, isReachable, hConnects, Bool.and_true, Option.isNone_iff_eq_none]
  · have hNever : store.isReachable = false := by
      have hCannot : store.pool.canConnect = false := by
        rw [Bool.eq_false_iff, Ne, PoolSettings.canConnect_iff]
        exact Nat.not_le_of_lt hLong
      rw [isReachable, hCannot, Bool.and_false]
    refine ⟨?_, useless_of_not_isReachable hNever⟩
    rw [hOpens, hNever, or_iff_left Bool.false_ne_true, idle_eq_zero_iff]

/-- With a pool without room and the longest time to wait, a file that is not there is no reason to
stop: the store keeps no connection and is opened. -/
theorem opens_within_limits_of_no_room :
    let store := nowhere "/nowhere/heroes.db"
      { maxConnections := 0, minConnections := 0, busyTimeoutMs := 2147483647 }
    (∀ demand ∈ store.demands, demand.Met) ∧
      ∃ opening, store.launch? = some opening ∧ opening.outcome = .ok store := by
  intro store
  obtain ⟨-, hMet, -, hOpens⟩ := opens_within_limits store
  refine ⟨hMet.mpr ⟨by decide, fun _ _ => Nat.le_refl _⟩, _, rfl, ?_⟩
  obtain ⟨-, hOpened, -⟩ := hOpens _ rfl
  exact (hOpened (Nat.le_refl _)).mpr (.inl rfl)

/-- Options that can be read stop the program, if they leave no time to come up with a connection;
and if a connection cannot be told to wait for as long as they say, there is none to a database in
memory. -/
theorem unmet_of_readable_options :
    (∃ options, FileOptions.decoder.ofJson (.object [("connection_timeout_ms", .integer 0)]) =
        .ok options ∧
      Demand.connectionTimeout 0 ∈ (ofPath Location.memoryPath options).demands ∧
      ¬ (Demand.connectionTimeout 0).Met ∧
      (ofPath Location.memoryPath options).launch? = none) ∧
    ∃ options, FileOptions.decoder.ofJson (.object [("busy_timeout_ms", .integer 2147483648),
        ("connection_timeout_ms", .integer 100)]) = .ok options ∧
      Demand.busyTimeout 2147483648 ∈ (ofPath Location.memoryPath options).demands ∧
      ¬ (Demand.busyTimeout 2147483648).Met ∧
      ∃ opening, (ofPath Location.memoryPath options).launch? = some opening ∧
        opening.outcome = .error (.backend (.connectionFailed "sqlite"
          "timed out waiting for connection")) := by
  refine ⟨⟨{ connectionTimeoutMs := 0 }, rfl, ?_, Nat.lt_irrefl 0, rfl⟩,
    ⟨{ busyTimeoutMs := 2147483648, connectionTimeoutMs := 100 }, rfl, ?_, ?_, _, rfl, rfl⟩⟩
  · exact List.mem_append_left _ (List.mem_cons_of_mem _ (List.mem_cons_of_mem _
      (List.mem_singleton_self _)))
  · exact List.mem_append_right _ (List.mem_singleton_self _)
  · exact Nat.not_le_of_lt (Nat.lt_succ_self 2147483647)

end FileStore
end FieldSearch
