import GrpcCore.Lib.Run

/-!
# The ring-hash policy

A pick goes to the first entry of the ring at or after the hash of the request, or past
entries that fail. The states of the subchannels are counted as they are reported.
-/

namespace GrpcCore.ClientChannel.RingHash

inductive ConnectivityState where
  | idle
  | connecting
  | ready
  | transientFailure
  | shutdown
deriving DecidableEq

/-! ## The picker -/

structure RingEntry (Subchannel : Type) where
  hash : UInt64
  subchannel : Subchannel
  connectivityState : ConnectivityState

inductive PickResult (Subchannel : Type) where
  | complete (subchannel : Subchannel)
  | queue
  | fail
deriving DecidableEq

variable {Subchannel : Type}

/-- `midval1`. -/
def hashBefore (ring : List (RingEntry Subchannel)) (index : Nat) : Option UInt64 :=
  if index = 0 then some 0 else ring[index - 1]?.map RingEntry.hash

/-- The search of `Pick` with `lowp` and `highp`, for at most so many turns of its loop. -/
def search (ring : List (RingEntry Subchannel)) (h : UInt64) :
    (fuel : Nat) → (lowp highp : Int) → Option Nat
  | 0, _, _ => none
  | fuel + 1, lowp, highp =>
    let firstIndex := ((lowp + highp) / 2).toNat
    if firstIndex = ring.length then some 0
    else do
      let mid ← ring[firstIndex]?
      let midval1 ← hashBefore ring firstIndex
      if h ≤ mid.hash ∧ h > midval1 then some firstIndex
      else if mid.hash < h then
        if (firstIndex : Int) + 1 > highp then some 0
        else search ring h fuel (firstIndex + 1) highp
      else if lowp > (firstIndex : Int) - 1 then some 0
      else search ring h fuel lowp (firstIndex - 1)

/-- The least index with a hash at or after the given one, or 0. -/
def firstIndex (ring : List (RingEntry Subchannel)) (h : UInt64) : Nat :=
  let index := ring.findIdx fun entry => h ≤ entry.hash
  if index < ring.length then index else 0

variable {ring : List (RingEntry Subchannel)} {h : UInt64}

/-- In a sorted ring the entries from the first one with a hash at or after the given one are
those with such a hash. -/
theorem hash_lt_iff (sorted : ring.Pairwise (·.hash ≤ ·.hash)) {i : Nat} (bound : i < ring.length) :
    ring[i].hash < h ↔ i < ring.findIdx fun entry => h ≤ entry.hash := by
  constructor
  · intro below
    by_contra later
    have found : ring.findIdx (fun entry => decide (h ≤ entry.hash)) < ring.length := by omega
    have reached := of_decide_eq_true (List.findIdx_getElem (w := found))
    rcases Nat.lt_or_eq_of_le (Nat.le_of_not_lt later) with lower | same
    · have ordered := List.pairwise_iff_getElem.mp sorted _ _ found bound lower
      exact UInt64.not_le.mpr below (UInt64.le_trans reached ordered)
    · simp only [same] at reached
      exact UInt64.not_le.mpr below reached
  · intro before
    exact UInt64.not_le.mp (of_decide_eq_false (List.not_of_lt_findIdx before))

theorem search_spec (sorted : ring.Pairwise (·.hash ≤ ·.hash)) {fuel low high : Nat}
    (lower : low ≤ ring.findIdx fun entry => h ≤ entry.hash)
    (upper : (ring.findIdx fun entry => h ≤ entry.hash) ≤ high) (inside : high ≤ ring.length)
    (enough : high - low < fuel) : search ring h fuel low high = some (firstIndex ring h) := by
  induction fuel generalizing low high with
  | zero => omega
  | succ fuel ih =>
    have middle : (((low : Int) + high) / 2).toNat = (low + high) / 2 := by omega
    generalize mid_eq : (low + high) / 2 = mid at middle
    rw [search, firstIndex]
    simp only [middle]
    by_cases at_end : mid = ring.length
    · rw [if_pos at_end, if_neg (by omega)]
    have bound : mid < ring.length := by omega
    have here := hash_lt_iff (h := h) sorted bound
    rw [if_neg at_end, List.getElem?_eq_getElem bound]
    simp only [Option.bind_eq_bind, Option.bind_some]
    -- the hash before the middle, and what it says unless the middle is at the start
    obtain ⟨midval1, before, previous⟩ : ∃ midval1, hashBefore ring mid = some midval1 ∧
        (mid ≠ 0 → (midval1 < h ↔ mid - 1 < ring.findIdx fun entry => h ≤ entry.hash)) := by
      by_cases start : mid = 0
      · exact ⟨0, if_pos start, fun other => absurd start other⟩
      · have within : mid - 1 < ring.length := by omega
        refine ⟨ring[mid - 1].hash, ?_, fun _ => hash_lt_iff sorted within⟩
        rw [hashBefore, if_neg start, List.getElem?_eq_getElem within, Option.map_some]
    rw [before, Option.bind_some]
    split
    next reached =>
      have at_mid := mt here.mpr (UInt64.not_lt.mpr reached.1)
      have from_mid : mid = 0 ∨ _ := or_iff_not_imp_left.mpr fun other =>
        (previous other).mp reached.2
      rw [if_pos (by omega)]
      exact congrArg some (by omega)
    next missed =>
      split
      next below =>
        have past := here.mp below
        rw [if_neg (by omega)]
        have next := @ih (mid + 1) high past upper inside (by omega)
        rwa [firstIndex] at next
      next above =>
        have at_mid := mt here.mpr above
        have not_before : mid ≠ 0 → ¬mid - 1 < ring.findIdx fun entry => h ≤ entry.hash :=
          fun other earlier =>
            missed ⟨UInt64.not_lt.mp above, (previous other).mpr earlier⟩
        split
        next =>
          rw [if_pos (by omega)]
          exact congrArg some (by omega)
        next =>
          rw [show (mid : Int) - 1 = (mid - 1 : Nat) by omega]
          have next := @ih low (mid - 1) lower (by omega) (by omega) (by omega)
          rwa [firstIndex] at next

variable [DecidableEq Subchannel]

/-- The walk of `Pick` along the entries after the first one. Subchannels for which a
connection attempt is scheduled are collected. -/
def walk (first : Subchannel) :
    List (RingEntry Subchannel) → (foundSecondSubchannel foundFirstNonFailed : Bool) →
      List Subchannel → PickResult Subchannel × List Subchannel
  | [], _, _, attempts => (.fail, attempts)
  | entry :: rest, second, nonFailed, attempts =>
    if entry.subchannel = first then walk first rest second nonFailed attempts
    else if entry.connectivityState = .ready then (.complete entry.subchannel, attempts)
    else if second = false ∧ entry.connectivityState = .idle then
      (.queue, attempts ++ [entry.subchannel])
    else if second = false ∧ entry.connectivityState = .connecting then (.queue, attempts)
    else if nonFailed then walk first rest true true attempts
    else
      match entry.connectivityState with
      | .transientFailure => walk first rest true false (attempts ++ [entry.subchannel])
      | .idle => walk first rest true true (attempts ++ [entry.subchannel])
      | _ => walk first rest true true attempts

/-- `Picker::Pick` for a hash, with the connection attempts that it schedules. -/
def pick (ring : List (RingEntry Subchannel)) (h : UInt64) :
    Option (PickResult Subchannel × List Subchannel) := do
  let firstIndex ← search ring h (ring.length + 1) 0 ring.length
  let first ← ring[firstIndex]?
  match first.connectivityState with
  | .ready => some (.complete first.subchannel, [])
  | .idle => some (.queue, [first.subchannel])
  | .connecting => some (.queue, [])
  | _ =>
    -- `ring_[(first_index + i) % ring_.size()]` for every later `i`
    let others := (ring.rotate firstIndex).tail
    some (walk first.subchannel others false false [first.subchannel])

/-! ### What is to be picked -/

/-- The failed entries passed over, up to and including the first other one if it is idle. -/
def scheduled (passed : List (RingEntry Subchannel)) : List Subchannel :=
  (passed.takeWhile (·.connectivityState = .transientFailure)).map (·.subchannel) ++
    match (passed.dropWhile (·.connectivityState = .transientFailure)).head? with
    | some entry => if entry.connectivityState = .idle then [entry.subchannel] else []
    | none => []

def firstReady (others : List (RingEntry Subchannel)) : PickResult Subchannel :=
  match others.find? (·.connectivityState = .ready) with
  | some entry => .complete entry.subchannel
  | none => .fail

/-- The entries of other subchannels decide once the first one has failed. -/
def pickOther (first : Subchannel) (others : List (RingEntry Subchannel)) :
    PickResult Subchannel × List Subchannel :=
  match others with
  | [] => (.fail, [first])
  | second :: _ =>
    match second.connectivityState with
    | .idle => (.queue, [first, second.subchannel])
    | .connecting => (.queue, [first])
    | _ => (firstReady others,
        first :: scheduled (others.takeWhile (·.connectivityState ≠ .ready)))

/-- What a pick is for a first entry and the entries after it in the order of the ring. -/
def prescribed (first : RingEntry Subchannel) (later : List (RingEntry Subchannel)) :
    PickResult Subchannel × List Subchannel :=
  match first.connectivityState with
  | .ready => (.complete first.subchannel, [])
  | .idle => (.queue, [first.subchannel])
  | .connecting => (.queue, [])
  | _ => pickOther first.subchannel (later.filter (·.subchannel ≠ first.subchannel))

/-! ### The walk -/

variable {first : Subchannel}

section

variable (entries : List (RingEntry Subchannel))
include entries

theorem walk_nonFailed (attempts : List Subchannel) : walk first entries true true attempts =
      (firstReady (entries.filter (·.subchannel ≠ first)), attempts) := by
  induction entries with
  | nil => rfl
  | cons entry rest ih =>
    rw [walk]
    by_cases same : entry.subchannel = first
    · rw [if_pos same, ih, List.filter_cons_of_neg (by simpa using same)]
    · rw [if_neg same, List.filter_cons_of_pos (by simpa using same)]
      by_cases ready : entry.connectivityState = .ready
      · simp [ready, firstReady]
      · simp [ready, firstReady, ih]

theorem walk_failed (attempts : List Subchannel) : walk first entries true false attempts =
      (firstReady (entries.filter (·.subchannel ≠ first)),
        attempts ++ scheduled ((entries.filter (·.subchannel ≠ first)).takeWhile
          (·.connectivityState ≠ .ready))) := by
  induction entries generalizing attempts with
  | nil => simp [walk, firstReady, scheduled]
  | cons entry rest ih =>
    rw [walk]
    by_cases same : entry.subchannel = first
    · rw [if_pos same, ih, List.filter_cons_of_neg (by simpa using same)]
    · rw [if_neg same, List.filter_cons_of_pos (by simpa using same)]
      cases state : entry.connectivityState with
      | transientFailure => simp [state, firstReady, scheduled, ih]
      | ready => simp [state, firstReady, scheduled]
      | _ => simp [state, firstReady, scheduled, walk_nonFailed]

theorem walk_eq : walk first entries false false [first] =
      pickOther first (entries.filter (·.subchannel ≠ first)) := by
  induction entries with
  | nil => rfl
  | cons entry rest ih =>
    rw [walk]
    by_cases same : entry.subchannel = first
    · rw [if_pos same, ih, List.filter_cons_of_neg (by simpa using same)]
    · rw [if_neg same, List.filter_cons_of_pos (by simpa using same), pickOther]
      cases state : entry.connectivityState with
      | transientFailure => simp [state, firstReady, scheduled, walk_failed]
      | _ => simp [state, firstReady, scheduled, walk_nonFailed]

end

/-- The search finds the least index with a hash at or after the given one, or 0, and the pick is
as prescribed for the ring from there on. -/
theorem pick_as_prescribed (ring : List (RingEntry Subchannel))
    (sorted : ring.Pairwise (·.hash ≤ ·.hash)) (nonempty : ring ≠ []) (h : UInt64) :
    search ring h (ring.length + 1) 0 ring.length = some (firstIndex ring h) ∧
      ∃ first later, ring.rotate (firstIndex ring h) = first :: later ∧
        ring[firstIndex ring h]? = some first ∧ pick ring h = some (prescribed first later) := by
  have positive := List.length_pos_of_ne_nil nonempty
  have found : search ring h (ring.length + 1) (0 : Nat) ring.length = _ :=
    search_spec sorted (Nat.zero_le _) List.findIdx_le_length (Nat.le_refl _) (by omega)
  have bound : firstIndex ring h < ring.length := by
    rw [firstIndex]
    split
    · assumption
    · exact positive
  have at_first : ring[firstIndex ring h]? = some _ := List.getElem?_eq_getElem bound
  have rotated := List.rotate_eq_drop_append_take (Nat.le_of_lt bound)
  rw [List.drop_eq_getElem_cons bound, List.cons_append] at rotated
  refine ⟨found, _, _, rotated, at_first, ?_⟩
  rw [pick, show search ring h (ring.length + 1) 0 ring.length = _ from found]
  simp only [Option.bind_eq_bind, Option.bind_some, at_first, rotated, List.tail_cons, prescribed,
    walk_eq]
  cases ring[firstIndex ring h].connectivityState <;> rfl

/-- Two entries of one subchannel with the same hash, passed over for the other one. -/
def repeatedRing : List (RingEntry Nat) :=
  [⟨3, 0, .transientFailure⟩, ⟨3, 0, .transientFailure⟩, ⟨9, 1, .ready⟩]

theorem pick_as_prescribed_repeated :
    search repeatedRing 2 (repeatedRing.length + 1) 0 repeatedRing.length =
        some (firstIndex repeatedRing 2) ∧
      ∃ first later, repeatedRing.rotate (firstIndex repeatedRing 2) = first :: later ∧
        repeatedRing[firstIndex repeatedRing 2]? = some first ∧
          pick repeatedRing 2 = some (prescribed first later) :=
  pick_as_prescribed repeatedRing (by decide) (by decide) 2

/-! ## States as they are reported -/

/-- `RingHashSubchannelData`. -/
structure SubchannelData where
  lastConnectivityState : ConnectivityState := .shutdown
  seenFailureSinceReady : Bool := false

/-- `RingHashSubchannelList`, with the counters `num_idle_` to `num_transient_failure_` by
state. -/
structure SubchannelList where
  subchannels : List SubchannelData
  num : ConnectivityState → Nat := fun _ => 0

/-- `UpdateStateCountersLocked`, if its assertions hold. -/
def SubchannelList.updateStateCounters (list : SubchannelList) (old new : ConnectivityState) :
    Option SubchannelList :=
  if new = .shutdown then none
  else if old = .shutdown then
    some { list with num := Function.update list.num new (list.num new + 1) }
  else if list.num old > 0 then
    let num := Function.update list.num old (list.num old - 1)
    some { list with num := Function.update num new (num new + 1) }
  else none

/-- `UpdateConnectivityStateLocked` of the subchannel at an index. -/
def SubchannelList.updateConnectivityState (list : SubchannelList) (index : Nat)
    (state : ConnectivityState) : Option SubchannelList := do
  let data ← list.subchannels[index]?
  let (list, seenFailure) ←
    if data.seenFailureSinceReady = false then do
      let list ← list.updateStateCounters data.lastConnectivityState state
      some (list, decide (state = .transientFailure))
    else if state = .ready then do
      let list ← list.updateStateCounters .transientFailure state
      some (list, false)
    else some (list, true)
  return { list with subchannels := list.subchannels.set index ⟨state, seenFailure⟩ }

/-- The state `UpdateRingHashConnectivityStateLocked` reports, and what it returns. -/
def SubchannelList.updateRingHashConnectivityState (list : SubchannelList) (isCurrent : Bool) :
    Option ConnectivityState × Bool :=
  if isCurrent = false then (none, false)
  else if list.num .ready > 0 then (some .ready, false)
  else if list.num .connecting > 0 ∧ list.num .transientFailure < 2 then (some .connecting, false)
  else if list.num .idle > 0 ∧ list.num .transientFailure < 2 then (some .idle, false)
  else (some .transientFailure, true)

structure Notification where
  index : Nat
  state : ConnectivityState

def SubchannelList.deliver (list : SubchannelList) (notification : Notification) :
    Option SubchannelList :=
  list.updateConnectivityState notification.index notification.state

/-- Subchannels of which nothing is known yet. -/
def created (count : Nat) : SubchannelList where
  subchannels := List.replicate count {}

/-- The state a subchannel has reported after a notification. -/
def report (reported state : ConnectivityState) : ConnectivityState :=
  if reported = .transientFailure ∧ state ≠ .ready then .transientFailure else state

/-- The state a subchannel reports after all notifications, `shutdown` before the first. -/
def reported (history : List Notification) (index : Nat) : ConnectivityState :=
  ((history.filter (·.index = index)).map (·.state)).foldl report .shutdown

/-- The aggregation rules. -/
def aggregate (states : List ConnectivityState) : ConnectivityState :=
  if .ready ∈ states then .ready
  else if states.count .transientFailure ≥ 2 then .transientFailure
  else if .connecting ∈ states then .connecting
  else if .idle ∈ states then .idle
  else .transientFailure

def SubchannelData.reported (data : SubchannelData) : ConnectivityState :=
  if data.seenFailureSinceReady then .transientFailure else data.lastConnectivityState

/-- After some notifications the subchannels report what they are to report, and the counters
say how many report each state. -/
structure Counted (count : Nat) (history : List Notification) (list : SubchannelList) : Prop where
  length : list.subchannels.length = count
  reports : ∀ ⦃i : Nat⦄ ⦃data : SubchannelData⦄, list.subchannels[i]? = some data →
    data.reported = reported history i
  failed : ∀ ⦃i : Nat⦄ ⦃data : SubchannelData⦄, list.subchannels[i]? = some data →
    data.seenFailureSinceReady = false →
    data.lastConnectivityState ≠ .transientFailure
  counts : ∀ state ≠ .shutdown,
    list.num state = (list.subchannels.map (·.reported)).count state

theorem reported_concat (history : List Notification) (notification : Notification) (i : Nat) :
    reported (history ++ [notification]) i =
      if notification.index = i then report (reported history i) notification.state
      else reported history i := by
  split
  next here => simp [here, reported]
  next other => simp [other, reported]

theorem updateStateCounters_spec {list : SubchannelList} {old new : ConnectivityState}
    (present : old ≠ .shutdown → list.num old > 0) (other : new ≠ .shutdown) :
    ∃ num, list.updateStateCounters old new = some { list with num := num } ∧
      ∀ state ≠ .shutdown, num state =
        list.num state - (if old = state then 1 else 0) + if new = state then 1 else 0 := by
  rw [SubchannelList.updateStateCounters, if_neg other]
  by_cases first : old = .shutdown
  · rw [if_pos first]
    refine ⟨_, rfl, fun state known => ?_⟩
    rw [if_neg fun same => known (same.symm.trans first), Nat.sub_zero, Function.update_apply]
    split
    next same => rw [if_pos same.symm, same]
    next apart => rw [if_neg (Ne.symm apart), Nat.add_zero]
  · rw [if_neg first, if_pos (present first)]
    refine ⟨_, rfl, fun state known => ?_⟩
    simp only [Function.update_apply, eq_comm (a := state)]
    split
    next same =>
      subst same
      split
      next same' => simp [same']
      next other' => simp [Ne.symm other']
    next apart =>
      split
      next same' => simp [same']
      next => simp

variable {count : Nat} {history : List Notification} {list : SubchannelList}

theorem Counted.pos (counted : Counted count history list) {i : Nat} {data : SubchannelData}
    (there : list.subchannels[i]? = some data) (known : data.reported ≠ .shutdown) :
    list.num data.reported > 0 := by
  rw [counted.counts _ known]
  exact List.count_pos_iff.mpr (List.mem_map_of_mem (List.mem_of_getElem? there))

theorem Counted.set (counted : Counted count history list) {i : Nat} {data x : SubchannelData}
    (there : list.subchannels[i]? = some data) {state : ConnectivityState}
    (reports : x.reported = report data.reported state)
    (failed : x.seenFailureSinceReady = false → x.lastConnectivityState ≠ .transientFailure)
    {num : ConnectivityState → Nat}
    (counts : ∀ state ≠ .shutdown, num state = list.num state -
      (if data.reported = state then 1 else 0) + if x.reported = state then 1 else 0) :
    Counted count (history ++ [⟨i, state⟩])
      { subchannels := list.subchannels.set i x, num := num } := by
  obtain ⟨bound, at_i⟩ := List.getElem?_eq_some_iff.mp there
  refine ⟨List.length_set.trans counted.length, ?_, ?_, fun state known => ?_⟩
  · intro j data' at_j
    rw [reported_concat]
    by_cases here : i = j
    · subst here
      rw [List.getElem?_set_self bound, Option.some.injEq] at at_j
      rw [if_pos rfl, ← at_j, reports, counted.reports there]
    · rw [List.getElem?_set_ne here] at at_j
      rw [if_neg here]
      exact counted.reports at_j
  · intro j data' at_j
    by_cases here : i = j
    · subst here
      rw [List.getElem?_set_self bound, Option.some.injEq] at at_j
      exact at_j ▸ failed
    · rw [List.getElem?_set_ne here] at at_j
      exact counted.failed at_j
  · have within : i < (list.subchannels.map (·.reported)).length := by rwa [List.length_map]
    refine (counts state known).trans ?_
    rw [counted.counts state known, List.map_set, List.count_set within, List.getElem_map, at_i]
    simp only [beq_iff_eq]

theorem reported_fresh (state : ConnectivityState) :
    SubchannelData.reported ⟨state, decide (state = .transientFailure)⟩ = state := by
  cases state <;> rfl

theorem Counted.step (counted : Counted count history list) (notification : Notification)
    (inside : notification.index < count) (known : notification.state ≠ .shutdown) :
    ∃ list', list.deliver notification = some list' ∧
      Counted count (history ++ [notification]) list' := by
  have bound : notification.index < list.subchannels.length := counted.length ▸ inside
  have there := List.getElem?_eq_getElem bound
  generalize list.subchannels[notification.index] = data at there
  obtain ⟨index, state⟩ := notification
  rw [SubchannelList.deliver, SubchannelList.updateConnectivityState, there]
  simp only [Option.bind_eq_bind, Option.bind_some]
  cases seen : data.seenFailureSinceReady with
  | false =>
    have same : data.reported = data.lastConnectivityState := by
      rw [SubchannelData.reported, seen, if_neg Bool.false_ne_true]
    have notFailed := counted.failed there seen
    rw [← same] at notFailed ⊢
    obtain ⟨num, updated, counts⟩ := updateStateCounters_spec (counted.pos there) known
    rw [if_pos rfl, updated]
    refine ⟨_, rfl, counted.set there ?_ (fun clear => of_decide_eq_false clear) ?_⟩
    · rw [reported_fresh, report, if_neg fun both => notFailed both.1]
    · simpa only [reported_fresh] using counts
  | true =>
    have same : data.reported = .transientFailure := by
      rw [SubchannelData.reported, seen, if_pos rfl]
    have present := counted.pos there fun none => by cases same.symm.trans none
    by_cases ready : state = .ready
    · subst ready
      obtain ⟨num, updated, counts⟩ :=
        updateStateCounters_spec (fun _ => same ▸ present) known
      rw [if_pos rfl, updated]
      refine ⟨_, rfl, counted.set there ?_ (fun _ same => by cases same) ?_⟩
      · rw [report, if_neg fun both => both.2 rfl]
        rfl
      · rw [same]
        exact counts
    · rw [if_neg ready]
      refine ⟨_, rfl, counted.set there ?_ (fun clear => Bool.noConfusion clear) fun other _ => ?_⟩
      · rw [report, if_pos ⟨same, ready⟩]
        rfl
      · rw [same] at present ⊢
        change list.num other = _ + if .transientFailure = other then 1 else 0
        split
        next here => rw [← here, Nat.sub_add_cancel present]
        next => rfl

theorem reported_eq_shutdown_iff (history : List Notification)
    (known : ∀ notification ∈ history, notification.state ≠ .shutdown) (i : Nat) :
    reported history i = .shutdown ↔ ∀ notification ∈ history, notification.index ≠ i := by
  induction history using List.reverseRecOn with
  | nil => exact iff_of_true rfl nofun
  | append_singleton history notification ih =>
    rw [List.forall_mem_append, List.forall_mem_singleton] at known ⊢
    rw [reported_concat, ← ih known.1]
    split
    next here =>
      refine iff_of_false ?_ fun both => both.2 here
      rw [report]
      split
      · nofun
      · exact known.2
    next other => exact ⟨fun none => ⟨none, other⟩, And.left⟩

theorem count_known (states : List ConnectivityState) :
    states.count .idle + states.count .ready + states.count .connecting +
      states.count .transientFailure = states.countP (· ≠ .shutdown) := by
  induction states with
  | nil => rfl
  | cons state states ih =>
    rw [List.countP_cons, ← ih]
    cases state <;> simp <;> omega

/-- After any notifications of known states the counters and the state that is reported are
those of the states the subchannels are to report. -/
theorem counters_match_reports (count : Nat) (history : List Notification)
    (valid : ∀ notification ∈ history,
      notification.index < count ∧ notification.state ≠ .shutdown) :
    ∃ list, Machine.exec SubchannelList.deliver (created count) history = some list ∧
      (∀ state ≠ .shutdown,
        list.num state = ((List.range count).map (reported history)).count state) ∧
      list.num .idle + list.num .ready + list.num .connecting + list.num .transientFailure =
        (List.range count).countP (fun i => ∃ notification ∈ history, notification.index = i) ∧
      list.updateRingHashConnectivityState false = (none, false) ∧
      (list.updateRingHashConnectivityState true).1 =
        some (aggregate ((List.range count).map (reported history))) := by
  -- from any subchannels that have been counted for what came before
  have runs : ∀ (done rest : List Notification) (list : SubchannelList), history = done ++ rest →
      Counted count done list → ∃ list', Machine.exec SubchannelList.deliver list rest =
        some list' ∧ Counted count history list' := by
    intro done rest
    induction rest generalizing done with
    | nil =>
      intro list split counted
      exact ⟨list, rfl, by rwa [split, List.append_nil]⟩
    | cons notification rest ih =>
      intro list split counted
      have listed : notification ∈ history :=
        split ▸ List.mem_append_right done List.mem_cons_self
      obtain ⟨next, taken, counted'⟩ :=
        counted.step notification (valid _ listed).1 (valid _ listed).2
      obtain ⟨final, ran, outcome⟩ := ih (done ++ [notification]) next
        (by rw [split, List.append_assoc]; rfl) counted'
      exact ⟨final, by rw [Machine.exec, taken, Option.bind_some, ran], outcome⟩
  have initially : Counted count [] (created count) := by
    refine ⟨List.length_replicate, ?_, ?_, fun state known => ?_⟩
    · intro i data there
      rw [List.eq_of_mem_replicate (List.mem_of_getElem? there)]
      rfl
    · intro i data there
      rw [List.eq_of_mem_replicate (List.mem_of_getElem? there)]
      exact fun _ clear => by cases clear
    · rw [created, List.map_replicate, List.count_replicate, if_neg]
      exact fun same => known (eq_of_beq same).symm
  obtain ⟨list, ran, counted⟩ := runs [] history _ rfl initially
  have reports : list.subchannels.map (·.reported) = (List.range count).map (reported history) := by
    apply List.ext_getElem
    · rw [List.length_map, List.length_map, List.length_range, counted.length]
    · intro i bound _
      rw [List.getElem_map, List.getElem_map, List.getElem_range]
      exact counted.reports (List.getElem?_eq_getElem (by simpa using bound))
  have counts := counted.counts
  rw [reports] at counts
  have idle := counts .idle (by decide)
  have ready := counts .ready (by decide)
  have connecting := counts .connecting (by decide)
  have failed := counts .transientFailure (by decide)
  refine ⟨list, ran, counts, ?_, rfl, ?_⟩
  · rw [idle, ready, connecting, failed, count_known, List.countP_map]
    apply List.countP_congr
    intro i _
    have known := fun notification listed => (valid notification listed).2
    simp [reported_eq_shutdown_iff history known]
  · rw [SubchannelList.updateRingHashConnectivityState, idle, ready, connecting, failed,
      if_neg Bool.noConfusion, aggregate]
    generalize (List.range count).map (reported history) = states
    simp only [gt_iff_lt, List.count_pos_iff, ge_iff_le]
    grind

/-- A subchannel that fails and goes idle still counts as failed. -/
theorem counters_match_reports_sticky :
    ∃ list, Machine.exec SubchannelList.deliver (created 2)
        [⟨0, .transientFailure⟩, ⟨0, .idle⟩, ⟨1, .connecting⟩] = some list ∧
      list.num .transientFailure = 1 :=
  (counters_match_reports 2 [⟨0, .transientFailure⟩, ⟨0, .idle⟩, ⟨1, .connecting⟩]
    (by decide)).imp fun _ found => ⟨found.1, (found.2.1 .transientFailure nofun).trans (by decide)⟩

/-! ## Weights of addresses -/

/-- An address of a discovery result, with its weight attribute if it has one. -/
structure Endpoint (Address : Type) where
  address : Address
  weight : Option UInt32

structure Locality (Address Name : Type) where
  name : Name
  lbWeight : UInt32
  endpoints : List (Endpoint Address)

/-- An address with the attributes that are given to the child policy. -/
structure ChildAddress (Address Name : Type) where
  address : Address
  hierarchicalPath : List String
  localityName : Name
  weight : Option UInt32

variable {Address Name : Type} (asHumanReadableString : Name → String)

/-- `CreateChildPolicyAddressesLocked`, for priorities with their child numbers. -/
def createChildPolicyAddresses (priorityList : List (Nat × List (Locality Address Name))) :
    List (ChildAddress Address Name) :=
  priorityList.flatMap fun (childNumber, localities) =>
    localities.flatMap fun locality =>
      locality.endpoints.map fun endpoint =>
        { address := endpoint.address
          hierarchicalPath := [s!"child{childNumber}", asHumanReadableString locality.name]
          localityName := locality.name
          weight := some (match endpoint.weight with
            | none => locality.lbWeight
            | some weight => locality.lbWeight * weight) }

/-- The addresses `UpdateLocked` makes subchannels for. -/
def updateLocked (addresses : List (ChildAddress Address Name)) :
    List (ChildAddress Address Name) :=
  addresses.filter fun address => address.weight.all (· > 0)

/-- The endpoints of a priority list with the products of their weights. -/
def products (priorityList : List (Nat × List (Locality Address Name))) : List (Address × Nat) :=
  priorityList.flatMap fun (_, localities) =>
    localities.flatMap fun locality =>
      locality.endpoints.map fun endpoint =>
        (endpoint.address, locality.lbWeight.toNat * (endpoint.weight.elim 1 UInt32.toNat))

/-- Every address carries the product of the two weights, and none is dropped. -/
def NoneLost (priorityList : List (Nat × List (Locality Address Name))) : Prop :=
  let addresses := createChildPolicyAddresses asHumanReadableString priorityList
  addresses.map (fun address => (address.address, address.weight.map UInt32.toNat)) =
      (products priorityList).map (fun (address, product) => (address, some product)) ∧
    updateLocked addresses = addresses

theorem weights_eq (priorityList : List (Nat × List (Locality Address Name))) :
    (createChildPolicyAddresses asHumanReadableString priorityList).map
        (fun address => (address.address, address.weight.map UInt32.toNat)) =
      (products priorityList).map (fun (address, product) => (address, some (product % 2 ^ 32))) := by
  simp only [createChildPolicyAddresses, products, List.map_flatMap, List.map_map]
  congr 1
  funext ⟨childNumber, localities⟩
  congr 1
  funext locality
  congr 1
  funext endpoint
  cases weight : endpoint.weight with
  | none => simp [weight, Nat.mod_eq_of_lt locality.lbWeight.toNat_lt]
  | some weight => simp [weight, UInt32.toNat_mul]

/-- No endpoint is lost exactly if no product of weights leaves the range of the weights. -/
theorem noneLost_iff (priorityList : List (Nat × List (Locality Address Name)))
    (positive : ∀ entry ∈ products priorityList, 0 < entry.2) :
    NoneLost asHumanReadableString priorityList ↔
      ∀ entry ∈ products priorityList, entry.2 < 2 ^ 32 := by
  rw [NoneLost, weights_eq, List.map_inj_left]
  constructor
  · rintro ⟨same, -⟩ entry listed
    have exact_ : entry.2 % 2 ^ 32 = entry.2 := Option.some.inj (congrArg Prod.snd (same entry listed))
    exact exact_ ▸ Nat.mod_lt _ (by decide)
  · intro fits
    have same : ∀ entry ∈ products priorityList,
        (entry.1, some (entry.2 % 2 ^ 32)) = (entry.1, some entry.2) :=
      fun entry listed => by rw [Nat.mod_eq_of_lt (fits entry listed)]
    refine ⟨same, List.filter_eq_self.mpr fun address listed => ?_⟩
    have carried := weights_eq asHumanReadableString priorityList
    rw [List.map_congr_left same] at carried
    obtain ⟨entry, product, equal⟩ := List.mem_map.mp (carried ▸ List.mem_map_of_mem listed)
    obtain ⟨weight, some_, toNat⟩ := Option.map_eq_some_iff.mp (congrArg Prod.snd equal).symm
    rw [some_, Option.all_some, decide_eq_true_iff, gt_iff_lt, UInt32.lt_iff_toNat_lt, toNat]
    exact positive entry product

/-- Two weights whose product is 2 ^ 32. -/
def wrappingPriority : List (Nat × List (Locality String Unit)) :=
  [(0, [⟨(), 65536, [⟨"10.0.0.1", some 65536⟩]⟩])]

theorem wrappingPriority_lost : ¬NoneLost (fun _ => "") wrappingPriority := by
  rintro ⟨-, kept⟩
  exact absurd (congrArg List.length kept) (by decide)

theorem noneLost_iff_wrapping :
    NoneLost (fun _ => "") wrappingPriority ↔
      ∀ entry ∈ products wrappingPriority, entry.2 < 2 ^ 32 :=
  noneLost_iff (fun _ => "") wrappingPriority (by decide)

end GrpcCore.ClientChannel.RingHash
