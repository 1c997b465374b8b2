import GrpcCore.Lib.Run
import GrpcCore.Lib.Ledger

/-!
# Retry throttling

A token bucket for each server name, kept across changes of its parameters. The map of
server names keeps the first bucket that it was given: `emplace` does not replace an
element, and a bucket that is replaced only points to its successor.
-/

namespace GrpcCore.ClientChannel

/-- `ServerRetryThrottleData`. Buckets are named by the order of their creation. -/
structure ServerRetryThrottleData where
  maxMilliTokens : Int
  milliTokenRatio : Int
  milliTokens : Int
  replacement : Option Nat := none
deriving DecidableEq

/-- All buckets, `g_map`, the handles that `GetDataForServer` has returned, and what
`RecordFailure` has. -/
structure ServerRetryThrottleMap where
  buckets : List ServerRetryThrottleData := []
  map : List (String × Nat) := []
  handles : List Nat := []
  results : List Bool := []
deriving DecidableEq

def clamp (value min max : Int) : Int :=
  if value < min then min else if max < value then max else value

/-- `gpr_atm_no_barrier_clamped_add`, between zero and the maximum. -/
def ServerRetryThrottleData.clampedAdd (data : ServerRetryThrottleData) (delta : Int) :
    ServerRetryThrottleData :=
  { data with milliTokens := clamp (data.milliTokens + delta) 0 data.maxMilliTokens }

/-- What the tokens of a bucket come to on another scale, in doubles. -/
def ServerRetryThrottleData.scaledMilliTokens (data : ServerRetryThrottleData)
    (maxMilliTokens : Int) : Int :=
  let tokenFraction := Float.ofInt data.milliTokens / Float.ofInt data.maxMilliTokens
  (tokenFraction * Float.ofInt maxMilliTokens).toUInt64.toNat

/-- `std::map::emplace`. -/
def emplace (map : List (String × Nat)) (name : String) (bucket : Nat) : List (String × Nat) :=
  match map.lookup name with
  | none => map ++ [(name, bucket)]
  | some _ => map

namespace ServerRetryThrottleMap

/-- `GetReplacementThrottleDataIfNeeded`, with a bound on its loop. -/
def getReplacement (buckets : List ServerRetryThrottleData) : Nat → Nat → Option Nat
  | 0, _ => none
  | fuel + 1, bucket =>
    match buckets[bucket]? with
    | none => none
    | some data =>
      match data.replacement with
      | none => some bucket
      | some next => getReplacement buckets fuel next

def current (s : ServerRetryThrottleMap) (handle : Nat) : Option Nat :=
  getReplacement s.buckets s.buckets.length handle

def replace (s : ServerRetryThrottleMap) (bucket : Nat) (data : ServerRetryThrottleData)
    (maxMilliTokens milliTokenRatio : Int) : ServerRetryThrottleMap :=
  { s with
    buckets := s.buckets.set bucket { data with replacement := some s.buckets.length } ++
      [{ maxMilliTokens, milliTokenRatio, milliTokens := data.scaledMilliTokens maxMilliTokens }] }

/-- `it->second`, which is returned. -/
def found (s : ServerRetryThrottleMap) (name : String) : Option ServerRetryThrottleMap :=
  (s.map.lookup name).map fun bucket => { s with handles := s.handles ++ [bucket] }

def getDataForServer (s : ServerRetryThrottleMap) (name : String)
    (maxMilliTokens milliTokenRatio : Int) : Option ServerRetryThrottleMap :=
  let created := s.buckets.length
  match s.map.lookup name with
  | none =>
    found { s with
      buckets := s.buckets ++
        [{ maxMilliTokens, milliTokenRatio, milliTokens := maxMilliTokens }]
      map := emplace s.map name created } name
  | some bucket =>
    s.buckets[bucket]?.bind fun data =>
      if data.maxMilliTokens ≠ maxMilliTokens ∨ data.milliTokenRatio ≠ milliTokenRatio then
        let s := s.replace bucket data maxMilliTokens milliTokenRatio
        found { s with map := emplace s.map name created } name
      else s.found name

def record (s : ServerRetryThrottleMap) (handle : Nat)
    (delta : ServerRetryThrottleData → Int) :
    Option (ServerRetryThrottleData × ServerRetryThrottleMap) :=
  s.handles[handle]?.bind s.current |>.bind fun bucket =>
    s.buckets[bucket]?.map fun data =>
      let data := data.clampedAdd (delta data)
      (data, { s with buckets := s.buckets.set bucket data })

/-- Retries are allowed above half of the maximum. -/
def recordFailure (s : ServerRetryThrottleMap) (handle : Nat) : Option ServerRetryThrottleMap :=
  (s.record handle fun _ => -1000).map fun (data, s) =>
    { s with results := s.results ++ [decide (data.milliTokens > data.maxMilliTokens / 2)] }

def recordSuccess (s : ServerRetryThrottleMap) (handle : Nat) : Option ServerRetryThrottleMap :=
  (s.record handle (·.milliTokenRatio)).map Prod.snd

end ServerRetryThrottleMap

/-- Parameters come from a service config, where both are positive `int`s. Handles are
numbered in the order of their requests. -/
inductive ThrottleAction where
  | getDataForServer (name : String) (maxMilliTokens milliTokenRatio : Int)
  | recordFailure (handle : Nat)
  | recordSuccess (handle : Nat)
deriving DecidableEq

namespace ServerRetryThrottleMap

def step (s : ServerRetryThrottleMap) : ThrottleAction → Option ServerRetryThrottleMap
  | .getDataForServer name maxMilliTokens milliTokenRatio =>
    if 0 < maxMilliTokens ∧ maxMilliTokens < 2147483648 ∧ 0 < milliTokenRatio ∧
        milliTokenRatio < 2147483648 then
      s.getDataForServer name maxMilliTokens milliTokenRatio
    else none
  | .recordFailure handle => s.recordFailure handle
  | .recordSuccess handle => s.recordSuccess handle

variable {s s' : ServerRetryThrottleMap} {buckets : List ServerRetryThrottleData}

variable {bucket fuel handle : Nat} {name : String}

theorem getReplacement_kept {buckets' : List ServerRetryThrottleData} {last : Nat}
    (kept : ∀ {bucket data}, buckets[bucket]? = some data →
      data.replacement.isSome ∨ bucket = last →
        ∃ data', buckets'[bucket]? = some data' ∧ data'.replacement = data.replacement)
    {fuel' : Nat} (more : fuel ≤ fuel') (ends : getReplacement buckets fuel bucket = some last) :
    getReplacement buckets' fuel' bucket = some last := by
  induction fuel generalizing fuel' bucket with
  | zero => cases ends
  | succ fuel ih =>
    obtain ⟨fuel', rfl⟩ : ∃ rest, fuel' = rest + 1 := ⟨fuel' - 1, by omega⟩
    simp only [getReplacement] at ends ⊢
    cases there : buckets[bucket]? with
    | none =>
      rw [there] at ends
      cases ends
    | some data =>
      rw [there] at ends
      cases replaced : data.replacement with
      | none =>
        simp only [replaced, Option.some.injEq] at ends
        obtain ⟨data', there', same⟩ := kept there (.inr ends)
        simp only [there', same, replaced]
        rw [ends]
      | some next =>
        simp only [replaced] at ends
        obtain ⟨data', there', same⟩ := kept there (.inl (by simp [replaced]))
        simp only [there', same, replaced]
        exact ih (by omega) ends

variable {data : ServerRetryThrottleData}

theorem getReplacement_unreplaced (there : buckets[bucket]? = some data)
    (unreplaced : data.replacement = none) (some_ : 0 < fuel) :
    getReplacement buckets fuel bucket = some bucket := by
  obtain ⟨fuel, rfl⟩ : ∃ rest, fuel = rest + 1 := ⟨fuel - 1, by omega⟩
  simp [getReplacement, there, unreplaced]

variable {milliTokenRatio maxMilliTokens : Int}

theorem getDataForServer_cases
    (requested : s.getDataForServer name maxMilliTokens milliTokenRatio = some s') :
    (s.map.lookup name = none ∧
      s' = { s with
        buckets := s.buckets ++ [{ maxMilliTokens, milliTokenRatio, milliTokens := maxMilliTokens }]
        map := s.map ++ [(name, s.buckets.length)]
        handles := s.handles ++ [s.buckets.length] }) ∨
    ∃ bucket data, s.map.lookup name = some bucket ∧ s.buckets[bucket]? = some data ∧
      ((data.maxMilliTokens ≠ maxMilliTokens ∨ data.milliTokenRatio ≠ milliTokenRatio) ∧
          s' = { s.replace bucket data maxMilliTokens milliTokenRatio with
            handles := s.handles ++ [bucket] } ∨
        (data.maxMilliTokens = maxMilliTokens ∧ data.milliTokenRatio = milliTokenRatio) ∧
          s' = { s with handles := s.handles ++ [bucket] }) := by
  unfold getDataForServer at requested
  cases looked : s.map.lookup name with
  | none =>
    simp [looked, found, emplace, List.lookup_append] at requested
    exact .inl ⟨rfl, requested.symm⟩
  | some bucket =>
    simp only [looked] at requested
    obtain ⟨data, there, requested⟩ := Option.bind_eq_some_iff.mp requested
    refine .inr ⟨bucket, data, rfl, there, ?_⟩
    split at requested
    · rename_i changed
      simp [found, emplace, replace, looked] at requested
      exact .inl ⟨changed, requested.symm⟩
    · rename_i unchanged
      simp [found, looked] at requested
      exact .inr ⟨by simpa using unchanged, requested.symm⟩

variable {data' : ServerRetryThrottleData}

theorem record_cases {delta : ServerRetryThrottleData → Int}
    (recorded : s.record handle delta = some (data', s')) :
    ∃ entry bucket data, s.handles[handle]? = some entry ∧ s.current entry = some bucket ∧
      s.buckets[bucket]? = some data ∧ data' = data.clampedAdd (delta data) ∧
      s' = { s with buckets := s.buckets.set bucket data' } := by
  obtain ⟨bucket, acted, recorded⟩ := Option.bind_eq_some_iff.mp recorded
  obtain ⟨entry, returned, acted⟩ := Option.bind_eq_some_iff.mp acted
  obtain ⟨data, there, recorded⟩ := Option.map_eq_some_iff.mp recorded
  obtain ⟨rfl, rfl⟩ := Prod.mk.injEq _ _ _ _ ▸ recorded
  exact ⟨entry, bucket, data, returned, acted, there, rfl, rfl⟩

theorem recordFailure_cases (recorded : s.recordFailure handle = some s') :
    ∃ data t, s.record handle (fun _ => -1000) = some (data, t) ∧
      s' = { t with results := t.results ++ [decide (data.milliTokens > data.maxMilliTokens / 2)] } := by
  obtain ⟨⟨data, t⟩, changed, rfl⟩ := Option.map_eq_some_iff.mp recorded
  exact ⟨data, t, changed, rfl⟩

theorem recordSuccess_cases (recorded : s.recordSuccess handle = some s') :
    ∃ data, s.record handle (·.milliTokenRatio) = some (data, s') := by
  obtain ⟨⟨data, t⟩, changed, rfl⟩ := Option.map_eq_some_iff.mp recorded
  exact ⟨data, changed⟩

end ServerRetryThrottleMap

end GrpcCore.ClientChannel
