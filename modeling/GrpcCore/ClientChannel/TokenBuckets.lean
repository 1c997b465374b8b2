import GrpcCore.ClientChannel.RetryThrottle

/-!
# One token bucket for each server name

What retry throttling is for: a bucket of tokens for each server name, which keeps its
level when the parameters of the name change.
-/

namespace GrpcCore.ClientChannel

open ServerRetryThrottleData

structure TokenBucket where
  maxMilliTokens : Int
  milliTokenRatio : Int
  milliTokens : Int
deriving DecidableEq

namespace TokenBucket

def requested (bucket : Option TokenBucket) (maxMilliTokens milliTokenRatio : Int) : TokenBucket :=
  match bucket with
  | none => { maxMilliTokens, milliTokenRatio, milliTokens := maxMilliTokens }
  | some bucket =>
    if bucket.maxMilliTokens = maxMilliTokens ∧ bucket.milliTokenRatio = milliTokenRatio then
      bucket
    else
      { maxMilliTokens
        milliTokenRatio
        milliTokens := bucket.milliTokens * maxMilliTokens / bucket.maxMilliTokens }

def failed (bucket : TokenBucket) : TokenBucket :=
  { bucket with milliTokens := max 0 (bucket.milliTokens - 1000) }

def succeeded (bucket : TokenBucket) : TokenBucket :=
  { bucket with
    milliTokens := min bucket.maxMilliTokens (bucket.milliTokens + bucket.milliTokenRatio) }

def allowsRetries (bucket : TokenBucket) : Bool :=
  bucket.milliTokens > bucket.maxMilliTokens / 2

/-- The tokens lie between zero and the maximum. -/
structure Sound (bucket : TokenBucket) : Prop where
  max : 0 < bucket.maxMilliTokens
  ratio : 0 < bucket.milliTokenRatio
  nonneg : 0 ≤ bucket.milliTokens
  le : bucket.milliTokens ≤ bucket.maxMilliTokens

theorem Sound.failed {bucket : TokenBucket} (sound : bucket.Sound) : bucket.failed.Sound := by
  obtain ⟨max, ratio, nonneg, le⟩ := sound
  refine ⟨max, ratio, le_max_left _ _, ?_⟩
  simp only [TokenBucket.failed]
  omega

theorem Sound.succeeded {bucket : TokenBucket} (sound : bucket.Sound) : bucket.succeeded.Sound := by
  obtain ⟨max, ratio, nonneg, le⟩ := sound
  refine ⟨max, ratio, ?_, min_le_left _ _⟩
  simp only [TokenBucket.succeeded]
  omega

theorem Sound.requested {bucket : Option TokenBucket} (sound : ∀ old, bucket = some old → old.Sound)
    {maxMilliTokens milliTokenRatio : Int} (max : 0 < maxMilliTokens)
    (ratio : 0 < milliTokenRatio) :
    (TokenBucket.requested bucket maxMilliTokens milliTokenRatio).Sound := by
  cases bucket with
  | none => exact ⟨max, ratio, max.le, le_refl _⟩
  | some old =>
    have before := sound old rfl
    unfold TokenBucket.requested
    simp only
    split
    · exact before
    · refine ⟨max, ratio, ?_, ?_⟩
      · exact Int.ediv_nonneg (Int.mul_nonneg before.nonneg max.le) before.max.le
      · refine Int.ediv_le_of_le_mul before.max ?_
        rw [Int.mul_comm]
        exact Int.mul_le_mul_of_nonneg_left before.le max.le

end TokenBucket

/-- The buckets of all names, the names that handles were returned for, and the results of
the failures. -/
structure Throttling where
  buckets : String → Option TokenBucket := fun _ => none
  handles : List String := []
  results : List Bool := []

namespace Throttling

def changed (t : Throttling) (handle : Nat) (change : TokenBucket → TokenBucket) :
    Option (TokenBucket × Throttling) :=
  t.handles[handle]?.bind fun name =>
    (t.buckets name).map fun bucket =>
      (change bucket, { t with buckets := Function.update t.buckets name (some (change bucket)) })

def step (t : Throttling) : ThrottleAction → Option Throttling
  | .getDataForServer name maxMilliTokens milliTokenRatio =>
    let bucket := TokenBucket.requested (t.buckets name) maxMilliTokens milliTokenRatio
    some { t with
      buckets := Function.update t.buckets name (some bucket)
      handles := t.handles ++ [name] }
  | .recordFailure handle =>
    (t.changed handle TokenBucket.failed).map fun (bucket, t) =>
      { t with results := t.results ++ [bucket.allowsRetries] }
  | .recordSuccess handle => (t.changed handle TokenBucket.succeeded).map Prod.snd

end Throttling

def ServerRetryThrottleData.tokenBucket (data : ServerRetryThrottleData) : TokenBucket :=
  { maxMilliTokens := data.maxMilliTokens
    milliTokenRatio := data.milliTokenRatio
    milliTokens := data.milliTokens }

namespace ServerRetryThrottleMap

/-- Every handle acts on the bucket of its name, which no handle of another name acts on. -/
structure Represents (s : ServerRetryThrottleMap) (t : Throttling) : Prop where
  results : s.results = t.results
  handles : s.handles.length = t.handles.length
  bucket : ∀ {handle : Nat} {name : String}, t.handles[handle]? = some name →
    ∃ entry bucket data, s.handles[handle]? = some entry ∧ s.current entry = some bucket ∧
      s.buckets[bucket]? = some data ∧ t.buckets name = some data.tokenBucket ∧
      data.tokenBucket.Sound
  single : ∀ {handle other : Nat} {name name' : String} {entry entry' : Nat},
    t.handles[handle]? = some name → t.handles[other]? = some name' →
    s.handles[handle]? = some entry → s.handles[other]? = some entry' →
      (s.current entry = s.current entry' ↔ name = name')

/-- The step of a run in which a name changes its parameters once at most, and the doubles
are exact enough to scale its tokens. -/
def FirstChange (s : ServerRetryThrottleMap) : ThrottleAction → Prop
  | .getDataForServer name maxMilliTokens milliTokenRatio =>
    ∀ bucket data, s.map.lookup name = some bucket → s.buckets[bucket]? = some data →
      data.replacement = none ∧
      (data.maxMilliTokens ≠ maxMilliTokens ∨ data.milliTokenRatio ≠ milliTokenRatio →
        data.scaledMilliTokens maxMilliTokens =
          data.milliTokens * maxMilliTokens / data.maxMilliTokens)
  | .recordFailure _ => True
  | .recordSuccess _ => True

instance (s : ServerRetryThrottleMap) : (action : ThrottleAction) → Decidable (s.FirstChange action)
  | .getDataForServer name maxMilliTokens milliTokenRatio =>
    decidable_of_iff (∀ bucket ∈ s.map.lookup name, ∀ data ∈ s.buckets[bucket]?,
      data.replacement = none ∧
      (data.maxMilliTokens ≠ maxMilliTokens ∨ data.milliTokenRatio ≠ milliTokenRatio →
        data.scaledMilliTokens maxMilliTokens =
          data.milliTokens * maxMilliTokens / data.maxMilliTokens))
      ⟨fun all bucket data looked there => all bucket looked data there,
        fun all bucket looked data there => all bucket data looked there⟩
  | .recordFailure _ => inferInstanceAs (Decidable True)
  | .recordSuccess _ => inferInstanceAs (Decidable True)

variable {s s' : ServerRetryThrottleMap} {t t' : Throttling}

def Acts (s : ServerRetryThrottleMap) (name : String) (bucket : Nat) : Prop :=
  ∃ entry, s.map.lookup name = some entry ∧ s.current entry = some bucket

structure Tracks (s : ServerRetryThrottleMap) (t : Throttling) : Prop where
  results : s.results = t.results
  handles : List.Forall₂ (fun entry name => s.map.lookup name = some entry) s.handles t.handles
  absent : ∀ {name : String}, s.map.lookup name = none → t.buckets name = none
  present : ∀ {name : String} {entry : Nat}, s.map.lookup name = some entry →
    ∃ bucket data, s.current entry = some bucket ∧ s.buckets[bucket]? = some data ∧
      t.buckets name = some data.tokenBucket
  apart : ∀ {name other : String} {bucket : Nat}, s.Acts name bucket → s.Acts other bucket →
    name = other
  sound : ∀ {name : String} {bucket : TokenBucket}, t.buckets name = some bucket → bucket.Sound

variable {name : String} {bucket : Nat}

theorem Tracks.bucket_of_acts (tracks : s.Tracks t) (acts : s.Acts name bucket) :
    ∃ data, s.buckets[bucket]? = some data ∧ t.buckets name = some data.tokenBucket := by
  obtain ⟨entry, looked, ends⟩ := acts
  obtain ⟨bucket', data, ends', there, bucketed⟩ := tracks.present looked
  obtain rfl := Option.mem_unique ends ends'
  exact ⟨data, there, bucketed⟩

theorem Tracks.represents (tracks : s.Tracks t) : s.Represents t := by
  have entry_of : ∀ {handle : Nat} {name : String}, t.handles[handle]? = some name →
      ∃ entry, s.handles[handle]? = some entry ∧ s.map.lookup name = some entry := by
    intro handle name named
    obtain ⟨bound, at_⟩ := List.getElem?_eq_some_iff.mp named
    have within : handle < s.handles.length := tracks.handles.length_eq ▸ bound
    refine ⟨s.handles[handle], List.getElem?_eq_getElem within, ?_⟩
    rw [← at_]
    exact tracks.handles.get within bound
  refine ⟨tracks.results, tracks.handles.length_eq, ?_, ?_⟩
  · intro handle name named
    obtain ⟨entry, returned, looked⟩ := entry_of named
    obtain ⟨bucket, data, ends, there, bucketed⟩ := tracks.present looked
    exact ⟨entry, bucket, data, returned, ends, there, bucketed, tracks.sound bucketed⟩
  · intro handle other name name' entry entry' named named' returned returned'
    obtain ⟨found, again, looked⟩ := entry_of named
    obtain ⟨found', again', looked'⟩ := entry_of named'
    obtain rfl := Option.mem_unique returned again
    obtain rfl := Option.mem_unique returned' again'
    constructor
    · intro same
      obtain ⟨bucket, data, ends, _, _⟩ := tracks.present looked
      exact tracks.apart ⟨entry, looked, ends⟩ ⟨entry', looked', same ▸ ends⟩
    · rintro rfl
      rw [Option.mem_unique looked looked']

/-- What an operation on one name has to keep: the buckets that the other names act on. -/
structure Updates (s : ServerRetryThrottleMap) (name : String) (bucket : Nat)
    (data : ServerRetryThrottleData) (s' : ServerRetryThrottleMap) : Prop where
  acts : s'.Acts name bucket
  there : s'.buckets[bucket]? = some data
  mine : ∀ {other : String}, s.Acts other bucket → other = name
  map : ∀ {other : String}, other ≠ name → s'.map.lookup other = s.map.lookup other
  others : ∀ {other : String} {last : Nat} {old : ServerRetryThrottleData}, other ≠ name →
    s.Acts other last → s.buckets[last]? = some old →
      s'.Acts other last ∧ s'.buckets[last]? = some old

variable {data : ServerRetryThrottleData}

theorem Updates.acts_before (updates : s.Updates name bucket data s') (tracks : s.Tracks t)
    {other : String} {last : Nat} (different : other ≠ name) (after : s'.Acts other last) :
    s.Acts other last := by
  obtain ⟨entry, looked, ends⟩ := after
  have found := looked
  rw [updates.map different] at found
  obtain ⟨last', old, before, there, _⟩ := tracks.present found
  obtain ⟨⟨entry', looked', ends'⟩, _⟩ := updates.others different ⟨entry, found, before⟩ there
  obtain rfl := Option.mem_unique looked looked'
  obtain rfl := Option.mem_unique ends ends'
  exact ⟨entry, found, before⟩

section

variable (tracks : s.Tracks t)
include tracks

theorem Tracks.updated {handles : List String} {results : List Bool}
    (updates : s.Updates name bucket data s') (sound : data.tokenBucket.Sound)
    (listed : List.Forall₂ (fun entry name => s'.map.lookup name = some entry) s'.handles handles)
    (same : s'.results = results) :
    s'.Tracks ⟨Function.update t.buckets name (some data.tokenBucket), handles, results⟩ := by
  constructor
  · exact same
  · exact listed
  · intro other absent
    have different : other ≠ name := by
      rintro rfl
      obtain ⟨entry, looked, _⟩ := updates.acts
      cases absent.symm.trans looked
    rw [updates.map different] at absent
    simpa [different] using tracks.absent absent
  · intro other entry looked
    by_cases different : other = name
    · subst different
      obtain ⟨entry', looked', ends⟩ := updates.acts
      obtain rfl := Option.mem_unique looked looked'
      exact ⟨bucket, data, ends, updates.there, by simp⟩
    · have found := looked
      rw [updates.map different] at found
      obtain ⟨last, old, before, there, bucketed⟩ := tracks.present found
      obtain ⟨⟨entry', looked', ends⟩, there'⟩ :=
        updates.others different ⟨entry, found, before⟩ there
      obtain rfl := Option.mem_unique looked looked'
      exact ⟨last, old, ends, there', by simpa [different] using bucketed⟩
  · intro first second last acts acts'
    obtain ⟨_, mine, ends⟩ := updates.acts
    by_cases isFirst : first = name <;> by_cases isSecond : second = name
    · rw [isFirst, isSecond]
    · subst isFirst
      obtain ⟨_, looked, ends'⟩ := acts
      obtain rfl := Option.mem_unique mine looked
      obtain rfl := Option.mem_unique ends ends'
      exact (updates.mine (updates.acts_before tracks isSecond acts')).symm
    · subst isSecond
      obtain ⟨_, looked, ends'⟩ := acts'
      obtain rfl := Option.mem_unique mine looked
      obtain rfl := Option.mem_unique ends ends'
      exact updates.mine (updates.acts_before tracks isFirst acts)
    · exact tracks.apart (updates.acts_before tracks isFirst acts)
        (updates.acts_before tracks isSecond acts')
  · intro other bucket' bucketed
    by_cases different : other = name
    · subst different
      obtain rfl : data.tokenBucket = bucket' := by simpa using bucketed
      exact sound
    · have before : t.buckets other = some bucket' := by simpa [different] using bucketed
      exact tracks.sound before

theorem updates_set {data' : ServerRetryThrottleData} (acts : s.Acts name bucket)
    (there : s.buckets[bucket]? = some data) (same : data'.replacement = data.replacement) :
    s.Updates name bucket data' { s with buckets := s.buckets.set bucket data' } := by
  have within := (List.getElem?_eq_some_iff.mp there).1
  have ends : ∀ {other : String} {last : Nat}, s.Acts other last →
      ({ s with buckets := s.buckets.set bucket data' } : ServerRetryThrottleMap).Acts other last := by
    rintro other last ⟨entry, looked, ends⟩
    refine ⟨entry, looked, getReplacement_kept ?_ (by simp) ends⟩
    intro here old found _
    by_cases mine : bucket = here
    · subst mine
      obtain rfl := Option.mem_unique there found
      exact ⟨data', by simp [within], same⟩
    · exact ⟨old, by simp [mine, found], rfl⟩
  refine ⟨ends acts, by simp [within], ?_, fun _ => rfl, ?_⟩
  · intro other acts'
    exact tracks.apart acts' acts
  · intro other last old different acts' found
    have elsewhere : bucket ≠ last := by
      rintro rfl
      exact different (tracks.apart acts' acts)
    exact ⟨ends acts', by simp [elsewhere, found]⟩

theorem Tracks.acts_lt (acts : s.Acts name bucket) : bucket < s.buckets.length := by
  obtain ⟨data, there, _⟩ := tracks.bucket_of_acts acts
  exact (List.getElem?_eq_some_iff.mp there).1

theorem updates_append (absent : s.map.lookup name = none) (unreplaced : data.replacement = none)
    (handles : List Nat) : s.Updates name s.buckets.length data
      { s with
        buckets := s.buckets ++ [data]
        map := s.map ++ [(name, s.buckets.length)]
        handles } := by
  have others : ∀ {other : String}, other ≠ name →
      (s.map ++ [(name, s.buckets.length)]).lookup other = s.map.lookup other := by
    intro other different
    simp [List.lookup_append, List.lookup, beq_eq_false_iff_ne.mpr different]
  refine ⟨⟨s.buckets.length, ?_, ?_⟩, by simp, ?_, others, ?_⟩
  · simp [List.lookup_append, absent]
  · exact getReplacement_unreplaced (by simp) unreplaced (by simp)
  · intro other acts
    exact absurd (tracks.acts_lt acts) (Nat.lt_irrefl _)
  · intro other last old different acts found
    obtain ⟨entry, looked, ends⟩ := acts
    refine ⟨⟨entry, (others different).trans looked, ?_⟩, ?_⟩
    · refine getReplacement_kept ?_ (by simp) ends
      intro here data' there _
      refine ⟨data', ?_, rfl⟩
      rw [List.getElem?_append_left (List.getElem?_eq_some_iff.mp there).1]
      exact there
    · rw [List.getElem?_append_left (List.getElem?_eq_some_iff.mp found).1]
      exact found

theorem updates_replace {new : ServerRetryThrottleData} (looked : s.map.lookup name = some bucket)
    (there : s.buckets[bucket]? = some data) (unreplaced : data.replacement = none)
    (newest : new.replacement = none) (handles : List Nat) : s.Updates name s.buckets.length new
      { s with
        buckets := s.buckets.set bucket { data with replacement := some s.buckets.length } ++ [new]
        handles } := by
  have within := (List.getElem?_eq_some_iff.mp there).1
  have acts : s.Acts name bucket :=
    ⟨bucket, looked, getReplacement_unreplaced there unreplaced (by omega)⟩
  have other_there : ∀ {here : Nat} {old : ServerRetryThrottleData}, bucket ≠ here →
      s.buckets[here]? = some old →
      (s.buckets.set bucket { data with replacement := some s.buckets.length } ++ [new])[here]? =
        some old := by
    intro here old elsewhere found
    have bound := (List.getElem?_eq_some_iff.mp found).1
    rw [List.getElem?_append_left (by simpa using bound), List.getElem?_set_ne elsewhere]
    exact found
  refine ⟨⟨bucket, looked, ?_⟩, by simp, ?_, fun _ => rfl, ?_⟩
  · simp only [current, List.length_append, List.length_set, List.length_singleton]
    rw [getReplacement, List.getElem?_append_left (by simpa using within),
      List.getElem?_set_self within]
    exact getReplacement_unreplaced (by simp) newest (by omega)
  · intro other acts'
    exact absurd (tracks.acts_lt acts') (Nat.lt_irrefl _)
  · intro other last old different acts' found
    have elsewhere : bucket ≠ last := by
      rintro rfl
      exact different (tracks.apart acts' acts)
    obtain ⟨entry, looked', ends⟩ := acts'
    refine ⟨⟨entry, looked', getReplacement_kept ?_ (by simp) ends⟩, other_there elsewhere found⟩
    intro here data' found' link
    have notMine : bucket ≠ here := by
      rintro rfl
      obtain rfl := Option.mem_unique there found'
      rcases link with replaced | rfl
      · simp [unreplaced] at replaced
      · exact elsewhere rfl
    exact ⟨data', other_there notMine found', rfl⟩

end

theorem forall₂_handles {map map' : List (String × Nat)} {handles : List Nat} {names : List String}
    {entry : Nat}
    (listed : List.Forall₂ (fun entry name => map.lookup name = some entry) handles names)
    (kept : ∀ {other : String} {old : Nat}, map.lookup other = some old →
      map'.lookup other = some old) (found : map'.lookup name = some entry) :
    List.Forall₂ (fun entry name => map'.lookup name = some entry) (handles ++ [entry])
      (names ++ [name]) := by
  induction listed with
  | nil => exact .cons found .nil
  | cons looked _ ih => exact .cons (kept looked) ih

theorem Tracks.getDataForServer (tracks : s.Tracks t) {maxMilliTokens milliTokenRatio : Int}
    (max : 0 < maxMilliTokens) (ratio : 0 < milliTokenRatio)
    (allowed : s.FirstChange (.getDataForServer name maxMilliTokens milliTokenRatio))
    (requested : s.getDataForServer name maxMilliTokens milliTokenRatio = some s') :
    ∃ t', t.step (.getDataForServer name maxMilliTokens milliTokenRatio) = some t' ∧
      s'.Tracks t' := by
  have sound : (TokenBucket.requested (t.buckets name) maxMilliTokens milliTokenRatio).Sound :=
    TokenBucket.Sound.requested (fun _ bucketed => tracks.sound bucketed) max ratio
  refine ⟨_, rfl, ?_⟩
  rcases getDataForServer_cases requested with ⟨absent, rfl⟩ | ⟨bucket, data, looked, there, done⟩
  · have full : TokenBucket.requested (t.buckets name) maxMilliTokens milliTokenRatio =
        { maxMilliTokens, milliTokenRatio, milliTokens := maxMilliTokens } := by
      rw [tracks.absent absent]
      rfl
    rw [full] at sound ⊢
    refine tracks.updated (updates_append tracks absent rfl _) sound ?_ tracks.results
    refine forall₂_handles tracks.handles ?_ ?_
    · intro other old found
      simp [List.lookup_append, found]
    · simp [List.lookup_append, absent]
  · obtain ⟨unreplaced, exactly⟩ := allowed bucket data looked there
    have within := (List.getElem?_eq_some_iff.mp there).1
    have acts : s.Acts name bucket :=
      ⟨bucket, looked, getReplacement_unreplaced there unreplaced (by omega)⟩
    obtain ⟨data', there', bucketed⟩ := tracks.bucket_of_acts acts
    obtain rfl := Option.mem_unique there there'
    have listed : List.Forall₂ (fun entry name => s.map.lookup name = some entry)
        (s.handles ++ [bucket]) (t.handles ++ [name]) :=
      forall₂_handles tracks.handles id looked
    rcases done with ⟨changed, rfl⟩ | ⟨⟨sameMax, sameRatio⟩, rfl⟩
    · have scaled : TokenBucket.requested (t.buckets name) maxMilliTokens milliTokenRatio =
          { maxMilliTokens
            milliTokenRatio
            milliTokens := data.scaledMilliTokens maxMilliTokens } := by
        rw [exactly changed, bucketed]
        refine if_neg ?_
        rintro ⟨sameMax, sameRatio⟩
        exact changed.elim (absurd sameMax) (absurd sameRatio)
      rw [scaled] at sound ⊢
      exact tracks.updated (updates_replace tracks looked there unreplaced rfl _) sound listed
        tracks.results
    · have same : TokenBucket.requested (t.buckets name) maxMilliTokens milliTokenRatio =
          data.tokenBucket := by
        rw [bucketed]
        exact if_pos ⟨sameMax, sameRatio⟩
      rw [same] at sound ⊢
      refine tracks.updated ⟨acts, there, ?_, fun _ => rfl, ?_⟩ sound listed tracks.results
      · intro other acts'
        exact tracks.apart acts' acts
      · intro other last old _ acts' found
        exact ⟨acts', found⟩

variable {handle : Nat}

theorem Tracks.acts_of_handle (tracks : s.Tracks t) {entry : Nat}
    (returned : s.handles[handle]? = some entry) (ends : s.current entry = some bucket) :
    ∃ name, t.handles[handle]? = some name ∧ s.Acts name bucket := by
  obtain ⟨bound, at_⟩ := List.getElem?_eq_some_iff.mp returned
  have within : handle < t.handles.length := tracks.handles.length_eq ▸ bound
  refine ⟨t.handles[handle], List.getElem?_eq_getElem within, entry, ?_, ends⟩
  rw [← at_]
  exact tracks.handles.get bound within

theorem Tracks.record (tracks : s.Tracks t) {delta : ServerRetryThrottleData → Int}
    {change : TokenBucket → TokenBucket}
    (same : ∀ data : ServerRetryThrottleData, data.tokenBucket.Sound →
      (data.clampedAdd (delta data)).tokenBucket = change data.tokenBucket)
    (sound : ∀ bucket : TokenBucket, bucket.Sound → (change bucket).Sound)
    (recorded : s.record handle delta = some (data, s')) :
    ∃ t', t.changed handle change = some (data.tokenBucket, t') ∧ s'.Tracks t' := by
  obtain ⟨entry, bucket, old, returned, ends, there, rfl, rfl⟩ := record_cases recorded
  obtain ⟨name, named, acts⟩ := tracks.acts_of_handle returned ends
  obtain ⟨data', there', bucketed⟩ := tracks.bucket_of_acts acts
  obtain rfl := Option.mem_unique there there'
  have before := tracks.sound bucketed
  have after : (old.clampedAdd (delta old)).tokenBucket.Sound := by
    rw [same old before]
    exact sound _ before
  have updates : s.Updates name bucket (old.clampedAdd (delta old)) _ :=
    updates_set tracks acts there rfl
  refine ⟨_, ?_, tracks.updated updates after tracks.handles tracks.results⟩
  simp only [Throttling.changed, named, bucketed, Option.bind_some, Option.map_some,
    ← same old before]

theorem Tracks.noted (tracks : s.Tracks t) (result : Bool) :
    ({ s with results := s.results ++ [result] } : ServerRetryThrottleMap).Tracks
      { t with results := t.results ++ [result] } where
  results := congrArg (· ++ [result]) tracks.results
  handles := tracks.handles
  absent := tracks.absent
  present := tracks.present
  apart := tracks.apart
  sound := tracks.sound

variable (data : ServerRetryThrottleData)

theorem clampedAdd_failed (sound : data.tokenBucket.Sound) :
    (data.clampedAdd (-1000)).tokenBucket = data.tokenBucket.failed := by
  have le := sound.le
  simp only [tokenBucket] at le
  simp only [tokenBucket, clampedAdd, TokenBucket.failed, clamp, TokenBucket.mk.injEq, true_and]
  omega

theorem clampedAdd_succeeded (sound : data.tokenBucket.Sound) :
    (data.clampedAdd data.milliTokenRatio).tokenBucket = data.tokenBucket.succeeded := by
  obtain ⟨_, ratio, nonneg, _⟩ := sound
  simp only [tokenBucket] at ratio nonneg
  simp only [tokenBucket, clampedAdd, TokenBucket.succeeded, clamp, TokenBucket.mk.injEq, true_and]
  omega

theorem Tracks.step (tracks : s.Tracks t) {action : ThrottleAction} (allowed : s.FirstChange action)
    (taken : s.step action = some s') : ∃ t', t.step action = some t' ∧ s'.Tracks t' := by
  cases action with
  | getDataForServer =>
    obtain ⟨⟨max, _, ratio, _⟩, requested⟩ := Option.ite_none_right_eq_some.mp taken
    exact tracks.getDataForServer max ratio allowed requested
  | recordFailure =>
    obtain ⟨data, u, recorded, rfl⟩ := recordFailure_cases taken
    obtain ⟨t', changed, after⟩ := tracks.record clampedAdd_failed (fun _ sound => sound.failed)
      recorded
    refine ⟨_, ?_, after.noted _⟩
    rw [Throttling.step, changed]
    rfl
  | recordSuccess =>
    obtain ⟨data, recorded⟩ := recordSuccess_cases taken
    obtain ⟨t', changed, after⟩ := tracks.record clampedAdd_succeeded
      (fun _ sound => sound.succeeded) recorded
    refine ⟨t', ?_, after⟩
    rw [Throttling.step, changed]
    rfl

/-- Every call that can be made in a state returns. -/
def Returns (s : ServerRetryThrottleMap) : ThrottleAction → Prop
  | .getDataForServer name maxMilliTokens milliTokenRatio =>
    (s.getDataForServer name maxMilliTokens milliTokenRatio).isSome
  | .recordFailure handle => handle < s.handles.length → (s.recordFailure handle).isSome
  | .recordSuccess handle => handle < s.handles.length → (s.recordSuccess handle).isSome

theorem Tracks.record_isSome (tracks : s.Tracks t) (returned : handle < s.handles.length)
    (delta : ServerRetryThrottleData → Int) : (s.record handle delta).isSome := by
  have within : handle < t.handles.length := tracks.handles.length_eq ▸ returned
  obtain ⟨entry, bucket, data, at_, ends, there, _⟩ :=
    tracks.represents.bucket (List.getElem?_eq_getElem within)
  simp [ServerRetryThrottleMap.record, at_, ends, there]

theorem Tracks.returns (tracks : s.Tracks t) (action : ThrottleAction) : s.Returns action := by
  cases action with
  | getDataForServer name =>
    simp only [Returns, ServerRetryThrottleMap.getDataForServer]
    cases looked : s.map.lookup name with
    | none => simp [found, emplace, looked, List.lookup_append]
    | some entry =>
      obtain ⟨bucket, data, ends, _, _⟩ := tracks.present looked
      cases there : s.buckets[entry]? with
      | none =>
        unfold current at ends
        cases fuel : s.buckets.length <;> simp [fuel, getReplacement, there] at ends
      | some =>
        simp only [there, Option.bind_some]
        split
        · simp [found, emplace, replace, looked]
        · simp [found, looked]
  | recordFailure =>
    intro returned
    simpa [recordFailure] using tracks.record_isSome returned fun _ => -1000
  | recordSuccess =>
    intro returned
    simpa [recordSuccess] using tracks.record_isSome returned (·.milliTokenRatio)

/-- While every name changes its parameters once at most, the map does what one bucket for
each name would do, and every call returns. -/
theorem represents_of_run {actions : List ThrottleAction}
    (run : Machine.Run step FirstChange {} actions s) :
    ∃ t, Machine.exec Throttling.step {} actions = some t ∧ s.Represents t ∧
      ∀ action, s.Returns action := by
  have initially : Tracks {} {} := by
    constructor
    · rfl
    · exact .nil
    · intro name absent
      rfl
    · intro name entry looked
      simp at looked
    · rintro name other bucket ⟨entry, looked, _⟩
      simp at looked
    · intro name bucket bucketed
      cases bucketed
  have simulated : ∀ {s s' : ServerRetryThrottleMap} {t : Throttling}
      {actions : List ThrottleAction}, s.Tracks t → Machine.Run step FirstChange s actions s' →
        ∃ t', Machine.exec Throttling.step t actions = some t' ∧ s'.Tracks t' := by
    intro s s' t actions tracks run
    induction run generalizing t with
    | nil => exact ⟨t, rfl, tracks⟩
    | cons allowed taken _ ih =>
      obtain ⟨next, taken', after⟩ := tracks.step allowed taken
      obtain ⟨t', rest, tracks'⟩ := ih after
      exact ⟨t', by simp [Machine.exec, taken', rest], tracks'⟩
  obtain ⟨t, done, tracks⟩ := simulated initially run
  exact ⟨t, done, tracks.represents, tracks.returns⟩

/-- A bucket with three of four tokens that grows, and is used through both handles. -/
theorem represents_of_run_change :
    ∃ s t, Machine.Run step FirstChange {} [.getDataForServer "a" 4000 1000, .recordFailure 0,
        .getDataForServer "a" 10000 3000, .recordFailure 0, .recordSuccess 1] s ∧
      s.Represents t ∧ t.buckets "a" = some ⟨10000, 3000, 9500⟩ := by
  have run : Machine.Run step FirstChange {} [.getDataForServer "a" 4000 1000, .recordFailure 0,
      .getDataForServer "a" 10000 3000, .recordFailure 0, .recordSuccess 1]
      { buckets := [⟨4000, 1000, 3000, some 1⟩, ⟨10000, 3000, 9500, none⟩]
        map := [("a", 0)]
        handles := [0, 0]
        results := [true, true] } :=
    Machine.run_of_exec (fun _ _ => of_decide_eq_true) (by decide)
  obtain ⟨t, done, represents, _⟩ := represents_of_run run
  refine ⟨_, t, run, represents, ?_⟩
  obtain rfl := Option.some.inj done
  decide

/-- A bucket is asked for once more with the parameters that it has, and is full again: its
level comes from the bucket before the change. -/
theorem tokens_lost_by_request :
    ¬ ∀ actions s, Machine.Reach step {} actions s →
      ∃ t, Machine.exec Throttling.step {} actions = some t ∧ s.Represents t := by
  intro always
  obtain ⟨s, reach, seen⟩ := Machine.exists_reach step {} [.getDataForServer "a" 4000 1000,
    .getDataForServer "a" 3000 1000, .recordFailure 0, .getDataForServer "a" 3000 1000,
    .recordFailure 0] ServerRetryThrottleMap.results [true, true] (by decide)
  obtain ⟨t, done, represents⟩ := always _ s reach
  have intended : t.results = [true, false] := by
    obtain rfl := Option.some.inj done
    decide
  have same := represents.results
  rw [seen, intended] at same
  cases same

end ServerRetryThrottleMap

end GrpcCore.ClientChannel
