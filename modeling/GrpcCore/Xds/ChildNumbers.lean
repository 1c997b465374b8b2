import GrpcCore.Xds.ClusterResolver

/-!
# Child numbers

A priority of the combined list takes over the child number of an old priority that held
its localities, unless the number has gone to an earlier priority.
-/

namespace GrpcCore.Xds

open OrderedMap

set_option linter.unusedSectionVars false

variable {Locality : Type} [LinearOrder Locality]

namespace Numbering

section Used

theorem firstUnused_of_mem {used : List Nat} {fuel start : Nat}
    (member : firstUnused used fuel start ∈ used) :
    ∀ number, start ≤ number → number ≤ start + fuel → number ∈ used := by
  induction fuel generalizing start with
  | zero =>
    intro number low high
    obtain rfl : number = start := le_antisymm high low
    exact member
  | succ fuel ih =>
    unfold firstUnused at member
    split at member
    · rename_i here
      intro number low high
      rcases Nat.eq_or_lt_of_le low with rfl | later
      · exact here
      · refine ih member number later ?_
        rwa [Nat.succ_add_eq_add_succ]
    · rename_i absent
      exact absurd member absent

theorem firstUnused_notMem (used : List Nat) : firstUnused used used.length 0 ∉ used := by
  intro member
  have all : List.range (used.length + 1) ⊆ used := by
    intro number listed
    rw [List.mem_range] at listed
    exact firstUnused_of_mem member number (Nat.zero_le _) (by rw [Nat.zero_add]; exact Nat.le_of_lt_succ listed)
  have bound := List.nodup_range.length_le_of_subset all
  rw [List.length_range] at bound
  exact absurd bound (Nat.not_succ_le_self _)

end Used

section Scan

theorem lookup_eraseAll (names : List Locality) (map : List (Locality × Nat)) (name : Locality) :
    (eraseAll names map).lookup name = if name ∈ names then none else map.lookup name := by
  induction names generalizing map with
  | nil => simp [eraseAll]
  | cons first rest ih =>
    have split : eraseAll (first :: rest) map = eraseAll rest (erase first map) := rfl
    rw [split, ih, lookup_erase]
    by_cases later : name ∈ rest
    · simp [later]
    · by_cases same : name = first
      · simp [same]
      · simp [later, same]

/-- The loop finds nothing, or the child number of one of the localities. Then it erases all
of them with those that used to be in the child number. -/
theorem scan_cases (children : Nat → List Locality) (names : List Locality)
    (map : List (Locality × Nat)) :
    ((scan children names map = (none, map)) ∧ ∀ name ∈ names, map.lookup name = none) ∨
      ∃ childNumber map', scan children names map = (some childNumber, map') ∧
        (∃ name ∈ names, map.lookup name = some childNumber) ∧
        ∀ name, map'.lookup name =
          if name ∈ names ∨ name ∈ children childNumber then none else map.lookup name := by
  induction names with
  | nil => exact .inl ⟨rfl, nofun⟩
  | cons first rest ih =>
    unfold scan
    cases found : map.lookup first with
    | some childNumber =>
      refine .inr ⟨childNumber, _, rfl, ⟨first, List.mem_cons_self, found⟩, ?_⟩
      intro name
      rw [lookup_eraseAll, lookup_eraseAll, lookup_erase]
      by_cases later : name ∈ rest
      · simp [later]
      · by_cases child : name ∈ children childNumber
        · simp [child]
        · by_cases same : name = first
          · simp [same]
          · simp [later, child, same]
    | none =>
      rcases ih with ⟨nothing, absent⟩ | ⟨childNumber, map', result, ⟨name, member, known⟩, after⟩
      · refine .inl ⟨nothing, ?_⟩
        intro name member
        rcases List.mem_cons.mp member with rfl | later
        · exact found
        · exact absent name later
      · refine .inr ⟨childNumber, map', result, ⟨name, List.mem_cons_of_mem _ member, known⟩, ?_⟩
        intro other
        rw [after other]
        by_cases same : other = first
        · simp [same, found]
        · simp [same]

end Scan

section Build

variable {numbering : Numbering Locality}

theorem lookup_insert (childNumber : Nat) (name other : Locality) :
    (insert childNumber numbering name).localityChildMap.lookup other =
      if other = name then some childNumber else numbering.localityChildMap.lookup other :=
  lookup_assign

theorem mem_children_insert (childNumber number : Nat) (name other : Locality) :
    other ∈ (insert childNumber numbering name).children number ↔
      number = childNumber ∧ other = name ∨ other ∈ numbering.children number := by
  unfold children insert
  rw [lookup_modify, lookup_touch, lookup_touch, if_pos rfl]
  by_cases same : number = childNumber
  · simp [same]
  · simp [same]

theorem lookup_insertAll (childNumber : Nat) (names : List Locality) (other : Locality) :
    (names.foldl (insert childNumber) numbering).localityChildMap.lookup other =
      if other ∈ names then some childNumber else numbering.localityChildMap.lookup other := by
  induction names generalizing numbering with
  | nil => simp
  | cons first rest ih =>
    rw [List.foldl_cons, ih, lookup_insert]
    by_cases later : other ∈ rest
    · simp [later]
    · simp [later]

theorem mem_children_insertAll (childNumber number : Nat) (names : List Locality)
    (other : Locality) :
    other ∈ (names.foldl (insert childNumber) numbering).children number ↔
      number = childNumber ∧ other ∈ names ∨ other ∈ numbering.children number := by
  induction names generalizing numbering with
  | nil => simp
  | cons first rest ih =>
    rw [List.foldl_cons, ih, mem_children_insert, List.mem_cons]
    tauto

/-- The locality is in a priority with the child number. -/
def Holds (priorities : List (Priority Locality × Nat)) (name : Locality) (childNumber : Nat) :
    Prop :=
  ∃ priority, (priority, childNumber) ∈ priorities ∧ name ∈ priority.localities

variable {childNumber : Nat}

theorem holds_cons {first : Priority Locality × Nat} {rest : List (Priority Locality × Nat)}
    {name : Locality} : Holds (first :: rest) name childNumber ↔
      childNumber = first.2 ∧ name ∈ first.1.localities ∨ Holds rest name childNumber := by
  obtain ⟨priority, number⟩ := first
  unfold Holds
  simp only [List.mem_cons, Prod.mk.injEq]
  constructor
  · rintro ⟨other, ⟨rfl, rfl⟩ | later, member⟩
    · exact .inl ⟨rfl, member⟩
    · exact .inr ⟨other, later, member⟩
  · rintro (⟨rfl, member⟩ | ⟨other, later, member⟩)
    · exact ⟨priority, .inl ⟨rfl, rfl⟩, member⟩
    · exact ⟨other, .inr later, member⟩

def add (numbering : Numbering Locality) (priority : Priority Locality × Nat) :
    Numbering Locality :=
  priority.1.localities.foldl (insert priority.2) numbering

theorem holds_of_lookup {priorities : List (Priority Locality × Nat)} {name : Locality}
    (found : (priorities.foldl add numbering).localityChildMap.lookup name = some childNumber) :
    Holds priorities name childNumber ∨
      numbering.localityChildMap.lookup name = some childNumber := by
  induction priorities generalizing numbering with
  | nil => exact .inr found
  | cons first rest ih =>
    rw [holds_cons]
    rcases ih found with later | here
    · exact .inl (.inr later)
    · rw [add, lookup_insertAll] at here
      split at here
      · rename_i member
        exact .inl (.inl ⟨(Option.some.inj here).symm, member⟩)
      · exact .inr here

theorem isSome_lookup {priorities : List (Priority Locality × Nat)} {name : Locality}
    (known : (∃ childNumber, Holds priorities name childNumber) ∨
      (numbering.localityChildMap.lookup name).isSome) :
    ((priorities.foldl add numbering).localityChildMap.lookup name).isSome := by
  induction priorities generalizing numbering with
  | nil =>
    rcases known with ⟨childNumber, priority, member, _⟩ | known
    · exact absurd member List.not_mem_nil
    · exact known
  | cons first rest ih =>
    refine ih ?_
    rw [add, lookup_insertAll]
    rcases known with ⟨childNumber, holds⟩ | known
    · rcases holds_cons.mp holds with ⟨_, member⟩ | later
      · exact .inr (by rw [if_pos member]; rfl)
      · exact .inl ⟨childNumber, later⟩
    · split
      · exact .inr rfl
      · exact .inr known

theorem mem_children {priorities : List (Priority Locality × Nat)} {name : Locality} :
    name ∈ (priorities.foldl add numbering).children childNumber ↔
      Holds priorities name childNumber ∨ name ∈ numbering.children childNumber := by
  induction priorities generalizing numbering with
  | nil => simp [Holds]
  | cons first rest ih =>
    rw [List.foldl_cons, ih, add, mem_children_insertAll, holds_cons]
    tauto

end Build

variable {priorities : List (Priority Locality × Nat)} {name : Locality} {childNumber : Nat}

theorem holds_of_lookup_build
    (found : (build priorities).localityChildMap.lookup name = some childNumber) :
    Holds priorities name childNumber :=
  (holds_of_lookup found).resolve_right nofun

theorem isSome_lookup_build (holds : Holds priorities name childNumber) :
    ((build priorities).localityChildMap.lookup name).isSome :=
  isSome_lookup (.inl ⟨childNumber, holds⟩)

theorem mem_children_build :
    name ∈ (build priorities).children childNumber ↔ Holds priorities name childNumber :=
  mem_children.trans (or_iff_left List.not_mem_nil)

/-- What the maps are after some priorities of the new list have got their numbers. -/
structure Progress (start : Numbering Locality) (done : List (Priority Locality))
    (given : List Nat) (numbering : Numbering Locality) : Prop where
  old : ∀ name childNumber, numbering.localityChildMap.lookup name = some childNumber →
    start.localityChildMap.lookup name = some childNumber
  erased : ∀ name, (start.localityChildMap.lookup name).isSome →
    numbering.localityChildMap.lookup name = none →
      (∃ priority ∈ done, name ∈ priority.localities) ∨
        ∃ childNumber ∈ given, name ∈ start.children childNumber
  children : ∀ childNumber, numbering.children childNumber = start.children childNumber
  used : ∀ childNumber ∈ given, childNumber ∈ numbering.childLocalityMap.map Prod.fst
  keys : ∀ childNumber ∈ start.childLocalityMap.map Prod.fst,
    childNumber ∈ numbering.childLocalityMap.map Prod.fst
  spent : ∀ childNumber ∈ given, ∀ name,
    numbering.localityChildMap.lookup name ≠ some childNumber
  distinct : given.Nodup

/-- Every locality of the first map used to be in the child number it is found with. -/
def Sound (start : Numbering Locality) : Prop :=
  ∀ name childNumber, start.localityChildMap.lookup name = some childNumber →
    name ∈ start.children childNumber

theorem sound_build : Sound (build priorities) := fun _ _ found =>
  mem_children_build.mpr (holds_of_lookup_build found)

variable {start numbering : Numbering Locality} {done : List (Priority Locality)}
variable {given : List Nat}

theorem mem_keys_of_mem_children (member : name ∈ numbering.children childNumber) :
    childNumber ∈ numbering.childLocalityMap.map Prod.fst := by
  rw [← isSome_lookup_iff]
  by_contra absent
  rw [children, Option.not_isSome_iff_eq_none.mp absent] at member
  exact absurd member List.not_mem_nil

theorem mem_keys_touch (number : Nat) :
    number ∈ (touch childNumber [] numbering.childLocalityMap).map Prod.fst ↔
      number = childNumber ∨ number ∈ numbering.childLocalityMap.map Prod.fst := by
  rw [← isSome_lookup_iff, ← isSome_lookup_iff, lookup_touch]
  by_cases same : number = childNumber
  · simp [same]
  · simp [same]

theorem progress_start : Progress start [] [] start where
  old := fun _ _ found => found
  erased := by
    intro name known absent
    rw [absent] at known
    exact absurd known nofun
  children := fun _ => rfl
  used := nofun
  keys := fun _ member => member
  spent := nofun
  distinct := List.nodup_nil

theorem Progress.found (progress : Progress start done given numbering) (sound : Sound start)
    (found : numbering.localityChildMap.lookup name = some childNumber) :
    childNumber ∉ given ∧ childNumber ∈ numbering.childLocalityMap.map Prod.fst := by
  constructor
  · exact fun member => progress.spent childNumber member name found
  · exact progress.keys _ (mem_keys_of_mem_children (sound _ _ (progress.old _ _ found)))

variable {priority : Priority Locality}

section

variable (progress : Progress start done given numbering) (sound : Sound start)
include progress sound

theorem Progress.takeOver {map : List (Locality × Nat)} (found : ∃ name ∈ priority.localities,
      numbering.localityChildMap.lookup name = some childNumber) (after : ∀ name, map.lookup name =
      if name ∈ priority.localities ∨ name ∈ numbering.children childNumber then none
      else numbering.localityChildMap.lookup name) :
    Progress start (done ++ [priority]) (given ++ [childNumber])
      { numbering with localityChildMap := map } := by
  obtain ⟨name, member, known⟩ := found
  obtain ⟨fresh, key⟩ := progress.found sound known
  have kept {name : Locality} {number : Nat} (found : map.lookup name = some number) :
      name ∉ numbering.children childNumber ∧
        numbering.localityChildMap.lookup name = some number := by
    rw [after] at found
    split at found
    · exact absurd found nofun
    · rename_i stays
      exact ⟨fun child => stays (.inr child), found⟩
  refine
    { old := fun name number found => progress.old name number (kept found).2
      erased := ?_
      children := progress.children
      used := ?_
      keys := progress.keys
      spent := ?_
      distinct := progress.distinct.append (List.nodup_singleton _) (List.disjoint_singleton.mpr fresh) }
  · intro other started gone
    rw [after] at gone
    split at gone
    · rename_i taken
      rcases taken with listed | child
      · exact .inl ⟨priority, by simp, listed⟩
      · exact .inr ⟨childNumber, by simp, progress.children childNumber ▸ child⟩
    · rcases progress.erased other started gone with ⟨earlier, before, listed⟩ | ⟨number, before, child⟩
      · exact .inl ⟨earlier, List.mem_append_left _ before, listed⟩
      · exact .inr ⟨number, List.mem_append_left _ before, child⟩
  · intro number member
    rcases List.mem_append.mp member with before | single
    · exact progress.used number before
    · exact List.mem_singleton.mp single ▸ key
  · intro number member other found
    obtain ⟨notChild, found⟩ := kept found
    rcases List.mem_append.mp member with before | single
    · exact progress.spent number before other found
    · rw [List.mem_singleton.mp single] at found
      have child := sound _ _ (progress.old _ _ found)
      exact notChild (progress.children childNumber ▸ child)

theorem Progress.number (priority : Priority Locality)
    (fresh : childNumber ∉ numbering.childLocalityMap.map Prod.fst) :
    Progress start (done ++ [priority]) (given ++ [childNumber])
      { numbering with
        childLocalityMap := touch childNumber [] numbering.childLocalityMap } where
  old := progress.old
  erased := by
    intro name started gone
    rcases progress.erased name started gone with ⟨earlier, before, listed⟩ | ⟨number, before, child⟩
    · exact .inl ⟨earlier, List.mem_append_left _ before, listed⟩
    · exact .inr ⟨number, List.mem_append_left _ before, child⟩
  children := by
    intro number
    rw [← progress.children number]
    unfold Numbering.children
    rw [lookup_touch]
    split
    · rename_i same
      subst same
      rfl
    · rfl
  used := by
    intro number member
    refine (mem_keys_touch number).mpr ?_
    rcases List.mem_append.mp member with before | single
    · exact .inr (progress.used number before)
    · exact .inl (List.mem_singleton.mp single)
  keys number member := (mem_keys_touch number).mpr (.inr (progress.keys number member))
  spent := by
    intro number member name found
    rcases List.mem_append.mp member with before | single
    · exact progress.spent number before name found
    · have known := (progress.found sound found).2
      exact fresh (List.mem_singleton.mp single ▸ known)
  distinct :=
    progress.distinct.append (List.nodup_singleton _) <| List.disjoint_singleton.mpr
      fun member => fresh (progress.used _ member)

theorem Progress.assign (priority : Priority Locality) :
    Progress start (done ++ [priority]) (given ++ [(numbering.assign priority).1])
      (numbering.assign priority).2 := by
  unfold Numbering.assign
  rcases scan_cases numbering.children priority.localities numbering.localityChildMap with
    ⟨nothing, _⟩ | ⟨number, map, result, found, after⟩
  · rw [nothing]
    exact progress.number sound priority (firstUnused_notMem _)
  · rw [result]
    exact progress.takeOver sound found after

end

theorem assign_found (member : name ∈ priority.localities)
    (known : (numbering.localityChildMap.lookup name).isSome) :
    ∃ other ∈ priority.localities,
      numbering.localityChildMap.lookup other = some (numbering.assign priority).1 := by
  unfold Numbering.assign
  rcases scan_cases numbering.children priority.localities numbering.localityChildMap with
    ⟨_, absent⟩ | ⟨number, map, result, found, _⟩
  · rw [absent name member] at known
    exact absurd known nofun
  · rw [result]
    exact found

theorem assignAll_split (progress : Progress start done given numbering) (sound : Sound start)
    (before : List (Priority Locality)) (priority : Priority Locality)
    (after : List (Priority Locality)) :
    ∃ numbers numbering', Progress start (done ++ before) (given ++ numbers) numbering' ∧
      numbers.length = before.length ∧
      numbering.assignAll (before ++ priority :: after) =
        numbers ++ (numbering'.assign priority).1 :: (numbering'.assign priority).2.assignAll after := by
  induction before generalizing done given numbering with
  | nil => exact ⟨[], numbering, by simpa using progress, rfl, rfl⟩
  | cons first rest ih =>
    obtain ⟨numbers, numbering', later, length, split⟩ := ih (progress.assign sound first)
    refine ⟨(numbering.assign first).1 :: numbers, numbering', ?_, ?_, ?_⟩
    · simpa using later
    · rw [List.length_cons, List.length_cons, length]
    · rw [List.cons_append, assignAll, split, List.cons_append]

theorem nodup_assignAll (progress : Progress start done given numbering) (sound : Sound start)
    (list : List (Priority Locality)) : (given ++ numbering.assignAll list).Nodup := by
  induction list generalizing done given numbering with
  | nil => simpa [assignAll] using progress.distinct
  | cons first rest ih => simpa [assignAll] using ih (progress.assign sound first)

theorem length_assignAll (numbering : Numbering Locality) (list : List (Priority Locality)) :
    (numbering.assignAll list).length = list.length := by
  induction list generalizing numbering with
  | nil => rfl
  | cons first rest ih => rw [assignAll, List.length_cons, List.length_cons, ih]

end Numbering

namespace ClusterResolver

structure Numbered (resolver : ClusterResolver Locality) : Prop where
  length : resolver.priorityChildNumbers.length = resolver.priorityList.length
  distinct : resolver.priorityChildNumbers.Nodup

/-- The priority of the new list holds a locality that no earlier priority of the new list
holds, and every locality it holds that has been in the old list was in this one priority. -/
def ComesFrom (old new : List (Priority Locality)) (position oldPosition : Nat) : Prop :=
  ∃ priority, new[position]? = some priority ∧
    (∀ name ∈ priority.localities, ∀ other (held : Priority Locality), old[other]? = some held →
      name ∈ held.localities → other = oldPosition) ∧
    ∃ name ∈ priority.localities,
      (∃ held : Priority Locality, old[oldPosition]? = some held ∧ name ∈ held.localities) ∧
      ∀ earlier ∈ new.take position, name ∉ earlier.localities

variable {resolver : ClusterResolver Locality} {priorityList : List (Priority Locality)}

theorem numbered_updatePriorityList (resolver : ClusterResolver Locality)
    (priorityList : List (Priority Locality)) :
    (resolver.updatePriorityList priorityList).Numbered where
  length := Numbering.length_assignAll _ _
  distinct := Numbering.nodup_assignAll Numbering.progress_start Numbering.sound_build priorityList

theorem holds_iff {name : Locality} {childNumber : Nat} :
    Numbering.Holds (resolver.priorityList.zip resolver.priorityChildNumbers) name childNumber ↔
      ∃ position : Nat, resolver.priorityChildNumbers[position]? = some childNumber ∧
        ∃ held : Priority Locality, resolver.priorityList[position]? = some held ∧
          name ∈ held.localities := by
  constructor
  · rintro ⟨held, member, listed⟩
    obtain ⟨position, found⟩ := List.mem_iff_getElem?.mp member
    obtain ⟨atPriority, atNumber⟩ := List.getElem?_zip_eq_some.mp found
    exact ⟨position, atNumber, held, atPriority, listed⟩
  · rintro ⟨position, atNumber, held, atPriority, listed⟩
    refine ⟨held, List.mem_iff_getElem?.mpr ⟨position, ?_⟩, listed⟩
    exact List.getElem?_zip_eq_some.mpr ⟨atPriority, atNumber⟩

variable {position oldPosition : Nat}

/-- A priority that comes from one old priority keeps the number of that priority, unless the
number has gone to an earlier priority of the new list. -/
theorem kept_of_comesFrom (numbered : resolver.Numbered)
    (comes : ComesFrom resolver.priorityList priorityList position oldPosition) :
    ∃ childNumber, resolver.priorityChildNumbers[oldPosition]? = some childNumber ∧
      ((resolver.updatePriorityList priorityList).priorityChildNumbers[position]? =
          some childNumber ∨
        childNumber ∈
          (resolver.updatePriorityList priorityList).priorityChildNumbers.take position) := by
  obtain ⟨priority, atNew, only, name, member, ⟨held, atOld, listed⟩, firstTime⟩ := comes
  obtain ⟨newBound, rfl⟩ := List.getElem?_eq_some_iff.mp atNew
  have oldBound : oldPosition < resolver.priorityChildNumbers.length :=
    numbered.length ▸ (List.getElem?_eq_some_iff.mp atOld).1
  have atNumber := List.getElem?_eq_getElem oldBound
  refine ⟨_, atNumber, ?_⟩
  generalize resolver.priorityChildNumbers[oldPosition] = childNumber at atNumber
  let start := Numbering.build (resolver.priorityList.zip resolver.priorityChildNumbers)
  obtain ⟨numbers, numbering, progress, length, split⟩ :=
    Numbering.assignAll_split (Numbering.progress_start : Numbering.Progress start [] [] start)
      Numbering.sound_build (priorityList.take position) priorityList[position]
      (priorityList.drop (position + 1))
  rw [← List.drop_eq_getElem_cons newBound, List.take_append_drop] at split
  rw [List.length_take_of_le (Nat.le_of_lt newBound)] at length
  have result : (resolver.updatePriorityList priorityList).priorityChildNumbers =
      numbers ++ (numbering.assign priorityList[position]).1 ::
        (numbering.assign priorityList[position]).2.assignAll (priorityList.drop (position + 1)) :=
    split
  rw [result, List.take_left' length, List.getElem?_append_right (le_of_eq length), length,
    Nat.sub_self, List.getElem?_cons_zero]
  -- Old localities of the priority are only held under this number.
  have under {other : Locality} (inNew : other ∈ priorityList[position].localities)
      {number : Nat} (holds : Numbering.Holds
        (resolver.priorityList.zip resolver.priorityChildNumbers) other number) :
      number = childNumber := by
    obtain ⟨oldPosition', atNumber', held', atOld', listed'⟩ := holds_iff.mp holds
    obtain rfl := only other inNew oldPosition' held' atOld' listed'
    exact Option.mem_unique atNumber' atNumber
  by_cases gone : childNumber ∈ numbers
  · exact .inr gone
  · have holds := holds_iff.mpr ⟨oldPosition, atNumber, held, atOld, listed⟩
    have known : (numbering.localityChildMap.lookup name).isSome := by
      by_contra absent
      rcases progress.erased name (Numbering.isSome_lookup_build holds)
          (Option.not_isSome_iff_eq_none.mp absent) with
        ⟨earlier, before, again⟩ | ⟨number, taken, child⟩
      · exact firstTime earlier before again
      · exact gone (under member (Numbering.mem_children_build.mp child) ▸ taken)
    obtain ⟨other, inNew, found⟩ := Numbering.assign_found member known
    have number := under inNew (Numbering.holds_of_lookup_build (progress.old _ _ found))
    exact .inl (congrArg some number)

/-- Every priority has the localities that it had at the same position. -/
def Unchanged (old new : List (Priority Locality)) : Prop :=
  new.length = old.length ∧ ∀ (position : Nat) (before after : Priority Locality),
    old[position]? = some before → new[position]? = some after →
      ∀ name, name ∈ after.localities ↔ name ∈ before.localities

structure Apart (list : List (Priority Locality)) : Prop where
  inhabited : ∀ priority ∈ list, ∃ name, name ∈ priority.localities
  disjoint : ∀ (position other : Nat) (priority held : Priority Locality),
    list[position]? = some priority → list[other]? = some held →
      ∀ name ∈ priority.localities, name ∈ held.localities → other = position

theorem comesFrom_self (apart : Apart resolver.priorityList)
    (unchanged : Unchanged resolver.priorityList priorityList)
    (bound : position < priorityList.length) :
    ComesFrom resolver.priorityList priorityList position position := by
  obtain ⟨length, same⟩ := unchanged
  have oldBound : position < resolver.priorityList.length := length ▸ bound
  have atNew := List.getElem?_eq_getElem bound
  have atOld := List.getElem?_eq_getElem oldBound
  obtain ⟨name, member⟩ := apart.inhabited _ (List.getElem_mem oldBound)
  refine ⟨_, atNew, ?_, name, (same position _ _ atOld atNew name).mpr member, ⟨_, atOld, member⟩, ?_⟩
  · intro other listed oldPosition held atHeld again
    exact apart.disjoint position oldPosition _ held atOld atHeld other
      ((same position _ _ atOld atNew other).mp listed) again
  · intro earlier before again
    obtain ⟨index, at'⟩ := List.mem_iff_getElem?.mp before
    rw [List.getElem?_take] at at'
    obtain ⟨lower, atEarlier⟩ := Option.ite_none_right_eq_some.mp at'
    have indexBound : index < resolver.priorityList.length := lt_trans lower oldBound
    have atHeld := List.getElem?_eq_getElem indexBound
    have listed := (same index _ _ atHeld atEarlier name).mp again
    exact absurd (apart.disjoint position index _ _ atOld atHeld name member listed)
      (Nat.ne_of_lt lower)

theorem numbers_unchanged (numbered : resolver.Numbered) (apart : Apart resolver.priorityList)
    (unchanged : Unchanged resolver.priorityList priorityList) :
    (resolver.updatePriorityList priorityList).priorityChildNumbers =
      resolver.priorityChildNumbers := by
  have length : (resolver.updatePriorityList priorityList).priorityChildNumbers.length =
      priorityList.length := Numbering.length_assignAll _ _
  have same : ∀ position : Nat,
      (resolver.updatePriorityList priorityList).priorityChildNumbers[position]? =
      resolver.priorityChildNumbers[position]? := by
    intro position
    induction position using Nat.strongRecOn with
    | ind position ih =>
      by_cases bound : position < priorityList.length
      · obtain ⟨childNumber, atOld, kept | taken⟩ :=
          kept_of_comesFrom numbered (comesFrom_self apart unchanged bound)
        · exact kept.trans atOld.symm
        · obtain ⟨index, at'⟩ := List.mem_iff_getElem?.mp taken
          rw [List.getElem?_take] at at'
          obtain ⟨lower, atEarlier⟩ := Option.ite_none_right_eq_some.mp at'
          have again := (ih index lower).symm.trans atEarlier
          have indexBound := (List.getElem?_eq_some_iff.mp again).1
          have equal := (List.getElem?_inj indexBound numbered.distinct).mp (again.trans atOld.symm)
          exact absurd equal (Nat.ne_of_lt lower)
      · have beyond := Nat.le_of_not_lt bound
        rw [List.getElem?_eq_none (length ▸ beyond), List.getElem?_eq_none]
        rw [numbered.length, ← unchanged.1]
        exact beyond
  exact List.ext_getElem? same

/-- What an update keeps of the numbers. -/
structure KeepsNumbers (before after : ClusterResolver Locality) : Prop where
  kept : ∀ position oldPosition,
    ComesFrom before.priorityList after.priorityList position oldPosition →
      ∃ childNumber, before.priorityChildNumbers[oldPosition]? = some childNumber ∧
        (after.priorityChildNumbers[position]? = some childNumber ∨
          childNumber ∈ after.priorityChildNumbers.take position)
  unchanged : Apart before.priorityList → Unchanged before.priorityList after.priorityList →
    after.priorityChildNumbers = before.priorityChildNumbers

variable {after : ClusterResolver Locality} {action : ResolverAction Locality}

theorem step_cases (taken : resolver.step action = some after) :
    after.priorityList = resolver.priorityList ∧
        after.priorityChildNumbers = resolver.priorityChildNumbers ∨
      ∃ priorityList, after.priorityList = priorityList ∧ after.priorityChildNumbers =
        (resolver.updatePriorityList priorityList).priorityChildNumbers := by
  have changed (index : Nat) (priorities : List (Priority Locality)) :
      (resolver.onEndpointChanged index priorities).priorityList = resolver.priorityList ∧
          (resolver.onEndpointChanged index priorities).priorityChildNumbers =
            resolver.priorityChildNumbers ∨
        ∃ priorityList, (resolver.onEndpointChanged index priorities).priorityList = priorityList ∧
          (resolver.onEndpointChanged index priorities).priorityChildNumbers =
            (resolver.updatePriorityList priorityList).priorityChildNumbers := by
    unfold onEndpointChanged
    split
    · exact .inl ⟨rfl, rfl⟩
    · dsimp only
      split
      · exact .inr ⟨_, rfl, rfl⟩
      · exact .inl ⟨rfl, rfl⟩
  cases action with
  | endpointChanged index priorities =>
    obtain ⟨_, taken⟩ := Option.ite_none_right_eq_some.mp taken
    exact Option.some.inj taken ▸ changed index priorities
  | error index =>
    obtain ⟨_, rfl⟩ := Option.ite_some_none_eq_some.mp taken
    unfold onError
    split
    · exact .inl ⟨rfl, rfl⟩
    · split
      · split
        · exact .inl ⟨rfl, rfl⟩
        · exact changed index []
      · exact .inl ⟨rfl, rfl⟩
  | resourceDoesNotExist index =>
    obtain ⟨_, rfl⟩ := Option.ite_some_none_eq_some.mp taken
    unfold onResourceDoesNotExist
    split
    · exact .inl ⟨rfl, rfl⟩
    · exact changed index []
  | shutdown =>
    obtain rfl := Option.some.inj taken
    exact .inl ⟨rfl, rfl⟩

theorem Numbered.step (numbered : resolver.Numbered) (taken : resolver.step action = some after) :
    after.Numbered := by
  rcases step_cases taken with ⟨list, numbers⟩ | ⟨priorityList, list, numbers⟩
  · exact ⟨by rw [list, numbers, numbered.length], numbers ▸ numbered.distinct⟩
  · have updated := numbered_updatePriorityList resolver priorityList
    exact ⟨by rw [list, numbers, updated.length]; rfl, numbers ▸ updated.distinct⟩

theorem position_of_comesFrom {list : List (Priority Locality)}
    (comes : ComesFrom list list position oldPosition) : position = oldPosition := by
  obtain ⟨priority, found, only, name, member, _⟩ := comes
  exact only name member position priority found member

theorem Numbered.keepsNumbers (numbered : resolver.Numbered)
    (taken : resolver.step action = some after) : KeepsNumbers resolver after := by
  rcases step_cases taken with ⟨list, numbers⟩ | ⟨priorityList, list, numbers⟩
  · refine ⟨?_, fun _ _ => numbers⟩
    intro position oldPosition comes
    rw [list] at comes
    obtain rfl := position_of_comesFrom comes
    have bound : position < resolver.priorityChildNumbers.length := by
      obtain ⟨priority, found, _⟩ := comes
      exact numbered.length ▸ (List.getElem?_eq_some_iff.mp found).1
    refine ⟨_, List.getElem?_eq_getElem bound, .inl ?_⟩
    rw [numbers]
    exact List.getElem?_eq_getElem bound
  · refine ⟨?_, ?_⟩
    · intro position oldPosition comes
      rw [list] at comes
      rw [numbers]
      exact kept_of_comesFrom numbered comes
    · intro apart unchanged
      rw [numbers]
      exact numbers_unchanged numbered apart (list ▸ unchanged)

theorem numbered_initial (mechanisms : Nat) :
    (initial mechanisms : ClusterResolver Locality).Numbered :=
  ⟨rfl, List.nodup_nil⟩

/-- Priorities keep their numbers if nothing changes, and a priority whose old localities were
all in one old priority keeps its number. -/
structure KeepsIdentity (before after : ClusterResolver Locality) : Prop where
  unchanged : Unchanged before.priorityList after.priorityList →
    after.priorityChildNumbers = before.priorityChildNumbers
  kept : ∀ (position oldPosition : Nat) (priority : Priority Locality),
    after.priorityList[position]? = some priority →
      (∃ held : Priority Locality, before.priorityList[oldPosition]? = some held ∧
        ∃ name ∈ priority.localities, name ∈ held.localities) →
      (∀ name ∈ priority.localities, ∀ (other : Nat) (held : Priority Locality),
        before.priorityList[other]? = some held → name ∈ held.localities →
          other = oldPosition) →
      after.priorityChildNumbers[position]? = before.priorityChildNumbers[oldPosition]?

end ClusterResolver

end GrpcCore.Xds
