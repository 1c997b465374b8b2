import GrpcCore.Lib.OrderedMap

/-!
# Parsing of endpoint assignments

`EdsResourceParse` with the parsers of localities, endpoints and drop categories. The texts of a
locality are of an ordered type.
-/

namespace GrpcCore.Xds.Eds

variable {Text Address : Type}

structure LbEndpoint where
  healthStatus : Int
  address : String
  portValue : UInt32
  loadBalancingWeight : Option UInt32

structure Locality (Text : Type) where
  region : Text
  zone : Text
  subZone : Text

structure LocalityLbEndpoints (Text : Type) where
  loadBalancingWeight : Option UInt32
  locality : Option (Locality Text)
  lbEndpoints : List LbEndpoint
  priority : Nat

/-- `DropOverload`, with its drop percentage. -/
structure DropOverload where
  category : String
  numerator : UInt32
  denominator : Int

structure ClusterLoadAssignment (Text : Type) where
  endpoints : List (LocalityLbEndpoints Text)
  policy : Option (List DropOverload)

structure ServerAddress (Address : Type) where
  address : Address
  weight : UInt32

/-- `XdsLocalityName`, in the order of `Compare`. -/
def XdsLocalityName (Text : Type) := Text ×ₗ Text ×ₗ Text

instance [LinearOrder Text] : LinearOrder (XdsLocalityName Text) :=
  inferInstanceAs (LinearOrder (Text ×ₗ Text ×ₗ Text))

def XdsLocalityName.new (region zone subZone : Text) : XdsLocalityName Text :=
  toLex (region, toLex (zone, subZone))

structure UpdateLocality (Text Address : Type) where
  name : XdsLocalityName Text
  lbWeight : UInt32
  endpoints : List (ServerAddress Address)

/-- `EdsUpdate::Priority`, by its localities. -/
abbrev Priority (Text Address : Type) :=
  List (XdsLocalityName Text × UpdateLocality Text Address)

structure EdsUpdate (Text Address : Type) where
  priorities : List (Priority Text Address)
  dropConfig : List (String × UInt32)

/-- The endpoint is healthy, or its health is unknown. -/
def LbEndpoint.usable (endpoint : LbEndpoint) : Bool :=
  endpoint.healthStatus = 0 || endpoint.healthStatus = 1

section Parse

variable (stringToSockaddr : String → UInt32 → Except String Address)

def serverAddressParseAndAppend (list : List (ServerAddress Address)) (endpoint : LbEndpoint) :
    Except String (List (ServerAddress Address)) :=
  if !endpoint.usable then .ok list
  else if endpoint.portValue >>> 16 ≠ 0 then .error "Invalid port."
  else
    let weight := endpoint.loadBalancingWeight.getD 500
    if weight = 0 then .error "Invalid endpoint weight of 0."
    else
      match stringToSockaddr endpoint.address endpoint.portValue with
      | .error error => .error error
      | .ok address => .ok (list ++ [⟨address, weight⟩])

/-- The loop over the endpoints of a locality. -/
def appendEndpoints : List (ServerAddress Address) → List LbEndpoint →
    Except String (List (ServerAddress Address))
  | list, [] => .ok list
  | list, endpoint :: endpoints =>
    match serverAddressParseAndAppend stringToSockaddr list endpoint with
    | .error error => .error error
    | .ok list => appendEndpoints list endpoints

def LocalityLbEndpoints.weight (endpoints : LocalityLbEndpoints Text) : UInt32 :=
  endpoints.loadBalancingWeight.getD 0

/-- `LocalityParse`; nothing for a locality of weight zero. The zone is read as the region. -/
def localityParse (endpoints : LocalityLbEndpoints Text) :
    Except String (Option (UpdateLocality Text Address)) :=
  if endpoints.weight = 0 then .ok none
  else
    match endpoints.locality with
    | none => .error "Empty locality."
    | some locality =>
      let region := locality.region
      let zone := locality.region
      match appendEndpoints stringToSockaddr [] endpoints.lbEndpoints with
      | .error error => .error error
      | .ok list => .ok (some ⟨.new region zone locality.subZone, endpoints.weight, list⟩)

structure ParseError where
  message : String
  child : Option String
deriving DecidableEq

variable [LinearOrder Text]

/-- The locality at its priority, where the list is made long enough. -/
def addLocality (priorities : List (Priority Text Address)) (priority : Nat)
    (locality : UpdateLocality Text Address) : List (Priority Text Address) :=
  (priorities ++ List.replicate (priority + 1 - priorities.length) []).modify priority
    (OrderedMap.emplace locality.name locality)

/-- The loop over the localities. -/
def addLocalities : List (Priority Text Address) → List ParseError →
    List (LocalityLbEndpoints Text) → List (Priority Text Address) × List ParseError
  | priorities, errors, [] => (priorities, errors)
  | priorities, errors, endpoints :: rest =>
    match localityParse stringToSockaddr endpoints with
    | .error error => addLocalities priorities (errors ++ [⟨error, none⟩]) rest
    | .ok none => addLocalities priorities errors rest
    | .ok (some locality) =>
      addLocalities (addLocality priorities endpoints.priority locality) errors rest

def dropParse (drop : DropOverload) : Except String (String × UInt32) :=
  if drop.category = "" then .error "Empty drop category name"
  else
    match drop.denominator with
    | 0 => .ok (drop.category, min (drop.numerator * 10000) 1000000)
    | 1 => .ok (drop.category, min (drop.numerator * 100) 1000000)
    | 2 => .ok (drop.category, min drop.numerator 1000000)
    | _ => .error "Unknown denominator type"

/-- The loop over the drop categories. -/
def addDrops : List (String × UInt32) → List ParseError → List DropOverload →
    List (String × UInt32) × List ParseError
  | drops, errors, [] => (drops, errors)
  | drops, errors, drop :: rest =>
    match dropParse drop with
    | .error error =>
      addDrops drops (errors ++ [⟨"drop config validation error", some error⟩]) rest
    | .ok category => addDrops (drops ++ [category]) errors rest

def edsResourceParse (assignment : ClusterLoadAssignment Text) :
    Except (List ParseError) (EdsUpdate Text Address) :=
  let (priorities, errors) := addLocalities stringToSockaddr [] [] assignment.endpoints
  let sparse := (priorities.filter List.isEmpty).map fun _ => ⟨"sparse priority list", none⟩
  let (dropConfig, errors) := addDrops [] (errors ++ sparse) (assignment.policy.getD [])
  if errors = [] then .ok ⟨priorities, dropConfig⟩ else .error errors

end Parse

def DropOverload.scale (drop : DropOverload) : Nat :=
  if drop.denominator = 0 then 10000 else if drop.denominator = 1 then 100 else 1

def Locality.name (locality : Locality Text) : XdsLocalityName Text :=
  .new locality.region locality.zone locality.subZone

/-- The name that `LocalityParse` gives. -/
def Locality.parsedName (locality : Locality Text) : XdsLocalityName Text :=
  .new locality.region locality.region locality.subZone

/-- The address of an endpoint, with its weight. -/
def Resolves (stringToSockaddr : String → UInt32 → Except String Address) (endpoint : LbEndpoint)
    (address : ServerAddress Address) : Prop :=
  stringToSockaddr endpoint.address endpoint.portValue = .ok address.address ∧
    address.weight = endpoint.loadBalancingWeight.getD 500

/-- A locality with a weight is in the update under its own name at its own priority. -/
def Appears [LinearOrder Text] (stringToSockaddr : String → UInt32 → Except String Address)
    (priorities : List (Priority Text Address)) (endpoints : LocalityLbEndpoints Text) : Prop :=
  ∃ locality ∈ endpoints.locality, ∃ found,
    (priorities.getD endpoints.priority []).lookup locality.name = some found ∧
      found.name = locality.name ∧ found.lbWeight = endpoints.weight ∧
      List.Forall₂ (Resolves stringToSockaddr) (endpoints.lbEndpoints.filter LbEndpoint.usable)
        found.endpoints

/-- Nothing of the assignment is lost. -/
structure NoneLost [LinearOrder Text]
    (stringToSockaddr : String → UInt32 → Except String Address)
    (assignment : ClusterLoadAssignment Text) (update : EdsUpdate Text Address) : Prop where
  localities : ∀ endpoints ∈ assignment.endpoints, endpoints.weight ≠ 0 →
    Appears stringToSockaddr update.priorities endpoints
  filled : ∀ priority ∈ update.priorities, priority ≠ []
  drops : update.dropConfig.map (fun drop => (drop.1, drop.2.toNat)) =
    (assignment.policy.getD []).map fun drop =>
      (drop.category, min 1000000 (drop.numerator.toNat * drop.scale))

/-- Zones are named like their regions, and no scaled numerator wraps below a million. -/
def Undamaged (assignment : ClusterLoadAssignment Text) : Prop :=
  (∀ endpoints ∈ assignment.endpoints, endpoints.weight ≠ 0 →
    ∀ locality ∈ endpoints.locality, locality.zone = locality.region) ∧
  ∀ drop ∈ assignment.policy.getD [], drop.numerator.toNat * drop.scale < 2 ^ 32 ∨
    1000000 ≤ drop.numerator.toNat * drop.scale % 2 ^ 32

section Localities

variable {stringToSockaddr : String → UInt32 → Except String Address}

theorem appendEndpoints_ok {endpoints : List LbEndpoint} {list list' : List (ServerAddress Address)}
    (parsed : appendEndpoints stringToSockaddr list endpoints = .ok list') :
    ∃ addresses, list' = list ++ addresses ∧ List.Forall₂ (Resolves stringToSockaddr)
      (endpoints.filter LbEndpoint.usable) addresses := by
  induction endpoints generalizing list with
  | nil =>
    cases parsed
    exact ⟨[], (List.append_nil _).symm, .nil⟩
  | cons endpoint endpoints ih =>
    unfold appendEndpoints serverAddressParseAndAppend at parsed
    by_cases usable : endpoint.usable = true
    · rw [List.filter_cons_of_pos usable]
      simp only [usable, Bool.not_true, Bool.false_eq_true, if_false] at parsed
      split_ifs at parsed
      cases resolved : stringToSockaddr endpoint.address endpoint.portValue with
      | error => simp [resolved] at parsed
      | ok =>
        simp only [resolved] at parsed
        obtain ⟨addresses, rfl, all⟩ := ih parsed
        exact ⟨_ :: addresses, List.append_assoc .., .cons ⟨resolved, rfl⟩ all⟩
    · simp only [usable, Bool.not_false, if_true] at parsed
      rw [List.filter_cons_of_neg usable]
      exact ih parsed

theorem localityParse_ok {endpoints : LocalityLbEndpoints Text}
    {parsed : Option (UpdateLocality Text Address)}
    (accepted : localityParse stringToSockaddr endpoints = .ok parsed) :
    endpoints.weight = 0 ∧ parsed = none ∨ endpoints.weight ≠ 0 ∧
      ∃ locality ∈ endpoints.locality, ∃ found, parsed = some found ∧
        found.name = locality.parsedName ∧ found.lbWeight = endpoints.weight ∧
        List.Forall₂ (Resolves stringToSockaddr) (endpoints.lbEndpoints.filter LbEndpoint.usable)
          found.endpoints := by
  unfold localityParse at accepted
  split_ifs at accepted with zero
  · cases accepted
    exact .inl ⟨zero, rfl⟩
  · split at accepted
    · cases accepted
    · rename_i locality held
      split at accepted
      · cases accepted
      · rename_i list appended
        cases accepted
        obtain ⟨addresses, rfl, all⟩ := appendEndpoints_ok appended
        exact .inr ⟨zero, locality, held, _, rfl, rfl, rfl, all⟩

variable [LinearOrder Text]

theorem getD_addLocality (priorities : List (Priority Text Address)) (priority : Nat)
    (locality : UpdateLocality Text Address) (other : Nat) :
    (addLocality priorities priority locality).getD other [] =
      if other = priority then
        OrderedMap.emplace locality.name locality (priorities.getD priority [])
      else priorities.getD other [] := by
  have padded : ∀ index, (priorities ++ List.replicate (priority + 1 - priorities.length)
      []).getD index [] = priorities.getD index [] := by
    intro index
    simp only [List.getD_eq_getElem?_getD, List.getElem?_append, List.getElem?_replicate]
    split_ifs with inside
    · rfl
    · rw [List.getElem?_eq_none (by omega)]
      rfl
    · rw [List.getElem?_eq_none (by omega)]
  rw [← padded priority, ← padded other]
  simp only [addLocality, List.getD_eq_getElem?_getD, List.getElem?_modify]
  by_cases same : other = priority
  · subst same
    rw [List.getElem?_eq_getElem (by simp only [List.length_append, List.length_replicate]; omega)]
    simp
  · simp [same, Ne.symm same]

variable {priorities final : List (Priority Text Address)} {errors : List ParseError}

/-- The localities of every priority are in their order, so that none is stored twice. -/
def Ordered (priorities : List (Priority Text Address)) : Prop :=
  ∀ index, ((priorities.getD index []).map Prod.fst).Pairwise (· < ·)

section

variable (ordered : Ordered priorities)
include ordered

theorem Ordered.addLocality (priority : Nat) (locality : UpdateLocality Text Address) :
    Ordered (addLocality priorities priority locality) := by
  intro index
  rw [getD_addLocality]
  split
  · exact OrderedMap.ordered_emplace (ordered priority)
  · exact ordered index

theorem lookup_addLocality (priority : Nat) (locality : UpdateLocality Text Address) (index : Nat)
    (name : XdsLocalityName Text) :
    ((addLocality priorities priority locality).getD index []).lookup name =
      if index = priority ∧ name = locality.name then
        some (((priorities.getD priority []).lookup locality.name).getD locality)
      else (priorities.getD index []).lookup name := by
  rw [getD_addLocality]
  by_cases here : index = priority
  · subst here
    rw [if_pos rfl, OrderedMap.lookup_emplace_of_ordered (ordered index)]
    simp only [true_and]
  · rw [if_neg here, if_neg fun both => here both.1]

/-- What is stored stays, and only the names that `LocalityParse` gives are added. -/
theorem addLocalities_keeps {rest : List (LocalityLbEndpoints Text)}
    (done : addLocalities stringToSockaddr priorities errors rest = (final, [])) :
    errors = [] ∧ ∀ index name,
      (∀ found, (priorities.getD index []).lookup name = some found →
        (final.getD index []).lookup name = some found) ∧
      ((priorities.getD index []).lookup name = none → (final.getD index []).lookup name ≠ none →
        ∃ locality : Locality Text, name = locality.parsedName) := by
  induction rest generalizing priorities errors with
  | nil =>
    cases done
    exact ⟨rfl, fun _ _ => ⟨fun _ found => found, fun absent present => absurd absent present⟩⟩
  | cons endpoints rest ih =>
    unfold addLocalities at done
    split at done
    · exact absurd (ih ordered done).1 (by simp)
    · exact ih ordered done
    · rename_i locality parsed
      obtain ⟨none_, kept⟩ := ih (ordered.addLocality _ _) done
      refine ⟨none_, fun index name => ?_⟩
      have kept := kept index name
      rw [lookup_addLocality ordered] at kept
      split at kept
      · rename_i same
        obtain ⟨rfl, rfl⟩ := same
        obtain ⟨_, ⟨⟩⟩ | ⟨_, named, _, _, ⟨⟩, named', _⟩ := localityParse_ok parsed
        exact ⟨fun found stored => kept.1 found (by rw [stored]; rfl), fun _ _ => ⟨named, named'⟩⟩
      · exact kept

theorem addLocalities_appears {rest : List (LocalityLbEndpoints Text)}
    (done : addLocalities stringToSockaddr priorities errors rest = (final, []))
    (zones : ∀ endpoints ∈ rest, endpoints.weight ≠ 0 →
      ∀ locality ∈ endpoints.locality, locality.zone = locality.region)
    (distinct : rest.Pairwise fun endpoints other => ∀ locality ∈ endpoints.locality,
      ∀ locality' ∈ other.locality, locality.name ≠ locality'.name)
    (fresh : ∀ endpoints ∈ rest, ∀ locality ∈ endpoints.locality,
      (priorities.getD endpoints.priority []).lookup locality.name = none) :
    ∀ endpoints ∈ rest, endpoints.weight ≠ 0 → Appears stringToSockaddr final endpoints := by
  induction rest generalizing priorities errors with
  | nil => nofun
  | cons endpoints rest ih =>
    obtain ⟨apart, distinct⟩ := List.pairwise_cons.mp distinct
    obtain ⟨zone, zones⟩ := List.forall_mem_cons.mp zones
    obtain ⟨free, fresh⟩ := List.forall_mem_cons.mp fresh
    unfold addLocalities at done
    refine List.forall_mem_cons.mpr ?_
    split at done
    · exact absurd (addLocalities_keeps ordered done).1 (by simp)
    · rename_i parsed
      obtain ⟨zero, _⟩ | ⟨_, _, _, _, ⟨⟩, _⟩ := localityParse_ok parsed
      exact ⟨fun weight => absurd zero weight, ih ordered done zones distinct fresh⟩
    · rename_i found parsed
      obtain ⟨_, ⟨⟩⟩ | ⟨weight, locality, held, _, ⟨⟩, named, weighs, all⟩ := localityParse_ok parsed
      have own : found.name = locality.name := by
        rw [named, Locality.parsedName, ← zone weight locality held, Locality.name]
        rw [zone weight locality held]
      have added := lookup_addLocality ordered endpoints.priority found
      refine ⟨fun _ => ⟨locality, held, found, ?_, own, weighs, all⟩,
        ih (ordered.addLocality _ _) done zones distinct fun other listed locality' held' => ?_⟩
      · refine ((addLocalities_keeps (ordered.addLocality _ _) done).2 _ _).1 found ?_
        rw [added, if_pos ⟨rfl, own.symm⟩, own, free locality held]
        rfl
      · rw [added, if_neg fun both => apart other listed locality held locality' held'
          (own.symm.trans both.2.symm)]
        exact fresh other listed locality' held'

end

end Localities

theorem addDrops_done {drops final : List (String × UInt32)} {errors : List ParseError}
    {rest : List DropOverload} (done : addDrops drops errors rest = (final, [])) :
    errors = [] ∧ ∃ parsed, final = drops ++ parsed ∧
      List.Forall₂ (fun drop category => dropParse drop = .ok category) rest parsed := by
  induction rest generalizing drops errors with
  | nil =>
    cases done
    exact ⟨rfl, [], (List.append_nil _).symm, .nil⟩
  | cons drop rest ih =>
    unfold addDrops at done
    split at done
    · exact absurd (ih done).1 (by simp)
    · rename_i category parsed
      obtain ⟨none_, categories, rfl, all⟩ := ih done
      exact ⟨none_, category :: categories, List.append_assoc .., .cons parsed all⟩

theorem dropParse_ok {drop : DropOverload} {category : String × UInt32}
    (parsed : dropParse drop = .ok category) : category.1 = drop.category ∧
      category.2.toNat = min 1000000 (drop.numerator.toNat * drop.scale % 2 ^ 32) := by
  have capped : ∀ rate : UInt32, (min rate 1000000).toNat = min 1000000 rate.toNat := by
    intro rate
    rw [Nat.min_comm, Nat.min_def]
    exact apply_ite UInt32.toNat (rate ≤ 1000000) rate 1000000
  unfold dropParse at parsed
  unfold DropOverload.scale
  split at parsed
  · cases parsed
  · split at parsed
    · rename_i denominator
      cases parsed
      rw [denominator]
      exact ⟨rfl, (capped _).trans (by rfl)⟩
    · rename_i denominator
      cases parsed
      rw [denominator]
      exact ⟨rfl, (capped _).trans (by rfl)⟩
    · rename_i denominator
      cases parsed
      rw [denominator]
      have small := drop.numerator.toNat_lt
      exact ⟨rfl, (capped _).trans (by simp [Nat.mod_eq_of_lt small])⟩
    · cases parsed

theorem rates_iff {rest : List DropOverload} {parsed : List (String × UInt32)}
    (all : List.Forall₂ (fun drop category => dropParse drop = .ok category) rest parsed) :
    parsed.map (fun drop => (drop.1, drop.2.toNat)) = rest.map (fun drop =>
        (drop.category, min 1000000 (drop.numerator.toNat * drop.scale))) ↔
      ∀ drop ∈ rest, drop.numerator.toNat * drop.scale < 2 ^ 32 ∨
        1000000 ≤ drop.numerator.toNat * drop.scale % 2 ^ 32 := by
  induction all with
  | nil => simp
  | cons here _ ih =>
    obtain ⟨name, rate⟩ := dropParse_ok here
    rw [List.map_cons, List.map_cons, List.cons.injEq, ih, List.forall_mem_cons, name, rate,
      Prod.mk.injEq]
    refine and_congr_left fun _ => (and_iff_right rfl).trans ?_
    omega

/-- An accepted assignment of localities with different names keeps everything exactly when the
zones are named like their regions and no scaled rate wraps. -/
theorem addressesKept_iff [LinearOrder Text] {stringToSockaddr : String → UInt32 → Except String Address}
    {assignment : ClusterLoadAssignment Text} {update : EdsUpdate Text Address}
    (accepted : edsResourceParse stringToSockaddr assignment = .ok update)
    (distinct : assignment.endpoints.Pairwise fun endpoints other =>
      ∀ locality ∈ endpoints.locality, ∀ locality' ∈ other.locality,
        locality.name ≠ locality'.name) :
    NoneLost stringToSockaddr assignment update ↔ Undamaged assignment := by
  unfold edsResourceParse at accepted
  rcases parsed : addLocalities stringToSockaddr [] [] assignment.endpoints with ⟨priorities, errors⟩
  rcases dropped : addDrops [] (errors ++ (priorities.filter List.isEmpty).map fun _ =>
    ⟨"sparse priority list", none⟩) (assignment.policy.getD []) with ⟨dropConfig, failed⟩
  simp only [parsed, dropped] at accepted
  split at accepted
  · rename_i clean
    cases accepted
    obtain ⟨noErrors, categories, rfl, all⟩ := addDrops_done (clean ▸ dropped)
    obtain ⟨rfl, filled⟩ := List.append_eq_nil_iff.mp noErrors
    have ordered : Ordered ([] : List (Priority Text Address)) := fun _ => List.Pairwise.nil
    constructor
    · rintro ⟨appear, _, drops⟩
      refine ⟨fun endpoints listed weight locality held => ?_, (rates_iff all).mp drops⟩
      obtain ⟨_, held', found, stored, _⟩ := appear endpoints listed weight
      obtain rfl := Option.mem_unique held held'
      obtain ⟨parsed', same⟩ := ((addLocalities_keeps ordered parsed).2 endpoints.priority
        locality.name).2 rfl (by rw [stored]; nofun)
      have region : locality.region = parsed'.region := congrArg (fun name => (ofLex name).1) same
      have zone : locality.zone = parsed'.region :=
        congrArg (fun name => (ofLex (ofLex name).2).1) same
      exact zone.trans region.symm
    · rintro ⟨zones, rates⟩
      refine ⟨?_, ?_, (rates_iff all).mpr rates⟩
      · exact addLocalities_appears ordered parsed zones distinct fun _ _ _ _ => rfl
      · intro priority listed
        have full := List.filter_eq_nil_iff.mp (List.map_eq_nil_iff.mp filled) priority listed
        exact fun empty => full (by rw [empty]; rfl)
  · cases accepted

/-- One locality and a category of half of the requests. -/
def oneLocality (zone : Nat) (numerator : UInt32) : ClusterLoadAssignment Nat where
  endpoints := [⟨some 1, some ⟨1, zone, 3⟩, [⟨1, "10.0.0.1", 80, none⟩], 0⟩]
  policy := some [⟨"half", numerator, 0⟩]

theorem addressesKept_half : ∃ update,
    edsResourceParse (fun address _ => .ok address) (oneLocality 1 50) = .ok update ∧
      NoneLost (fun address _ => .ok address) (oneLocality 1 50) update :=
  ⟨_, rfl, (addressesKept_iff rfl (List.pairwise_singleton ..)).mpr
    ⟨by simp [oneLocality], by simp [oneLocality, DropOverload.scale]⟩⟩

/-- A locality whose zone is not named like its region is stored under another name. -/
theorem zone_lost : ∃ update,
    edsResourceParse (fun address _ => .ok address) (oneLocality 2 50) = .ok update ∧
      ¬NoneLost (fun address _ => .ok address) (oneLocality 2 50) update := by
  refine ⟨_, rfl, fun kept => ?_⟩
  obtain ⟨_, ⟨⟩, _, stored, _⟩ := kept.localities _ List.mem_cons_self (by decide)
  cases stored

end GrpcCore.Xds.Eds
