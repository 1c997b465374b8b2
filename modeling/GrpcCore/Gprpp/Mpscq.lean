import Mathlib

/-!
# The multi-producer single-consumer queue

The queue is kept as the nodes from its tail on, in the order of their exchanges of
the head, each with a mark that says whether its predecessor's `next` points to it.
The code's pointers are related to that in `MpscqCells`.
-/

namespace GrpcCore.Gprpp

universe u
variable {Element : Type u}

/-- A node of the queue: an element's, or the stub (`none`). -/
abbrev Node (Element : Type u) := Option Element

structure Mpscq (Element : Type u) where
  tail : Node Element := none
  rest : List (Node Element × Bool) := []

/-- Where a consumer is in `PopAndCheckEnd`. -/
inductive PopStep (Element : Type u) where
  | begin
  | skipped
  | loadHead
  | pushStub
  | linkStub (prev : Node Element)
  | reload

/-- What a step of `PopAndCheckEnd` comes to: a further step, a node, a null node
with `empty` unset, or a null node with `empty` set. -/
inductive PopOutcome (Element : Type u) where
  | goOn (step : PopStep Element)
  | node (node : Node Element)
  | retry
  | empty

namespace Mpscq

def lastOf : Node Element → List (Node Element × Bool) → Node Element
  | node, [] => node
  | _, (node, _) :: rest => lastOf node rest

def linksFrom : Node Element → List (Node Element × Bool) →
    List (Node Element × Node Element × Bool)
  | _, [] => []
  | prev, (node, linked) :: rest => (prev, node, linked) :: linksFrom node rest

def head (queue : Mpscq Element) : Node Element := lastOf queue.tail queue.rest

def nodes (queue : Mpscq Element) : List (Node Element) := queue.tail :: queue.rest.map (·.1)

def links (queue : Mpscq Element) : List (Node Element × Node Element × Bool) :=
  linksFrom queue.tail queue.rest

def contents (queue : Mpscq Element) : List Element := queue.nodes.filterMap id

/-- `tail_->next`. -/
def next (queue : Mpscq Element) : Option (Node Element) :=
  match queue.rest with
  | (node, true) :: _ => some node
  | _ => none

/-- `tail_ = next`. -/
def advance (queue : Mpscq Element) : Mpscq Element :=
  match queue.rest with
  | (node, _) :: rest => ⟨node, rest⟩
  | [] => queue

/-- The exchange of `Push`, with the previous head. -/
def exchange (queue : Mpscq Element) (node : Node Element) : Mpscq Element × Node Element :=
  ({ queue with rest := queue.rest ++ [(node, false)] }, queue.head)

/-! ### Nodes and links -/

section

variable (node : Node Element) (rest : List (Node Element × Bool))
include node rest

theorem lastOf_append (last : Node Element × Bool) : lastOf node (rest ++ [last]) = last.1 := by
  induction rest generalizing node with
  | nil => rfl
  | cons entry rest ih => exact ih entry.1

theorem lastOf_mem : lastOf node rest ∈ node :: rest.map (·.1) := by
  induction rest generalizing node with
  | nil => exact List.mem_cons_self
  | cons entry rest ih => exact List.mem_cons_of_mem _ (ih entry.1)

theorem linksFrom_append (last : Node Element × Bool) :
    linksFrom node (rest ++ [last]) = linksFrom node rest ++ [(lastOf node rest, last)] := by
  induction rest generalizing node with
  | nil => rfl
  | cons entry rest ih => exact congrArg _ (ih entry.1)

end

variable {node prev : Node Element} {rest : List (Node Element × Bool)} {mark : Bool}

theorem mem_of_link {linked : Node Element} (there : (prev, linked, mark) ∈ linksFrom node rest) :
    prev ∈ node :: rest.map (·.1) ∧ linked ∈ rest.map (·.1) := by
  induction rest generalizing node with
  | nil => cases there
  | cons entry rest ih =>
    rcases List.mem_cons.mp there with here | later
    · obtain ⟨rfl, same⟩ := Prod.mk.inj here
      obtain ⟨rfl, -⟩ := Prod.mk.inj same
      exact ⟨List.mem_cons_self, List.mem_cons_self⟩
    · obtain ⟨source, target⟩ := ih later
      exact ⟨List.mem_cons_of_mem _ source, List.mem_cons_of_mem _ target⟩

@[simp]
theorem nodes_exchange (queue : Mpscq Element) (node : Node Element) :
    (queue.exchange node).1.nodes = queue.nodes ++ [node] := by
  simp [nodes, exchange]

@[simp]
theorem links_exchange (queue : Mpscq Element) (node : Node Element) :
    (queue.exchange node).1.links = queue.links ++ [(queue.head, node, false)] :=
  linksFrom_append _ _ _

@[simp]
theorem contents_exchange (queue : Mpscq Element) (element : Element) :
    (queue.exchange (some element)).1.contents = queue.contents ++ [element] := by
  simp [contents]

@[simp]
theorem contents_exchange_stub (queue : Mpscq Element) :
    (queue.exchange none).1.contents = queue.contents := by
  simp [contents]

variable {queue : Mpscq Element} {element : Element}

theorem mem_contents : element ∈ queue.contents ↔ some element ∈ queue.nodes := by
  simp [contents]

theorem head_mem_nodes (queue : Mpscq Element) : queue.head ∈ queue.nodes := lastOf_mem _ _

theorem head_eq_stub (empty : queue.contents = []) : queue.head = none := by
  have there := queue.head_mem_nodes
  cases kind : queue.head with
  | none => rfl
  | some =>
    rw [kind, ← mem_contents, empty] at there
    cases there

/-- When the tail has a linked successor, the queue is that tail in front of the
queue advanced. -/
theorem nodes_of_next (linked : queue.next = some node) :
    queue.nodes = queue.tail :: queue.advance.nodes ∧ queue.advance.tail = node ∧
      queue.links = (queue.tail, node, true) :: queue.advance.links := by
  obtain ⟨tail, rest⟩ := queue
  match rest, linked with
  | (_, true) :: _, rfl => exact ⟨rfl, rfl, rfl⟩

theorem head_advance (linked : queue.next = some node) : queue.advance.head = queue.head := by
  obtain ⟨tail, rest⟩ := queue
  match rest, linked with
  | (_, true) :: _, rfl => rfl

variable {prev' next' : Node Element} {next : Node Element}

theorem linksFrom_unique (nodup : (node :: rest.map (·.1)).Nodup) {mark' : Bool}
    (there : (prev, next, mark) ∈ linksFrom node rest)
    (there' : (prev', next', mark') ∈ linksFrom node rest) : prev = prev' ↔ next = next' := by
  induction rest generalizing node with
  | nil => cases there
  | cons entry rest ih =>
    obtain ⟨first, tail⟩ := List.nodup_cons.mp nodup
    obtain ⟨second, -⟩ := List.nodup_cons.mp tail
    have later {prev next : Node Element} {mark : Bool}
        (there : (prev, next, mark) ∈ linksFrom entry.1 rest) : node ≠ prev ∧ entry.1 ≠ next := by
      obtain ⟨source, target⟩ := mem_of_link there
      refine ⟨?_, ?_⟩
      · rintro rfl
        exact first source
      · rintro rfl
        exact second target
    rcases List.mem_cons.mp there with here | after <;>
      rcases List.mem_cons.mp there' with here' | after'
    · obtain ⟨rfl, same⟩ := Prod.mk.inj here
      obtain ⟨rfl, same'⟩ := Prod.mk.inj here'
      exact iff_of_true rfl ((Prod.mk.inj same).1.trans (Prod.mk.inj same').1.symm)
    · obtain ⟨rfl, same⟩ := Prod.mk.inj here
      obtain ⟨rfl, -⟩ := Prod.mk.inj same
      exact iff_of_false (later after').1 (later after').2
    · obtain ⟨rfl, same⟩ := Prod.mk.inj here'
      obtain ⟨rfl, -⟩ := Prod.mk.inj same
      exact iff_of_false (later after).1.symm (later after).2.symm
    · exact ih tail after after'

theorem links_unique (nodup : queue.nodes.Nodup) {mark' : Bool}
    (there : (prev, next, mark) ∈ queue.links) (there' : (prev', next', mark') ∈ queue.links) :
    prev = prev' ↔ next = next' :=
  linksFrom_unique nodup there there'

theorem source_ne_lastOf (nodup : (node :: rest.map (·.1)).Nodup)
    (there : (prev, next, mark) ∈ linksFrom node rest) : prev ≠ lastOf node rest := by
  induction rest generalizing node with
  | nil => cases there
  | cons entry rest ih =>
    obtain ⟨first, tail⟩ := List.nodup_cons.mp nodup
    rcases List.mem_cons.mp there with here | after
    · obtain rfl : prev = node := congrArg Prod.fst here
      exact fun same => first (same ▸ lastOf_mem entry.1 rest)
    · exact ih tail after

theorem source_ne_head (nodup : queue.nodes.Nodup) (there : (prev, next, mark) ∈ queue.links) :
    prev ≠ queue.head :=
  source_ne_lastOf nodup there

/-- When the tail has no linked successor, it is the last node or an exchange
after it is still to be linked. -/
theorem next_eq_none (unlinked : queue.next = none) :
    queue.nodes = [queue.tail] ∧ queue.links = [] ∨
      ∃ node, node ∈ queue.nodes.tail ∧ (queue.tail, node, false) ∈ queue.links := by
  obtain ⟨tail, rest⟩ := queue
  match rest, unlinked with
  | [], _ => exact .inl ⟨rfl, rfl⟩
  | (node, false) :: _, _ => exact .inr ⟨node, List.mem_cons_self, List.mem_cons_self⟩

/-! ### What a consumer can rely on -/

/-- What holds of the queue at the consumer's step: past the first load its tail is
an element's node, the stub is absent when it is to be pushed, and its exchange is
the one to be linked afterwards. -/
def Placed (queue : Mpscq Element) : PopStep Element → Prop
  | .begin => True
  | .pushStub => none ∉ queue.nodes
  | .linkStub prev => queue.tail ≠ none ∧ (prev, none, false) ∈ queue.links
  | _ => queue.tail ≠ none

structure Valid (queue : Mpscq Element) (step : PopStep Element) : Prop where
  nodup : queue.nodes.Nodup
  stubLinked : ∀ prev, (prev, none, false) ∈ queue.links → step = .linkStub prev
  placed : queue.Placed step

/-- The consumer's step after an outcome: the next one of this call, or the first one
of another. -/
def nextStep : PopOutcome Element → PopStep Element
  | .goOn step => step
  | _ => .begin

theorem valid_init : ({} : Mpscq Element).Valid .begin where
  nodup := List.nodup_singleton _
  stubLinked _ there := nomatch there
  placed := trivial

theorem mem_links (there : (prev, node, mark) ∈ queue.links) :
    prev ∈ queue.nodes ∧ node ∈ queue.nodes.tail :=
  mem_of_link there

variable {step : PopStep Element}

theorem tail_not_mem (valid : queue.Valid step) : queue.tail ∉ queue.nodes.tail :=
  (List.nodup_cons.mp valid.nodup).1

theorem Valid.exchange (valid : queue.Valid step) (absent : element ∉ queue.contents) :
    (queue.exchange (some element)).1.Valid step := by
  rw [mem_contents] at absent
  refine ⟨?_, ?_, ?_⟩
  · rw [nodes_exchange]
    exact valid.nodup.append (List.nodup_singleton _) (by simpa using absent)
  · intro prev there
    rw [links_exchange, List.mem_append, List.mem_singleton] at there
    exact valid.stubLinked prev (there.resolve_right (by simp))
  · have placed := valid.placed
    cases step with
    | begin => trivial
    | skipped | loadHead | reload => exact placed
    | pushStub => simpa [Placed] using placed
    | linkStub =>
      refine ⟨placed.1, ?_⟩
      rw [links_exchange]
      exact List.mem_append_left _ placed.2

variable {step' : PopStep Element}

theorem Valid.advance (valid : queue.Valid step) (linked : queue.next = some node)
    (notStub : ∀ prev, step ≠ .linkStub prev) (placed : queue.advance.Placed step') :
    queue.advance.Valid step' := by
  obtain ⟨nodes, -, links⟩ := nodes_of_next linked
  refine ⟨?_, ?_, placed⟩
  · have nodup := valid.nodup
    rw [nodes] at nodup
    exact nodup.of_cons
  · intro prev there
    have before : (prev, none, false) ∈ queue.links := by
      rw [links]
      exact List.mem_cons_of_mem _ there
    exact absurd (valid.stubLinked prev before) (notStub prev)

theorem Valid.at (valid : queue.Valid step) (notStub : ∀ prev, step ≠ .linkStub prev)
    (placed : queue.Placed step') :
    queue.Valid step' where
  nodup := valid.nodup
  stubLinked prev there := absurd (valid.stubLinked prev there) (notStub prev)
  placed := placed

theorem contents_advance (linked : queue.next = some node) :
    queue.contents = queue.tail.toList ++ queue.advance.contents := by
  rw [contents, (nodes_of_next linked).1]
  cases kind : queue.tail <;> simp [contents]

theorem stub_absent (nodup : queue.nodes.Nodup) (tail : queue.tail ≠ none)
    (last : queue.tail = queue.head) : none ∉ queue.nodes := by
  obtain ⟨tail_, rest⟩ := queue
  cases rest with
  | nil => simpa [nodes, eq_comm] using tail
  | cons entry rest =>
    have there := lastOf_mem entry.1 rest
    have same : tail_ = lastOf entry.1 rest := last
    rw [← same] at there
    exact absurd there (List.nodup_cons.mp nodup).1

variable [DecidableEq Element]

/-- `prev->next = node` of `Push`. -/
def link (queue : Mpscq Element) (node : Node Element) : Mpscq Element :=
  { queue with
    rest := queue.rest.map fun entry => (entry.1, entry.2 || decide (entry.1 = node)) }

/-- A step of `PopAndCheckEnd`. Its `tail` is `tail_` all along. -/
def popStep (queue : Mpscq Element) : PopStep Element → Mpscq Element × PopOutcome Element
  | .begin =>
    match queue.tail, queue.next with
    | none, none => (queue, .empty)
    | none, some _ => (queue.advance, .goOn .skipped)
    | some element, some _ => (queue.advance, .node (some element))
    | some _, none => (queue, .goOn .loadHead)
  | .skipped =>
    match queue.next with
    | some _ => (queue.advance, .node queue.tail)
    | none => (queue, .goOn .loadHead)
  | .loadHead =>
    if queue.tail = queue.head then (queue, .goOn .pushStub) else (queue, .retry)
  | .pushStub => ((queue.exchange none).1, .goOn (.linkStub (queue.exchange none).2))
  | .linkStub _ => (queue.link none, .goOn .reload)
  | .reload =>
    match queue.next with
    | some _ => (queue.advance, .node queue.tail)
    | none => (queue, .retry)

theorem linksFrom_link (node marked : Node Element) (rest : List (Node Element × Bool)) :
    linksFrom node (rest.map fun entry => (entry.1, entry.2 || decide (entry.1 = marked))) =
      (linksFrom node rest).map fun entry =>
        (entry.1, entry.2.1, entry.2.2 || decide (entry.2.1 = marked)) := by
  induction rest generalizing node with
  | nil => rfl
  | cons entry rest ih => exact congrArg _ (ih entry.1)

theorem lastOf_link (node marked : Node Element) (rest : List (Node Element × Bool)) :
    lastOf node (rest.map fun entry => (entry.1, entry.2 || decide (entry.1 = marked))) =
      lastOf node rest := by
  induction rest generalizing node with
  | nil => rfl
  | cons entry rest ih => exact ih entry.1

theorem head_link (queue : Mpscq Element) (node : Node Element) :
    (queue.link node).head = queue.head :=
  lastOf_link _ _ _

@[simp]
theorem nodes_link (queue : Mpscq Element) (node : Node Element) :
    (queue.link node).nodes = queue.nodes := by
  simp [nodes, link, Function.comp_def]

@[simp]
theorem links_link (queue : Mpscq Element) (node : Node Element) :
    (queue.link node).links = queue.links.map fun entry =>
      (entry.1, entry.2.1, entry.2.2 || decide (entry.2.1 = node)) :=
  linksFrom_link _ _ _

@[simp]
theorem contents_link (queue : Mpscq Element) (node : Node Element) :
    (queue.link node).contents = queue.contents := by
  simp [contents]

theorem mem_links_link {marked : Node Element} :
    (prev, node, false) ∈ (queue.link marked).links ↔
      (prev, node, false) ∈ queue.links ∧ node ≠ marked := by
  simp only [links_link, List.mem_map, Prod.mk.injEq, Bool.or_eq_false_iff, decide_eq_false_iff_not]
  constructor
  · rintro ⟨⟨_, _, _⟩, there, rfl, rfl, rfl, other⟩
    exact ⟨there, other⟩
  · rintro ⟨there, other⟩
    exact ⟨_, there, rfl, rfl, rfl, other⟩

theorem Valid.link (valid : queue.Valid step) (element : Element) :
    (queue.link (some element)).Valid step := by
  refine ⟨?_, ?_, ?_⟩
  · rw [nodes_link]
    exact valid.nodup
  · intro prev there
    exact valid.stubLinked prev (mem_links_link.mp there).1
  · have placed := valid.placed
    cases step with
    | begin => trivial
    | skipped | loadHead | reload => exact placed
    | pushStub => simpa [Placed] using placed
    | linkStub => exact ⟨placed.1, mem_links_link.mpr ⟨placed.2, by simp⟩⟩

/-- What a step of `PopAndCheckEnd` does in a valid queue. -/
inductive Pops (queue : Mpscq Element) :
    PopStep Element → Mpscq Element → PopOutcome Element → Prop where
  | empty (stub : queue.tail = none) (unlinked : queue.next = none) :
      Pops queue .begin queue .empty
  | skip {node : Node Element} (stub : queue.tail = none) (linked : queue.next = some node) :
      Pops queue .begin queue.advance (.goOn .skipped)
  | take {step : PopStep Element} {element : Element} {node : Node Element}
      (ready : step = .begin ∨ step = .skipped ∨ step = .reload)
      (tail : queue.tail = some element) (linked : queue.next = some node) :
      Pops queue step queue.advance (.node (some element))
  | last {step : PopStep Element} (ready : step = .begin ∨ step = .skipped)
      (tail : queue.tail ≠ none) : Pops queue step queue (.goOn .loadHead)
  | alone (tail : queue.tail ≠ none) (last : queue.tail = queue.head) :
      Pops queue .loadHead queue (.goOn .pushStub)
  | retry {step : PopStep Element} (ready : step = .loadHead ∨ step = .reload) :
      Pops queue step queue .retry
  | pushStub (absent : none ∉ queue.nodes) :
      Pops queue .pushStub (queue.exchange none).1 (.goOn (.linkStub queue.head))
  | linkStub {prev : Node Element} (tail : queue.tail ≠ none) :
      Pops queue (.linkStub prev) (queue.link none) (.goOn .reload)

theorem popStep_pops (valid : queue.Valid step) :
    Pops queue step (queue.popStep step).1 (queue.popStep step).2 := by
  have placed := valid.placed
  cases step with
  | begin =>
    cases tail : queue.tail <;> cases linked : queue.next <;>
      simp only [popStep, tail, linked]
    · exact .empty tail linked
    · exact .skip tail linked
    · exact .last (.inl rfl) (by simp [tail])
    · exact .take (.inl rfl) tail linked
  | skipped =>
    obtain ⟨element, tail⟩ := Option.ne_none_iff_exists'.mp placed
    cases linked : queue.next <;> simp only [popStep, tail, linked]
    · exact .last (.inr rfl) placed
    · exact .take (.inr (.inl rfl)) tail linked
  | loadHead =>
    by_cases last : queue.tail = queue.head
    · simp only [popStep, if_pos last]
      exact .alone placed last
    · simp only [popStep, if_neg last]
      exact .retry (.inl rfl)
  | pushStub => exact .pushStub placed
  | linkStub => exact .linkStub placed.1
  | reload =>
    obtain ⟨element, tail⟩ := Option.ne_none_iff_exists'.mp placed
    cases linked : queue.next <;> simp only [popStep, tail, linked]
    · exact .retry (.inr rfl)
    · exact .take (.inr (.inr rfl)) tail linked

theorem Pops.valid {queue queue' : Mpscq Element} {step : PopStep Element}
    {outcome : PopOutcome Element} (pops : Pops queue step queue' outcome)
    (valid : queue.Valid step) : queue'.Valid (nextStep outcome) := by
  cases pops with
  | empty => exact valid
  | skip stub linked =>
    refine valid.advance linked nofun ?_
    have distinct := tail_not_mem valid
    rw [(nodes_of_next linked).1, List.tail_cons, stub] at distinct
    exact fun isStub => distinct (isStub ▸ List.mem_cons_self)
  | take ready tail linked =>
    refine valid.advance linked ?_ trivial
    rcases ready with rfl | rfl | rfl <;> exact nofun
  | last ready tail =>
    refine valid.at ?_ tail
    rcases ready with rfl | rfl <;> exact nofun
  | alone tail last => exact valid.at nofun (stub_absent valid.nodup tail last)
  | retry ready =>
    refine valid.at ?_ trivial
    rcases ready with rfl | rfl <;> exact nofun
  | pushStub absent =>
    refine ⟨?_, ?_, ?_, ?_⟩
    · rw [nodes_exchange]
      exact valid.nodup.append (List.nodup_singleton _) (by simpa using absent)
    · intro prev there
      rw [links_exchange, List.mem_append, List.mem_singleton] at there
      rcases there with before | here
      · exact absurd (List.mem_of_mem_tail (mem_links before).2) absent
      · obtain ⟨rfl, -⟩ := Prod.mk.injEq .. ▸ here
        rfl
    · exact fun stub => absent (List.mem_cons.mpr (.inl stub.symm))
    · rw [links_exchange]
      exact List.mem_append_right _ List.mem_cons_self
  | linkStub tail =>
    refine ⟨?_, ?_, tail⟩
    · rw [nodes_link]
      exact valid.nodup
    · exact fun prev there => absurd rfl (mem_links_link.mp there).2

variable {queue' : Mpscq Element} {outcome : PopOutcome Element}

theorem Pops.contents (pops : Pops queue step queue' outcome) :
    (∃ element, outcome = .node (some element) ∧ queue.contents = element :: queue'.contents) ∨
      (∀ node, outcome ≠ .node node) ∧ queue'.contents = queue.contents := by
  cases pops with
  | empty | last | alone | retry => exact .inr ⟨nofun, rfl⟩
  | skip stub linked =>
    refine .inr ⟨nofun, ?_⟩
    rw [contents_advance linked, stub]
    rfl
  | take ready tail linked =>
    refine .inl ⟨_, rfl, ?_⟩
    rw [contents_advance linked, tail]
    rfl
  | pushStub => exact .inr ⟨nofun, contents_exchange_stub _⟩
  | linkStub => exact .inr ⟨nofun, contents_link _ _⟩

/-- The queue is found empty only when it is, or when the push of its first element
is still to be linked to the stub. -/
theorem Pops.of_empty (pops : Pops queue step queue' .empty) (valid : queue.Valid step) :
    queue' = queue ∧
      (queue.contents = [] ∨ ∃ element, (none, some element, false) ∈ queue.links) := by
  cases pops with
  | empty stub unlinked =>
    refine ⟨rfl, ?_⟩
    rcases next_eq_none unlinked with ⟨nodes, -⟩ | ⟨node, later, there⟩
    · left
      rw [Mpscq.contents, nodes, stub]
      rfl
    · rw [stub] at there
      cases node with
      | none => exact absurd (valid.stubLinked _ there) nofun
      | some element => exact .inr ⟨element, there⟩

theorem Pops.unlinked_iff (pops : Pops queue step queue' outcome) :
    (prev, some element, false) ∈ queue'.links ↔ (prev, some element, false) ∈ queue.links := by
  cases pops with
  | empty | last | alone | retry => rfl
  | skip _ linked | take _ _ linked =>
    rw [(nodes_of_next linked).2.2, List.mem_cons]
    simp
  | pushStub =>
    rw [links_exchange, List.mem_append, List.mem_singleton]
    simp
  | linkStub =>
    rw [mem_links_link]
    simp

end Mpscq

end GrpcCore.Gprpp
