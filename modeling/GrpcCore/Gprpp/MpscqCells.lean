import GrpcCore.Gprpp.Mpscq
import GrpcCore.Lib.Run

/-!
# The queue's pointers

`MultiProducerSingleConsumerQueue` as the code keeps it, a head, a tail and a `next`
for every node, and that each of its atomic steps does to the pointers what
`Mpscq` does to the nodes they spell.
-/

namespace GrpcCore.Gprpp

universe u

/-- `head_`, `tail_` and the nodes' `next`. -/
structure MpscqCells (Element : Type u) where
  head : Node Element := none
  tail : Node Element := none
  next : Node Element → Option (Node Element) := fun _ => none

namespace MpscqCells

variable {Element : Type u}

/-- The nodes and marks that the pointers spell. -/
structure Represents (cells : MpscqCells Element) (queue : Mpscq Element) : Prop where
  head : cells.head = queue.head
  tail : cells.tail = queue.tail
  next : ∀ {prev node mark}, (prev, node, mark) ∈ queue.links →
    cells.next prev = if mark then some node else none
  last : cells.next queue.head = none

theorem represents_init : ({} : MpscqCells Element).Represents {} where
  head := rfl
  tail := rfl
  next there := nomatch there
  last := rfl

variable {cells : MpscqCells Element} {queue : Mpscq Element}

theorem Represents.next_tail (spelt : cells.Represents queue) :
    cells.next cells.tail = queue.next := by
  obtain ⟨tail, rest⟩ := queue
  rw [spelt.tail]
  cases rest with
  | nil => exact spelt.last
  | cons entry rest =>
    obtain ⟨node, mark⟩ := entry
    rw [spelt.next List.mem_cons_self]
    cases mark <;> rfl

variable [DecidableEq Element]

/-- `Push` up to the exchange of the head, with the previous head. -/
def exchange (cells : MpscqCells Element) (node : Node Element) :
    MpscqCells Element × Node Element :=
  ({ cells with head := node, next := Function.update cells.next node none }, cells.head)

/-- The rest of `Push`. -/
def link (cells : MpscqCells Element) (prev node : Node Element) : MpscqCells Element :=
  { cells with next := Function.update cells.next prev (some node) }

/-- The code of `PopAndCheckEnd`, one atomic step at a time. -/
def popStep (cells : MpscqCells Element) :
    PopStep Element → MpscqCells Element × PopOutcome Element
  | .begin =>
    match cells.tail, cells.next cells.tail with
    | none, none => (cells, .empty)
    | none, some next => ({ cells with tail := next }, .goOn .skipped)
    | some element, some next => ({ cells with tail := next }, .node (some element))
    | some _, none => (cells, .goOn .loadHead)
  | .skipped =>
    match cells.next cells.tail with
    | some next => ({ cells with tail := next }, .node cells.tail)
    | none => (cells, .goOn .loadHead)
  | .loadHead =>
    if cells.tail = cells.head then (cells, .goOn .pushStub) else (cells, .retry)
  | .pushStub => ((cells.exchange none).1, .goOn (.linkStub (cells.exchange none).2))
  | .linkStub prev => (cells.link prev none, .goOn .reload)
  | .reload =>
    match cells.next cells.tail with
    | some next => ({ cells with tail := next }, .node cells.tail)
    | none => (cells, .retry)

theorem Represents.exchange (spelt : cells.Represents queue) {node : Node Element}
    (absent : node ∉ queue.nodes) :
    (cells.exchange node).1.Represents (queue.exchange node).1 ∧
      (cells.exchange node).2 = (queue.exchange node).2 := by
  have newHead : (queue.exchange node).1.head = node := Mpscq.lastOf_append _ _ _
  refine ⟨⟨?_, spelt.tail, ?_, ?_⟩, spelt.head⟩
  · exact newHead.symm
  · intro prev next mark there
    rw [Mpscq.links_exchange, List.mem_append, List.mem_singleton] at there
    rcases there with before | here
    · have other : prev ≠ node := fun same => absent (same ▸ (Mpscq.mem_links before).1)
      exact (Function.update_of_ne other _ _).trans (spelt.next before)
    · obtain ⟨rfl, rfl, rfl⟩ : prev = queue.head ∧ next = node ∧ mark = false := by
        simpa using here
      have other : queue.head ≠ next := fun same => absent (same ▸ queue.head_mem_nodes)
      exact (Function.update_of_ne other _ _).trans spelt.last
  · rw [newHead]
    exact Function.update_self _ _ _

theorem Represents.link (spelt : cells.Represents queue) (nodup : queue.nodes.Nodup)
    {prev node : Node Element} (pushed : (prev, node, false) ∈ queue.links) :
    (cells.link prev node).Represents (queue.link node) := by
  have sameHead : (queue.link node).head = queue.head := Mpscq.head_link _ _
  refine ⟨?_, spelt.tail, ?_, ?_⟩
  · exact spelt.head.trans sameHead.symm
  · intro source next mark there
    rw [Mpscq.links_link, List.mem_map] at there
    obtain ⟨⟨source', next', mark'⟩, before, same⟩ := there
    obtain ⟨rfl, rfl, rfl⟩ : source' = source ∧ next' = next ∧
        (mark' || decide (next' = node)) = mark := by
      simpa using same
    by_cases marked : next' = node
    · obtain rfl := marked
      obtain rfl := (Mpscq.links_unique nodup before pushed).mpr rfl
      simp [MpscqCells.link]
    · have other : source' ≠ prev := by
        rintro rfl
        exact marked ((Mpscq.links_unique nodup before pushed).mp rfl)
      simp only [decide_eq_false marked, Bool.or_false]
      exact (Function.update_of_ne other _ _).trans (spelt.next before)
  · have other : queue.head ≠ prev := (Mpscq.source_ne_head nodup pushed).symm
    rw [sameHead]
    exact (Function.update_of_ne other _ _).trans spelt.last

theorem Represents.popStep (spelt : cells.Represents queue) {step : PopStep Element}
    (valid : queue.Valid step) :
    (cells.popStep step).1.Represents (queue.popStep step).1 ∧
      (cells.popStep step).2 = (queue.popStep step).2 := by
  have advance {node : Node Element} (linked : queue.next = some node) :
      { cells with tail := node : MpscqCells Element }.Represents queue.advance := by
    obtain ⟨nodes, tail, links⟩ := Mpscq.nodes_of_next linked
    have sameHead := Mpscq.head_advance linked
    refine ⟨spelt.head.trans sameHead.symm, tail.symm, ?_, ?_⟩
    · intro prev next mark there
      exact spelt.next (links ▸ List.mem_cons_of_mem _ there)
    · rw [sameHead]
      exact spelt.last
  have next := spelt.next_tail
  have tail := spelt.tail
  rw [tail] at next
  cases step with
  | begin =>
    simp only [MpscqCells.popStep, Mpscq.popStep, tail, next]
    cases queue.tail <;> cases linked : queue.next
    · exact ⟨spelt, rfl⟩
    · exact ⟨advance linked, rfl⟩
    · exact ⟨spelt, rfl⟩
    · exact ⟨advance linked, rfl⟩
  | skipped | reload =>
    simp only [MpscqCells.popStep, Mpscq.popStep, tail, next]
    cases linked : queue.next
    · exact ⟨spelt, rfl⟩
    · exact ⟨advance linked, rfl⟩
  | loadHead =>
    simp only [MpscqCells.popStep, Mpscq.popStep, tail, spelt.head]
    split <;> exact ⟨spelt, rfl⟩
  | pushStub =>
    obtain ⟨pushed, prev⟩ := spelt.exchange valid.placed
    refine ⟨pushed, ?_⟩
    exact congrArg (fun prev => PopOutcome.goOn (.linkStub prev)) prev
  | linkStub prev => exact ⟨spelt.link valid.nodup valid.placed.2, rfl⟩

end MpscqCells

/-! ## Runs of the pointers -/

/-- The pointers of a queue, with the pushes between their two halves, where the consumer is, and
what has been pushed and returned so far. -/
structure MpscqRun (Element : Type u) where
  cells : MpscqCells Element := {}
  pushing : List (Node Element × Element) := []
  step : PopStep Element := .begin
  pushed : List Element := []
  returned : List (Node Element) := []

inductive MpscqAction (Element : Type u) where
  | exchange (element : Element)
  | link (prev : Node Element) (element : Element)
  | pop

def PopOutcome.returned {Element : Type u} : PopOutcome Element → List (Node Element)
  | .node taken => [taken]
  | _ => []

namespace MpscqRun

variable {Element : Type u} [DecidableEq Element] {run run' : MpscqRun Element}

/-- A step of a producer or of the consumer. A node that is in the queue is not pushed. -/
def act (run : MpscqRun Element) : MpscqAction Element → Option (MpscqRun Element)
  | .exchange element =>
    if element ∈ run.pushed.drop run.returned.length then none
    else
      some { run with
        cells := (run.cells.exchange (some element)).1
        pushing := ((run.cells.exchange (some element)).2, element) :: run.pushing
        pushed := run.pushed ++ [element] }
  | .link prev element =>
    if (prev, element) ∈ run.pushing then
      some { run with
        cells := run.cells.link prev (some element)
        pushing := run.pushing.filter fun push => push.2 ≠ element }
    else none
  | .pop =>
    let popped := run.cells.popStep run.step
    some { run with
      cells := popped.1
      step := Mpscq.nextStep popped.2
      returned := run.returned ++ popped.2.returned }

/-- The pointers spell a queue that holds what has been pushed and not returned. -/
def Spells (run : MpscqRun Element) : Prop :=
  ∃ queue : Mpscq Element, run.cells.Represents queue ∧ queue.Valid run.step ∧
    run.pushed.map some = run.returned ++ queue.contents.map some ∧
    ∀ prev element, (prev, some element, false) ∈ queue.links ↔ (prev, element) ∈ run.pushing

theorem Spells.act {action : MpscqAction Element} (spells : run.Spells)
    (taken : run.act action = some run') : run'.Spells := by
  obtain ⟨queue, represents, valid, content, pushing⟩ := spells
  cases action with
  | exchange element =>
    obtain ⟨absent, rfl⟩ := Machine.guarded_taken taken
    have waiting : queue.contents = run.pushed.drop run.returned.length := by
      have behind := congrArg (List.drop run.returned.length) content
      rw [List.drop_left, ← List.map_drop] at behind
      exact (List.map_injective_iff.mpr (fun _ _ => Option.some.inj) behind).symm
    rw [← waiting] at absent
    obtain ⟨exchanged, prev⟩ := represents.exchange (mt Mpscq.mem_contents.mpr absent)
    refine ⟨_, exchanged, valid.exchange absent, ?_, fun source next => ?_⟩
    · rw [Mpscq.contents_exchange, List.map_append, List.map_append, content, List.append_assoc]
    · rw [Mpscq.links_exchange, List.mem_append, List.mem_singleton, pushing, List.mem_cons,
        or_comm, prev]
      simp [Mpscq.exchange]
  | link prev element =>
    obtain ⟨under, rfl⟩ := Option.ite_some_none_eq_some.mp taken
    refine ⟨_, represents.link valid.nodup ((pushing _ _).mpr under), valid.link element, ?_,
      fun source next => ?_⟩
    · rw [Mpscq.contents_link]
      exact content
    · rw [Mpscq.mem_links_link, pushing]
      simp
  | pop =>
    obtain rfl := Option.some.inj taken
    obtain ⟨popped, outcome⟩ := represents.popStep valid
    have pops := Mpscq.popStep_pops valid
    rw [← outcome] at pops
    refine ⟨_, popped, pops.valid valid, ?_, fun source next => pops.unlinked_iff.trans (pushing _ _)⟩
    dsimp only
    rw [content]
    rcases pops.contents with ⟨element, isNode, contents⟩ | ⟨noNode, contents⟩
    · rw [isNode, contents, PopOutcome.returned, List.map_cons, List.append_assoc]
      rfl
    · have nothing : (run.cells.popStep run.step).2.returned = [] := by
        cases same : (run.cells.popStep run.step).2 with
        | node node => exact absurd same (noNode node)
        | _ => rfl
      rw [nothing, contents, List.append_nil]

/-- Whatever the order of the atomic steps, nodes are returned in the order of the exchanges of
their pushes, each once and never the stub; and the queue is found empty only when everything has
been returned, or a push has not been linked yet. -/
theorem fifo {actions : List (MpscqAction Element)}
    (reach : Machine.Reach act {} actions run) :
    run.returned <+: run.pushed.map some ∧
      ((run.cells.popStep run.step).2 = .empty → run.pushing = [] →
        run.returned = run.pushed.map some) := by
  have initial : Spells ({} : MpscqRun Element) :=
    ⟨{}, MpscqCells.represents_init, Mpscq.valid_init, rfl, by simp [Mpscq.links, Mpscq.linksFrom]⟩
  obtain ⟨queue, represents, valid, content, pushing⟩ :=
    reach.invariant (fun spells _ taken => Spells.act spells taken) initial
  refine ⟨⟨_, content.symm⟩, fun isEmpty finished => ?_⟩
  have pops := Mpscq.popStep_pops valid
  rw [(represents.popStep valid).2.symm.trans isEmpty] at pops
  rcases (pops.of_empty valid).2 with nothing | ⟨element, unlinked⟩
  · rw [content, nothing, List.map_nil, List.append_nil]
  · rw [pushing, finished] at unlinked
    cases unlinked

/-- The consumer waits for the first push to be linked, and then returns what came after it too. -/
theorem fifo_linkedLate : ∃ run : MpscqRun Nat, run.returned = [some 1, some 2] ∧
    run.returned <+: run.pushed.map some := by
  obtain ⟨run, reach, returned⟩ := Machine.exists_reach act ({} : MpscqRun Nat)
    [.exchange 1, .exchange 2, .link (some 1) 2, .pop, .link none 1, .pop, .pop, .pop, .pop, .pop,
      .pop, .pop] (·.returned) [some 1, some 2] (by decide)
  exact ⟨run, returned, (fifo reach).1⟩

end MpscqRun

end GrpcCore.Gprpp
