import GrpcCore.Hpack.Metadata

/-!
# The parser's dynamic table

`HPackTable`: a ring of parsed entries with `uint32_t` accounting. Assertions
of the source are errors here.
-/

namespace GrpcCore.Hpack

structure HPackTable where
  firstEntry : Nat := 0
  numEntries : Nat := 0
  memUsed : Nat := 0
  maxBytes : Nat := kInitialTableSize
  currentTableBytes : Nat := kInitialTableSize
  maxEntries : Nat := kInitialTableEntries
  entries : List Memento := List.replicate kInitialTableEntries (.empty 0)
deriving DecidableEq

namespace HPackTable

def capacity (table : HPackTable) : Nat := table.entries.length

def slot (table : HPackTable) (offset : Nat) : Memento := table.entries.getD offset (.empty 0)

def lookupDynamic (table : HPackTable) (index : Nat) : Option Memento :=
  let tblIndex := index - (kLastStaticEntry + 1)
  if tblIndex < table.numEntries then
    some (table.slot
      ((table.numEntries - 1 - tblIndex + table.firstEntry) % table.capacity))
  else none

/-- Index 0 never reaches this function: each op code that would carry it is a
literal key or illegal. -/
def lookup (table : HPackTable) (index : Nat) : Option Memento :=
  if index ≤ kLastStaticEntry then staticMementos[index - 1]? else table.lookupDynamic index

def evictOne (table : HPackTable) : Except HPackError HPackTable :=
  let firstEntry := table.slot table.firstEntry
  if firstEntry.transportSize ≤ table.memUsed then
    .ok { table with
      entries := table.entries.set table.firstEntry firstEntry.movedFrom
      memUsed := table.memUsed - firstEntry.transportSize
      firstEntry := (table.firstEntry + 1) % table.capacity
      numEntries := (table.numEntries + 4294967295) % 4294967296 }
  else .error .assertionFailed

/-- The source's eviction loops. A stored entry is at least the overhead in
size, so the memory in use bounds the number of turns. -/
def evictWhile (tooFull : HPackTable → Bool) : Nat → HPackTable → Except HPackError HPackTable
  | 0, table => .ok table
  | turns + 1, table =>
    if tooFull table then do
      let table ← table.evictOne
      evictWhile tooFull turns table
    else .ok table

def rebuild (table : HPackTable) (newCap : Nat) : HPackTable :=
  let moved := (List.range table.numEntries).map fun i =>
    table.slot ((table.firstEntry + i) % table.capacity)
  { table with
    firstEntry := 0
    entries := moved ++ List.replicate (newCap - table.numEntries) (.empty 0) }

def setMaxBytes (table : HPackTable) (maxBytes : Nat) : Except HPackError HPackTable :=
  if table.maxBytes = maxBytes then .ok table
  else do
    let table ← evictWhile (fun t => t.memUsed > maxBytes) table.memUsed table
    return { table with maxBytes }

/-- Grow the ring to what the new size may need, or shrink it when it is more
than three times too large. -/
def resizeRing (table : HPackTable) : HPackTable :=
  if table.maxEntries > table.capacity then table.rebuild table.maxEntries
  else if table.maxEntries < table.capacity / 3 then
    let newCap := max table.maxEntries kInitialTableEntries
    if newCap ≠ table.capacity then table.rebuild newCap else table
  else table

def setCurrentTableSize (table : HPackTable) (bytes : Nat) : Except HPackError HPackTable :=
  if table.currentTableBytes = bytes then .ok table
  else if bytes > table.maxBytes then .error (.tableSizeAboveMax bytes table.maxBytes)
  else do
    let table ← evictWhile (fun t => t.memUsed > bytes) table.memUsed table
    return resizeRing
      { table with currentTableBytes := bytes, maxEntries := entriesForBytes bytes }

/-- The copy at the end of `Add`, once there is room. -/
def append (table : HPackTable) (md : Memento) : HPackTable :=
  { table with
    memUsed := (table.memUsed + md.transportSize) % 4294967296
    entries := table.entries.set ((table.firstEntry + table.numEntries) % table.capacity) md
    numEntries := (table.numEntries + 1) % 4294967296 }

/-- An entry larger than the table empties it and is not an error. -/
def add (table : HPackTable) (md : Memento) : Except HPackError HPackTable :=
  if table.currentTableBytes > table.maxBytes then
    .error (.tableSizeNotReflected table.maxBytes table.currentTableBytes)
  else if md.transportSize > table.currentTableBytes then
    evictWhile (fun t => t.numEntries ≠ 0) table.numEntries table
  else do
    -- the room left is a `size_t` subtraction
    let table ← evictWhile
      (fun t => md.transportSize >
        (t.currentTableBytes + 18446744073709551616 - t.memUsed) % 18446744073709551616)
      table.memUsed table
    return table.append md

end HPackTable

end GrpcCore.Hpack
