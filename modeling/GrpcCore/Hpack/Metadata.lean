import Mathlib

/-!
# Header fields

Header fields as the compressor and the parser exchange them, the 61 entries of
the static table, the parsed form kept in dynamic tables, and the metadata
batch that receives what a block emits.
-/

namespace GrpcCore.Hpack

abbrev Bytes := List UInt8

/-- The bytes of an ASCII literal. -/
def ascii (text : String) : Bytes := text.toList.map fun char => char.toNat.toUInt8

inductive HPackError where
  | integerOverflow (value : Nat) (lastByte : UInt8)
  | illegalBase64
  | illegalOpCode
  | tooManyTableSizeChanges
  | invalidIndex (index numEntries : Nat)
  | tableSizeAboveMax (bytes maxBytes : Nat)
  | tableSizeNotReflected (maxBytes currentTableBytes : Nat)
  | metadataSizeExceedsLimit
  | duplicateMetadata (key value : Bytes)
  | incompleteHeader
  | assertionFailed
deriving DecidableEq

structure Header where
  key : Bytes
  value : Bytes
deriving DecidableEq

/-- `grpc_key_is_binary_header`: at least five bytes, the last four `-bin`. -/
def isBinaryHeader (key : Bytes) : Bool :=
  5 ≤ key.length && key.drop (key.length - 4) == ascii "-bin"

def kEntryOverhead : Nat := 32
def kInitialTableSize : Nat := 4096
def kLastStaticEntry : Nat := 61

/-- `uint32_t` arithmetic: the sum wraps for sizes close to `2 ^ 32`. -/
def entriesForBytes (bytes : Nat) : Nat :=
  (bytes + (kEntryOverhead - 1)) % 4294967296 / kEntryOverhead

def kInitialTableEntries : Nat := entriesForBytes kInitialTableSize

/-- `ParsedMetadata`. A default-constructed or moved-from value is empty; a move
leaves the size behind. -/
inductive Memento where
  | empty (transportSize : Nat)
  | elem (key value : Bytes)
deriving DecidableEq

namespace Memento

def transportSize : Memento → Nat
  | .empty size => size
  | .elem key value => (key.length + value.length + kEntryOverhead) % 4294967296

def isBinary : Memento → Bool
  | .empty _ => false
  | .elem key _ => isBinaryHeader key

def withNewValue : Memento → Bytes → Memento
  | .empty _, _ => .empty 0
  | .elem key _, value => .elem key value

def movedFrom (md : Memento) : Memento := .empty md.transportSize

end Memento

/-- The first 61 entries of `g_static_mdelem_table`. -/
def staticTable : List (String × String) := [
    (":authority", ""), (":method", "GET"), (":method", "POST"), (":path", "/"),
    (":path", "/index.html"), (":scheme", "http"), (":scheme", "https"), (":status", "200"),
    (":status", "204"), (":status", "206"), (":status", "304"), (":status", "400"),
    (":status", "404"), (":status", "500"), ("accept-charset", ""),
    ("accept-encoding", "gzip, deflate"), ("accept-language", ""), ("accept-ranges", ""),
    ("accept", ""), ("access-control-allow-origin", ""), ("age", ""), ("allow", ""),
    ("authorization", ""), ("cache-control", ""), ("content-disposition", ""),
    ("content-encoding", ""), ("content-language", ""), ("content-length", ""),
    ("content-location", ""), ("content-range", ""), ("content-type", ""), ("cookie", ""),
    ("date", ""), ("etag", ""), ("expect", ""), ("expires", ""), ("from", ""), ("host", ""),
    ("if-match", ""), ("if-modified-since", ""), ("if-none-match", ""), ("if-range", ""),
    ("if-unmodified-since", ""), ("last-modified", ""), ("link", ""), ("location", ""),
    ("max-forwards", ""), ("proxy-authenticate", ""), ("proxy-authorization", ""),
    ("range", ""), ("referer", ""), ("refresh", ""), ("retry-after", ""), ("server", ""),
    ("set-cookie", ""), ("strict-transport-security", ""), ("transfer-encoding", ""),
    ("user-agent", ""), ("vary", ""), ("via", ""), ("www-authenticate", "")]

def staticMementos : List Memento :=
  staticTable.map fun entry => .elem (ascii entry.1) (ascii entry.2)

def callouts : List Bytes := [
    ":path", ":method", ":status", ":authority", ":scheme", "grpc-message", "grpc-status",
    "grpc-payload-bin", "grpc-encoding", "grpc-accept-encoding", "grpc-server-stats-bin",
    "grpc-tags-bin", "grpc-trace-bin", "content-type", "content-encoding", "accept-encoding",
    "grpc-internal-encoding-request", "grpc-internal-stream-encoding-request", "user-agent",
    "host", "grpc-previous-rpc-attempts", "grpc-retry-pushback-ms",
    "x-endpoint-load-metrics-bin"].map ascii

/-- What has been set on a batch, in order. -/
structure MetadataBatch where
  received : List Memento := []
deriving DecidableEq

namespace MetadataBatch

def keys (batch : MetadataBatch) : List Bytes :=
  batch.received.filterMap fun
    | .empty _ => none
    | .elem key _ => some key

def linkCallout (batch : MetadataBatch) (key value : Bytes) : Except HPackError Unit :=
  if key ∈ callouts ∧ key ∈ batch.keys then .error (.duplicateMetadata key value) else .ok ()

def set (batch : MetadataBatch) (md : Memento) : Except HPackError MetadataBatch := do
  match md with
  | .empty _ => pure ()
  | .elem key value => batch.linkCallout key value
  return { batch with received := batch.received ++ [md] }

end MetadataBatch

end GrpcCore.Hpack
