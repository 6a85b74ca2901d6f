import FleetOperator.Json.Printer
import FleetOperator.Text.Utf8

/-!
# Content hashes

FNV-1a over bytes, in words of 64 bits: a byte is xored into the state, which is then multiplied
by an odd prime. Both halves of a step are one-to-one on the state, so two texts that differ in
one byte never collide. A hash is written in decimal, as it stands in an annotation.
-/

namespace FleetOperator.Hash

/-- The state before the first byte. -/
def offset : UInt64 := 0xcbf29ce484222325

/-- The multiplier of a step. -/
def prime : UInt64 := 0x100000001b3

/-- Takes one byte into the state. -/
def step (state : UInt64) (byte : UInt8) : UInt64 := (state ^^^ byte.toUInt64) * prime

/-- The hash of bytes. -/
def fnv1a (bytes : List UInt8) : UInt64 := bytes.foldl step offset

/-- The hash of a text, in decimal. -/
def ofText (s : String) : String := toString (fnv1a (Text.bytes s)).toNat

/-- The hash of a document: that of its compact text. -/
def ofJson (value : Json) : String := ofText value.text

end FleetOperator.Hash
