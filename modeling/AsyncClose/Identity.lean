/-!
Who blocks on what: descriptors and threads, as far as a registry needs to know them, and the
identities of guards. All three are only ever compared.

An identity packs the slot a guard occupies and the generation of that slot into one 64-bit word,
so that a slot used again gives a different identity.
-/

namespace AsyncClose

/-- What a thread blocks on: one of the descriptors the process holds open, by position, or a
number nothing is open under. -/
inductive Descriptor
  | opened (index : Nat)
  | raw (number : Int)
  deriving DecidableEq

structure Thread where
  label : Int
  deriving DecidableEq

namespace Descriptor

/-- The descriptor in writing: the position after an `s`, or the number. -/
def text : Descriptor → String
  | opened k => "s" ++ toString k
  | raw n => toString n

end Descriptor

namespace Thread

def text (t : Thread) : String := "T" ++ toString t.label

end Thread

/-- The identity of one blocking episode: slot in the low half of the word, generation in the
high half. -/
structure GuardId where
  bits : UInt64
  deriving DecidableEq

namespace GuardId

def pack (slot generation : UInt32) : GuardId :=
  ⟨(generation.toUInt64 <<< 32) ||| slot.toUInt64⟩

def slot (id : GuardId) : UInt32 := (id.bits &&& 0xFFFFFFFF).toUInt32

def generation (id : GuardId) : UInt32 := (id.bits >>> 32).toUInt32

def text (id : GuardId) : String :=
  "GuardId(" ++ toString id.slot.toNat ++ "v" ++ toString id.generation.toNat ++ ")"

end GuardId

end AsyncClose
