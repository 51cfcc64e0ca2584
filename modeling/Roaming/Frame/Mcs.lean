namespace Roaming

/-! Sets of modulation and coding schemes, numbered below 128. -/

structure McsSet where
  bits : BitVec 128
deriving DecidableEq

namespace McsSet

def empty : McsSet := ⟨0#128⟩

/-- Numbers from 128 on are ignored. -/
def insert (set : McsSet) (index : UInt8) : McsSet :=
  if index < 128 then ⟨set.bits ||| BitVec.twoPow 128 index.toNat⟩ else set

def ofList (indices : List UInt8) : McsSet :=
  indices.foldl insert empty

def contains (set : McsSet) (index : UInt8) : Bool :=
  index < 128 && set.bits.getLsbD index.toNat

def inter (first second : McsSet) : McsSet :=
  ⟨first.bits &&& second.bits⟩

def isEmpty (set : McsSet) : Bool :=
  set.bits == 0#128

def toList (set : McsSet) : List UInt8 :=
  ((List.range 128).map UInt8.ofNat).filter set.contains

end McsSet

end Roaming
