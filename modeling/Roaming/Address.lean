namespace Roaming

/-! Interface addresses.  The first octet sent is the highest. -/

structure MacAddr where
  bits : BitVec 48
deriving DecidableEq

namespace MacAddr

def broadcast : MacAddr := ⟨BitVec.allOnes 48⟩

def null : MacAddr := ⟨0#48⟩

/-- A group address has the lowest bit of its first octet set. -/
def isGroup (address : MacAddr) : Bool :=
  address.bits.getLsbD 40

@[simp] theorem isGroup_broadcast : broadcast.isGroup = true := by decide

@[simp] theorem isGroup_null : null.isGroup = false := by decide

end MacAddr

end Roaming
