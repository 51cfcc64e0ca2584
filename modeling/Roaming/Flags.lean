namespace Roaming

/-! Sets of named flags kept in a machine word. -/

class Flag (F : Type) where
  width : Nat
  /-- Every flag, in the order in which a set lists its members. -/
  all : List F
  bit : F → Nat
  name : F → String

structure Flags (F : Type) [Flag F] where
  bits : BitVec (Flag.width F)

namespace Flags

variable {F : Type} [Flag F]

@[ext] theorem ext {first second : Flags F}
    (h : first.bits = second.bits) : first = second := by
  cases first
  cases second
  cases h
  rfl

instance : DecidableEq (Flags F) := fun first second =>
  if h : first.bits = second.bits then .isTrue (ext h)
  else .isFalse fun heq => h (congrArg Flags.bits heq)

def empty : Flags F := ⟨0#(Flag.width F)⟩

def single (flag : F) : Flags F :=
  ⟨BitVec.twoPow (Flag.width F) (Flag.bit flag)⟩

def union (first second : Flags F) : Flags F :=
  ⟨first.bits ||| second.bits⟩

def inter (first second : Flags F) : Flags F :=
  ⟨first.bits &&& second.bits⟩

def diff (first second : Flags F) : Flags F :=
  ⟨first.bits &&& ~~~second.bits⟩

def ofList (flags : List F) : Flags F :=
  flags.foldl (fun set flag => set.union (single flag)) empty

def all : Flags F := ofList (Flag.all (F := F))

def complement (set : Flags F) : Flags F :=
  all.diff set

def has (set : Flags F) (flag : F) : Bool :=
  set.bits.getLsbD (Flag.bit flag)

def assign (set : Flags F) (flag : F) (on : Bool) : Flags F :=
  if on then set.union (single flag) else set.diff (single flag)

def contains (set part : Flags F) : Bool :=
  decide (set.inter part = part)

/-- Bits that no flag names are cleared. -/
def ofBits (bits : BitVec (Flag.width F)) : Flags F :=
  inter ⟨bits⟩ all

/-- Refuses a word with a bit that no flag names. -/
def ofBits? (bits : BitVec (Flag.width F)) : Option (Flags F) :=
  if (ofBits bits : Flags F).bits = bits then some ⟨bits⟩ else none

def toList (set : Flags F) : List F :=
  (Flag.all (F := F)).filter set.has

def names (set : Flags F) : List String :=
  set.toList.map Flag.name

def text (set : Flags F) : String :=
  match set.names with
  | [] => "(empty)"
  | names => " | ".intercalate names

end Flags

end Roaming
