import Roaming.Frame.Mcs

namespace Roaming

/-! The words that hold modulation and coding schemes are the finite sets of the numbers below 128.
Larger numbers belong to none, and no bit is looked for beyond the word. -/

namespace McsSet

section Contains

variable {set first second : McsSet} {index : UInt8}

theorem lt_of_contains (hcontains : set.contains index = true) : index < 128 :=
  of_decide_eq_true (Bool.and_eq_true_iff.mp hcontains).1

theorem contains_ofNat (set : McsSet) {bit : Nat} (hbit : bit < 128) :
    set.contains (UInt8.ofNat bit) = set.bits.getLsbD bit := by
  have hindex : (UInt8.ofNat bit).toNat = bit :=
    UInt8.toNat_ofNat_of_lt' (Nat.lt_trans hbit (by decide))
  have hbelow : UInt8.ofNat bit < 128 := by
    rw [UInt8.lt_iff_toNat_lt, hindex]
    exact hbit
  rw [contains, decide_eq_true hbelow, Bool.true_and, hindex]

/-- A set is determined by what it contains. -/
theorem ext_contains
    (hsame : ∀ index, first.contains index = second.contains index) :
    first = second := by
  have hbits : first.bits = second.bits := by
    apply BitVec.eq_of_getLsbD_eq
    intro bit hbit
    rw [← contains_ofNat first hbit, ← contains_ofNat second hbit, hsame]
  cases first
  exact congrArg McsSet.mk hbits

@[simp] theorem contains_empty (index : UInt8) :
    empty.contains index = false := by
  simp [contains, empty]

theorem contains_insert (set : McsSet) (listed index : UInt8) :
    (set.insert listed).contains index = true ↔
      set.contains index = true ∨ index < 128 ∧ index = listed := by
  unfold insert contains
  split
  · next hlisted =>
      by_cases hindex : index < 128
      · have hbound : index.toNat < 128 := hindex
        have hsame : index.toNat = listed.toNat ↔ index = listed :=
          UInt8.toNat_inj
        simp [hindex, hbound, hsame]
      · simp [hindex]
  · next hlisted =>
      refine ⟨.inl, ?_⟩
      rintro (hbefore | ⟨hindex, rfl⟩)
      · exact hbefore
      · exact absurd hindex hlisted

theorem contains_inserts (set : McsSet) (indices : List UInt8)
    (index : UInt8) : (indices.foldl insert set).contains index = true ↔
      set.contains index = true ∨ index < 128 ∧ index ∈ indices := by
  -- The induction is along the list, so the set that it is added to has to vary.
  induction indices generalizing set with
  | nil => simp
  | cons listed indices ih =>
      rw [List.foldl_cons, ih, contains_insert, List.mem_cons, and_or_left,
        or_assoc]

/-- A set has the numbers listed, of those below 128. -/
theorem contains_ofList (indices : List UInt8) (index : UInt8) :
    (ofList indices).contains index = true ↔
      index < 128 ∧ index ∈ indices := by
  rw [ofList, contains_inserts]
  simp

theorem contains_inter (first second : McsSet) (index : UInt8) :
    (first.inter second).contains index =
      (first.contains index && second.contains index) := by
  simp only [contains, inter, BitVec.getLsbD_and]
  cases decide (index < 128) <;> rfl

@[simp] theorem empty_inter (set : McsSet) :
    empty.inter set = empty := by
  simp [empty, inter]

@[simp] theorem inter_self (set : McsSet) : set.inter set = set := by
  simp [inter]

theorem mem_of_contains_inter {indices : List UInt8} {peer : McsSet}
    {index : UInt8}
    (hindex : ((ofList indices).inter peer).contains index = true) :
    index ∈ indices := by
  rw [contains_inter, Bool.and_eq_true] at hindex
  exact ((contains_ofList indices index).mp hindex.1).2

end Contains

section Shifts

/-- The word with just one bit set, if it has that bit. -/
def bit? (index : UInt8) : Option (BitVec 128) :=
  if index < 128 then some (1#128 <<< index.toNat) else none

def setBit? (set : McsSet) (index : UInt8) : Option McsSet :=
  (bit? index).map fun bit => ⟨set.bits ||| bit⟩

def testBit? (set : McsSet) (index : UInt8) : Option Bool :=
  (bit? index).map fun bit => set.bits &&& bit != 0#128

variable (set : McsSet) (index : UInt8)

theorem insert_eq_setBit? : some (set.insert index) =
    if index < 128 then set.setBit? index else some set := by
  unfold insert
  split
  · next hindex =>
      rw [setBit?, bit?, if_pos hindex, BitVec.twoPow_eq, Option.map_some]
  · rfl

theorem and_shift_ne_zero (word : BitVec 128) {bit : Nat} (hbit : bit < 128) :
    (word &&& 1#128 <<< bit != 0#128) = word.getLsbD bit := by
  have hset : BitVec.twoPow 128 bit ≠ 0#128 := by
    intro hzero
    have hclear := congrArg (BitVec.getLsbD · bit) hzero
    rw [BitVec.getLsbD_zero, BitVec.getLsbD_twoPow] at hclear
    simp [hbit] at hclear
  rw [← BitVec.twoPow_eq, BitVec.and_twoPow]
  cases word.getLsbD bit with
  | false => rfl
  | true => exact bne_iff_ne.mpr hset

theorem contains_eq_testBit? : some (set.contains index) =
    if index < 128 then set.testBit? index else some false := by
  unfold contains
  split
  · next hindex =>
      rw [testBit?, bit?, if_pos hindex, Option.map_some,
        and_shift_ne_zero set.bits (UInt8.lt_iff_toNat_lt.mp hindex),
        decide_eq_true hindex, Bool.true_and]
  · next hindex => rw [decide_eq_false hindex, Bool.false_and]

end Shifts

section ToList

variable (set : McsSet)

theorem mem_toList {index : UInt8} :
    index ∈ set.toList ↔ set.contains index = true := by
  rw [toList, List.mem_filter, and_iff_right_iff_imp]
  intro hcontains
  have hindex := UInt8.lt_iff_toNat_lt.mp (lt_of_contains hcontains)
  exact List.mem_map.mpr
    ⟨index.toNat, List.mem_range.mpr hindex, UInt8.ofNat_toNat⟩

theorem pairwise_toList : set.toList.Pairwise (· < ·) := by
  apply List.Pairwise.filter
  rw [List.pairwise_map]
  apply List.pairwise_lt_range.imp_of_mem
  intro first second hfirst hsecond hless
  have hbound {bit : Nat} (hbit : bit ∈ List.range 128) : bit < 256 :=
    Nat.lt_trans (List.mem_range.mp hbit) (by decide)
  rw [UInt8.lt_iff_toNat_lt, UInt8.toNat_ofNat_of_lt' (hbound hfirst),
    UInt8.toNat_ofNat_of_lt' (hbound hsecond)]
  exact hless

theorem ofList_toList : ofList set.toList = set := by
  apply ext_contains
  intro index
  rw [Bool.eq_iff_iff, contains_ofList, mem_toList, and_iff_right_iff_imp]
  exact lt_of_contains

theorem isEmpty_iff : set.isEmpty = true ↔ set.toList = [] := by
  rw [isEmpty, beq_iff_eq]
  constructor
  · intro hbits
    rw [List.eq_nil_iff_forall_not_mem]
    intro index hindex
    rw [mem_toList, contains, hbits] at hindex
    simp at hindex
  · intro hnone
    have hempty := set.ofList_toList
    rw [hnone] at hempty
    exact congrArg bits hempty.symm

end ToList

end McsSet

/-- Whatever is listed and inserted, a set contains exactly those of the numbers that are below 128;
larger ones are passed over, and no shift goes beyond the word.  Two sets have in common what both
contain.  A set lists what it contains in ascending order, is empty if it lists nothing, and is made
again from its own list. -/
theorem words_are_index_sets (set : McsSet) :
    (∀ listed inserted : List UInt8, ∀ index,
      (inserted.foldl McsSet.insert (.ofList listed)).contains index = true ↔
        index < 128 ∧ (index ∈ listed ∨ index ∈ inserted)) ∧
    (∀ index, some (set.insert index) =
      if index < 128 then set.setBit? index else some set) ∧
    (∀ index, some (set.contains index) =
      if index < 128 then set.testBit? index else some false) ∧
    (∀ other index, (set.inter other).contains index = true ↔
      set.contains index = true ∧ other.contains index = true) ∧
    (∀ index, index ∈ set.toList ↔ set.contains index = true) ∧
    set.toList.Pairwise (· < ·) ∧
    (set.isEmpty = true ↔ set.toList = []) ∧
    McsSet.ofList set.toList = set := by
  refine ⟨fun listed inserted index => ?_, set.insert_eq_setBit?,
    set.contains_eq_testBit?, fun other index => ?_, fun _ => set.mem_toList,
    set.pairwise_toList, set.isEmpty_iff, set.ofList_toList⟩
  · rw [McsSet.contains_inserts, McsSet.contains_ofList, ← and_or_left]
  · rw [McsSet.contains_inter, Bool.and_eq_true]

end Roaming
