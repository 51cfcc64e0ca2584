import Roaming.Frame.Rate

namespace Roaming

/-! Rates packed into one octet with the bit that marks basic ones, and sets of them.  A rate below
128 is found again as it was packed; of any other the top bit is lost. -/

namespace Rate

theorem units_withBasic (rate : Rate) (basic : Bool) :
    (rate.withBasic basic).units = rate.units := by
  have hbit : (if basic then basicBit else 0) &&& unitMask = 0 := by
    cases basic <;> rfl
  apply UInt8.toBitVec_inj.mp
  have hbits := congrArg UInt8.toBitVec hbit
  simp only [units, withBasic, UInt8.toBitVec_and, UInt8.toBitVec_or,
    BitVec.and_or_distrib_right, BitVec.and_assoc, BitVec.and_self] at hbits ⊢
  rw [hbits]
  exact BitVec.or_zero

theorem isBasic_withBasic (rate : Rate) (basic : Bool) :
    (rate.withBasic basic).isBasic = basic := by
  have hapart : unitMask &&& basicBit = 0 := rfl
  have hflag : (if basic then basicBit else 0) &&& basicBit =
      if basic then basicBit else 0 := by
    cases basic <;> rfl
  have hbits := congrArg UInt8.toBitVec hapart
  have hmarked : (rate.withBasic basic).octet &&& basicBit =
      if basic then basicBit else 0 := by
    rw [← hflag]
    apply UInt8.toBitVec_inj.mp
    simp only [withBasic, UInt8.toBitVec_and, UInt8.toBitVec_or,
      BitVec.and_or_distrib_right, BitVec.and_assoc] at hbits ⊢
    rw [hbits]
    simp
  unfold isBasic
  rw [hmarked]
  cases basic <;> rfl

theorem units_lt (rate : Rate) : rate.units.toNat < 128 := by
  unfold units
  rw [UInt8.toNat_and]
  exact Nat.lt_succ_of_le Nat.and_le_right

theorem units_ofUnits {units : UInt8} (hunits : units.toNat < 128)
    (basic : Bool) : (ofUnits units basic).units = units := by
  have hmasked : units &&& unitMask = units := by
    apply UInt8.toNat_inj.mp
    rw [UInt8.toNat_and]
    exact (Nat.and_two_pow_sub_one_eq_mod units.toNat 7).trans
      (Nat.mod_eq_of_lt hunits)
  unfold ofUnits
  rw [units_withBasic]
  simp [Rate.units, withUnits, hmasked]

theorem isBasic_ofUnits (units : UInt8) (basic : Bool) :
    (ofUnits units basic).isBasic = basic :=
  isBasic_withBasic _ basic

end Rate

namespace RateSet

section Queries

variable {rates : RateSet} {units : UInt8}

theorem supports_iff :
    rates.supports units = true ↔ ∃ rate ∈ rates, rate.units = units := by
  simp [supports]

theorem requires_iff : rates.requires units = true ↔
    ∃ rate ∈ rates, rate.units = units ∧ rate.isBasic = true := by
  simp [requires]

theorem advertises_iff : rates.advertises units = true ↔
    ∃ rate ∈ rates, rate.units = units ∧ rate.isBasic = true :=
  requires_iff

theorem supports_of_requires (hrequires : rates.requires units = true) :
    rates.supports units = true := by
  obtain ⟨rate, hrate, hunits, _⟩ := requires_iff.mp hrequires
  exact supports_iff.mpr ⟨rate, hrate, hunits⟩

theorem lt_of_requires (hrequires : rates.requires units = true) :
    units.toNat < 128 := by
  obtain ⟨rate, _, rfl, _⟩ := requires_iff.mp hrequires
  exact rate.units_lt

end Queries

theorem advertises_single {selector : UInt8}
    (hselector : selector.toNat < 128) (other : UInt8) :
    RateSet.advertises [Rate.ofUnits selector true] other = true ↔
      selector = other := by
  rw [advertises_iff]
  have hunits := Rate.units_ofUnits hselector true
  constructor
  · rintro ⟨rate, hrate, hother, _⟩
    rw [List.mem_singleton.mp hrate, hunits] at hother
    exact hother
  · intro hsame
    exact ⟨_, List.mem_singleton_self _, hunits.trans hsame,
      Rate.isBasic_ofUnits selector true⟩

section OfUnits

variable {units basic : List UInt8}

/-- Exactly the rates that fit into seven bits survive the packing. -/
theorem map_units_ofUnits : (ofUnits units basic).map Rate.units = units ↔
    ∀ rate ∈ units, rate.toNat < 128 := by
  rw [ofUnits, List.map_map]
  constructor
  · intro hsame rate hrate
    rw [← hsame] at hrate
    obtain ⟨packed, _, rfl⟩ := List.mem_map.mp hrate
    exact Rate.units_lt _
  · intro hfit
    have hkept : ∀ rate ∈ units, (Rate.units ∘ fun rate =>
        Rate.ofUnits rate (basic.contains rate)) rate = rate :=
      fun rate hrate => Rate.units_ofUnits (hfit rate hrate) _
    exact (List.map_congr_left hkept).trans (List.map_id' units)

theorem supports_ofUnits (hfit : ∀ rate ∈ units, rate.toNat < 128)
    (rate : UInt8) :
    (ofUnits units basic).supports rate = true ↔ rate ∈ units := by
  rw [supports_iff, ← List.mem_map, map_units_ofUnits.mpr hfit]

theorem requires_ofUnits (hfit : ∀ rate ∈ units, rate.toNat < 128)
    (rate : UInt8) : (ofUnits units basic).requires rate = true ↔
      rate ∈ units ∧ rate ∈ basic := by
  rw [requires_iff]
  constructor
  · rintro ⟨packed, hpacked, hunits, hbasic⟩
    obtain ⟨listed, hlisted, rfl⟩ := List.mem_map.mp hpacked
    rw [Rate.units_ofUnits (hfit listed hlisted)] at hunits
    rw [Rate.isBasic_ofUnits, hunits] at hbasic
    exact ⟨hunits ▸ hlisted, List.contains_iff_mem.mp hbasic⟩
  · rintro ⟨hrate, hbasic⟩
    refine ⟨_, List.mem_map_of_mem hrate,
      Rate.units_ofUnits (hfit rate hrate) _, ?_⟩
    rw [Rate.isBasic_ofUnits]
    exact List.contains_iff_mem.mpr hbasic

end OfUnits

end RateSet

end Roaming
