import Roaming.Config
import Roaming.Proofs.RateSets

namespace Roaming

/-! What the check of a configuration finds, and what the station can rely on afterwards: the rates
of a configuration that passes are those that the station advertises. -/

namespace Config

/-- That a configuration really has a defect. -/
def Suffers (config : Config) : Defect → Prop
  | .zeroTimeout =>
      config.probeTimeoutMillis = 0 ∨ config.assocTimeoutMillis = 0
  | .zeroBeaconLimit => config.missedBeaconLimit = 0
  | .noRates => config.supportedRates = []
  | .rateOutOfRange rate =>
      (rate ∈ config.supportedRates ∨ rate ∈ config.requiredSelectors) ∧
        ¬(1 ≤ rate ∧ rate ≤ 127)
  | .basicRateUnsupported rate =>
      rate ∈ config.basicRates ∧ rate ∉ config.supportedRates
  | .htRequired => (config.vht = true ∨ config.he = true) ∧ config.ht = false

/-- What a configuration needs for a station to work by it. -/
structure Sound (config : Config) : Prop where
  probeTimeout : config.probeTimeoutMillis ≠ 0
  assocTimeout : config.assocTimeoutMillis ≠ 0
  beaconLimit : config.missedBeaconLimit ≠ 0
  someRate : config.supportedRates ≠ []
  rates : ∀ rate ∈ config.supportedRates, 1 ≤ rate ∧ rate ≤ 127
  selectors : ∀ selector ∈ config.requiredSelectors,
    1 ≤ selector ∧ selector ≤ 127
  basicRates : ∀ rate ∈ config.basicRates, rate ∈ config.supportedRates
  ht : config.vht = true ∨ config.he = true → config.ht = true

theorem rateInRange_iff {rate : UInt8} :
    rateInRange rate = true ↔ 1 ≤ rate ∧ rate ≤ 127 := by
  simp only [rateInRange, Bool.and_eq_true, bne_iff_ne, decide_eq_true_eq]
  refine and_congr_left fun _ => ?_
  rw [ne_eq, ← UInt8.toNat_inj, UInt8.le_iff_toNat_le, UInt8.toNat_zero,
    UInt8.toNat_one]
  omega

variable {config : Config}

private theorem Sound.spared (hsound : config.Sound) (defect : Defect) :
    ¬config.Suffers defect := by
  intro hsuffers
  cases defect with
  | zeroTimeout =>
      exact hsuffers.elim hsound.probeTimeout hsound.assocTimeout
  | zeroBeaconLimit => exact hsound.beaconLimit hsuffers
  | noRates => exact hsound.someRate hsuffers
  | rateOutOfRange rate =>
      obtain ⟨hlisted, hmisfit⟩ := hsuffers
      exact hmisfit (hlisted.elim (hsound.rates rate) (hsound.selectors rate))
  | basicRateUnsupported rate =>
      exact hsuffers.2 (hsound.basicRates rate hsuffers.1)
  | htRequired =>
      have hht := hsound.ht hsuffers.1
      rw [hsuffers.2] at hht
      cases hht

private theorem suffers_of_misfit? {rate : UInt8} (hmisfit : config.misfit? = some rate) :
    config.Suffers (.rateOutOfRange rate) := by
  have hout := List.find?_some hmisfit
  refine ⟨List.mem_append.mp (List.mem_of_find?_eq_some hmisfit), ?_⟩
  rw [Bool.not_eq_true'] at hout
  rw [← rateInRange_iff, hout]
  exact Bool.false_ne_true

private theorem inRange_of_misfit? (hmisfit : config.misfit? = none) {rate : UInt8}
    (hlisted : rate ∈ config.supportedRates ++ config.requiredSelectors) :
    1 ≤ rate ∧ rate ≤ 127 := by
  have hfits := List.find?_eq_none.mp hmisfit rate hlisted
  rw [Bool.not_eq_true', Bool.not_eq_false] at hfits
  exact rateInRange_iff.mp hfits

private theorem suffers_of_unsupportedBasic? {rate : UInt8}
    (hunsupported : config.unsupportedBasic? = some rate) :
    config.Suffers (.basicRateUnsupported rate) := by
  refine ⟨List.mem_of_find?_eq_some hunsupported, fun hsupported => ?_⟩
  have hout := List.find?_some hunsupported
  rw [List.contains_iff_mem.mpr hsupported] at hout
  cases hout

private theorem supported_of_unsupportedBasic?
    (hsupported : config.unsupportedBasic? = none) {rate : UInt8}
    (hbasic : rate ∈ config.basicRates) : rate ∈ config.supportedRates := by
  have hfound := List.find?_eq_none.mp hsupported rate hbasic
  rw [Bool.not_eq_true', Bool.not_eq_false] at hfound
  exact List.contains_iff_mem.mp hfound

/-- What the check finds is there, and what it lets through is sound. -/
theorem defect?_exact (config : Config) :
    config.defect?.elim config.Sound config.Suffers := by
  unfold defect?
  split
  · next htimeout => exact htimeout
  next htimeout =>
  split
  · next hlimit => exact hlimit
  next hlimit =>
  split
  · next hnone => exact hnone
  next hsome =>
  split
  · next rate hmisfit => exact suffers_of_misfit? hmisfit
  next hmisfit =>
  split
  · next rate hunsupported => exact suffers_of_unsupportedBasic? hunsupported
  next hsupported =>
  split
  · next hphy =>
      rw [Bool.and_eq_true, Bool.or_eq_true, Bool.not_eq_true'] at hphy
      exact hphy
  · next hphy =>
      obtain ⟨hprobe, hassoc⟩ := not_or.mp htimeout
      have hfits : ∀ rate ∈ config.supportedRates ++ config.requiredSelectors,
          1 ≤ rate ∧ rate ≤ 127 := fun _ => inRange_of_misfit? hmisfit
      refine ⟨hprobe, hassoc, hlimit, hsome,
        fun _ hrate => hfits _ (List.mem_append_left _ hrate),
        fun _ hselector => hfits _ (List.mem_append_right _ hselector),
        fun _ => supported_of_unsupportedBasic? hsupported, fun hnewer => ?_⟩
      rw [Bool.and_eq_true, Bool.or_eq_true, Bool.not_eq_true'] at hphy
      exact eq_true_of_ne_false fun hht => hphy ⟨hnewer, hht⟩

theorem defect?_eq_none_iff : config.defect? = none ↔ config.Sound := by
  have hexact := defect?_exact config
  cases hdefect : config.defect? with
  | none =>
      rw [hdefect] at hexact
      exact iff_of_true rfl hexact
  | some defect =>
      rw [hdefect] at hexact
      exact iff_of_false nofun fun hsound => hsound.spared defect hexact

private theorem Sound.rates_lt (hsound : config.Sound) :
    ∀ rate ∈ config.supportedRates, rate.toNat < 128 :=
  fun rate hrate => Nat.lt_succ_of_le (hsound.rates rate hrate).2

end Config

/-- A configuration passes the check exactly if it is sound.  If it does, then the rates that the
station advertises are its supported rates, one by one and none altered, and a rate counts as
supported or basic among them exactly if the configuration lists it as such. -/
theorem checked_rates_are_kept (config : Config) :
    (config.defect? = none ↔ config.Sound) ∧
    (config.defect? = none →
      config.rates.map Rate.units = config.supportedRates ∧
      (∀ rate, config.rates.supports rate = true ↔
        rate ∈ config.supportedRates) ∧
      ∀ rate, config.rates.requires rate = true ↔
        rate ∈ config.basicRates) := by
  refine ⟨Config.defect?_eq_none_iff, fun hpasses => ?_⟩
  have hsound := Config.defect?_eq_none_iff.mp hpasses
  refine ⟨RateSet.map_units_ofUnits.mpr hsound.rates_lt,
    RateSet.supports_ofUnits hsound.rates_lt, fun rate => ?_⟩
  apply (RateSet.requires_ofUnits hsound.rates_lt rate).trans
  exact and_iff_right_of_imp (hsound.basicRates rate)

theorem checked_rates_are_kept_sample :
    let config : Config :=
      { supportedRates := [24, 12, 24, 127], basicRates := [24, 24],
        requiredSelectors := [127], ht := true, vht := true }
    config.defect? = none ∧
      config.rates.map Rate.units = [24, 12, 24, 127] ∧
      config.rates.supports 127 = true ∧
      config.rates.requires 24 = true ∧
      config.rates.requires 127 = false := by
  intro config
  have hpasses : config.defect? = none := by decide
  obtain ⟨hrates, hsupports, hrequires⟩ :=
    (checked_rates_are_kept config).2 hpasses
  refine ⟨hpasses, hrates, (hsupports 127).mpr (by decide),
    (hrequires 24).mpr (by decide), ?_⟩
  exact eq_false_of_ne_true fun hbasic =>
    absurd ((hrequires 127).mp hbasic) (by decide)

end Roaming
