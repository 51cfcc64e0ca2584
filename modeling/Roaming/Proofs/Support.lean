import Roaming.Proofs.Adoptions

namespace Roaming

/-! What a station has in common with a network never goes beyond what it supports itself. -/

namespace Capabilities

/-- What a station has in common with a network is what it supports, or less. -/
structure Within (config : Config) (capabilities : Capabilities) : Prop extends
    Spared config capabilities where
  rates : capabilities.rates.Sublist config.supportedRates
  basicRates : ∀ rate ∈ capabilities.basicRates, rate ∈ config.supportedRates
  shortPreamble : capabilities.shortPreamble = true →
    config.shortPreamble = true
  shortSlots : capabilities.shortSlots = true → config.shortSlots = true
  qosByEdca : capabilities.qos = true ↔ capabilities.edca.isSome = true
  ownHt : ∀ index, capabilities.htMcs.contains index = true →
    index ∈ config.htMcs
  ownVht : ∀ index, capabilities.vhtMcs.contains index = true →
    index ∈ config.vhtMcs
  ownHe : ∀ index, capabilities.heMcs.contains index = true →
    index ∈ config.heMcs
  rifsWithoutVht : capabilities.rifsPermitted = true → config.vht = false

variable {config : Config} {capabilities : Capabilities}

private theorem within_start (config : Config) : Within config {} where
  toSpared := spared_start config
  rates := List.nil_sublist _
  basicRates := by simp
  shortPreamble := nofun
  shortSlots := nofun
  qosByEdca := by simp
  ownHt := by simp
  ownVht := by simp
  ownHe := by simp
  rifsWithoutVht := nofun

section Equations

variable (capabilities : Capabilities) (config : Config)
  (adoption : Adoption)

@[simp] theorem rates_adopt :
    (capabilities.adopt config adoption).rates =
      commonRates config adoption.body := by
  cases adoption <;>
    simp [adopt, adoptBeacon, adoptResponse, adoptElements]

@[simp] theorem basicRates_adopt :
    (capabilities.adopt config adoption).basicRates =
      if adoption.isBeacon then capabilities.basicRates
      else (commonRates config adoption.body).filter
        adoption.body.rates.requires := by
  cases adoption <;>
    simp [adopt, adoptBeacon, adoptResponse, adoptElements]

@[simp] theorem shortPreamble_adopt :
    (capabilities.adopt config adoption).shortPreamble =
      preambleOf config adoption.body (config.erp &&
        (adoption.isBeacon || offersOfdm adoption.body)) := by
  cases adoption <;>
    simp [adopt, adoptBeacon, adoptResponse, adoptElements]

@[simp] theorem qos_adopt :
    (capabilities.adopt config adoption).qos =
      if config.qos then adoption.body.edca.isSome else capabilities.qos := by
  cases adoption <;>
    simp [adopt, adoptBeacon, adoptResponse, adoptElements]

@[simp] theorem edca_adopt :
    (capabilities.adopt config adoption).edca =
      if config.qos then adoption.body.edca else capabilities.edca := by
  cases adoption <;>
    simp [adopt, adoptBeacon, adoptResponse, adoptElements]

@[simp] theorem htMcs_adopt :
    (capabilities.adopt config adoption).htMcs =
      if config.ht then
        if adoption.body.speaksHt then
          (McsSet.ofList config.htMcs).inter (adoption.body.ht.getD {}).mcs
        else .empty
      else capabilities.htMcs := by
  cases adoption <;>
    simp only [adopt, adoptBeacon, adoptResponse, adoptElements, adoptQos_eq,
      adoptHt_eq, adoptVht_eq, adoptHe_eq, Adoption.body] <;> rfl

@[simp] theorem heMcs_adopt :
    (capabilities.adopt config adoption).heMcs =
      if config.he then
        (McsSet.ofList config.heMcs).inter (adoption.body.he.getD {}).mcs
      else capabilities.heMcs := by
  cases adoption <;>
    simp [adopt, adoptBeacon, adoptResponse, adoptElements]

private theorem commonRates_sublist (body : FrameBody) :
    (commonRates config body).Sublist config.supportedRates :=
  List.filter_sublist

end Equations

/-- Whatever is taken over, the bounds hold on. -/
private theorem Within.adopt (hwithin : Within config capabilities)
    (adoption : Adoption) :
    Within config (capabilities.adopt config adoption) where
  toSpared := hwithin.toSpared.adopt adoption
  rates := by
    rw [rates_adopt]
    exact commonRates_sublist config adoption.body
  basicRates rate hrate := by
    rw [basicRates_adopt] at hrate
    split at hrate
    · exact hwithin.basicRates rate hrate
    · exact (commonRates_sublist config adoption.body).subset
        (List.mem_filter.mp hrate).1
  shortPreamble hshort := by
    simp only [shortPreamble_adopt, preambleOf, Bool.and_eq_true] at hshort
    exact hshort.1.1
  shortSlots hshort := by
    simp only [shortSlots_adopt, shortSlotsOf, Bool.and_eq_true] at hshort
    exact hshort.1
  qosByEdca := by
    rw [qos_adopt, edca_adopt]
    split
    · rfl
    · exact hwithin.qosByEdca
  ownHt index hindex := by
    rw [htMcs_adopt] at hindex
    split at hindex
    · split at hindex
      · exact McsSet.mem_of_contains_inter hindex
      · simp at hindex
    · exact hwithin.ownHt index hindex
  ownVht index hindex := by
    rw [vhtMcs_adopt] at hindex
    split at hindex
    · exact McsSet.mem_of_contains_inter hindex
    · exact hwithin.ownVht index hindex
  ownHe index hindex := by
    rw [heMcs_adopt] at hindex
    split at hindex
    · exact McsSet.mem_of_contains_inter hindex
    · exact hwithin.ownHe index hindex
  rifsWithoutVht hrifs := by
    rw [rifsPermitted_adopt] at hrifs
    split at hrifs
    · simpa using (Bool.and_eq_true_iff.mp hrifs).1
    · exact hwithin.rifsWithoutVht hrifs

end Capabilities

private theorem within_negotiated (config : Config) (adoptions : List Adoption) :
    Capabilities.Within config (negotiated config adoptions) := by
  induction adoptions using List.reverseRecOn with
  | nil => exact Capabilities.within_start config
  | append_singleton past adoption ih =>
      rw [negotiated_concat]
      exact ih.adopt adoption

/-- Whatever a station takes over, and so in every run, what it has in common with a network stays
within what it supports. -/
theorem negotiated_within_support (config : Config) :
    (∀ adoptions,
      Capabilities.Within config (negotiated config adoptions)) ∧
    ∀ moves : List Move,
      let reached := (System.ofConfig config).run moves
      Capabilities.Within config reached.station.capabilities := by
  refine ⟨within_negotiated config, fun moves => ?_⟩
  intro reached
  rw [capabilities_run]
  exact within_negotiated config _

end Roaming
