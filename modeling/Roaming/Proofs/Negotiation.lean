import Mathlib.Data.List.Induction
import Roaming.Capabilities
import Roaming.Proofs.McsSets

namespace Roaming

/-! What a station that negotiates with a network still has from the networks before. -/

/-- What a station takes over: from a beacon, or from the response to a request of its own, be it to
probe or to associate. -/
inductive Adoption
  | beacon (body : FrameBody)
  | response (body : FrameBody)

namespace Adoption

def body : Adoption → FrameBody
  | .beacon body => body
  | .response body => body

@[simp] theorem body_beacon (body : FrameBody) :
    (Adoption.beacon body).body = body := rfl

@[simp] theorem body_response (body : FrameBody) :
    (Adoption.response body).body = body := rfl

def isBeacon : Adoption → Bool
  | .beacon _ => true
  | .response _ => false

@[simp] theorem isBeacon_beacon (body : FrameBody) :
    (Adoption.beacon body).isBeacon = true := rfl

@[simp] theorem isBeacon_response (body : FrameBody) :
    (Adoption.response body).isBeacon = false := rfl

end Adoption

namespace FrameBody

/-- Whether the sender takes part in the first high-throughput scheme. -/
def speaksHt (body : FrameBody) : Bool :=
  (body.ht.getD {}).mcs.contains 0

/-- Whether the sender names a rate at which it takes very high throughput. -/
def speaksVht (body : FrameBody) : Bool :=
  decide (0 < (body.vht.getD {}).highestRate)

end FrameBody

namespace Capabilities

def adopt (config : Config) (capabilities : Capabilities) :
    Adoption → Capabilities
  | .beacon body => capabilities.adoptBeacon config body
  | .response body => capabilities.adoptResponse config body

section Equations

variable (capabilities : Capabilities) (config : Config) (body : FrameBody)

@[simp] theorem adoptQos_eq :
    capabilities.adoptQos config body = { capabilities with
      qos := if config.qos then body.edca.isSome else capabilities.qos
      edca := if config.qos then body.edca else capabilities.edca } := by
  rw [adoptQos]
  split <;> rfl

@[simp] theorem adoptHt_eq :
    capabilities.adoptHt config body = { capabilities with
      htMcs :=
        if config.ht then
          if body.speaksHt then
            (McsSet.ofList config.htMcs).inter (body.ht.getD {}).mcs
          else .empty
        else capabilities.htMcs
      greenfieldProtection :=
        if config.ht && body.speaksHt then
          (body.htOperation.getD {}).nonGreenfieldPresent
        else capabilities.greenfieldProtection
      rifsPermitted :=
        if config.ht && body.speaksHt then
          !config.vht && (body.htOperation.getD {}).rifs
        else capabilities.rifsPermitted } := by
  rw [adoptHt, FrameBody.speaksHt]
  cases config.ht with
  | false => rfl
  | true => cases (body.ht.getD {}).mcs.contains 0 <;> rfl

@[simp] theorem adoptVht_eq :
    capabilities.adoptVht config body = { capabilities with
      vhtMcs :=
        if config.vht && body.speaksVht then
          (McsSet.ofList config.vhtMcs).inter (body.vht.getD {}).mcs
        else capabilities.vhtMcs } := by
  rw [adoptVht, FrameBody.speaksVht]
  split <;> simp_all

@[simp] theorem adoptHe_eq :
    capabilities.adoptHe config body = { capabilities with
      heMcs :=
        if config.he then
          (McsSet.ofList config.heMcs).inter (body.he.getD {}).mcs
        else capabilities.heMcs } := by
  rw [adoptHe]
  split <;> rfl

variable (adoption : Adoption)

@[simp] theorem shortSlots_adopt :
    (capabilities.adopt config adoption).shortSlots =
      shortSlotsOf config adoption.body := by
  cases adoption <;>
    simp [adopt, adoptBeacon, adoptResponse, adoptElements]

@[simp] theorem nonErpProtection_adopt :
    (capabilities.adopt config adoption).nonErpProtection =
      if config.erp && adoption.isBeacon then
        erpFlag adoption.body .useProtection
      else capabilities.nonErpProtection := by
  cases adoption <;>
    simp [adopt, adoptBeacon, adoptResponse, adoptElements]

@[simp] theorem greenfieldProtection_adopt :
    (capabilities.adopt config adoption).greenfieldProtection =
      if config.ht && adoption.body.speaksHt then
        (adoption.body.htOperation.getD {}).nonGreenfieldPresent
      else capabilities.greenfieldProtection := by
  cases adoption <;>
    simp [adopt, adoptBeacon, adoptResponse, adoptElements]

@[simp] theorem rifsPermitted_adopt :
    (capabilities.adopt config adoption).rifsPermitted =
      if config.ht && adoption.body.speaksHt then
        !config.vht && (adoption.body.htOperation.getD {}).rifs
      else capabilities.rifsPermitted := by
  cases adoption <;>
    simp [adopt, adoptBeacon, adoptResponse, adoptElements]

@[simp] theorem vhtMcs_adopt :
    (capabilities.adopt config adoption).vhtMcs =
      if config.vht && adoption.body.speaksVht then
        (McsSet.ofList config.vhtMcs).inter (adoption.body.vht.getD {}).mcs
      else capabilities.vhtMcs := by
  cases adoption <;>
    simp [adopt, adoptBeacon, adoptResponse, adoptElements]

end Equations

/-- A station does without what it does not support. -/
structure Spared (config : Config) (capabilities : Capabilities) : Prop where
  slotTime : config.erp = false → capabilities.slotTime = longSlot
  contentionWindow : config.erp = false →
    capabilities.contentionWindow = .ofdm
  nonErpProtection : config.erp = false →
    capabilities.nonErpProtection = false
  qos : config.qos = false → capabilities.qos = false
  edca : config.qos = false → capabilities.edca = none
  htMcs : config.ht = false → capabilities.htMcs = .empty
  greenfieldProtection : config.ht = false →
    capabilities.greenfieldProtection = false
  rifsPermitted : config.ht = false → capabilities.rifsPermitted = false
  vhtMcs : config.vht = false ∨ McsSet.ofList config.vhtMcs = .empty →
    capabilities.vhtMcs = .empty
  heMcs : config.he = false → capabilities.heMcs = .empty

theorem spared_start (config : Config) : Spared config {} := by
  constructor <;> exact fun _ => rfl

variable {capabilities : Capabilities} {config : Config}

theorem Spared.adopt (hspared : Spared config capabilities)
    (adoption : Adoption) :
    Spared config (capabilities.adopt config adoption) where
  slotTime herp := by
    cases adoption <;> simp [Capabilities.adopt, adoptBeacon, adoptResponse,
      adoptElements, herp, hspared.slotTime herp]
  contentionWindow herp := by
    cases adoption <;> simp [Capabilities.adopt, adoptBeacon, adoptResponse,
      adoptElements, herp, hspared.contentionWindow herp]
  nonErpProtection herp := by simp [herp, hspared.nonErpProtection herp]
  qos hqos := by
    cases adoption <;> simp [Capabilities.adopt, adoptBeacon, adoptResponse,
      adoptElements, hqos, hspared.qos hqos]
  edca hqos := by
    cases adoption <;> simp [Capabilities.adopt, adoptBeacon, adoptResponse,
      adoptElements, hqos, hspared.edca hqos]
  htMcs hht := by
    cases adoption <;> simp [Capabilities.adopt, adoptBeacon, adoptResponse,
      adoptElements, hht, hspared.htMcs hht]
  greenfieldProtection hht := by simp [hht, hspared.greenfieldProtection hht]
  rifsPermitted hht := by simp [hht, hspared.rifsPermitted hht]
  vhtMcs hvht := by
    rw [vhtMcs_adopt, hspared.vhtMcs hvht]
    rcases hvht with hvht | hnone
    · simp [hvht]
    · simp [hnone]
  heMcs hhe := by
    cases adoption <;> simp [Capabilities.adopt, adoptBeacon, adoptResponse,
      adoptElements, hhe, hspared.heMcs hhe]

/-- All but what a network can leave unsaid. -/
def settled (capabilities : Capabilities) : Capabilities :=
  { capabilities with
    nonErpProtection := false
    greenfieldProtection := false
    rifsPermitted := false
    vhtMcs := .empty }

private theorem eq_of_settled {first second : Capabilities}
    (hsettled : first.settled = second.settled)
    (hprotection : first.nonErpProtection = second.nonErpProtection)
    (hgreenfield : first.greenfieldProtection = second.greenfieldProtection)
    (hrifs : first.rifsPermitted = second.rifsPermitted)
    (hvht : first.vhtMcs = second.vhtMcs) : first = second := by
  cases first
  cases second
  simp_all [settled]

private theorem ite_eq_of_spared {α : Type} {supported : Bool} {fresh first second : α}
    (hspared : supported = false → first = second) :
    (if supported then fresh else first) =
      if supported then fresh else second := by
  cases supported with
  | false => exact hspared rfl
  | true => rfl

private theorem Spared.settled_response {former other : Capabilities}
    (hformer : Spared config former) (hother : Spared config other)
    (hslots : former.shortSlots = other.shortSlots) (body : FrameBody) :
    (former.adopt config (.response body)).settled =
      (other.adopt config (.response body)).settled := by
  simp only [Capabilities.adopt, adoptResponse, adoptElements, adoptQos_eq,
    adoptHt_eq, adoptVht_eq, adoptHe_eq, settled, hslots, mk.injEq, true_and]
  refine ⟨?_, ?_, ?_, ?_, ?_, ?_⟩
  · exact ite_eq_of_spared fun herp =>
      (hformer.slotTime herp).trans (hother.slotTime herp).symm
  · exact ite_eq_of_spared fun herp =>
      (hformer.contentionWindow herp).trans (hother.contentionWindow herp).symm
  · exact ite_eq_of_spared fun hqos =>
      (hformer.qos hqos).trans (hother.qos hqos).symm
  · exact ite_eq_of_spared fun hqos =>
      (hformer.edca hqos).trans (hother.edca hqos).symm
  · exact ite_eq_of_spared fun hht =>
      (hformer.htMcs hht).trans (hother.htMcs hht).symm
  · exact ite_eq_of_spared fun hhe =>
      (hformer.heMcs hhe).trans (hother.heMcs hhe).symm

end Capabilities

/-- What a station has after it has started and taken over this much. -/
def negotiated (config : Config) (adoptions : List Adoption) : Capabilities :=
  adoptions.foldl (Capabilities.adopt config) {}

/-- Whether a network says all that a station asks, be it in its offer or in its response. -/
structure Outspoken (config : Config) (offer : Adoption)
    (response : FrameBody) : Prop where
  protection : config.erp = true → offer.isBeacon = true
  ht : config.ht = true →
    offer.body.speaksHt = true ∨ response.speaksHt = true
  vht : config.vht = true → McsSet.ofList config.vhtMcs ≠ .empty →
    offer.body.speaksVht = true ∨ response.speaksVht = true

section Negotiated

variable (config : Config) (past other : List Adoption) (offer : Adoption)
  (response : FrameBody)

theorem negotiated_concat (adoption : Adoption) :
    negotiated config (past ++ [adoption]) =
      (negotiated config past).adopt config adoption :=
  List.foldl_append

private theorem negotiated_offer :
    negotiated config (past ++ [offer, .response response]) =
      ((negotiated config past).adopt config offer).adopt config
        (.response response) :=
  List.foldl_append

theorem spared_negotiated :
    Capabilities.Spared config (negotiated config past) := by
  induction past using List.reverseRecOn with
  | nil => exact Capabilities.spared_start config
  | append_singleton past adoption ih =>
      rw [negotiated_concat]
      exact ih.adopt adoption

private theorem settled_negotiated :
    (negotiated config (past ++ [offer, .response response])).settled =
      (negotiated config (other ++ [offer, .response response])).settled := by
  rw [negotiated_offer, negotiated_offer]
  refine ((spared_negotiated config past).adopt offer).settled_response
    ((spared_negotiated config other).adopt offer) ?_ response
  simp

end Negotiated

private theorem negotiated_of_outspoken {config : Config} {offer : Adoption}
    {response : FrameBody} (houtspoken : Outspoken config offer response)
    (past other : List Adoption) :
    negotiated config (past ++ [offer, .response response]) =
      negotiated config (other ++ [offer, .response response]) := by
  have hformer := spared_negotiated config past
  have hother := spared_negotiated config other
  refine Capabilities.eq_of_settled
    (settled_negotiated config past other offer response) ?_ ?_ ?_ ?_
  · simp only [negotiated_offer, Capabilities.nonErpProtection_adopt]
    cases herp : config.erp with
    | false => simp [hformer.nonErpProtection herp, hother.nonErpProtection herp]
    | true => simp [houtspoken.protection herp]
  · simp only [negotiated_offer, Capabilities.greenfieldProtection_adopt]
    cases hht : config.ht with
    | false =>
        simp [hformer.greenfieldProtection hht, hother.greenfieldProtection hht]
    | true =>
        rcases houtspoken.ht hht with hspeaks | hspeaks <;> simp [hspeaks]
  · simp only [negotiated_offer, Capabilities.rifsPermitted_adopt]
    cases hht : config.ht with
    | false => simp [hformer.rifsPermitted hht, hother.rifsPermitted hht]
    | true =>
        rcases houtspoken.ht hht with hspeaks | hspeaks <;> simp [hspeaks]
  · simp only [negotiated_offer, Capabilities.vhtMcs_adopt]
    by_cases hnone : McsSet.ofList config.vhtMcs = .empty
    · simp [hnone, hformer.vhtMcs (.inr hnone), hother.vhtMcs (.inr hnone)]
    · cases hvht : config.vht with
      | false => simp [hformer.vhtMcs (.inl hvht), hother.vhtMcs (.inl hvht)]
      | true =>
          rcases houtspoken.vht hvht hnone with hspeaks | hspeaks <;>
            simp [hspeaks]

section Silence

variable {config : Config} {offer : Adoption} {response : FrameBody}
  (past : List Adoption)

private theorem nonErpProtection_silence (hresponse : offer.isBeacon = false) :
    (negotiated config (past ++ [offer, .response response])).nonErpProtection =
      (negotiated config past).nonErpProtection := by
  simp [negotiated_offer, hresponse]

private theorem greenfieldProtection_silence (hoffer : offer.body.speaksHt = false)
    (hresponse : response.speaksHt = false) :
    (negotiated config
        (past ++ [offer, .response response])).greenfieldProtection =
      (negotiated config past).greenfieldProtection := by
  simp [negotiated_offer, hoffer, hresponse]

private theorem vhtMcs_silence (hoffer : offer.body.speaksVht = false)
    (hresponse : response.speaksVht = false) :
    (negotiated config (past ++ [offer, .response response])).vhtMcs =
      (negotiated config past).vhtMcs := by
  simp [negotiated_offer, hoffer, hresponse]

end Silence

/-- A beacon that says all that there is to say to a station. -/
def Config.assertive (config : Config) : Adoption :=
  .beacon {
    erp := some (.single .useProtection)
    ht := some { mcs := .ofList [0] }
    htOperation := some { nonGreenfieldPresent := true }
    vht := some { highestRate := 1, mcs := .ofList config.vhtMcs } }

section Assertive

variable {config : Config}

private theorem nonErpProtection_assertive (herp : config.erp = true) :
    (negotiated config [config.assertive]).nonErpProtection = true := by
  have hflag : (Flags.single ErpFlag.useProtection).has .useProtection =
      true := by decide
  simp [negotiated, Config.assertive, herp, Capabilities.erpFlag, hflag]

private theorem greenfieldProtection_assertive (hht : config.ht = true) :
    (negotiated config [config.assertive]).greenfieldProtection = true := by
  have hfirst : (McsSet.ofList [0]).contains 0 = true := by decide
  simp [negotiated, Config.assertive, hht, FrameBody.speaksHt, hfirst]

private theorem vhtMcs_assertive (hvht : config.vht = true) :
    (negotiated config [config.assertive]).vhtMcs =
      McsSet.ofList config.vhtMcs := by
  simp [negotiated, Config.assertive, hvht, FrameBody.speaksVht]

end Assertive

/-- What an assertive network has said shows unless the next one says it anew. -/
private theorem outspoken_of_negotiated {config : Config} {offer : Adoption}
    {response : FrameBody}
    (hsame : negotiated config ([config.assertive] ++
        [offer, .response response]) =
      negotiated config ([] ++ [offer, .response response])) :
    Outspoken config offer response where
  protection herp := by
    by_contra hsilent
    have hoffer := eq_false_of_ne_true hsilent
    have hprotection := congrArg Capabilities.nonErpProtection hsame
    rw [nonErpProtection_silence _ hoffer, nonErpProtection_silence _ hoffer,
      nonErpProtection_assertive herp] at hprotection
    cases hprotection
  ht hht := by
    by_contra hsilent
    obtain ⟨hoffer, hresponse⟩ :=
      (not_or.mp hsilent).imp eq_false_of_ne_true eq_false_of_ne_true
    have hgreenfield := congrArg Capabilities.greenfieldProtection hsame
    rw [greenfieldProtection_silence _ hoffer hresponse,
      greenfieldProtection_silence _ hoffer hresponse,
      greenfieldProtection_assertive hht] at hgreenfield
    cases hgreenfield
  vht hvht hsome := by
    by_contra hsilent
    obtain ⟨hoffer, hresponse⟩ :=
      (not_or.mp hsilent).imp eq_false_of_ne_true eq_false_of_ne_true
    have hmcs := congrArg Capabilities.vhtMcs hsame
    rw [vhtMcs_silence _ hoffer hresponse, vhtMcs_silence _ hoffer hresponse,
      vhtMcs_assertive hvht] at hmcs
    exact hsome hmcs

/-- Whatever a station has taken over before, an offer and a response settle what it has from then
on, but for the protections, the reduced spacing and the schemes of very high throughput; and they
settle these as well if and only if the network is outspoken. -/
theorem settled_iff_outspoken (config : Config) (offer : Adoption)
    (response : FrameBody) :
    (∀ past other,
      (negotiated config (past ++ [offer, .response response])).settled =
        (negotiated config (other ++ [offer, .response response])).settled) ∧
    ((∀ past other,
      negotiated config (past ++ [offer, .response response]) =
        negotiated config (other ++ [offer, .response response])) ↔
      Outspoken config offer response) := by
  refine ⟨fun past other => settled_negotiated config past other offer response,
    fun hsame => outspoken_of_negotiated (hsame [config.assertive] []),
    negotiated_of_outspoken⟩

namespace Sample

def fast : FrameBody where
  ht := some { mcs := .ofList [0, 1] }
  htOperation := some { nonGreenfieldPresent := true }
  vht := some { highestRate := 780, mcs := .ofList [0, 1] }

end Sample

/-- A station goes on with the schemes of a former network that the one joined knows nothing of. -/
theorem former_network_remains_sample :
    ∃ config past offer response,
      (negotiated config (past ++ [offer, .response response])).vhtMcs =
        .ofList [0, 1] ∧
      (negotiated config [offer, .response response]).vhtMcs = .empty ∧
      negotiated config (past ++ [offer, .response response]) ≠
        negotiated config ([] ++ [offer, .response response]) := by
  refine ⟨{ ht := true, vht := true }, [.beacon Sample.fast], .beacon {}, {},
    ?_, ?_, ?_⟩
  · decide
  · decide
  · decide

end Roaming
