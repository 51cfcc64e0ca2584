import Roaming.Proofs.Negotiation

namespace Roaming

/-! The slot time that a station goes by.  After a beacon the network alone decides on it, after a
response it takes the station as well. -/

private theorem slotTime_eq_longSlot {short : Bool} :
    slotTime short = longSlot ↔ short = false := by
  cases short <;> decide

def FrameBody.announcesShortSlots (body : FrameBody) : Bool :=
  body.capabilities.has .shortSlotTime

/-- Whether short slots are taken over from a network, given whether they were agreed on before. -/
def Adoption.shortens (agreed : Bool) : Adoption → Bool
  | .beacon body => body.announcesShortSlots
  | .response body => Capabilities.offersOfdm body && agreed

private theorem Capabilities.slotTime_adopt (capabilities : Capabilities)
    (config : Config) (adoption : Adoption) :
    (capabilities.adopt config adoption).slotTime =
      if config.erp then
        Roaming.slotTime (adoption.shortens capabilities.shortSlots)
      else capabilities.slotTime := by
  cases adoption <;>
    simp [adopt, adoptBeacon, adoptResponse, adoptElements, Adoption.shortens,
      FrameBody.announcesShortSlots]

section Negotiated

variable (config : Config) (past : List Adoption) (body : FrameBody)

/-- A station agrees on short slots by what it has taken over last. -/
private theorem shortSlots_negotiated :
    (negotiated config past).shortSlots = (config.shortSlots &&
      past.getLast?.any fun former => former.body.announcesShortSlots) := by
  cases past using List.reverseRecOn with
  | nil => exact (Bool.and_false _).symm
  | append_singleton past former =>
      rw [negotiated_concat, Capabilities.shortSlots_adopt,
        List.getLast?_concat]
      rfl

private theorem slotTime_negotiated (adoption : Adoption) :
    (negotiated config (past ++ [adoption])).slotTime =
      slotTime (config.erp &&
        adoption.shortens (negotiated config past).shortSlots) := by
  rw [negotiated_concat, Capabilities.slotTime_adopt]
  cases herp : config.erp with
  | false => exact (spared_negotiated config past).slotTime herp
  | true => rfl

private theorem slotTime_beacon :
    (negotiated config (past ++ [.beacon body])).slotTime =
      slotTime (config.erp && body.announcesShortSlots) :=
  slotTime_negotiated ..

private theorem slotTime_response :
    (negotiated config (past ++ [.response body])).slotTime =
      slotTime (config.erp && (Capabilities.offersOfdm body &&
        (config.shortSlots && past.getLast?.any fun former =>
          former.body.announcesShortSlots))) := by
  rw [slotTime_negotiated, shortSlots_negotiated]
  rfl

end Negotiated

/-- A body from which each station takes over the shortest slots that it can. -/
def FrameBody.brisk : FrameBody where
  capabilities := .single .shortSlotTime
  rates := .ofUnits Rate.ofdm []

private theorem FrameBody.announcesShortSlots_brisk :
    brisk.announcesShortSlots = true := by decide

private theorem Capabilities.offersOfdm_brisk : offersOfdm .brisk = true := by decide

/-- After a beacon the slots of a station are short if and only if it has the extended rates and the
network announces them; its own support for them does not count.  After a response this support
counts, as do the rates offered and what had been announced before.  So a station without support is
safe from short slots after responses, but not in general. -/
theorem long_slots_kept_iff (config : Config) :
    (negotiated config []).slotTime = longSlot ∧
    (∀ past body, (negotiated config (past ++ [.beacon body])).slotTime =
      slotTime (config.erp && body.announcesShortSlots)) ∧
    (∀ past body, (negotiated config (past ++ [.response body])).slotTime =
      slotTime (config.erp && (Capabilities.offersOfdm body &&
        (config.shortSlots && past.getLast?.any fun former =>
          former.body.announcesShortSlots)))) ∧
    ((∀ past body, (negotiated config
        (past ++ [.response body])).slotTime = longSlot) ↔
      config.erp = false ∨ config.shortSlots = false) ∧
    ((∀ adoptions, (negotiated config adoptions).slotTime = longSlot) ↔
      config.erp = false) := by
  refine ⟨rfl, slotTime_beacon config, slotTime_response config, ?_, ?_⟩
  · constructor
    · intro hlong
      have hannounced : ([Adoption.beacon .brisk].getLast?.any fun former =>
          former.body.announcesShortSlots) = true :=
        FrameBody.announcesShortSlots_brisk
      have hbrisk := hlong [.beacon .brisk] .brisk
      rw [slotTime_response, slotTime_eq_longSlot, hannounced,
        Capabilities.offersOfdm_brisk, Bool.true_and, Bool.and_true] at hbrisk
      exact Bool.and_eq_false_iff.mp hbrisk
    · intro hunable past body
      rw [slotTime_response, slotTime_eq_longSlot]
      rcases hunable with herp | hslots
      · simp [herp]
      · simp [hslots]
  · constructor
    · intro hlong
      have hbrisk := hlong ([] ++ [.beacon .brisk])
      rw [slotTime_beacon, slotTime_eq_longSlot,
        FrameBody.announcesShortSlots_brisk, Bool.and_true] at hbrisk
      exact hbrisk
    · intro herp adoptions
      exact (spared_negotiated config adoptions).slotTime herp

/-- A beacon puts short slots upon a station that does not support them, and knows that it does
not. -/
theorem short_slots_unsupported_sample :
    let config : Config := { erp := true }
    let reached := negotiated config [.beacon .brisk]
    config.shortSlots = false ∧ reached.shortSlots = false ∧
      reached.slotTime = shortSlot := by
  decide

end Roaming
