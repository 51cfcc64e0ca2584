import Mathlib.Data.List.Induction
import Roaming.Proofs.Coverage
import Roaming.Proofs.Handshake
import Roaming.Proofs.Negotiation

namespace Roaming

/-! What a station takes over from the frames of a run.  All that it has in common with its network
comes from there. -/

def Adoption.ofFrame (frame : Frame) : Adoption :=
  match frame.header.kind with
  | .beacon => .beacon frame.body
  | _ => .response frame.body

@[simp] theorem Adoption.body_ofFrame (frame : Frame) :
    (ofFrame frame).body = frame.body := by
  unfold ofFrame
  split <;> rfl

namespace Reaction

variable {system : System} {decision : Decision} {operation : Operation}
  {turn : Turn} {frame : Frame}

private theorem capabilities_of_heeds
    (hreaction : Reaction system decision (.receive frame) turn)
    (hheeds : system.station.heeds decision frame = true) :
    turn.station.capabilities = system.station.capabilities.adopt
      system.station.config (.ofFrame frame) := by
  cases hreaction with
  | followed _ _ hkind | joined _ _ hkind | answered _ _ hkind =>
      simp [Adoption.ofFrame, hkind, Capabilities.adopt]
  | rested hrests =>
      rw [Station.heeds_of_rests hrests] at hheeds
      cases hheeds
  | dropped _ hunheeded | declined _ hunheeded =>
      cases hheeds.symm.trans hunheeded
  | forwarded _ _ hkind | relayed _ _ hkind | granted _ _ hkind
  | denied _ _ hkind =>
      rw [Station.heeds_of_kind] at hheeds
      · cases hheeds
      · rcases hkind with hkind | hkind <;> simp [hkind]
      · rcases hkind with hkind | hkind <;> simp [hkind]
  | searched _ hoperation => rcases hoperation with hoperation | hoperation <;>
      cases hoperation

/-- Whoever comes to be associated has been let in by the response that it waited for. -/
private theorem admission (hreaction : Reaction system decision operation turn)
    (hother : system.station.phase ≠ .associated)
    (hassociated : turn.station.phase = .associated) :
    ∃ frame attempt, operation = .receive frame ∧
      system.station.phase = .joining attempt ∧
      (frame.header.kind = .assocResponse ∨
        frame.header.kind = .reassocResponse) ∧
      frame.header.transmitter = attempt.target ∧
      frame.body.status.isSuccess = true ∧
      turn.station.capabilities = system.station.capabilities.adopt
        system.station.config (.ofFrame frame) := by
  cases hreaction with
  | granted _ _ hkind hphase hsender hstatus =>
      refine ⟨_, _, rfl, hphase, hkind, hsender, hstatus, ?_⟩
      rcases hkind with hkind | hkind <;>
        simp [Adoption.ofFrame, hkind, Capabilities.adopt]
  | joined | answered | denied | rejoined | reassociated => cases hassociated
  | expired | released =>
      have hbound := congrArg Phase.isBound hassociated
      rw [Turn.isBound_loseNetwork] at hbound
      cases hbound
  | searched _ _ hphase | soughtUnsent _ hphase =>
      have hbound := congrArg Phase.isBound hassociated
      rw [Turn.isBound_search _ _ (by simp [hphase, Phase.isBound])] at hbound
      cases hbound
  | _ => exact absurd (by simpa using hassociated) hother

/-- Without a frame that it heeds, and without being let in, a station takes over nothing. -/
private theorem capabilities_kept
    (hreaction : Reaction system decision operation turn)
    (hheeds : ∀ frame, operation = .receive frame →
      system.station.heeds decision frame = false)
    (hassociated : turn.station.phase = .associated →
      system.station.phase = .associated) :
    turn.station.capabilities = system.station.capabilities := by
  cases hreaction with
  | rested =>
      cases operation <;> rfl
  | followed haddress hreaches hkind _ hsuits =>
      cases (hheeds _ rfl).symm.trans
        (System.heeds_beacon haddress hreaches hkind (.inr hsuits))
  | joined haddress hreaches hkind hjoins =>
      cases (hheeds _ rfl).symm.trans (System.heeds_beacon haddress hreaches
        hkind (hjoins.imp_right And.left))
  | answered haddress hreaches hkind hanswers =>
      cases (hheeds _ rfl).symm.trans
        (System.heeds_response haddress hreaches hkind hanswers)
  | granted _ _ _ hphase => cases hphase.symm.trans (hassociated (by simp))
  | searched _ hoperation => rcases hoperation with rfl | rfl <;> simp
  | _ => simp

end Reaction

namespace Moment

/-- What the station takes over: from a frame that it heeds, or from the response that lets it
in. -/
def adoption? (moment : Moment) : Option Adoption :=
  match moment.operation? with
  | some (.receive frame) =>
      if moment.before.station.heeds moment.move.decision frame = true ∨
          moment.granted?.isSome = true then
        some (.ofFrame frame)
      else none
  | _ => none

variable {moment : Moment}

theorem adoption?_of_heeds {frame : Frame}
    (hoperation : moment.operation? = some (.receive frame))
    (hheeds : moment.before.station.heeds moment.move.decision frame = true) :
    moment.adoption? = some (.ofFrame frame) := by
  rw [adoption?, hoperation]
  exact if_pos (.inl hheeds)

theorem adoption?_of_granted {frame : Frame}
    (hoperation : moment.operation? = some (.receive frame))
    (hgranted : moment.granted?.isSome = true) :
    moment.adoption? = some (.ofFrame frame) := by
  rw [adoption?, hoperation]
  exact if_pos (.inr hgranted)

private theorem adoption?_eq_none (hgranted : moment.granted? = none)
    (hheeds : ∀ frame, moment.operation? = some (.receive frame) →
      moment.before.station.heeds moment.move.decision frame = false) :
    moment.adoption? = none := by
  unfold adoption?
  split
  · next frame hoperation =>
      refine if_neg ?_
      simp [hheeds frame hoperation, hgranted]
  · rfl

/-- Nobody is let in who is not associated after it, or was so before. -/
private theorem ungranted_of_stays (hstays : moment.after.station.phase = .associated →
      moment.before.station.phase = .associated) :
    moment.granted? = none := by
  unfold granted?
  split
  · next attempt frame hjoining _ =>
      refine if_neg fun ⟨_, _, _, hassociated⟩ => ?_
      cases hjoining.symm.trans
        (hstays (Phase.eq_of_isAssociated hassociated))
  · rfl

private theorem capabilities_after (moment : Moment) :
    moment.after.station.capabilities =
      moment.adoption?.elim moment.before.station.capabilities
        (moment.before.station.capabilities.adopt
          moment.before.station.config) := by
  cases moment.course with
  | idle hnone hafter =>
      rw [hafter, adoption?, hnone]
      rfl
  | @reacted _ turn hoperation hreaction hstation =>
      have hphase : moment.after.station.phase = turn.station.phase := by
        rw [hstation]
      rw [hstation]
      cases hreaction.hearing with
      | heeded hframe hheeds =>
          subst hframe
          rw [adoption?_of_heeds hoperation hheeds]
          exact hreaction.capabilities_of_heeds hheeds
      | unheeded hheeds =>
          by_cases hadmitted : moment.before.station.phase ≠ .associated ∧
              turn.station.phase = .associated
          · obtain ⟨hother, hassociated⟩ := hadmitted
            obtain ⟨frame, attempt, rfl, hjoining, hkind, hsender, hstatus,
              hadopted⟩ := hreaction.admission hother hassociated
            have hgrant := granted?_of_receive hoperation hjoining hkind hsender
              hstatus (Station.isAssociated_iff.mpr (hphase.trans hassociated))
            rw [adoption?_of_granted hoperation (by simp [hgrant])]
            exact hadopted
          · have hstays : turn.station.phase = .associated →
                moment.before.station.phase = .associated := fun hassociated =>
              Classical.byContradiction fun hother =>
                hadmitted ⟨hother, hassociated⟩
            rw [adoption?_eq_none (ungranted_of_stays ?_) ?_]
            · exact hreaction.capabilities_kept hheeds hstays
            · exact hphase ▸ hstays
            · intro frame hframe
              exact hheeds frame (Option.some.inj (hoperation.symm.trans hframe))

end Moment

/-- All that a station takes over in a history. -/
def adoptions (history : List Moment) : List Adoption :=
  history.filterMap Moment.adoption?

private theorem adoptions_concat (history : List Moment) (moment : Moment) :
    adoptions (history ++ [moment]) =
      adoptions history ++ moment.adoption?.toList := by
  unfold adoptions
  rw [List.filterMap_append]
  cases hadoption : moment.adoption? <;> simp [hadoption]

/-- In every run a station has what it has taken over since it started, and nothing else. -/
theorem capabilities_run (config : Config) (moves : List Move) :
    ((System.ofConfig config).run moves).station.capabilities =
      negotiated config
        (adoptions ((System.ofConfig config).history moves)) := by
  induction moves using List.reverseRecOn with
  | nil => rfl
  | append_singleton moves move ih =>
      rw [System.run_concat, System.history_concat, adoptions_concat,
        Moment.capabilities_after, ih, System.config_run]
      cases Moment.adoption? _ with
      | none => simp
      | some adoption => exact (negotiated_concat config _ adoption).symm

end Roaming
