import Roaming.Proofs.Notices

namespace Roaming

/-! The names that a station keeps of its network, and what changes them. -/

private theorem Phase.isOpen_of_isBound {phase : Phase}
    (hbound : phase.isBound = true) : phase.isOpen = false := by
  cases phase <;> first | rfl | cases hbound

theorem Phase.isBound_of_isAssociated {phase : Phase}
    (hassociated : phase.isAssociated = true) : phase.isBound = true := by
  cases phase <;> first | rfl | cases hassociated

theorem Station.phase_of_answers {station : Station} {frame : Frame}
    (hanswers : station.answers frame = true) : station.phase = .probing := by
  simp only [answers, Bool.and_eq_true, decide_eq_true_eq] at hanswers
  exact hanswers.1.1

theorem Reaction.reportedAp_eq {system : System} {decision : Decision}
    {operation : Operation} {turn : Turn}
    (hreaction : Reaction system decision operation turn) :
    turn.station.reportedAp = (system.station.prepare operation).reportedAp := by
  cases hreaction <;> simp

@[simp] theorem Station.reportedAp_prepare (station : Station)
    (operation : Operation) :
    (station.prepare operation).reportedAp = station.reportedAp := by
  cases operation <;> rfl

@[simp] theorem Station.previousAp_prepare (station : Station)
    (operation : Operation) :
    (station.prepare operation).previousAp = station.previousAp := by
  cases operation <;> rfl

private theorem Reaction.bssid_isSome {system : System} {decision : Decision}
    {operation : Operation} {turn : Turn}
    (hreaction : Reaction system decision operation turn)
    (hknown : system.station.bssid.isSome = true) :
    turn.station.bssid.isSome = true := by
  cases hreaction <;> simp [hknown]

/-- A station with a network keeps to it unless its listener would have it switch. -/
private theorem Reaction.bssid_eq {system : System} {decision : Decision}
    {operation : Operation} {turn : Turn}
    (hreaction : Reaction system decision operation turn)
    (hbound : system.station.phase.isBound = true) :
    turn.station.bssid = system.station.bssid ∨
      turn.station.isAssociated = false ∧
        ∃ source link, .detected source link true ∈ turn.notices := by
  have hclosed := Phase.isOpen_of_isBound hbound
  cases hreaction with
  | followed _ _ _ _ hsuits =>
      exact .inl (by simp [Station.bssid_of_suits hsuits hbound])
  | joined _ _ _ hjoins =>
      rcases hjoins with hswitch | ⟨_, hopen⟩
      · obtain ⟨_, hprefers⟩ := Bool.and_eq_true_iff.mp hswitch
        obtain ⟨hother, hasked⟩ := Station.mem_question_of_prefers hprefers
        exact .inr ⟨rfl, by simpa [hother] using hasked⟩
      · exact absurd hopen (by simp [hclosed])
  | answered _ _ _ hanswers =>
      simp [Station.phase_of_answers hanswers, Phase.isBound] at hbound
  | rested | dropped | declined | forwarded | relayed | granted | denied
  | outlived | reprobed | rejoined | rearmed | expired | searched | silenced
  | sent | unsent | soughtUnsent | reassociated | released =>
      exact .inl (by simp)

namespace Station

/-- A station that joins names whom it has asked, and one that is associated names its access point
the same way wherever it keeps the name. -/
structure Named (station : Station) : Prop where
  target : ∀ attempt, station.phase = .joining attempt →
    station.bssid = some attempt.target
  accessPoint : station.phase = .associated →
    ∃ bssid, station.bssid = some bssid ∧ station.previousAp = some bssid

/-- Only a station that is associated has told of an access point, namely of its own. -/
def Reported (station : Station) : Prop :=
  station.reportedAp = if station.isAssociated then station.bssid else none

variable {station later : Station}

theorem Reported.phase_of_some (hreported : station.Reported)
    {bssid : MacAddr} (htold : station.reportedAp = some bssid) :
    station.phase = .associated := by
  cases hassociation : station.isAssociated with
  | true => exact Phase.eq_of_isAssociated hassociation
  | false =>
      rw [Reported, hassociation, htold] at hreported
      cases hreported

private theorem Named.keep (hnamed : station.Named)
    (hphase : later.phase = station.phase)
    (hbssid : station.phase.isBound = true → later.bssid = station.bssid)
    (hprevious : later.previousAp = station.previousAp) : later.Named where
  target := by
    intro attempt hjoining
    rw [hphase] at hjoining
    exact (hbssid (by rw [hjoining]; rfl)).trans
      (hnamed.target attempt hjoining)
  accessPoint := by
    intro hassociated
    rw [hphase] at hassociated
    rw [hbssid (by rw [hassociated]; rfl), hprevious]
    exact hnamed.accessPoint hassociated

private theorem named_free (hfree : station.phase.isBound = false) :
    station.Named where
  target attempt hjoining := by
    rw [hjoining] at hfree
    cases hfree
  accessPoint hassociated := by
    rw [hassociated] at hfree
    cases hfree

private theorem named_joining {attempt : Attempt}
    (hphase : station.phase = .joining attempt)
    (hbssid : station.bssid = some attempt.target) : station.Named where
  target other hother := by
    rw [Phase.joining.inj (hother.symm.trans hphase)]
    exact hbssid
  accessPoint hassociated := by cases hphase.symm.trans hassociated

end Station

theorem named_reaction {system : System} {decision : Decision}
    {operation : Operation} {turn : Turn} (hnamed : system.station.Named)
    (hreaction : Reaction system decision operation turn) :
    turn.station.Named := by
  cases hreaction with
  | rested | dropped | declined | forwarded | relayed | outlived | reprobed
  | rearmed | silenced | sent | unsent =>
      exact hnamed.keep (by simp) (fun _ => by simp) (by simp)
  | followed _ _ _ _ hsuits =>
      refine hnamed.keep (by simp) (fun hbound => ?_) (by simp)
      simp [Station.bssid_of_suits hsuits hbound]
  | joined => exact Station.named_joining rfl (by simp)
  | answered => exact Station.named_joining rfl (by simp)
  | rejoined _ _ hphase =>
      exact Station.named_joining rfl (by simpa using hnamed.target _ hphase)
  | reassociated _ _ hbssid =>
      exact Station.named_joining rfl (by simpa using hbssid)
  | @granted own frame _ _ _ _ hphase hsender =>
      refine ⟨by simp, fun _ => ⟨frame.header.transmitter, ?_, by simp⟩⟩
      simpa [hsender] using hnamed.target _ hphase
  | denied => exact Station.named_free rfl
  | expired | released =>
      exact Station.named_free (Turn.isBound_loseNetwork ..)
  | searched _ _ hphase | soughtUnsent _ hphase =>
      exact Station.named_free
        (Turn.isBound_search _ _ (by simp [hphase, Phase.isBound]))

theorem reported_reaction {system : System} {decision : Decision}
    {operation : Operation} {turn : Turn}
    (hreported : system.station.Reported)
    (hreaction : Reaction system decision operation turn) :
    (turn.settle system.station.isAssociated).station.Reported := by
  have hbefore : turn.station.reportedAp =
      if system.station.isAssociated then system.station.bssid else none := by
    rw [hreaction.reportedAp_eq, Station.reportedAp_prepare]
    exact hreported
  -- An association that lasts is one with the same network.
  have hkept : system.station.isAssociated = true →
      turn.station.isAssociated = true →
      turn.station.bssid = system.station.bssid := by
    intro hassociated hstill
    have hbound := Phase.isBound_of_isAssociated hassociated
    rcases hreaction.bssid_eq hbound with hsame | ⟨hended, _⟩
    · exact hsame
    · cases hstill.symm.trans hended
  rw [Turn.station_settle]
  change turn.settledAp _ =
    if turn.station.isAssociated then turn.station.bssid else none
  unfold Turn.settledAp
  cases hassociated : system.station.isAssociated <;>
    cases hstill : turn.station.isAssociated <;>
    simp_all

theorem named_run (config : Config) (moves : List Move) :
    ((System.ofConfig config).run moves).station.Named := by
  refine System.station_induction (motive := Station.Named)
    (Station.named_free rfl) ?_ moves
  intro system decision operation turn hnamed hreaction
  rw [Turn.station_settle]
  exact (named_reaction hnamed hreaction).keep rfl (fun _ => rfl) rfl

theorem reported_run (config : Config) (moves : List Move) :
    ((System.ofConfig config).run moves).station.Reported := by
  have hstart : (System.ofConfig config).station.Reported := rfl
  exact System.station_induction hstart (fun _ _ _ _ => reported_reaction) moves

namespace Moment

variable {moment : Moment}

private theorem bssid_isSome_after
    (hknown : moment.before.station.bssid.isSome = true) :
    moment.after.station.bssid.isSome = true := by
  cases moment.course with
  | idle _ hafter =>
      rw [hafter]
      exact hknown
  | reacted _ hreaction hstation =>
      rw [hstation]
      exact hreaction.bssid_isSome hknown

theorem bssid_after (hbound : moment.before.station.phase.isBound = true)
    (hstays : ∀ source link,
      .detected source link true ∉ moment.outcome.notices) :
    moment.after.station.bssid = moment.before.station.bssid := by
  cases moment.course with
  | idle _ hafter => rw [hafter, station_opened]
  | reacted _ hreaction hstation _ heffects =>
      rw [hstation]
      rcases hreaction.bssid_eq hbound with hsame | ⟨_, source, link, hswitch⟩
      · exact hsame
      · refine absurd ?_ (hstays source link)
        rw [Outcome.notices_of_parting heffects]
        exact List.mem_append_left _ hswitch

end Moment

namespace System

private theorem bssid_isSome_later {system : System}
    (hknown : system.station.bssid.isSome = true) (later : List Move) :
    (system.run later).station.bssid.isSome = true := by
  induction later generalizing system with
  | nil => exact hknown
  | cons move later ih =>
      let moment : Moment := ⟨system, move⟩
      have hbefore : moment.before.station.bssid.isSome = true := hknown
      exact ih (Moment.bssid_isSome_after hbefore)

private theorem bssid_later {system : System} {later : List Move}
    (hbound : ∀ moment ∈ system.history later,
      moment.before.station.phase.isBound = true)
    (hstays : ∀ moment ∈ system.history later, ∀ source link,
      .detected source link true ∉ moment.outcome.notices) :
    (system.run later).station.bssid = system.station.bssid := by
  induction later generalizing system with
  | nil => rfl
  | cons move later ih =>
      have hfirst := Moment.bssid_after (hbound _ (List.mem_cons_self ..))
        (hstays _ (List.mem_cons_self ..))
      have hrest := ih
        (fun moment hmoment => hbound moment (List.mem_cons_of_mem _ hmoment))
        (fun moment hmoment => hstays moment (List.mem_cons_of_mem _ hmoment))
      exact hrest.trans hfirst

end System

/-- In every run a station that joins names the access point asked as its network, and one that is
associated also as the last one that it was with and as the one reported, which no other station
has.  Once it names a network it always does; and as long as it joins or is associated, and its
listener would not have it switch, it names the same one. -/
theorem network_is_identified (config : Config) (moves : List Move) :
    let reached := (System.ofConfig config).run moves
    (∀ attempt, reached.station.phase = .joining attempt →
      reached.station.bssid = some attempt.target) ∧
    (reached.station.phase = .associated →
      ∃ accessPoint, reached.station.bssid = some accessPoint ∧
        reached.station.previousAp = some accessPoint ∧
        reached.station.reportedAp = some accessPoint) ∧
    (reached.station.reportedAp.isSome = true ↔
      reached.station.phase = .associated) ∧
    ∀ later,
      (reached.station.bssid.isSome = true →
        (reached.run later).station.bssid.isSome = true) ∧
      ((∀ moment ∈ reached.history later,
          moment.before.station.phase.isBound = true) →
        (∀ moment ∈ reached.history later, ∀ source link,
          .detected source link true ∉ moment.outcome.notices) →
        (reached.run later).station.bssid = reached.station.bssid) := by
  intro reached
  have hnamed : reached.station.Named := named_run config moves
  have hreported : reached.station.Reported := reported_run config moves
  have hassociated : reached.station.phase = .associated →
      ∃ accessPoint, reached.station.bssid = some accessPoint ∧
        reached.station.previousAp = some accessPoint ∧
        reached.station.reportedAp = some accessPoint := by
    intro hphase
    obtain ⟨accessPoint, hbssid, hprevious⟩ := hnamed.accessPoint hphase
    refine ⟨accessPoint, hbssid, hprevious, hreported.trans ?_⟩
    simp [Station.isAssociated, hphase, Phase.isAssociated, hbssid]
  refine ⟨hnamed.target, hassociated, ⟨?_, ?_⟩, ?_⟩
  · intro htold
    obtain ⟨bssid, htold⟩ := Option.isSome_iff_exists.mp htold
    exact hreported.phase_of_some htold
  · intro hphase
    obtain ⟨accessPoint, _, _, htold⟩ := hassociated hphase
    simp [htold]
  · intro later
    exact ⟨fun hknown => System.bssid_isSome_later hknown later,
      System.bssid_later⟩

namespace Sample

def rival : MacAddr := ⟨0x023333333333#48⟩

def rivalBeacon : Frame :=
  { beacon with
    header.transmitter := rival
    header.third := rival }

/-- A listener who is asked about every other network, and the joining that it listens to. -/
def askedJoins : List Move :=
  .perform refuse (.register (.detected ⟨"observer"⟩)) :: joins

end Sample

open Sample in
theorem network_is_identified_sample :
    let reached := (System.ofConfig {}).run askedJoins
    (reached.station.phase = .associated ∧
      reached.station.reportedAp = some accessPoint) ∧
    (reached.run [.perform refuse (.receive rivalBeacon)]).station.bssid =
      some accessPoint := by
  obtain ⟨_, hassociated, _, hlater⟩ := network_is_identified {} askedJoins
  have hphase : ((System.ofConfig {}).run askedJoins).station.phase =
      .associated := by decide
  obtain ⟨bssid, hbssid, _, hreported⟩ := hassociated hphase
  obtain rfl : accessPoint = bssid :=
    Option.some.inj ((show _ = some accessPoint by decide).symm.trans hbssid)
  refine ⟨⟨hphase, hreported⟩, ((hlater _).2 ?_ ?_).trans hbssid⟩
  · intro moment hmoment
    rw [List.mem_singleton.mp hmoment]
    decide
  · intro moment hmoment source link hswitch
    rw [List.mem_singleton.mp hmoment] at hswitch
    have hrefused : .detected source link true ∈ [Notice.detected
        ⟨"observer"⟩ (Turn.detectedLink own rivalBeacon) false] := hswitch
    simp at hrefused

end Roaming
