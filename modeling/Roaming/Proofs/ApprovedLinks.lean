import Roaming.Proofs.Attachment
import Roaming.Proofs.Handshake

namespace Roaming

/-! The link that a listener is asked about, held against the access point that the station then
asks to be let in, and the one that it is reported to be with once it has been. -/

/-- The access point that a beacon or a probe response has the station join. -/
def Frame.accessPoint (frame : Frame) : MacAddr :=
  if frame.header.kind = .beacon then frame.header.third
  else frame.header.transmitter

/-- A frame on which the listener is asked about a link, and a request goes out to join. -/
structure Moment.Pursues (moment : Moment) (frame : Frame)
    (link : DetectedLink) (request : OutgoingFrame) : Prop where
  received : moment.operation? = some (.receive frame)
  consulted : ∃ source answer,
    .detected source link answer ∈ moment.outcome.notices
  sent : request ∈ moment.sent
  asks : request.asks = true

section Reaction

variable {system : System} {decision : Decision} {operation : Operation}
  {turn : Turn}

/-- A listener is asked and a request to join goes out only on a beacon or a probe response. -/
private theorem Reaction.pursuit {source : MihfId} {link : DetectedLink}
    {answer : Bool} {request : OutgoingFrame}
    (hreaction : Reaction system decision operation turn)
    (hconsulted : .detected source link answer ∈ turn.notices)
    (hrequest : .transmit request ∈ turn.requests)
    (hasks : request.asks = true) :
    ∃ own frame, operation = .receive frame ∧
      (frame.header.kind = .beacon ∨ frame.header.kind = .probeResponse) ∧
      link = Turn.detectedLink own frame ∧
      request.header.receiver = frame.accessPoint := by
  cases hreaction with
  | @joined own frame _ _ hbeacon =>
      refine ⟨own, frame, rfl, .inl hbeacon, ?_, ?_⟩
      · simp only [Turn.notices_joinSender, Turn.notices_depart,
          Turn.notices_consulted, System.notices_opening, List.nil_append,
          Bool.cond_eq_ite] at hconsulted
        split at hconsulted
        · cases hconsulted
        · obtain ⟨_, _, hsame⟩ := (Station.mem_question ..).mp hconsulted
          exact (Notice.detected.inj hsame).2.1
      · simp only [Turn.requests_joinSender, Turn.requests_depart,
          Turn.requests_consulted, System.requests_opening, List.nil_append]
          at hrequest
        rcases List.mem_append.mp hrequest with hfarewell | hjoin
        · have hkind := Turn.kind?_of_mem_farewell hfarewell
          rw [Request.kind?, Request.frame?, Option.map_some,
            Option.some.injEq] at hkind
          simp [OutgoingFrame.asks, hkind] at hasks
        · obtain rfl := Request.transmit.inj (List.mem_singleton.mp hjoin)
          simp [Frame.accessPoint, hbeacon]
  | @answered own frame _ _ hresponse =>
      refine ⟨own, frame, rfl, .inr hresponse, ?_, ?_⟩
      · simp only [Turn.notices_joinResponder, System.notices_opening,
          List.nil_append] at hconsulted
        obtain ⟨_, _, hsame⟩ := (Station.mem_question ..).mp hconsulted
        exact (Notice.detected.inj hsame).2.1
      · simp only [Turn.requests_joinResponder, System.requests_opening,
          List.nil_append] at hrequest
        obtain rfl := Request.transmit.inj (List.mem_singleton.mp hrequest)
        simp [Frame.accessPoint, hresponse]
  | declined | followed => simp at hrequest
  | _ => simp at hconsulted

/-- A link is reported as up only to the access point that the station has asked. -/
private theorem Reaction.joining_of_up {up : LinkUp}
    (hreaction : Reaction system decision operation turn)
    (hup : .up up ∈ turn.notices) :
    ∃ attempt, system.station.phase = .joining attempt ∧
      up.newRouter = attempt.target ∧
      up.link.attachment = attempt.target := by
  cases hreaction with
  | @granted own frame attempt _ _ _ hphase hsender =>
      simp only [Turn.notices_acceptAssociation, Turn.notices_stop,
        System.notices_opening, List.nil_append] at hup
      obtain ⟨_, hsame⟩ := (Station.mem_upNotice ..).mp hup
      obtain rfl := Notice.up.inj hsame
      exact ⟨attempt, hphase, hsender, hsender⟩
  | declined | followed | joined =>
      simp [Bool.cond_eq_ite] at hup
  | _ => simp at hup

end Reaction

/-- Of the requests sent out, the last one decides who has been asked. -/
private theorem last_asked (earlier : List OutgoingFrame)
    {later : List OutgoingFrame} {request : OutgoingFrame}
    {accessPoint : MacAddr} (hasks : request.asks = true)
    (hreceiver : request.header.receiver = accessPoint)
    (hlater : ∀ frame ∈ later, frame.asks = true →
      frame.header.receiver = accessPoint) :
    ∃ last, ((earlier ++ request :: later).filter
        OutgoingFrame.asks).getLast? = some last ∧
      last.header.receiver = accessPoint := by
  let asking := request :: later.filter OutgoingFrame.asks
  have hnonempty : asking ≠ [] := List.cons_ne_nil _ _
  refine ⟨asking.getLast hnonempty, ?_, ?_⟩
  · rw [List.filter_append, List.filter_cons_of_pos hasks,
      List.getLast?_append_of_ne_nil _ hnonempty,
      List.getLast?_eq_some_getLast hnonempty]
  · rcases List.mem_cons.mp (List.getLast_mem hnonempty) with hlast | hlast
    · rw [hlast, hreceiver]
    · obtain ⟨hmem, hasking⟩ := List.mem_filter.mp hlast
      exact hlater _ hmem hasking

private theorem Requested.eq_of_last {history : List Moment} {asked : MacAddr}
    (hrequested : Requested history asked)
    {earlier later : List OutgoingFrame} {request : OutgoingFrame}
    (hsent : framesSent history = earlier ++ request :: later)
    (hasks : request.asks = true)
    (hlater : ∀ frame ∈ later, frame.asks = true →
      frame.header.receiver = request.header.receiver) :
    asked = request.header.receiver := by
  obtain ⟨before, first, after, hbefore, hfirst, hreceiver, hafter⟩ :=
    hrequested
  obtain ⟨last, hlast, hasked⟩ :=
    last_asked before hfirst hreceiver hafter
  obtain ⟨other, hother, hsame⟩ :=
    last_asked earlier hasks rfl hlater
  rw [← hbefore, hsent, hother] at hlast
  obtain rfl := Option.some.inj hlast
  exact hasked.symm.trans hsame

namespace Moment

variable {moment : Moment}

private theorem Pursues.agrees {frame : Frame} {link : DetectedLink}
    {request : OutgoingFrame} (hpursues : moment.Pursues frame link request) :
    (frame.header.kind = .beacon ∨ frame.header.kind = .probeResponse) ∧
      link.link.attachment = frame.header.transmitter ∧
      request.header.receiver = frame.accessPoint := by
  obtain ⟨hreceived, ⟨source, answer, hconsulted⟩, hsent, hasks⟩ := hpursues
  obtain ⟨operation, turn, hoperation, hreaction, _, heffects, hasked⟩ :=
    reaction_of_request (mem_sent.mp hsent)
  have hconsulted := Outcome.mem_turn_notices heffects hconsulted rfl
  obtain ⟨own, other, rfl, hkind, rfl, hreceiver⟩ :=
    hreaction.pursuit hconsulted hasked hasks
  obtain rfl : other = frame := Operation.receive.inj
    (Option.some.inj (hoperation.symm.trans hreceived))
  exact ⟨hkind, rfl, hreceiver⟩

/-- Whoever has been asked last, after such a moment and no request to anybody else, has been asked
there. -/
private theorem Pursues.asked_eq {frame : Frame} {link : DetectedLink}
    {request : OutgoingFrame} (hpursues : moment.Pursues frame link request)
    {earlier between : List Moment} {asked : MacAddr}
    (hothers : ∀ other ∈ framesSent between, other.asks = true →
      other.header.receiver = request.header.receiver)
    (hrequested : Requested (earlier ++ moment :: between) asked) :
    asked = request.header.receiver := by
  obtain ⟨former, next, hsent⟩ := List.append_of_mem hpursues.sent
  have hframes : framesSent (earlier ++ moment :: between) =
      (framesSent earlier ++ former) ++
        request :: (next ++ framesSent between) := by
    simp [framesSent, hsent]
  refine hrequested.eq_of_last hframes hpursues.asks ?_
  intro other hother hasks
  rcases List.mem_append.mp hother with hother | hother
  · -- What the same moment sends besides goes to the same access point.
    have hbesides : moment.Pursues frame link other :=
      { hpursues with sent := by simp [hsent, hother], asks := hasks }
    exact hbesides.agrees.2.2.trans hpursues.agrees.2.2.symm
  · exact hothers other hother hasks

private theorem joining_of_up {up : LinkUp} (hup : .up up ∈ moment.outcome.notices) :
    ∃ attempt, moment.before.station.phase = .joining attempt ∧
      up.newRouter = attempt.target ∧
      up.link.attachment = attempt.target := by
  cases moment.course with
  | idle _ _ heffects => simp [heffects, Outcome.notices] at hup
  | reacted _ hreaction _ _ heffects =>
      exact hreaction.joining_of_up
        (Outcome.mem_turn_notices heffects hup rfl)

end Moment

/-- In every run, where a frame has the station both ask its listener about a link and ask an access
point to be let in, the link named is that of the frame's transmitter.  The access point asked, and
the one that a link is reported to as up if no other one is asked before, is that same one for a
probe response, but for a beacon it is the one whose network the beacon is of.  So the two agree
exactly unless a beacon has another transmitter. -/
theorem approved_link_is_joined_iff (config : Config) (moves : List Move)
    (earlier later : List Moment) (moment : Moment)
    (hhistory : (System.ofConfig config).history moves =
      earlier ++ moment :: later)
    (frame : Frame) (link : DetectedLink) (request : OutgoingFrame)
    (hpursues : moment.Pursues frame link request) :
    link.link.attachment = frame.header.transmitter ∧
    request.header.receiver = frame.accessPoint ∧
    (link.link.attachment = request.header.receiver ↔
      frame.header.kind = .probeResponse ∨
        frame.header.transmitter = frame.header.third) ∧
    ∀ between second rest up, later = between ++ second :: rest →
      (∀ asked ∈ framesSent between, asked.asks = true →
        asked.header.receiver = request.header.receiver) →
      .up up ∈ second.outcome.notices →
      up.newRouter = request.header.receiver ∧
        up.link.attachment = request.header.receiver := by
  obtain ⟨hkind, hattachment, hreceiver⟩ := hpursues.agrees
  refine ⟨hattachment, hreceiver, ?_, ?_⟩
  · rw [hattachment, hreceiver, Frame.accessPoint]
    rcases hkind with hbeacon | hresponse
    · simp [hbeacon]
    · simp [hresponse]
  · intro between second rest up hlater hothers hup
    obtain ⟨attempt, hphase, hrouter, hlink⟩ := Moment.joining_of_up hup
    have hsplit : (System.ofConfig config).history moves =
        (earlier ++ moment :: between) ++ second :: rest := by
      simp [hhistory, hlater]
    obtain ⟨before, _, _, hbetween, hbefore⟩ := System.history_split hsplit
    have hhandshake := handshake_run config before
    rw [← hbetween, ← hbefore] at hhandshake
    have htarget : attempt.target = request.header.receiver :=
      hpursues.asked_eq hothers (hhandshake.requested attempt hphase).2
    exact ⟨hrouter.trans htarget, hlink.trans htarget⟩

namespace Sample

def agree : Decision := fun _ _ => true

def watched : List Move :=
  [.perform agree (.setAddress own),
    .perform agree (.register (.detected ⟨"1"⟩)),
    .perform agree (.register .up)]

/-- The station hears a beacon that its listener approves of. -/
def approves (frame : Frame) : Moment :=
  ⟨(System.ofConfig {}).run watched, .perform agree (.receive frame)⟩

/-- A beacon of one network that another access point transmits. -/
def relayedBeacon : Frame :=
  { beacon with header.transmitter := rival }

end Sample

open Sample in
theorem approved_link_is_joined_sample :
    let moment := approves beacon
    let link := Turn.detectedLink own beacon
    let request : OutgoingFrame := .assocRequest own accessPoint [] {} false
    let grant : Moment := ⟨moment.after, .perform agree (.receive response)⟩
    moment.Pursues beacon link request ∧
      link.link.attachment = request.header.receiver ∧
      ∃ up, .up up ∈ grant.outcome.notices ∧
        up.newRouter = request.header.receiver := by
  intro moment link request grant
  have hpursues : moment.Pursues beacon link request :=
    ⟨rfl, ⟨⟨"1"⟩, true, by decide⟩, by decide, rfl⟩
  have hhistory := System.history_around (System.ofConfig {}) watched []
    moment.move grant.move
  obtain ⟨_, _, hagrees, hlater⟩ := approved_link_is_joined_iff {} _ _ _
    moment hhistory beacon link request hpursues
  have hup : .up linkUp ∈ grant.outcome.notices := by decide
  refine ⟨hpursues, hagrees.mpr (.inr rfl), _, hup, ?_⟩
  exact (hlater [] grant [] _ rfl (by simp [framesSent]) hup).1

open Sample in
/-- The listener approves of one access point, and the station asks another one. -/
theorem approved_link_is_not_joined_sample :
    approves relayedBeacon ∈ (System.ofConfig {}).history
        (watched ++ [.perform agree (.receive relayedBeacon)]) ∧
      ∃ link request, (approves relayedBeacon).Pursues relayedBeacon link
          request ∧
        link.link.attachment = rival ∧
        request.header.receiver = accessPoint := by
  constructor
  · rw [System.history_concat]
    exact List.mem_append_right _ (List.mem_singleton_self _)
  · refine ⟨Turn.detectedLink own relayedBeacon,
      .assocRequest own accessPoint [] {} false, ?_, rfl, rfl⟩
    exact ⟨rfl, ⟨⟨"1"⟩, true, by decide⟩, by decide, rfl⟩

end Roaming
