import Roaming.Proofs.Declining
import Roaming.Proofs.SessionRun

namespace Roaming

/-! Parties that change nothing: listeners that decline every link that they are asked about, and
a stream of requests that nobody takes. -/

def Effect.isNotice : Effect → Bool
  | .request _ => false
  | .notice _ => true

namespace Session

/-- A session as it is if nobody takes the station's requests. -/
def muted (session : Session) : Session :=
  { session with streaming := false }

def Report.muted (report : Report) : Report where
  session := report.session.muted
  trace := report.trace.filter Effect.isNotice
  error? := report.error?

section Muted

variable (session : Session)

private theorem route_muted (hearer : Hearer) (notice : Notice) (f : Sap → Sap) :
    session.muted.route hearer (.notice notice) f =
      let (trace, session) := session.route hearer (.notice notice) f
      (trace.filter Effect.isNotice, session.muted) := by
  cases hearer <;> rfl

private theorem deliver_muted (effect : Effect) :
    session.muted.deliver effect =
      let (trace, session) := session.deliver effect
      (trace.filter Effect.isNotice, session.muted) := by
  cases effect with
  | request request =>
      cases hstreaming : session.streaming <;>
        simp [deliver, muted, hstreaming, Effect.isNotice]
  | notice notice =>
      cases notice with
      | detected source detected answer =>
          obtain ⟨_, _, judge, _, _, _, _⟩ := session
          cases judge <;> rfl
      | up _ | down _ | lost _ => exact route_muted ..
      | joined _ | left _ => rfl

private theorem deliverAll_muted (effects : List Effect) :
    session.muted.deliverAll effects =
      let (trace, session) := session.deliverAll effects
      (trace.filter Effect.isNotice, session.muted) := by
  induction effects generalizing session with
  | nil => rfl
  | cons effect effects ih => simp [deliverAll, deliver_muted, ih]

private theorem hear_muted (outcome : Outcome) :
    session.muted.hear outcome = (session.hear outcome).muted := by
  have hall := deliverAll_muted { session with system := outcome.system }
    outcome.effects
  exact congrArg (fun heard : List Effect × Session =>
    ({ session := heard.2, trace := heard.1, error? := outcome.error? } :
      Report)) hall

private theorem report_muted (step : Step) :
    session.muted.report step = (session.report step).muted := by
  cases hmove : step.move? session.decision with
  | some move =>
      rw [report_of_move hmove, ← hear_muted]
      exact report_of_move hmove
  | none =>
      cases step with
      | perform _ | advance _ | withhold _ | schedule _ | cancel _ =>
          cases hmove
      | observe listener => cases listener <;> rfl
      | install sap =>
          simp only [report, install, muted]
          cases session.system.station.address <;> rfl
      | decideBy _ _ | collect _ | meddle _ _ | dropStream => rfl

end Muted

def Step.dropsStream : Step → Bool
  | .dropStream => true
  | _ => false

private theorem muted_after_drop (session : Session) {step : Step}
    (hdrops : step.dropsStream = true) :
    (session.after step).muted = session.muted := by
  unfold Step.dropsStream at hdrops
  split at hdrops
  · rfl
  · cases hdrops

/-- What is done apart from dropping the stream. -/
def undropped (steps : List Step) : List Step :=
  steps.filter fun step => !step.dropsStream

/-- What a run shows apart from requests. -/
def reports (session : Session) : List Step → List (Step × Report)
  | [] => []
  | step :: steps =>
      (step, session.report step) :: (session.after step).reports steps

def mutedReports (reports : List (Step × Report)) : List Report :=
  (reports.filter fun report => !report.1.dropsStream).map
    fun report => report.2.muted

theorem muted_run (session : Session) (steps : List Step) :
    mutedReports (session.reports steps) =
        (session.muted.reports (undropped steps)).map Prod.snd ∧
      (session.run steps).muted = session.muted.run (undropped steps) := by
  induction steps generalizing session with
  | nil => exact ⟨rfl, rfl⟩
  | cons step steps ih =>
      have hafter : (session.after step).muted = session.muted.after step :=
        (congrArg Report.session (report_muted session step)).symm
      obtain ⟨hreports, hrun⟩ := ih (session.after step)
      cases hdrops : step.dropsStream with
      | true =>
          rw [muted_after_drop session hdrops] at hreports hrun
          constructor
          · simpa [mutedReports, reports, undropped, hdrops] using hreports
          · simpa [undropped, run, hdrops] using hrun
      | false =>
          rw [hafter] at hreports hrun
          constructor
          · simpa [mutedReports, reports, undropped, hdrops, report_muted]
              using hreports
          · simpa [undropped, run, hdrops] using hrun

end Session

/-- Runs that differ only in whether a listener is asked about detected links, and in what frames
say of their reception, look the same as long as no listener has the station switch; so do runs
that differ only in whether the station's requests are still taken. -/
theorem idle_parties_are_invisible (config : Config) :
    let system := System.ofConfig config
    let session := Session.ofConfig config
    (∀ moves others : List Move, plainly moves = plainly others →
      (∀ moment ∈ system.history moves, moment.Declines) →
      (∀ moment ∈ system.history others, moment.Declines) →
      sights (system.history moves) = sights (system.history others) ∧
        (system.run moves).plain = (system.run others).plain) ∧
    (∀ steps others : List Session.Step,
      Session.undropped steps = Session.undropped others →
      Session.mutedReports (session.reports steps) =
          Session.mutedReports (session.reports others) ∧
        (session.run steps).muted = (session.run others).muted) := by
  intro system session
  constructor
  · intro moves others hsame hmoves hothers
    obtain ⟨hsights, hrun⟩ := System.plain_run hmoves
    obtain ⟨hsights', hrun'⟩ := System.plain_run hothers
    rw [hsights, hrun, hsame, hsights', hrun']
    exact ⟨rfl, rfl⟩
  · intro steps others hsame
    obtain ⟨hreports, hrun⟩ := Session.muted_run session steps
    obtain ⟨hreports', hrun'⟩ := Session.muted_run session others
    rw [hreports, hrun, hsame, hreports', hrun']
    exact ⟨rfl, rfl⟩

namespace Sample

/-- The station joins after someone has declined the beacon, the reception of which was measured. -/
def declinedJoins : List Move :=
  [.perform refuse (.setAddress own),
    .perform refuse (.register (.detected ⟨"1"⟩)),
    .perform refuse (.receive { beacon with measurements := [.stations 3] }),
    .perform refuse (.receive response)]

/-- The station joins, and nobody learns that it has asked to. -/
def unheardJoins : List Session.Step :=
  [.perform (.setAddress own), .dropStream, .perform (.receive beacon),
    .perform (.receive response)]

end Sample

theorem idle_parties_are_invisible_sample :
    let system := System.ofConfig {}
    let session := Session.ofConfig {}
    plainly Sample.declinedJoins = plainly Sample.joins ∧
    sights (system.history Sample.declinedJoins) =
      sights (system.history Sample.joins) ∧
    (session.run Sample.unheardJoins).muted =
      (session.run (Session.undropped Sample.unheardJoins)).muted := by
  intro system session
  have hsame : plainly Sample.declinedJoins = plainly Sample.joins := rfl
  obtain ⟨hmoves, hsteps⟩ := idle_parties_are_invisible {}
  refine ⟨hsame, (hmoves _ _ hsame ?_ ?_).1, (hsteps _ _ ?_).2⟩
  · refine System.declines_of_refusals ?_
    simp [Sample.declinedJoins, Move.decision, Sample.refuse]
  · refine System.declines_of_unasked rfl ?_
    simp [Sample.joins, Move.hooks, Operation.hooks]
  · rfl

end Roaming
