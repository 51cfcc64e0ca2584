import Roaming.Proofs.Selectors
import Roaming.Proofs.Support

namespace Roaming

/-! The basic rates that a station goes by, and when they are among the rates that it has in common
with its network. -/

def Adoption.response? : Adoption → Option FrameBody
  | .beacon _ => none
  | .response body => some body

def lastResponse? (adoptions : List Adoption) : Option FrameBody :=
  (adoptions.filterMap Adoption.response?).getLast?

private theorem lastResponse?_concat (past : List Adoption) (adoption : Adoption) :
    lastResponse? (past ++ [adoption]) =
      adoption.response?.or (lastResponse? past) :=
  getLast?_filterMap_concat ..

namespace Capabilities

/-- Whether all basic rates are rates that both sides support. -/
def Supported (capabilities : Capabilities) : Prop :=
  ∀ rate ∈ capabilities.basicRates, rate ∈ capabilities.rates

instance (capabilities : Capabilities) : Decidable capabilities.Supported :=
  inferInstanceAs (Decidable (∀ rate ∈ capabilities.basicRates,
    rate ∈ capabilities.rates))

private theorem mem_commonRates {config : Config} {body : FrameBody} {rate : UInt8} :
    rate ∈ commonRates config body ↔
      rate ∈ config.supportedRates ∧ body.rates.supports rate = true :=
  List.mem_filter

end Capabilities

section Negotiated

variable (config : Config) (adoptions : List Adoption)

/-- The rates are those of the frame taken over last. -/
private theorem rates_negotiated :
    (negotiated config adoptions).rates =
      adoptions.getLast?.elim [] fun last =>
        Capabilities.commonRates config last.body := by
  cases adoptions using List.reverseRecOn with
  | nil => rfl
  | append_singleton past adoption =>
      rw [negotiated_concat, List.getLast?_concat]
      exact Capabilities.rates_adopt ..

/-- The basic rates are those of the last response, however many beacons came since. -/
private theorem basicRates_negotiated :
    (negotiated config adoptions).basicRates =
      (lastResponse? adoptions).elim [] fun response =>
        (Capabilities.commonRates config response).filter
          response.rates.requires := by
  induction adoptions using List.reverseRecOn with
  | nil => rfl
  | append_singleton past adoption ih =>
      rw [negotiated_concat, lastResponse?_concat,
        Capabilities.basicRates_adopt, ih]
      cases adoption <;> rfl

private theorem mem_basicRates_negotiated {rate : UInt8} :
    rate ∈ (negotiated config adoptions).basicRates ↔
      rate ∈ config.supportedRates ∧ ∃ response,
        lastResponse? adoptions = some response ∧
        response.rates.requires rate = true := by
  rw [basicRates_negotiated]
  cases lastResponse? adoptions with
  | none => simp
  | some response =>
      simp only [Option.elim_some, List.mem_filter,
        Capabilities.mem_commonRates, Option.some.injEq, exists_eq_left']
      exact ⟨fun ⟨⟨hrate, _⟩, hbasic⟩ => ⟨hrate, hbasic⟩, fun ⟨hrate, hbasic⟩ =>
        ⟨⟨hrate, RateSet.supports_of_requires hbasic⟩, hbasic⟩⟩

private theorem mem_rates_negotiated {rate : UInt8} :
    rate ∈ (negotiated config adoptions).rates ↔
      rate ∈ config.supportedRates ∧ ∃ last,
        adoptions.getLast? = some last ∧
        last.body.rates.supports rate = true := by
  rw [rates_negotiated]
  cases adoptions.getLast? with
  | none => simp
  | some last => simp [Capabilities.mem_commonRates]

end Negotiated

/-- What the last response made basic, of the rates of a station, is still on offer in the frame
taken over last. -/
def Upheld (config : Config) (adoptions : List Adoption) : Prop :=
  ∀ rate ∈ config.supportedRates, ∀ response,
    lastResponse? adoptions = some response →
    response.rates.requires rate = true →
    ∃ last, adoptions.getLast? = some last ∧
      last.body.rates.supports rate = true

theorem supported_negotiated_iff (config : Config)
    (adoptions : List Adoption) :
    (negotiated config adoptions).Supported ↔ Upheld config adoptions := by
  constructor
  · intro hsupported rate hrate response hresponse hbasic
    have hbefore := (mem_basicRates_negotiated config adoptions).mpr
      ⟨hrate, response, hresponse, hbasic⟩
    exact ((mem_rates_negotiated config adoptions).mp
      (hsupported rate hbefore)).2
  · intro hupheld rate hbasic
    obtain ⟨hrate, response, hresponse, hrequired⟩ :=
      (mem_basicRates_negotiated config adoptions).mp hbasic
    exact (mem_rates_negotiated config adoptions).mpr
      ⟨hrate, hupheld rate hrate response hresponse hrequired⟩

private theorem upheld_response (config : Config) (past : List Adoption)
    (response : FrameBody) :
    Upheld config (past ++ [.response response]) := by
  intro rate _ other hother hbasic
  rw [lastResponse?_concat] at hother
  obtain rfl : response = other := Option.some.inj hother
  exact ⟨.response response, List.getLast?_concat,
    RateSet.supports_of_requires hbasic⟩

/-- Whether a network can take back a rate and still be heeded: it has to go on advertising a
required selector, which must not be the number of the rate itself. -/
def Config.Revocable (config : Config) (rate : UInt8) : Prop :=
  rate ∈ config.supportedRates ∧ rate.toNat < 128 ∧
    (config.requiredSelectors = [] ∨ ∃ selector ∈ config.requiredSelectors,
      selector.toNat < 128 ∧ selector ≠ rate)

private theorem Station.advertisesAny_of_heeds {station : Station}
    {decision : Decision} {frame : Frame}
    (hheeds : station.heeds decision frame = true)
    (hbeacon : frame.header.kind = .beacon) :
    Turn.advertisesAny station.config frame.body.rates = true := by
  unfold heeds at hheeds
  split at hheeds
  · cases hheeds
  · rw [hbeacon] at hheeds
    have hjoins := (Bool.and_eq_true_iff.mp hheeds).2
    rcases Bool.or_eq_true_iff.mp hjoins with hswitches | hsuits
    · exact (Bool.and_eq_true_iff.mp hswitches).1
    · obtain ⟨hany, _⟩ := Bool.and_eq_true_iff.mp hsuits
      exact (Bool.and_eq_true_iff.mp hany).1

private theorem Moment.granted?_of_beacon {moment : Moment} {frame : Frame}
    (hoperation : moment.operation? = some (.receive frame))
    (hbeacon : frame.header.kind = .beacon) : moment.granted? = none := by
  unfold granted?
  split
  · next hreceive =>
      obtain rfl := Operation.receive.inj
        (Option.some.inj (hoperation.symm.trans hreceive))
      simp [hbeacon]
  · rfl

/-- A beacon is taken over only if it advertises a required selector. -/
private theorem Moment.advertisesAny_of_adoption {moment : Moment} {body : FrameBody}
    (hadoption : moment.adoption? = some (.beacon body)) :
    Turn.advertisesAny moment.before.station.config body.rates = true := by
  unfold adoption? at hadoption
  split at hadoption
  · next frame hoperation =>
      split at hadoption
      · next hadopts =>
          have hframe := Option.some.inj hadoption
          unfold Adoption.ofFrame at hframe
          split at hframe
          · next hbeacon =>
              obtain rfl := Adoption.beacon.inj hframe
              rcases hadopts with hheeds | hgranted
              · exact Station.advertisesAny_of_heeds hheeds hbeacon
              · simp [granted?_of_beacon hoperation hbeacon] at hgranted
          · cases hframe
      · cases hadoption
  · cases hadoption

private theorem advertisesAny_of_mem_adoptions {config : Config} {moves : List Move}
    {body : FrameBody}
    (hmem : .beacon body ∈ adoptions ((System.ofConfig config).history moves)) :
    Turn.advertisesAny config body.rates = true := by
  obtain ⟨moment, hmoment, hadoption⟩ := List.mem_filterMap.mp hmem
  obtain ⟨earlier, later, hhistory⟩ := List.append_of_mem hmoment
  obtain ⟨before, _, _, _, hbefore⟩ := System.history_split hhistory
  have hadvertises := Moment.advertisesAny_of_adoption hadoption
  rw [hbefore, System.config_run] at hadvertises
  exact hadvertises

private theorem upheld_of_irrevocable {config : Config} {adoptions : List Adoption}
    (hirrevocable : ∀ rate, ¬config.Revocable rate)
    (hadvertises : ∀ body, .beacon body ∈ adoptions →
      Turn.advertisesAny config body.rates = true) :
    Upheld config adoptions := by
  intro rate hrate response hresponse hbasic
  cases adoptions using List.reverseRecOn with
  | nil => cases hresponse
  | append_singleton past last =>
      cases last with
      | response body =>
          exact upheld_response config past body rate hrate response hresponse
            hbasic
      | beacon body =>
          refine ⟨.beacon body, List.getLast?_concat, ?_⟩
          have hany := hadvertises body (by simp)
          unfold Turn.advertisesAny at hany
          rcases Bool.or_eq_true_iff.mp hany with hempty | hlisted
          · exact absurd ⟨hrate, RateSet.lt_of_requires hbasic,
              .inl (List.isEmpty_iff.mp hempty)⟩ (hirrevocable rate)
          · obtain ⟨selector, hselector, hadvertised⟩ :=
              List.any_eq_true.mp hlisted
            have hsame : selector = rate :=
              Decidable.byContradiction fun hother =>
                hirrevocable rate ⟨hrate, RateSet.lt_of_requires hbasic,
                  .inr ⟨selector, hselector,
                    RateSet.lt_of_requires hadvertised, hother⟩⟩
            exact RateSet.supports_of_requires (hsame ▸ hadvertised)

private theorem Moment.station_received {system : System} {own : MacAddr}
    (haddress : system.station.address = some own) {decision : Decision}
    {frame : Frame} {turn : Turn}
    (hturn : (system.opening (.receive frame)).receive own decision frame =
      turn) :
    (Moment.after ⟨system, .perform decision (.receive frame)⟩).station =
      { turn.station with
        reportedAp := turn.settledAp system.station.isAssociated } := by
  have hperform := System.perform_receive haddress decision frame
  rw [hturn] at hperform
  exact (congrArg (fun outcome => outcome.system.station) hperform).trans
    (Turn.station_settle ..)

namespace Sample

def offering (config : Config) (frame : Frame) (rates : RateSet) : Frame :=
  { frame with
    body.ssid := config.ssidOctets
    body.rates := rates }

/-- A station on its way to the sample access point, with nobody to ask about it. -/
structure Bound (config : Config) (phase : Phase) (station : Station) :
    Prop where
  ssid : station.ssid = config.ssidOctets
  bssid : phase.isBound = true → station.bssid = some accessPoint
  config : station.config = config
  address : station.address = some own
  unheard : station.listeners.detected = none
  phase : station.phase = phase

section Bound

variable {config : Config} {phase : Phase} {system : System}
  {kept rates : RateSet}

private theorem bound_start (config : Config) :
    Bound config .searching (Moment.after
      ⟨System.ofConfig config, .perform refuse (.setAddress own)⟩).station :=
  ⟨rfl, nofun, rfl, rfl, rfl, rfl⟩

private theorem Bound.switches (hbound : Bound config phase system.station)
    (frame : Frame) : system.station.switches own refuse frame = false := by
  simp [Station.switches, Station.prefers, hbound.unheard]

private theorem Bound.suits (hbound : Bound config phase system.station)
    (hany : Turn.advertisesAny config kept = true) :
    system.station.suits (offering config beacon kept) = true := by
  have hwanted : system.station.wantsSsid config.ssidOctets = true := by
    simp [Station.wantsSsid, hbound.ssid]
  have hours : (system.station.bssid == some accessPoint ||
      !system.station.phase.isBound) = true := by
    rw [hbound.phase]
    cases hphase : phase.isBound with
    | false => simp
    | true => simp [hbound.bssid hphase]
  unfold Station.suits
  rw [hbound.config]
  simp only [Bool.and_eq_true]
  exact ⟨⟨hany, hwanted⟩, hours⟩

private theorem reaches_offering (config : Config) (kept : RateSet) :
    (offering config beacon kept).reaches own = true :=
  show beacon.reaches own = true by decide

private theorem Bound.hears (hbound : Bound config .searching system.station)
    (hany : Turn.advertisesAny config kept = true) :
    Bound config (.joining ⟨false, accessPoint⟩)
      (Moment.after ⟨system, .perform refuse
        (.receive (offering config beacon kept))⟩).station := by
  let frame := offering config beacon kept
  let turn := system.opening (.receive frame)
  have hopen : turn.station.phase.isOpen = true := by
    simp [turn, hbound.phase, Phase.isOpen]
  have hswitches : turn.station.switches own refuse frame = false :=
    hbound.switches frame
  have hsuits : turn.station.suits frame = true := hbound.suits hany
  have hturn : turn.receive own refuse frame =
      (turn.consulted own refuse frame).joinSender own frame := by
    rw [Turn.receive_beacon (reaches_offering ..) rfl, Turn.receiveBeacon_eq,
      hswitches, hsuits, hopen]
    rfl
  rw [Moment.station_received hbound.address hturn]
  constructor
  · simp [turn, hbound.ssid]
  · intro _
    simp [frame, offering, beacon]
  · simp [turn, hbound.config]
  · simp [turn, hbound.address]
  · simp [turn, hbound.unheard]
  · simp [frame, offering, beacon]

private theorem Bound.letIn
    (hbound : Bound config (.joining ⟨false, accessPoint⟩) system.station)
    (rates : RateSet) :
    Bound config .associated
      (Moment.after ⟨system, .perform refuse
        (.receive (offering config response rates))⟩).station := by
  let frame := offering config response rates
  let turn := system.opening (.receive frame)
  have hturn : turn.receive own refuse frame =
      (turn.stop .assocRequest).acceptAssociation own frame := by
    have hreceive : turn.receive own refuse frame =
        turn.receiveAssocResponse own frame := rfl
    have hphase : turn.station.phase = .joining ⟨false, accessPoint⟩ :=
      hbound.phase
    rw [hreceive, Turn.receiveAssocResponse, hphase]
    rfl
  rw [Moment.station_received hbound.address hturn]
  constructor
  · simp [turn, hbound.ssid]
  · intro _
    simp [turn, hbound.bssid rfl]
  · simp [turn, hbound.config]
  · simp [turn, hbound.address]
  · simp [turn, hbound.unheard]
  · simp

private theorem Bound.adopts (hbound : Bound config phase system.station)
    (hany : Turn.advertisesAny config kept = true) :
    Moment.adoption? ⟨system, .perform refuse
        (.receive (offering config beacon kept))⟩ =
      some (.beacon (offering config beacon kept).body) :=
  Moment.adoption?_of_heeds rfl (System.heeds_beacon hbound.address
    (reaches_offering ..) rfl (.inr (hbound.suits hany)))

private theorem Bound.adoptsResponse
    (hbound : Bound config (.joining ⟨false, accessPoint⟩) system.station) :
    Moment.adoption? ⟨system, .perform refuse
        (.receive (offering config response rates))⟩ =
      some (.response (offering config response rates).body) := by
  let moment : Moment :=
    ⟨system, .perform refuse (.receive (offering config response rates))⟩
  have hgranted : moment.granted? = some accessPoint :=
    Moment.granted?_of_receive rfl hbound.phase (.inl rfl) rfl rfl
      (Station.isAssociated_iff.mpr (hbound.letIn rates).phase)
  exact Moment.adoption?_of_granted rfl (by rw [hgranted]; rfl)

end Bound

/-- The access point makes a rate basic, and takes it back in its next beacon. -/
def withdraws (config : Config) (kept : RateSet) (rate : UInt8) : List Move :=
  [.perform refuse (.setAddress own),
    .perform refuse (.receive (offering config beacon kept)),
    .perform refuse
      (.receive (offering config response [Rate.ofUnits rate true])),
    .perform refuse (.receive (offering config beacon kept))]

private theorem adoptions_withdraws {config : Config} {kept : RateSet}
    (hany : Turn.advertisesAny config kept = true) (rate : UInt8) :
    adoptions ((System.ofConfig config).history
        (withdraws config kept rate)) =
      [.beacon (offering config beacon kept).body,
        .response (offering config response [Rate.ofUnits rate true]).body,
        .beacon (offering config beacon kept).body] := by
  have hstart := bound_start config
  have hjoining := hstart.hears hany
  have hjoined := hjoining.letIn [Rate.ofUnits rate true]
  rw [adoptions, withdraws, System.history, List.filterMap_cons_none rfl,
    System.history, List.filterMap_cons_some (hstart.adopts hany),
    System.history, List.filterMap_cons_some hjoining.adoptsResponse,
    System.history, List.filterMap_cons_some (hjoined.adopts hany)]
  rfl

end Sample

private theorem not_upheld_withdraws {config : Config} {rate : UInt8}
    (hrevocable : config.Revocable rate) :
    ∃ moves, ¬Upheld config
      (adoptions ((System.ofConfig config).history moves)) := by
  obtain ⟨hrate, hlow, hselectors⟩ := hrevocable
  obtain ⟨kept, hany, hkept⟩ : ∃ kept : RateSet,
      Turn.advertisesAny config kept = true ∧ kept.supports rate = false := by
    rcases hselectors with hnone | ⟨selector, hselector, hlow, hother⟩
    · exact ⟨[], by simp [Turn.advertisesAny, hnone], rfl⟩
    · refine ⟨[Rate.ofUnits selector true],
        Config.any_single hselector hlow, ?_⟩
      simp [RateSet.supports, Rate.units_ofUnits hlow, hother]
  refine ⟨Sample.withdraws config kept rate, fun hupheld => ?_⟩
  rw [Sample.adoptions_withdraws hany] at hupheld
  have hbasic : RateSet.requires [Rate.ofUnits rate true] rate = true :=
    (RateSet.advertises_single hlow rate).mpr rfl
  obtain ⟨last, hlast, hsupports⟩ := hupheld rate hrate _ rfl hbasic
  obtain rfl := Option.some.inj hlast
  exact Bool.false_ne_true (hkept.symm.trans hsupports)

/-- Whatever a station takes over, and so in every run, its basic rates are among the rates that it
shares with its network if and only if the frame taken over last still offers those that the last
response made basic.  This is so right after a response; but it holds of all runs only if no rate
that a network can make basic can be taken back by a beacon that is heeded. -/
theorem basic_rates_supported_iff (config : Config) :
    (∀ adoptions, (negotiated config adoptions).Supported ↔
      Upheld config adoptions) ∧
    (∀ moves : List Move,
      let system := System.ofConfig config
      (system.run moves).station.capabilities.Supported ↔
        Upheld config (adoptions (system.history moves))) ∧
    (∀ past response, Upheld config (past ++ [.response response])) ∧
    ((∀ moves : List Move,
        ((System.ofConfig config).run moves).station.capabilities.Supported) ↔
      ∀ rate, ¬config.Revocable rate) := by
  have hrun (moves : List Move) :
      ((System.ofConfig config).run moves).station.capabilities.Supported ↔
        Upheld config (adoptions ((System.ofConfig config).history moves)) := by
    rw [capabilities_run]
    exact supported_negotiated_iff config _
  refine ⟨supported_negotiated_iff config, hrun, upheld_response config, ?_⟩
  constructor
  · intro hsupported rate hrevocable
    obtain ⟨moves, hbroken⟩ := not_upheld_withdraws hrevocable
    exact hbroken ((hrun moves).mp (hsupported moves))
  · intro hirrevocable moves
    exact (hrun moves).mpr (upheld_of_irrevocable hirrevocable fun _ hmem =>
      advertisesAny_of_mem_adoptions hmem)

theorem basic_rate_unsupported_sample :
    let reached := (System.ofConfig {}).run (Sample.withdraws {} [] 12)
    reached.station.phase = .associated ∧
      reached.station.capabilities.basicRates = [12] ∧
      reached.station.capabilities.rates = [] ∧
      ¬reached.station.capabilities.Supported := by
  decide

end Roaming
