import Roaming.Proofs.Handshake
import Roaming.Proofs.RateSets

namespace Roaming

/-! Which membership selectors a network advertises when a station asks to join it. -/

namespace Config

/-- No selector is required next to one that a network can advertise. -/
def Uniform (config : Config) : Prop :=
  ∀ first ∈ config.requiredSelectors, ∀ second ∈ config.requiredSelectors,
    first.toNat < 128 → first = second

def admits (config : Config) (frame : Frame) : Bool :=
  (frame.header.kind == .beacon || frame.header.kind == .probeResponse) &&
    Turn.advertisesAll config frame.body.rates

/-- Whether a frame offers a network with the selectors that are looked for: all of them in a probe
response, and any one in a beacon. -/
def accepts (config : Config) (frame : Frame) : Bool :=
  frame.header.kind == .beacon &&
      Turn.advertisesAny config frame.body.rates ||
    frame.header.kind == .probeResponse &&
      Turn.advertisesAll config frame.body.rates

variable {config : Config}

private theorem Uniform.any_eq_all (huniform : config.Uniform) (rates : RateSet) :
    Turn.advertisesAny config rates = Turn.advertisesAll config rates := by
  unfold Turn.advertisesAny Turn.advertisesAll
  cases hrequired : config.requiredSelectors with
  | nil => rfl
  | cons selector selectors =>
      rw [← hrequired, Bool.eq_iff_iff]
      simp only [Bool.or_eq_true, List.any_eq_true, List.all_eq_true]
      constructor
      · rintro (hempty | ⟨first, hfirst, hadvertised⟩) second hsecond
        · simp [hrequired] at hempty
        · obtain ⟨rate, _, hunits, _⟩ :=
            RateSet.advertises_iff.mp hadvertised
          -- What is advertised fits into seven bits.
          have hsame := huniform first hfirst second hsecond
            (hunits ▸ rate.units_lt)
          exact hsame ▸ hadvertised
      · intro hall
        have hselector : selector ∈ config.requiredSelectors := by
          simp [hrequired]
        exact .inr ⟨selector, hselector, hall selector hselector⟩

private theorem uniform_of_single
    (hsingle : ∀ selector ∈ config.requiredSelectors,
      selector.toNat < 128 →
      Turn.advertisesAll config [Rate.ofUnits selector true] = true) :
    config.Uniform := by
  intro first hfirst second hsecond hlow
  have hall := hsingle first hfirst hlow
  exact (RateSet.advertises_single hlow second).mp
    (List.all_eq_true.mp hall second hsecond)

theorem any_single {selector : UInt8}
    (hselector : selector ∈ config.requiredSelectors)
    (hlow : selector.toNat < 128) :
    Turn.advertisesAny config [Rate.ofUnits selector true] = true := by
  refine Bool.or_eq_true_iff.mpr (.inr ?_)
  exact List.any_eq_true.mpr ⟨selector, hselector,
    (RateSet.advertises_single hlow selector).mpr rfl⟩

end Config

/-- An association request that is not repeated on a timeout answers a frame that the rule lets
through. -/
def Moment.AsksBy (rule : Frame → Bool) (moment : Moment) : Prop :=
  ∀ request ∈ moment.sent, request.header.kind = .assocRequest →
    (∀ id, moment.operation? ≠ some (.timeout id)) →
    ∃ frame, moment.operation? = some (.receive frame) ∧ rule frame = true

theorem assocRequest_reaction {system : System} {decision : Decision}
    {operation : Operation} {turn : Turn} {request : OutgoingFrame}
    (hreaction : Reaction system decision operation turn)
    (hrequest : .transmit request ∈ turn.requests)
    (hkind : request.header.kind = .assocRequest)
    (hfirst : ∀ id, operation ≠ .timeout id) :
    ∃ frame, operation = .receive frame ∧
      system.station.config.accepts frame = true := by
  have hasks : request.asks = true := by
    simp [OutgoingFrame.asks, hkind]
  cases hreaction with
  | @joined own frame _ _ hbeacon hjoins =>
      refine ⟨frame, rfl, ?_⟩
      have hany : Turn.advertisesAny system.station.config
          frame.body.rates = true := by
        rcases hjoins with hswitch | ⟨hsuits, _⟩
        · exact (Bool.and_eq_true_iff.mp hswitch).1
        · obtain ⟨hany, _⟩ := Bool.and_eq_true_iff.mp hsuits
          exact (Bool.and_eq_true_iff.mp hany).1
      simp [Config.accepts, hbeacon, hany]
  | @answered own frame _ _ hresponse hanswers =>
      obtain ⟨_, hall⟩ := Bool.and_eq_true_iff.mp hanswers
      exact ⟨frame, rfl, by simp [Config.accepts, hresponse, hall]⟩
  | reprobed | rejoined | expired => exact absurd rfl (hfirst _)
  | reassociated =>
      have hsame := Request.transmit.inj (List.mem_singleton.mp hrequest)
      rw [hsame] at hkind
      cases hkind
  | sent =>
      have hsame := Request.transmit.inj (List.mem_singleton.mp hrequest)
      rw [hsame, OutgoingFrame.asks_data] at hasks
      cases hasks
  | searched | soughtUnsent | released =>
      obtain ⟨_, hsame⟩ : _ ∧ request = .probeRequest _ _ _ := by
        simpa [cond_eq_ite] using hrequest
      rw [hsame, OutgoingFrame.asks_probeRequest] at hasks
      cases hasks
  | _ => simp at hrequest

private theorem asksBy_accepts (moment : Moment) :
    moment.AsksBy moment.before.station.config.accepts := by
  intro request hsent hkind hfirst
  obtain ⟨operation, turn, hoperation, hreaction, _, _, hasked⟩ :=
    Moment.reaction_of_request (Moment.mem_sent.mp hsent)
  have hanswered := assocRequest_reaction hreaction hasked hkind
  obtain ⟨frame, rfl, haccepts⟩ := hanswered (by
    rintro id rfl
    exact hfirst id hoperation)
  exact ⟨frame, hoperation, haccepts⟩

theorem asksBy_run (config : Config) (moves : List Move) :
    ∀ moment ∈ (System.ofConfig config).history moves,
      moment.AsksBy config.accepts := by
  intro moment hmoment
  obtain ⟨earlier, later, hhistory⟩ := List.append_of_mem hmoment
  obtain ⟨before, _, _, _, hbefore⟩ := System.history_split hhistory
  have hconfig := System.config_run config before
  rw [← hbefore] at hconfig
  exact hconfig ▸ asksBy_accepts moment

namespace Sample

def beaconWith (config : Config) (selector : UInt8) : Frame :=
  { beacon with
    body.ssid := config.ssidOctets
    body.rates := [Rate.ofUnits selector true] }

def hears (config : Config) (selector : UInt8) : Moment :=
  ⟨(System.ofConfig config).run [.perform refuse (.setAddress own)],
    .perform refuse (.receive (beaconWith config selector))⟩

end Sample

open Sample in
private theorem hears_asks (config : Config) {selector : UInt8}
    (hany : Turn.advertisesAny config [Rate.ofUnits selector true] = true) :
    (hears config selector).sent = [.assocRequest own accessPoint
      config.ssidOctets config false] := by
  have haddress : (hears config selector).opened.station.address = some own :=
    rfl
  have hreaches : (beaconWith config selector).reaches own = true :=
    show beacon.reaches own = true by decide
  have houtcome : (hears config selector).outcome =
      (hears config selector).opened.act fun own turn =>
        turn.receive own refuse (beaconWith config selector) := rfl
  have hswitch : (hears config selector).opened.station.switches own refuse
      (beaconWith config selector) = false :=
    Bool.and_false _
  have hsuits : (hears config selector).opened.station.suits
      (beaconWith config selector) = true := by
    have hwanted : (Station.ofConfig config).wantsSsid config.ssidOctets =
        true := by
      simp [Station.wantsSsid, Station.ofConfig]
    refine Bool.and_eq_true_iff.mpr ⟨Bool.and_eq_true_iff.mpr ⟨hany, hwanted⟩, ?_⟩
    exact Bool.or_true _
  rw [Moment.sent, houtcome, System.requests_act haddress,
    Turn.receive_beacon hreaches rfl, Turn.receiveBeacon_eq, hswitch, hsuits]
  rfl

open Sample in
private theorem hears_mem_history (config : Config) (selector : UInt8) :
    hears config selector ∈ (System.ofConfig config).history
      [.perform refuse (.setAddress own),
        .perform refuse (.receive (beaconWith config selector))] :=
  List.mem_cons_of_mem _ (List.mem_singleton_self _)

private theorem advertisesAll_of_asksBy {config : Config} {selector : UInt8}
    (hany : Turn.advertisesAny config [Rate.ofUnits selector true] = true)
    (hasks : (Sample.hears config selector).AsksBy config.admits) :
    Turn.advertisesAll config [Rate.ofUnits selector true] = true := by
  have hsent := hears_asks config hany
  obtain ⟨frame, hreceive, hadmits⟩ := hasks _
    (hsent ▸ List.mem_singleton_self _) rfl (by
      intro id htimeout
      cases htimeout)
  obtain rfl : Sample.beaconWith config selector = frame :=
    Operation.receive.inj (Option.some.inj hreceive)
  exact (Bool.and_eq_true_iff.mp hadmits).2

/-- In every run a first association request answers a beacon with any one of the selectors
required, or a probe response with all of them.  So the selectors are enforced in every run exactly
where the configuration requires none next to one that a network can advertise, which is also where
both kinds of frames are accepted with the same rates. -/
theorem selectors_enforced_iff (config : Config) :
    (∀ moves, ∀ moment ∈ (System.ofConfig config).history moves,
      moment.AsksBy config.accepts) ∧
    ((∀ moves, ∀ moment ∈ (System.ofConfig config).history moves,
      moment.AsksBy config.admits) ↔ config.Uniform) ∧
    ((∀ rates, Turn.advertisesAny config rates =
      Turn.advertisesAll config rates) ↔ config.Uniform) := by
  refine ⟨asksBy_run config, ⟨?_, ?_⟩, ⟨?_, ?_⟩⟩
  · intro hruns
    apply Config.uniform_of_single
    intro selector hselector hlow
    exact advertisesAll_of_asksBy (Config.any_single hselector hlow)
      (hruns _ _ (hears_mem_history config selector))
  · intro huniform moves moment hmoment request hsent hkind hfirst
    obtain ⟨frame, hreceive, haccepts⟩ :=
      asksBy_run config moves moment hmoment request hsent hkind hfirst
    refine ⟨frame, hreceive, ?_⟩
    rw [Config.accepts, huniform.any_eq_all, ← Bool.and_or_distrib_right]
      at haccepts
    exact haccepts
  · intro hsame
    apply Config.uniform_of_single
    intro selector hselector hlow
    rw [← hsame]
    exact Config.any_single hselector hlow
  · intro huniform rates
    exact huniform.any_eq_all rates

theorem selectors_not_enforced_sample :
    let config : Config := { requiredSelectors := [127, 126] }
    ∃ moment ∈ (System.ofConfig config).history
        [.perform Sample.refuse (.setAddress Sample.own),
          .perform Sample.refuse
            (.receive (Sample.beaconWith config 127))],
      ¬moment.AsksBy config.admits := by
  refine ⟨_, hears_mem_history _ 127, fun hasks => ?_⟩
  exact absurd (advertisesAll_of_asksBy (by decide) hasks) (by decide)

end Roaming
