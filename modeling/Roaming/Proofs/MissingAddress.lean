import Roaming.Proofs.Probing

namespace Roaming

/-! A station that has never been given an address.  It remembers what it is told to want and to
report, and does nothing else. -/

namespace Moment

/-- The address that the station is given, if it is given one. -/
def address? (moment : Moment) : Option MacAddr :=
  match moment.operation? with
  | some (.setAddress address) => some address
  | _ => none

def ssid? (moment : Moment) : Option Ssid :=
  match moment.operation? with
  | some (.setSsid ssid) => some ssid
  | _ => none

end Moment

/-- The name that the station has been told last to look for, or that its configuration gives. -/
def ssidSetting (config : Config) (history : List Moment) : Ssid :=
  (history.filterMap Moment.ssid?).getLast?.getD config.ssidOctets

private theorem Reaction.ssid_eq {system : System} {decision : Decision}
    {operation : Operation} {turn : Turn}
    (hreaction : Reaction system decision operation turn) :
    turn.station.ssid = (system.station.prepare operation).ssid := by
  cases hreaction <;> simp

namespace Station

/-- The station is as it was made, but for what it has been told to want and to report. -/
def Pristine (config : Config) (station : Station) : Prop :=
  station = { ofConfig config with
    ssid := station.ssid
    activeProbing := station.activeProbing
    listeners := station.listeners }

variable {config : Config} {station : Station}

private theorem Pristine.timeouts (hpristine : station.Pristine config) :
    station.timeouts = .idle := by
  rw [hpristine]
  rfl

private theorem Pristine.phase (hpristine : station.Pristine config) :
    station.phase = .searching := by
  rw [hpristine]
  rfl

private theorem Pristine.prepare (hpristine : station.Pristine config)
    {operation : Operation}
    (haddress : (station.prepare operation).address = none) :
    (station.prepare operation).Pristine config := by
  unfold Pristine at hpristine ⊢
  cases operation with
  | setAddress address => cases haddress
  | register | ensureAssociated | receive | timeout | send
  | capabilitiesChanged | setActiveProbing | setSsid =>
      rw [hpristine]
      rfl

end Station

namespace Operation

/-- Whether an operation can only be carried out under an address of the station's own. -/
def needsAddress : Operation → Bool
  | .setAddress _ | .register _ | .timeout _ => false
  | _ => true

end Operation

namespace System

def given (system : System) (address : MacAddr) : System :=
  { system with station.address := some address }

/-- What comes of an operation that needs an address. -/
def refusal (system : System) : Outcome where
  system := system
  error? := some .addressNotConfigured

/-- A system whose station refuses all that needs an address, and remembers no more of it than what
it is told to want. -/
structure Helpless (system : System) : Prop where
  ensureAssociated : ∀ decision,
    system.perform decision .ensureAssociated = system.refusal
  receive : ∀ decision frame,
    system.perform decision (.receive frame) = system.refusal
  send : ∀ decision destination payload tid,
    system.perform decision (.send destination payload tid) = system.refusal
  capabilitiesChanged : ∀ decision,
    system.perform decision .capabilitiesChanged = system.refusal
  setSsid : ∀ decision ssid, system.perform decision (.setSsid ssid) =
    { system with station.ssid := ssid }.refusal
  setActiveProbing : ∀ decision on,
    system.perform decision (.setActiveProbing on) =
      { system with station.activeProbing := on }.refusal
  timeout : ∀ decision id, system.perform decision (.timeout id) = { system }

/-- What the station has been told before it is given an address counts as if it were told
afterwards, but that it begins to probe only when it is to look for a network. -/
structure Remembers (system : System) : Prop where
  setSsid : ∀ decision ssid address,
    (system.perform decision (.setSsid ssid)).system.given address =
      ((system.given address).perform decision (.setSsid ssid)).system
  silenced : ∀ decision address,
    (system.perform decision (.setActiveProbing false)).system.given address =
      ((system.given address).perform decision (.setActiveProbing false)).system
  probing : ∀ decision address,
    ((system.perform decision
        (.setActiveProbing true)).system.given address).perform decision
          .ensureAssociated =
      (system.given address).perform decision (.setActiveProbing true)

variable {config : Config} {system : System}

/-- Without an address an operation is noted, at most. -/
private theorem perform_of_none (haddress : system.station.address = none)
    (hidle : system.station.timeouts = .idle) (decision : Decision)
    (operation : Operation) :
    system.perform decision operation =
      { system := (system.opening operation).system
        error? := if operation.needsAddress then some .addressNotConfigured
          else none } := by
  obtain ⟨station, clock⟩ := system
  cases operation with
  | setAddress | register => rfl
  | ensureAssociated | receive | send | capabilitiesChanged
  | setActiveProbing | setSsid =>
      simp only [perform, act]
      split
      · rfl
      · next own hown => cases haddress.symm.trans hown
  | timeout id =>
      have htake : station.timeouts.take id = (none, .idle) := by
        rw [hidle]
        rfl
      simp only [perform, handleTimeout, htake]
      simp [opening, Turn.system, Operation.needsAddress, Station.prepare,
        htake]

section Address

variable {own : MacAddr} (haddress : system.station.address = some own)

include haddress

private theorem act_of_kept {handler : MacAddr → Turn → Turn}
    (hkept : handler own ⟨system.station, system.clock, []⟩ =
      ⟨system.station, system.clock, []⟩) : system.act handler = { system } := by
  have hsettle := Turn.settle_isAssociated ⟨system.station, system.clock, []⟩
  unfold act
  rw [haddress]
  simp only [hkept, hsettle]

private theorem perform_setSsid_of_ne (hphase : system.station.phase ≠ .refused)
    (decision : Decision) (ssid : Ssid) :
    system.perform decision (.setSsid ssid) =
      { system := { system with station.ssid := ssid } } := by
  let later : System := { system with station.ssid := ssid }
  have hlater : later.station.address = some own := haddress
  change later.act (fun own turn => turn.changeSsid own) = { system := later }
  refine act_of_kept hlater ?_
  unfold Turn.changeSsid
  split
  · next hrefused => exact absurd hrefused hphase
  · rfl

private theorem perform_silenced_of_idle
    (hidle : system.station.timeouts.armed? .probeRequest = none)
    (decision : Decision) :
    system.perform decision (.setActiveProbing false) =
      { system := { system with station.activeProbing := false } } := by
  let later : System := { system with station.activeProbing := false }
  have hlater : later.station.address = some own := haddress
  change later.act (fun own turn => turn.changeActiveProbing own) =
    { system := later }
  refine act_of_kept hlater ?_
  simp [later, Turn.changeActiveProbing, Turn.stop,
    Timeouts.cancel_of_none _ _ _ hidle]

end Address

section Pristine

variable (hpristine : system.station.Pristine config)
  (haddress : system.station.address = none)

include hpristine haddress

private theorem helpless_of_none : system.Helpless := by
  have hperform := perform_of_none haddress hpristine.timeouts
  refine ⟨fun decision => hperform decision _,
    fun decision frame => hperform decision _,
    fun decision destination payload tid => hperform decision _,
    fun decision => hperform decision _,
    fun decision ssid => hperform decision _,
    fun decision on => hperform decision _, fun decision id => ?_⟩
  rw [hperform]
  obtain ⟨station, clock⟩ := system
  have hidle : station.timeouts = .idle := hpristine.timeouts
  have htake : (station.timeouts.take id).2 = station.timeouts := by
    rw [hidle]
    rfl
  simp [opening, Turn.system, Operation.needsAddress, Station.prepare, htake]

private theorem remembers_of_none : system.Remembers := by
  have hperform := perform_of_none haddress hpristine.timeouts
  have hphase : system.station.phase ≠ .refused := by
    simp [hpristine.phase]
  have hidle : system.station.timeouts.armed? .probeRequest = none := by
    rw [hpristine.timeouts]
    rfl
  refine ⟨fun decision ssid address => ?_, fun decision address => ?_,
    fun decision address => ?_⟩
  · have haddressed : (system.given address).station.address = some address :=
      rfl
    rw [hperform, perform_setSsid_of_ne haddressed hphase]
    rfl
  · have haddressed : (system.given address).station.address = some address :=
      rfl
    rw [hperform, perform_silenced_of_idle haddressed hidle]
    rfl
  · rw [hperform]
    rfl

end Pristine

end System

namespace Moment

variable {moment : Moment}

private theorem after_of_none (haddress : moment.before.station.address = none)
    (hidle : moment.before.station.timeouts = .idle) :
    moment.after =
      ⟨moment.noted, moment.move.clock moment.before.clock⟩ := by
  have hopened : ∀ decision operation,
      moment.opened.perform decision operation = _ :=
    System.perform_of_none haddress hidle
  unfold after outcome noted
  cases moment.operation? with
  | none => rfl
  | some operation =>
      simp only [hopened]
      rfl

private theorem address_after :
    moment.after.station.address =
      moment.address?.or moment.before.station.address := by
  rw [moment.eq_noted (fun _ _ => rfl) Reaction.address_eq]
  unfold noted address?
  cases moment.operation? with
  | none => rfl
  | some operation => cases operation <;> rfl

private theorem ssid_after :
    moment.after.station.ssid =
      moment.ssid?.getD moment.before.station.ssid := by
  rw [moment.eq_noted (fun _ _ => rfl) Reaction.ssid_eq]
  unfold noted ssid?
  cases moment.operation? with
  | none => rfl
  | some operation => cases operation <;> rfl

end Moment

namespace System

theorem address_run (config : Config) (moves : List Move) :
    ((ofConfig config).run moves).station.address =
      (((ofConfig config).history moves).filterMap
        Moment.address?).getLast? := by
  refine run_induction (motive := fun history system =>
    system.station.address = (history.filterMap Moment.address?).getLast?)
    rfl ?_ moves
  intro history system move hbefore
  rw [getLast?_filterMap_concat, Moment.address_after, hbefore]

private theorem address_run_eq_none (config : Config) (moves : List Move) :
    ((ofConfig config).run moves).station.address = none ↔
      ∀ moment ∈ (ofConfig config).history moves, moment.address? = none := by
  rw [address_run, List.getLast?_eq_none_iff, List.filterMap_eq_nil_iff]

theorem ssid_run (config : Config) (moves : List Move) :
    ((ofConfig config).run moves).station.ssid =
      ssidSetting config ((ofConfig config).history moves) := by
  refine run_induction (motive := fun history system =>
    system.station.ssid = ssidSetting config history) rfl ?_ moves
  intro history system move hbefore
  rw [Moment.ssid_after, hbefore]
  unfold ssidSetting
  rw [getLast?_filterMap_concat]
  cases Moment.ssid? ⟨system, move⟩ <;> rfl

/-- As long as the station has no address, it is none but the others who use the clock. -/
theorem pristine_run (config : Config) (moves : List Move)
    (haddress : ((ofConfig config).run moves).station.address = none) :
    ((ofConfig config).run moves).station.Pristine config ∧
      ((ofConfig config).run moves).clock = moves.foldl Move.clock .start := by
  induction moves using List.reverseRecOn with
  | nil => exact ⟨rfl, rfl⟩
  | append_singleton moves move ih =>
      rw [run_concat] at haddress ⊢
      have hbefore := (Option.or_eq_none_iff.mp
        (Moment.address_after.symm.trans haddress)).2
      obtain ⟨hpristine, hclock⟩ := ih hbefore
      have hafter := Moment.after_of_none hbefore hpristine.timeouts
      rw [hafter] at haddress ⊢
      refine ⟨?_, ?_⟩
      · unfold Moment.noted at haddress ⊢
        cases hoperation :
            Moment.operation? ⟨(ofConfig config).run moves, move⟩ with
        | none => exact hpristine
        | some operation =>
            rw [hoperation] at haddress
            exact hpristine.prepare haddress
      · rw [List.foldl_append, ← hclock]
        rfl

end System

/-- In every run no timeout meets an error, whatever event is handed over.  The station has no
address exactly as long as it has been given none.  Until then it is as it was made, but for what it
has been told to want and to report, and the clock is as others have left it.  All but timeouts is
refused, and leaves nothing but a setting, which counts once the station has its address. -/
theorem nothing_is_done_unaddressed (config : Config) (moves : List Move) :
    let reached := (System.ofConfig config).run moves
    let history := (System.ofConfig config).history moves
    (∀ decision id, (reached.perform decision (.timeout id)).error? = none) ∧
    (reached.station.address = none ↔
      ∀ moment ∈ history, moment.address? = none) ∧
    (reached.station.address = none →
      reached.station = { Station.ofConfig config with
        ssid := ssidSetting config history
        activeProbing := probingSetting config history
        listeners := reached.station.listeners } ∧
      reached.clock = moves.foldl Move.clock .start ∧
      reached.Helpless ∧ reached.Remembers) := by
  intro reached history
  refine ⟨fun _ id => System.handleTimeout_error (unset_run config moves) id,
    System.address_run_eq_none config moves, fun haddress => ?_⟩
  obtain ⟨hpristine, hclock⟩ := System.pristine_run config moves haddress
  have hssid : reached.station.ssid = ssidSetting config history :=
    System.ssid_run config moves
  have hprobing : reached.station.activeProbing =
      probingSetting config history := activeProbing_run config moves
  refine ⟨?_, hclock, System.helpless_of_none hpristine haddress,
    System.remembers_of_none hpristine haddress⟩
  rw [← hssid, ← hprobing]
  exact hpristine

namespace Sample

/-- A station is told what to look for, and hears of a network, before it has an address. -/
def unaddressed : List Move :=
  [.schedule (.ofNanos 5), .perform refuse (.register .lost),
    .perform refuse (.setSsid [7]), .perform refuse (.setActiveProbing true),
    .perform refuse (.receive beacon), .advance .last]

end Sample

open Sample in
theorem nothing_is_done_unaddressed_sample :
    let reached := (System.ofConfig {}).run unaddressed
    reached.station.address = none ∧ reached.station.ssid = [7] ∧
      reached.station.timeouts = .idle ∧
      reached.perform refuse (.receive beacon) = reached.refusal ∧
      ((reached.perform refuse (.setSsid [8])).system.given
          own).station.ssid = [8] := by
  intro reached
  have haddress : reached.station.address = none := rfl
  obtain ⟨hstation, _, hhelpless, hremembers⟩ :=
    (nothing_is_done_unaddressed {} unaddressed).2.2 haddress
  refine ⟨haddress, ?_, ?_, hhelpless.receive refuse beacon, ?_⟩
  · rw [hstation]
    rfl
  · rw [hstation]
    rfl
  · rw [hhelpless.setSsid]
    rfl

end Roaming
