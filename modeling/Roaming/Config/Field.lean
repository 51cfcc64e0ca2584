import Roaming.Config

namespace Roaming.Config

/-! The named fields of a configuration, in the order in which they are written. -/

inductive Field
  | ssid | activeProbing | probeTimeout | assocTimeout | missedBeaconLimit
  | supportedRates | basicRates | requiredSelectors | erp | qos | ht | vht | he
  | shortPreamble | shortSlots | htMcs | vhtMcs | heMcs
deriving DecidableEq

namespace Field

def all : List Field :=
  [.ssid, .activeProbing, .probeTimeout, .assocTimeout, .missedBeaconLimit,
    .supportedRates, .basicRates, .requiredSelectors, .erp, .qos, .ht, .vht, .he,
    .shortPreamble, .shortSlots, .htMcs, .vhtMcs, .heMcs]

def name : Field → String
  | .ssid => "ssid"
  | .activeProbing => "active_probing"
  | .probeTimeout => "probe_request_timeout_ms"
  | .assocTimeout => "assoc_request_timeout_ms"
  | .missedBeaconLimit => "max_missed_beacons"
  | .supportedRates => "supported_rates"
  | .basicRates => "basic_rates"
  | .requiredSelectors => "bss_membership_selectors"
  | .erp => "erp_supported"
  | .qos => "qos_supported"
  | .ht => "ht_supported"
  | .vht => "vht_supported"
  | .he => "he_supported"
  | .shortPreamble => "short_preamble_supported"
  | .shortSlots => "short_slot_time_supported"
  | .htMcs => "ht_mcs"
  | .vhtMcs => "vht_mcs"
  | .heMcs => "he_mcs"

def ofName? (name : String) : Option Field :=
  all.find? fun field => field.name == name

theorem ofName?_name (field : Field) : ofName? field.name = some field := by
  cases field <;> decide

end Field

/-- Access to a part of a configuration. -/
structure Part (α : Type) where
  get : Config → α
  set : Config → α → Config

/-- A part by the type of its values. -/
inductive Slot
  | text (part : Part String)
  | boolean (part : Part Bool)
  | long (part : Part UInt64)
  | word (part : Part UInt32)
  | octets (part : Part (List UInt8))

def Field.slot : Field → Slot
  | .ssid => .text ⟨Config.ssid, fun c value => { c with ssid := value }⟩
  | .activeProbing =>
      .boolean ⟨Config.activeProbing, fun c value => { c with activeProbing := value }⟩
  | .probeTimeout =>
      .long ⟨Config.probeTimeoutMillis,
        fun c value => { c with probeTimeoutMillis := value }⟩
  | .assocTimeout =>
      .long ⟨Config.assocTimeoutMillis,
        fun c value => { c with assocTimeoutMillis := value }⟩
  | .missedBeaconLimit =>
      .word ⟨Config.missedBeaconLimit,
        fun c value => { c with missedBeaconLimit := value }⟩
  | .supportedRates =>
      .octets ⟨Config.supportedRates, fun c value => { c with supportedRates := value }⟩
  | .basicRates =>
      .octets ⟨Config.basicRates, fun c value => { c with basicRates := value }⟩
  | .requiredSelectors =>
      .octets ⟨Config.requiredSelectors,
        fun c value => { c with requiredSelectors := value }⟩
  | .erp => .boolean ⟨Config.erp, fun c value => { c with erp := value }⟩
  | .qos => .boolean ⟨Config.qos, fun c value => { c with qos := value }⟩
  | .ht => .boolean ⟨Config.ht, fun c value => { c with ht := value }⟩
  | .vht => .boolean ⟨Config.vht, fun c value => { c with vht := value }⟩
  | .he => .boolean ⟨Config.he, fun c value => { c with he := value }⟩
  | .shortPreamble =>
      .boolean ⟨Config.shortPreamble, fun c value => { c with shortPreamble := value }⟩
  | .shortSlots =>
      .boolean ⟨Config.shortSlots, fun c value => { c with shortSlots := value }⟩
  | .htMcs => .octets ⟨Config.htMcs, fun c value => { c with htMcs := value }⟩
  | .vhtMcs => .octets ⟨Config.vhtMcs, fun c value => { c with vhtMcs := value }⟩
  | .heMcs => .octets ⟨Config.heMcs, fun c value => { c with heMcs := value }⟩

end Roaming.Config
