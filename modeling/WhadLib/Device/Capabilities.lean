import WhadLib.Device.Builders
import WhadLib.Encoding
import WhadLib.Library.SentinelTable
import WhadLib.Varint

/-! The table of capabilities, as three loops of the discovery read it. Two of them stop at the entry
without a domain that ends the table; the one that writes it into an answer stops at an entry without
capabilities, too. -/
namespace WhadLib
open Library

/-- The values of `whad_domain_t`. -/
def WhadDomain.value : WhadDomain → UInt32
  | .none => 0
  | .phy => 0x01000000
  | .btClassic => 0x02000000
  | .btle => 0x03000000
  | .dot15d4 => 0x04000000
  | .sixlowpan => 0x05000000
  | .esb => 0x06000000
  | .logitechUnifying => 0x07000000
  | .mosart => 0x08000000
  | .ant => 0x09000000
  | .antPlus => 0x0a000000
  | .antFs => 0x0b000000
  | .board => 0x0c000000

/-- `whad_capability_t`, but for `CAP_NONE`. -/
inductive WhadCapability
  | scan | sniff | inject | jam | hijack | hook | simulateRole | noRawData | read | write | stream | store
  deriving DecidableEq, Repr

def WhadCapability.bit : WhadCapability → UInt32
  | .scan => 1
  | .sniff => 2
  | .inject => 4
  | .jam => 8
  | .hijack => 16
  | .hook => 32
  | .simulateRole => 64
  | .noRawData => 128
  | .read => 256
  | .write => 512
  | .stream => 1024
  | .store => 2048

/-- The capabilities of an entry, put together by `|`; without any it is `CAP_NONE`. -/
def capabilityBits (caps : List WhadCapability) : UInt32 := caps.foldr (fun c bits => c.bit ||| bits) 0

/-- A domain is a multiple of 2^24, and the capabilities lie below. -/
def domainMask : UInt32 := 0xff000000
def capabilityMask : UInt32 := 0x00ffffff

/-- The members of an entry lie under their masks. -/
structure DomainDesc.WellFormed (c : DomainDesc) : Prop where
  domain : c.domain &&& domainMask = c.domain
  cap : c.cap &&& capabilityMask = c.cap

/-- `whad_discovery_is_domain_supported`; the list of capabilities ends with a domain of zero. -/
def whadDiscoveryIsDomainSupported : List DomainDesc → UInt32 → Bool
  | [], _ => false
  | c :: cs, domain =>
    if c.domain = 0 then false
    else if c.domain = domain then true
    else whadDiscoveryIsDomainSupported cs domain

/-- The list of capabilities in `discovery_DeviceInfoResp`. -/
def capabilitiesField : PbField := ⟨capabilitiesTag,.varint⟩

/-- The values that a host reads in it. -/
def readCapabilities (bytes : List UInt8) : Option (List UInt32) :=
  (readRepeated capabilitiesField bytes).map fun vs => vs.map UInt32.ofNat

/-- With enough space in the stream, the callback succeeds and writes these values. -/
def Announces (pb : Nanopb) (capabilities : List DomainDesc) (values : List UInt32) : Prop :=
  ∃ space, ∀ s : Sink UInt8, (∀ n ∈ s.room, space ≤ n) → ∃ bytes,
    whadDiscEnumCapabilitiesCb pb capabilitiesField capabilities s = (true, s.write bytes) ∧
      readCapabilities bytes = some values

/-- A domain is among the values. -/
def DomainAmong (values : List UInt32) (domain : UInt32) : Prop := ∃ v ∈ values, v &&& domainMask = domain

/-- The answers about a table with these entries agree: the values are those of the entries, in order, and
both other loops know just the domains among them. -/
structure AnswersAgree (pb : Nanopb) (entries capabilities : List DomainDesc) (values : List UInt32) : Prop where
  announces : Announces pb capabilities values
  domains : values.map (fun v => v &&& domainMask) = entries.map DomainDesc.domain
  caps : values.map (fun v => v &&& capabilityMask) = entries.map DomainDesc.cap
  supported : ∀ domain, DomainAmong values domain ↔ whadDiscoveryIsDomainSupported capabilities domain = true
  commands : ∀ domain, DomainAmong values domain →
    (entries.find? fun c => c.domain == domain).map DomainDesc.supportedCommands =
      some (whadDiscoveryGetSupportedCommands domain capabilities)
  noCommands : ∀ domain, ¬DomainAmong values domain → whadDiscoveryGetSupportedCommands domain capabilities = 0

/-! The masks. -/

theorem WhadDomain.value_masked (d : WhadDomain) : d.value &&& domainMask = d.value := by
  cases d <;> decide

theorem or_and_mask (x y m : UInt32) : (x ||| y) &&& m = x &&& m ||| y &&& m := by
  apply UInt32.toBitVec_inj.mp
  exact BitVec.and_or_distrib_right

/-- What lies under another mask does not show. -/
theorem or_and_of_masked {x y m m' : UInt32} (hx : x &&& m = x) (hy : y &&& m' = y) (hm : m' &&& m = 0) :
    (x ||| y) &&& m = x := by
  have hzero : y &&& m = 0 := by rw [← hy, UInt32.and_assoc, hm, UInt32.and_zero]
  rw [or_and_mask, hx, hzero, UInt32.or_zero]

theorem capabilityBits_masked (caps : List WhadCapability) :
    capabilityBits caps &&& capabilityMask = capabilityBits caps := by
  induction caps with
  | nil => rfl
  | cons c cs ih =>
    have hbit : c.bit &&& capabilityMask = c.bit := by cases c <;> decide
    change (c.bit ||| capabilityBits cs) &&& capabilityMask = c.bit ||| capabilityBits cs
    rw [or_and_mask, hbit, ih]

/-- What an application can write into a table is well formed. -/
theorem wellFormed_entry (d : WhadDomain) (caps : List WhadCapability) (supportedCommands : UInt64) :
    DomainDesc.WellFormed ⟨d.value,capabilityBits caps,supportedCommands⟩ :=
  ⟨d.value_masked,capabilityBits_masked caps⟩

/-- Both members of an entry can be told apart in the value that is sent. -/
theorem DomainDesc.WellFormed.domain_of_value {c : DomainDesc} (h : c.WellFormed) :
    (c.domain ||| c.cap) &&& domainMask = c.domain := or_and_of_masked h.domain h.cap (by decide)

theorem DomainDesc.WellFormed.cap_of_value {c : DomainDesc} (h : c.WellFormed) :
    (c.domain ||| c.cap) &&& capabilityMask = c.cap := by
  rw [UInt32.or_comm]
  exact or_and_of_masked h.cap h.domain (by decide)

section
variable {pb : Nanopb} {entries rest : List DomainDesc} {last : DomainDesc}

/-! The two loops that stop at the end of the table. -/

theorem isDomainSupported_iff (hdomains : ∀ c ∈ entries, c.domain ≠ 0) (hlast : last.domain = 0)
    (rest : List DomainDesc) (domain : UInt32) :
    whadDiscoveryIsDomainSupported (sentinelTable entries last rest) domain = true ↔
      ∃ c ∈ entries, c.domain = domain := by
  induction entries with
  | nil => simp [sentinelTable, whadDiscoveryIsDomainSupported, hlast]
  | cons c cs ih =>
    have htail := ih fun a ha => hdomains a (List.mem_cons_of_mem c ha)
    rw [sentinelTable, List.cons_append, whadDiscoveryIsDomainSupported, if_neg (hdomains c List.mem_cons_self)]
    by_cases hfound : c.domain = domain
    · simp [hfound]
    · simp only [List.mem_cons, exists_eq_or_imp, hfound, false_or]
      exact htail

theorem getSupportedCommands_eq (hdomains : ∀ c ∈ entries, c.domain ≠ 0) (hlast : last.domain = 0)
    (rest : List DomainDesc) (domain : UInt32) :
    whadDiscoveryGetSupportedCommands domain (sentinelTable entries last rest) =
      ((entries.find? fun c => c.domain == domain).map DomainDesc.supportedCommands).getD 0 := by
  induction entries with
  | nil => simp [sentinelTable, whadDiscoveryGetSupportedCommands, hlast]
  | cons c cs ih =>
    have htail := ih fun a ha => hdomains a (List.mem_cons_of_mem c ha)
    rw [sentinelTable, List.cons_append, whadDiscoveryGetSupportedCommands,
      if_neg (hdomains c List.mem_cons_self)]
    by_cases hfound : c.domain = domain
    · simp [hfound]
    · rw [if_neg hfound, List.find?_cons_of_neg (by simpa using hfound)]
      exact htail

/-! The loop that writes the table into an answer. -/

/-- The test of the loop. -/
def DomainDesc.passed (c : DomainDesc) : Bool := c.cap != 0 && c.domain != 0

/-- What it writes for an entry. -/
def DomainDesc.value (c : DomainDesc) : UInt32 := c.domain ||| c.cap

theorem DomainDesc.passed_last (hlast : last.domain = 0) : last.passed = false := by
  simp [DomainDesc.passed, hlast]

theorem readCapabilities_output (capabilities : List DomainDesc) :
    readCapabilities (CallbackField.capabilitiesOutput capabilitiesField capabilities) =
      some ((capabilities.takeWhile DomainDesc.passed).map DomainDesc.value) := by
  have htest : (fun c : DomainDesc => decide (c.cap ≠ 0 ∧ c.domain ≠ 0)) = DomainDesc.passed := by
    funext c
    rw [Bool.eq_iff_iff, decide_eq_true_iff]
    simp [DomainDesc.passed]
  have hvalues (cs : List DomainDesc) :
      (cs.flatMap fun c => fieldKey capabilitiesField ++ varint (c.domain ||| c.cap).toNat) =
        (cs.map fun c => c.value.toNat).flatMap fun v => fieldKey capabilitiesField ++ varint v := by
    rw [List.flatMap_map]
    rfl
  have htag : capabilitiesField.tag = capabilitiesTag := rfl
  rw [CallbackField.capabilitiesOutput, if_pos htag, htest, hvalues, readCapabilities, readRepeated_flatMap,
    Option.map_some, List.map_map]
  congr 2
  funext c
  exact UInt32.ofNat_toNat

/-- The domains among the values are those of the entries. -/
theorem domainAmong_values_iff (hwellFormed : ∀ c ∈ entries, c.WellFormed) (domain : UInt32) :
    DomainAmong (entries.map DomainDesc.value) domain ↔ ∃ c ∈ entries, c.domain = domain := by
  simp only [DomainAmong, List.mem_map, exists_exists_and_eq_and]
  refine exists_congr fun c => and_congr_right fun hc => ?_
  rw [DomainDesc.value, (hwellFormed c hc).domain_of_value]

/-- The values are those of the entries in front of the first one without capabilities, and no others. -/
theorem announces_iff (hpb : pb.Documented) (hlast : last.domain = 0) {values : List UInt32} :
    Announces pb (sentinelTable entries last rest) values ↔
      values = (entries.takeWhile DomainDesc.passed).map DomainDesc.value := by
  have hemits := capabilitiesCb_emits hpb capabilitiesField (sentinelTable entries last rest)
  have hread := readCapabilities_output (sentinelTable entries last rest)
  rw [takeWhile_sentinelTable (DomainDesc.passed_last hlast)] at hread
  constructor
  · rintro ⟨space,hspace⟩
    obtain ⟨bytes,hwritten,hvalues⟩ := hspace ⟨[],none⟩ (by simp)
    have hbytes := hwritten.symm.trans (hemits.completes ⟨[],none⟩ (by simp [Sink.Fits]))
    simp only [Sink.write, List.nil_append, Prod.mk.injEq, Sink.mk.injEq, true_and] at hbytes
    rw [hbytes.1, hread] at hvalues
    exact (Option.some.inj hvalues).symm
  · rintro rfl
    let bytes := CallbackField.capabilitiesOutput capabilitiesField (sentinelTable entries last rest)
    exact ⟨bytes.length,fun s hroom => ⟨bytes,hemits.completes s hroom,hread⟩⟩

end

/-- The answers agree if and only if no entry of the table goes without capabilities. -/
theorem answersAgree_iff {pb : Nanopb} (hpb : pb.Documented) (entries : List DomainDesc)
    (hdomains : ∀ c ∈ entries, c.domain ≠ 0) (hwellFormed : ∀ c ∈ entries, c.WellFormed) (last : DomainDesc)
    (hlast : last.domain = 0) (rest : List DomainDesc) :
    (∃ values, AnswersAgree pb entries (sentinelTable entries last rest) values) ↔ ∀ c ∈ entries, c.cap ≠ 0 := by
  have hpassed : (∀ c ∈ entries, c.passed = true) ↔ ∀ c ∈ entries, c.cap ≠ 0 := by
    refine forall₂_congr fun c hc => ?_
    simp [DomainDesc.passed, hdomains c hc]
  rw [← hpassed, ← List.takeWhile_eq_self_iff]
  constructor
  · rintro ⟨values,h⟩
    have hvalues := (announces_iff hpb hlast).mp h.announces
    have hlength := congrArg List.length h.domains
    rw [hvalues, List.length_map, List.length_map, List.length_map] at hlength
    exact (List.takeWhile_prefix _).eq_of_length hlength
  · intro hall
    have hamong := domainAmong_values_iff hwellFormed
    refine ⟨entries.map DomainDesc.value,?_⟩
    exact {
      announces := (announces_iff hpb hlast).mpr (by rw [hall])
      domains := by
        rw [List.map_map]
        exact List.map_congr_left fun c hc => (hwellFormed c hc).domain_of_value
      caps := by
        rw [List.map_map]
        exact List.map_congr_left fun c hc => (hwellFormed c hc).cap_of_value
      supported := fun domain => (hamong domain).trans (isDomainSupported_iff hdomains hlast rest domain).symm
      commands := fun domain h => by
        rw [getSupportedCommands_eq hdomains hlast]
        cases hfind : entries.find? fun c => c.domain == domain with
        | none =>
          obtain ⟨c,hc,hdomain⟩ := (hamong domain).mp h
          exact absurd hdomain (by simpa using List.find?_eq_none.mp hfind c hc)
        | some c => rfl
      noCommands := fun domain h => by
        have hnone : entries.find? (fun c => c.domain == domain) = none := by
          rw [List.find?_eq_none]
          intro c hc hdomain
          exact h ((hamong domain).mpr ⟨c,hc,by simpa using hdomain⟩)
        rw [getSupportedCommands_eq hdomains hlast, hnone]
        rfl }

/-- A table with one domain. -/
theorem answersAgree_iff_ble :
    let ble : DomainDesc := ⟨WhadDomain.btle.value,capabilityBits [.scan,.sniff],7⟩
    (∃ values, AnswersAgree Nanopb.plain [ble] (sentinelTable [ble] ⟨0,0,0⟩ []) values) ↔ ∀ c ∈ [ble], c.cap ≠ 0 := by
  intro ble
  refine answersAgree_iff Nanopb.plain_documented [ble] (by decide) ?_ ⟨0,0,0⟩ rfl []
  rintro c hc
  obtain rfl := List.mem_singleton.mp hc
  exact wellFormed_entry .btle [.scan,.sniff] 7

/-- A domain without capabilities, and all behind it, is missing in the answer that the device gives first. -/
theorem domain_without_capabilities_is_missing :
    let entries : List DomainDesc :=
      [⟨WhadDomain.esb.value,capabilityBits [],1⟩,⟨WhadDomain.btle.value,capabilityBits [.scan],7⟩]
    let capabilities := sentinelTable entries ⟨0,0,0⟩ []
    whadDiscEnumCapabilitiesCb Nanopb.plain capabilitiesField capabilities ⟨[],none⟩ = (true, ⟨[],none⟩) ∧
      whadDiscoveryIsDomainSupported capabilities WhadDomain.esb.value = true ∧
      whadDiscoveryIsDomainSupported capabilities WhadDomain.btle.value = true ∧
      whadDiscoveryGetSupportedCommands WhadDomain.btle.value capabilities = 7 ∧
      ¬∃ values, AnswersAgree Nanopb.plain entries capabilities values := by
  intro entries capabilities
  refine ⟨rfl,by decide,by decide,by decide,?_⟩
  rintro ⟨values,h⟩
  have hvalues := (announces_iff Nanopb.plain_documented rfl).mp h.announces
  have hlength := congrArg List.length h.domains
  rw [hvalues] at hlength
  exact absurd hlength (by decide)

end WhadLib
