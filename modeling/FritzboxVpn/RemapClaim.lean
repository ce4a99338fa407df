import FritzboxVpn.MemoryRegistry
import FritzboxVpn.RemapAtomicity

namespace FritzboxVpn.RemapClaim

open Constants HomeAssistant JsonValue MemoryRegistry OrderedDict RemapAtomicity UidIdentity UniqueIdCodec
  UidRemap

variable {api : RegistryApi} {hass : Hass} {entryId : String} {runtime : RuntimeData}
  {mapping : Dict String String}

theorem not_allOrNothing_of_clash (hload : Loaded hass entryId runtime) (ren : Renaming mapping)
    (hc : Clash hass entryId mapping) :
    ¬ AllOrNothing hass entryId runtime mapping (remapConnectionUids api hass entryId mapping).1
      (remapConnectionUids api hass entryId mapping).2 := by
  rcases remap_result ren api hload with ⟨hn, -⟩ | ⟨-, e, hass', h, -, r, o, n, s, hp, hn, hm⟩
  · exact absurd hc hn
  · rw [h]
    exact not_allOrNothing_of_error ren hp hn hm

/-- The remap is all or nothing exactly where no two rows are sent to one
unique id and no device stands for two of the UIDs. -/
theorem remapConnectionUids_allOrNothing_iff (api : RegistryApi) (hload : Loaded hass entryId runtime)
    {reprContainer : Json → String} {oldUids newUids : List String} {oldNames : Dict String String}
    {newPayloads : Dict String Json} (ho : oldUids.Nodup) (hn : newUids.Nodup)
    (hmap : nameBijectionUidRemap reprContainer oldUids newUids oldNames newPayloads = .ok mapping) :
    AllOrNothing hass entryId runtime mapping (remapConnectionUids api hass entryId mapping).1
        (remapConnectionUids api hass entryId mapping).2 ↔
      ¬ Clash hass entryId mapping ∧ ¬ SharedDevice hass entryId mapping := by
  have ren : Renaming mapping := NamesMatch.renaming (nameBijectionUidRemap_ok ho hn hmap)
  constructor
  · intro h
    have hc : ¬ Clash hass entryId mapping := fun hc => not_allOrNothing_of_clash hload ren hc h
    refine ⟨hc, ?_⟩
    intro hs
    rcases remap_result ren api hload with ⟨-, applied, hass', hr, ha⟩ | ⟨hc', -⟩
    · rw [hr] at h
      exact ha.not_allOrNothing ren hs h
    · exact hc hc'
  · rintro ⟨hc, hs⟩
    rcases remap_result ren api hload with ⟨-, applied, hass', hr, ha⟩ | ⟨hc', -⟩
    · rw [hr]
      exact ha.allOrNothing ren hs
    · exact absurd hc' hc

def sensorRow (objectId uniqueId : String) : RegistryEntry :=
  ⟨⟨"sensor", objectId⟩, uniqueId, domain, some "entry"⟩

def noRuntime : RuntimeData := ⟨∅, ∅, ∅⟩

def twoSensors : Hass where
  entities := ⟨[sensorRow "a_vpn_uid" "fritzbox_vpn_a_vpn_uid", sensorRow "b_uid" "fritzbox_vpn_b_uid"],
    by decide +kernel, by decide +kernel⟩
  devices := ⟨[], List.nodup_nil, DeviceRegistry.nil_disjoint⟩
  configEntries := Dict.ofList [("entry", ⟨.loaded, some noRuntime⟩)]

theorem twoSensors_loaded : Loaded twoSensors "entry" noRuntime :=
  ⟨by decide +kernel, by decide +kernel⟩

def namesXY : Dict String String := Dict.ofList [("a", "x"), ("b", "y")]

def payloadsXY (n m : String) : Dict String Json :=
  Dict.ofList [(n, .obj [("name", .str "x")]), (m, .obj [("name", .str "y")])]

def mappingTo (n m : String) : Dict String String := Dict.ofList [("a", n), ("b", m)]

theorem twoSensors_clash : Clash twoSensors "entry" (mappingTo "n" "n_vpn") := by
  refine ⟨sensorRow "a_vpn_uid" "fritzbox_vpn_a_vpn_uid", sensorRow "b_uid" "fritzbox_vpn_b_uid",
    "a", "b", "n", ⟨?_, rfl, by decide +kernel⟩, ⟨?_, rfl, by decide +kernel⟩, rfl,
    by decide +kernel, by decide +kernel, ?_, ?_⟩
  · exact List.mem_cons_self
  · exact List.mem_cons_of_mem _ List.mem_cons_self
  · rw [← remapPlan_conflicted]
    decide +kernel
  · rw [← remapPlan_conflicted]
    decide +kernel

/-- The vpn_uid row of one connection and the uid row of another want the same
unique id: the second write is refused after the first went through. -/
theorem remapConnectionUids_half_applied :
    nameBijectionUidRemap (fun _ => "") ["a", "b"] ["n", "n_vpn"] namesXY (payloadsXY "n" "n_vpn") =
        .ok (mappingTo "n" "n_vpn") ∧
      Loaded twoSensors "entry" noRuntime ∧
      ¬ AllOrNothing twoSensors "entry" noRuntime (mappingTo "n" "n_vpn")
        (remapConnectionUids memoryApi twoSensors "entry" (mappingTo "n" "n_vpn")).1
        (remapConnectionUids memoryApi twoSensors "entry" (mappingTo "n" "n_vpn")).2 := by
  have hmap : nameBijectionUidRemap (fun _ => "") ["a", "b"] ["n", "n_vpn"] namesXY
      (payloadsXY "n" "n_vpn") = .ok (mappingTo "n" "n_vpn") := by decide +kernel
  have ren := NamesMatch.renaming (nameBijectionUidRemap_ok (by decide) (by decide) hmap)
  exact ⟨hmap, twoSensors_loaded, not_allOrNothing_of_clash twoSensors_loaded ren twoSensors_clash⟩

theorem remapConnectionUids_twoSensors :
    AllOrNothing twoSensors "entry" noRuntime (mappingTo "n" "m")
        (remapConnectionUids memoryApi twoSensors "entry" (mappingTo "n" "m")).1
        (remapConnectionUids memoryApi twoSensors "entry" (mappingTo "n" "m")).2 ↔
      ¬ Clash twoSensors "entry" (mappingTo "n" "m") ∧
        ¬ SharedDevice twoSensors "entry" (mappingTo "n" "m") := by
  have hmap : nameBijectionUidRemap (fun _ => "") ["a", "b"] ["n", "m"] namesXY
      (payloadsXY "n" "m") = .ok (mappingTo "n" "m") := by decide +kernel
  exact remapConnectionUids_allOrNothing_iff memoryApi twoSensors_loaded (by decide) (by decide) hmap

end FritzboxVpn.RemapClaim
