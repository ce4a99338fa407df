import FritzboxVpn.AliasSafety
import FritzboxVpn.KeyedAmendments

namespace FritzboxVpn.RegistryConservation

open Constants Coordinator CoordinatorSteps Exceptions HomeAssistant JsonValue KeyedAmendments KeyedWrites
  OrderedDict Runs UidIdentity UidRemap UniqueIdCodec

def MayRemap (entryId : Option String) (r : RegistryEntry) (uniqueId : String) : Prop :=
  (∃ id, entryId = some id ∧ r.configEntryId = some id) ∧
    (∃ uid suffix, Decodes r.uniqueId uid suffix) ∧ ∃ uid suffix, uniqueId = entityUniqueId uid suffix

def MayRename (entryId : Option String) (d : DeviceEntry) (identifiers : Finset Identifier) : Prop :=
  ∃ id, entryId = some id ∧ (∃ uid, connectionIdentifier id uid ∈ d.identifiers) ∧
    ∀ i, (∀ uid, i ≠ connectionIdentifier id uid) → (i ∈ identifiers ↔ i ∈ d.identifiers)

/-- The registries are the earlier ones but for how the connections of the entry are
named in them. -/
structure Conserved (entryId : Option String) (hass hass' : Hass) : Prop where
  rows : Amended entityKeyed (MayRemap entryId) hass.entities.rows hass'.entities.rows
  devices : Amended deviceKeyed (MayRename entryId) hass.devices.devices hass'.devices.devices

variable {entryId : Option String}

theorem mayRemap_trans {r : RegistryEntry} {a b : String} (h : MayRemap entryId r a)
    (h' : MayRemap entryId (r.withUniqueId a) b) : MayRemap entryId r b := ⟨h.1, h.2.1, h'.2.2⟩

theorem mayRename_trans {d : DeviceEntry} {a b : Finset Identifier} (h : MayRename entryId d a)
    (h' : MayRename entryId (d.withIdentifiers a) b) : MayRename entryId d b := by
  obtain ⟨id, hid, hown, hkept⟩ := h
  obtain ⟨id', hid', -, hkept'⟩ := h'
  obtain rfl : id = id' := Option.some.inj (hid.symm.trans hid')
  exact ⟨id, hid, hown, fun i hi => (hkept' i hi).trans (hkept i hi)⟩

theorem Conserved.refl (hass : Hass) : Conserved entryId hass hass := ⟨Amended.refl _, Amended.refl _⟩

theorem Conserved.trans {hass hass' hass'' : Hass} (h : Conserved entryId hass hass')
    (h' : Conserved entryId hass' hass'') : Conserved entryId hass hass'' :=
  ⟨h.rows.trans (fun _ _ _ => mayRemap_trans) h'.rows, h.devices.trans (fun _ _ _ => mayRename_trans) h'.devices⟩

theorem mayRename_moved (id : String) {d : DeviceEntry} {p : String × String}
    (h : connectionIdentifier id p.1 ∈ d.identifiers) :
    MayRename (some id) d (movedIdentifiers id p d) := by
  refine ⟨id, rfl, ⟨p.1, h⟩, fun i hi => ?_⟩
  rw [movedIdentifiers, Finset.mem_insert, Finset.mem_erase]
  exact ⟨fun hmem => (hmem.resolve_left (hi p.2)).2, fun hmem => Or.inr ⟨hi p.1, hmem⟩⟩

section Remap

variable (api : RegistryApi) {hass hass' : Hass} {id : String} {oldToNew : Dict String String}

/-- The writes of one pair, planned on the registries as they were at first. -/
theorem applyPair_conserved {p : String × String} (hp : p ∈ oldToNew.entries)
    (h : Conserved (some id) hass hass') :
    Conserved (some id) hass (applyPair api (remapPlan hass id oldToNew) id p hass').2 := by
  have hrows : ∀ w ∈ (remapPlan hass id oldToNew).entityWrites p.1, ∀ r ∈ hass.entities.rows,
      r.entityId = w.1 → MayRemap (some id) r w.2 := by
    intro w hw r hr he
    obtain ⟨v, hv, rfl⟩ := List.mem_map.mp hw
    obtain ⟨hv, hof, htarget, -⟩ := (mem_remapPlan_entityPlans hass id oldToNew).mp hv
    obtain rfl := EntityRegistry.eq_of_entityId hr hv he
    obtain ⟨uid, suffix, -, hreads, hnew⟩ := rowTarget_eq_some.mp htarget
    exact ⟨⟨id, rfl, hof⟩, ⟨p.1, suffix, hreads⟩, uid, suffix, hnew⟩
  have hdevices : ∀ w ∈ (remapPlan hass id oldToNew).deviceWrites id p, ∀ d ∈ hass.devices.devices,
      d.id = w.1 → MayRename (some id) d w.2 := by
    intro w hw d hd he
    obtain ⟨e, hplanned, rfl⟩ := List.mem_map.mp hw
    obtain ⟨hmem, hown, -⟩ := (remapPlan_plannedDevices hass id oldToNew hp e).mp (Option.mem_toList.mp hplanned)
    obtain rfl := DeviceRegistry.eq_of_id hd hmem he
    exact mayRename_moved id hown
  rw [applyPair]
  rcases writeAll_spec EntityRegistry.rows api.entity_ok
      ((remapPlan hass id oldToNew).entityWrites p.1) hass'.entities with
    ⟨R, hrun, hwrote⟩ | ⟨done, w, rest, e, R, hplan, hrun, hwrote, -⟩
  · have hentities := h.rows.write hrows hwrote
    rw [hrun]
    dsimp only
    rcases writeAll_spec DeviceRegistry.devices api.device_ok
        ((remapPlan hass id oldToNew).deviceWrites id p) hass'.devices with
      ⟨D, hrun', hwrote'⟩ | ⟨done, w, rest, e, D, hplan, hrun', hwrote', -⟩
    · rw [hrun']
      exact ⟨hentities, h.devices.write hdevices hwrote'⟩
    · rw [hrun']
      refine ⟨hentities, h.devices.write (fun v hv => hdevices v ?_) hwrote'⟩
      rw [hplan]
      exact List.mem_append_left _ hv
  · rw [hrun]
    refine ⟨h.rows.write (fun v hv => hrows v ?_) hwrote, h.devices⟩
    rw [hplan]
    exact List.mem_append_left _ hv

theorem applyPairs_conserved (pairs : List (String × String)) (hpairs : ∀ p ∈ pairs, p ∈ oldToNew.entries)
    (applied : Dict String String) (h : Conserved (some id) hass hass') :
    Conserved (some id) hass (applyPairs api (remapPlan hass id oldToNew) id pairs hass' applied).2 := by
  induction pairs generalizing hass' applied with
  | nil => exact h
  | cons p pairs ih =>
      have hrest : ∀ q ∈ pairs, q ∈ oldToNew.entries := fun q hq => hpairs q (List.mem_cons_of_mem _ hq)
      have hpair := applyPair_conserved api (hpairs p List.mem_cons_self) h
      rw [applyPairs]
      split
      · exact ih hrest applied h
      · cases hrun : applyPair api (remapPlan hass id oldToNew) id p hass' with
        | mk result hass'' =>
            rw [hrun] at hpair
            cases result with
            | error e => exact hpair
            | ok _ => exact ih hrest _ hpair

theorem remap_conserved (hass : Hass) (id : String) (oldToNew : Dict String String) :
    Conserved (some id) hass (remapConnectionUids api hass id oldToNew).2 := by
  rw [remapConnectionUids]
  split
  · exact .refl hass
  · have hstart : Conserved (some id) hass hass := .refl hass
    have hpairs := applyPairs_conserved api oldToNew.entries (fun p hp => hp) Dict.empty hstart
    cases hrun : applyPairs api (remapPlan hass id oldToNew) id oldToNew.entries hass Dict.empty with
    | mk result hass'' =>
        rw [hrun] at hpairs
        cases result with
        | error e => exact hpairs
        | ok applied =>
            dsimp only
            split
            · split
              · exact hpairs
              · exact ⟨hpairs.rows, hpairs.devices⟩
            · exact hpairs

end Remap

section Polls

variable (env : Env)

theorem applyUidRemap_conserved (hass : Hass) (c : State) (connections : Dict String Json) :
    Conserved env.entryId hass (applyUidRemapIfNeeded env hass c connections).2 := by
  rcases applyUidRemap_cases env hass c connections with
    ⟨he, -⟩ | ⟨id, mapping, hdue, -, ⟨applied, hass', hrun, he⟩ | ⟨e, hass', hrun, he⟩⟩
  · rw [he]
    exact .refl hass
  · have hremap := remap_conserved env.api hass id mapping
    rw [hrun] at hremap
    rwa [he, hdue.entry]
  · have hremap := remap_conserved env.api hass id mapping
    rw [hrun] at hremap
    rwa [he, hdue.entry]

theorem processConnections_conserved (hass : Hass) (c : State) (p : Poll) (connections : Dict String Json) :
    Conserved env.entryId hass (processConnections env hass c p connections).2 := by
  have hremap := applyUidRemap_conserved env hass (rememberConnectionNames env c connections) connections
  simp only [processConnections]
  cases hrun : applyUidRemapIfNeeded env hass (rememberConnectionNames env c connections) connections with
  | mk result hass' =>
      rw [hrun] at hremap
      cases result with
      | error e => exact hremap
      | ok c' => exact hremap

theorem poll_conserved (hass : Hass) (c : State) (p : Poll) :
    Conserved env.entryId hass (poll env hass c p).2 := by
  change Conserved env.entryId hass (asyncUpdateData env hass c p).2
  rw [asyncUpdateData]
  cases p.fetch with
  | error e => exact .refl hass
  | ok connections =>
      dsimp only
      split
      · split
        · exact processConnections_conserved env hass (clearRecovery c) p connections
        · exact .refl hass
      · exact processConnections_conserved env hass c p connections

def registryMachine (hass : Hass) : Machine (State × Hass) Poll Report where
  init := ({}, hass)
  step s p := ((poll env s.2 s.1 p).1.1, ((poll env s.2 s.1 p).1.2, (poll env s.2 s.1 p).2))

/-- However many outages and remaps the polls see, and whichever writes to the registries
fail, no row and no device is added or lost, and only the unique ids and the identifiers
of the entry's own connections change. -/
theorem polls_conserve {hass : Hass} {hist : List (Record (State × Hass) Poll Report)} {s : State × Hass}
    (h : Run (registryMachine env hass) hist s) : Conserved env.entryId hass s.2 :=
  Run.invariant (P := fun _ s => Conserved env.entryId hass s.2) (.refl hass)
    (fun _ s p _ ih => ih.trans (poll_conserved env s.2 s.1 p)) h

end Polls

/-- The switch of an office that comes back under a new UID. -/
theorem renamedOffice_conserved :
    Conserved memoryEnv.entryId (AliasSafety.officeSwitch "a")
      ((registryMachine memoryEnv (AliasSafety.officeSwitch "a")).play
        (AliasSafety.renamedOffice.map Prod.snd)).2.2 :=
  polls_conserve memoryEnv (run_play _ _)

example : ((registryMachine memoryEnv (AliasSafety.officeSwitch "a")).play
      (AliasSafety.renamedOffice.map Prod.snd)).2.2.entities.rows.map RegistryEntry.uniqueId =
    [entityUniqueId "b" .switch] := by decide +kernel

end FritzboxVpn.RegistryConservation
