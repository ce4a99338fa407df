import FritzboxVpn.MaintenanceCalls
import FritzboxVpn.OptionsMenu

namespace FritzboxVpn.MaintenanceSafety

open Constants ConfigEntries Coordinator EmptyDevices EntityIds EntityRepairs Exceptions HomeAssistant
  MaintenanceCalls Migration OptionsMenu OrderedDict OrphanCleanup Orphans RegistryRows RepairConvergence
  RepairPasses RepairPlans Runs UniqueIdCodec

inductive Work
  | removeUnavailableEntities (known : RuntimeData)
  | repairEntityIds
  | cleanupConfirm (options : Config) (userInput : Option Config) (reload : Except PyError Unit)
      (known : RuntimeData)
  | repairEntityIdsConfirm (options : Config) (userInput : Option Config) (reload : Except PyError Unit)
      (known : RuntimeData)
  | migrate (version : Nat)
  | removeUnexpectedEntityEntries
  | repairEntityIdsBeforePlatformSetup
  | cleanupEmptyConnectionDevices

structure Operation where
  work : Work
  entryId : String
  entry : Option LiveEntry
  order : IterationOrder
  slugify : String → String

section Machine

variable {σ : Type} (calls : RegistryCalls σ)

def Operation.run (op : Operation) (s : σ) : σ :=
  match op.work with
  | .removeUnavailableEntities known =>
      (Orphans.removeUnavailableEntities calls op.order op.entryId op.entry known s).2.2
  | .repairEntityIds => (EntityRepairs.repairEntityIds calls op.order op.slugify op.entryId op.entry s).2
  | .cleanupConfirm options userInput reload known =>
      (asyncStepCleanupConfirm op.entryId calls op.order reload
        (op.entry.map fun live => ⟨live, options⟩) userInput known s).state
  | .repairEntityIdsConfirm options userInput reload known =>
      (asyncStepRepairEntityIdsConfirm op.slugify op.entryId calls op.order reload
        (op.entry.map fun live => ⟨live, options⟩) userInput known s).state
  | .migrate version => (asyncMigrateEntry calls op.slugify op.entryId version s).2.2
  | .removeUnexpectedEntityEntries =>
      (Orphans.removeUnexpectedEntityEntries calls op.order op.entryId s).2
  | .repairEntityIdsBeforePlatformSetup =>
      (EntityRepairs.repairEntityIdsBeforePlatformSetup calls op.order op.entryId op.entry s).2
  | .cleanupEmptyConnectionDevices =>
      (EmptyDevices.cleanupEmptyConnectionDevices calls op.entryId s).2

/-- The integration works on the registries, and in between Home Assistant registers
entities and devices. -/
inductive Event (σ : Type)
  | maintain (op : Operation)
  | register (s' : σ)

def Event.run (s : σ) : Event σ → σ
  | .maintain op => op.run calls s
  | .register s' => s'

def maintenanceMachine (s₀ : σ) : Machine σ (Event σ) Unit := ⟨s₀, fun s e => ((), e.run calls s)⟩

end Machine

theorem confirmOptionsAction_state {σ α : Type} {stepId : String} {entry : MenuEntry}
    {userInput : Option Config} {pending : List α}
    {onConfirm : RuntimeData → σ → Except PyError Unit × Bool × RuntimeData × σ} {known : RuntimeData}
    {s : σ} : (confirmOptionsAction stepId entry userInput pending onConfirm known s).state = s ∨
      (confirmOptionsAction stepId entry userInput pending onConfirm known s).state =
        (onConfirm known s).2.2.2 := by
  cases userInput with
  | none =>
      rw [confirmOptionsAction]
      split <;> exact Or.inl rfl
  | some input =>
      rw [confirmOptionsAction]
      split
      · right
        rcases onConfirm known s with ⟨result, reloaded, known', s'⟩
        cases result <;> rfl
      · exact Or.inl rfl

section Operations

variable {σ : Type} {calls : RegistryCalls σ}

theorem cleanupConfirm_made (entryId : String) (order : IterationOrder) (reload : Except PyError Unit)
    (live : Option LiveEntry) (options : Config) (userInput : Option Config) (known : RuntimeData) (s : σ) :
    Made (calls.view s) entryId live (calls.view s)
      (calls.view (asyncStepCleanupConfirm entryId calls order reload
        (live.map fun live => ⟨live, options⟩) userInput known s).state) := by
  cases live with
  | none => exact .refl
  | some live =>
      rw [Option.map_some, asyncStepCleanupConfirm]
      cases hget : getOrphanedEntityEntries (calls.view s) entryId (some live) none with
      | error errorKey => exact .refl
      | ok toRemove =>
          obtain ⟨currentUids, hres, rfl⟩ := getOrphaned_ok hget
          have hmade := removeOrphanedEntities_made calls entryId (some live) s order
            (orphanedEntityEntries (calls.view s) entryId currentUids)
            fun p hp => orphaned_mayGo entryId (some live) hres hp
          dsimp only
          rcases confirmOptionsAction_state with h | h
          · rw [h]
          · rw [h, onCleanup]
            cases hrun : removeOrphanedEntities calls order entryId
                (orphanedEntityEntries (calls.view s) entryId currentUids) true s with
            | mk result s' =>
                rw [hrun] at hmade
                cases result with
                | error e => exact hmade
                | ok uids => exact hmade

theorem repairConfirm_made (slugify : String → String) (entryId : String) (order : IterationOrder)
    (reload : Except PyError Unit) (live : Option LiveEntry) (options : Config)
    (userInput : Option Config) (known : RuntimeData) (s : σ) :
    Made (calls.view s) entryId live (calls.view s)
      (calls.view (asyncStepRepairEntityIdsConfirm slugify entryId calls order reload
        (live.map fun live => ⟨live, options⟩) userInput known s).state) := by
  cases live with
  | none => exact .refl
  | some live =>
      have hmade := repairEntityIds_made calls entryId (some live) s order slugify
      rw [Option.map_some, asyncStepRepairEntityIdsConfirm]
      dsimp only
      rcases confirmOptionsAction_state with h | h
      · rw [h]
      · rw [h, onRepair]
        cases hrun : EntityRepairs.repairEntityIds calls order slugify entryId (some live) s with
        | mk result s' =>
            rw [hrun] at hmade
            cases result with
            | error e => exact hmade
            | ok r =>
                dsimp only
                split <;> exact hmade

theorem run_made (calls : RegistryCalls σ) (op : Operation) (s : σ) :
    Made (calls.view s) op.entryId op.entry (calls.view s) (calls.view (op.run calls s)) := by
  obtain ⟨work, entryId, entry, order, slugify⟩ := op
  cases work with
  | removeUnavailableEntities known => exact removeUnavailableEntities_made calls entryId entry s order known
  | repairEntityIds => exact repairEntityIds_made calls entryId entry s order slugify
  | cleanupConfirm options userInput reload known =>
      exact cleanupConfirm_made entryId order reload entry options userInput known s
  | repairEntityIdsConfirm options userInput reload known =>
      exact repairConfirm_made slugify entryId order reload entry options userInput known s
  | migrate version =>
      rw [Operation.run]
      dsimp only
      rw [asyncMigrateEntry]
      split
      · exact repairLegacyEntityObjectIds_made calls (calls.view s) entryId entry s slugify
      · exact .refl
  | removeUnexpectedEntityEntries => exact removeUnexpectedEntityEntries_made calls entryId entry s order
  | repairEntityIdsBeforePlatformSetup => exact repairEntityIdsBeforePlatformSetup_made calls entryId entry s order
  | cleanupEmptyConnectionDevices => exact cleanupEmptyConnectionDevices_made calls entryId entry s

end Operations

section Calls

variable {R₀ R R' : Registries} {entryId : String} {entry : Option LiveEntry}

theorem callStep_devices (h : CallStep R₀ entryId entry R R') {d : DeviceRow} (hd : d ∈ R'.devices) :
    d ∈ R.devices := by
  cases h with
  | renamed h => exact (h.devices d).mp hd
  | removed h => exact (h.devices d).mp hd
  | emptied h => exact ((h.devices d).mp hd).1
  | disconnected h => exact ((h.devices d).mp hd).1

theorem callStep_row (h : CallStep R₀ entryId entry R R') {r : EntityRow} (hr : r ∈ R'.rows) :
    ∃ r₀ ∈ R.rows, r₀.uniqueId = r.uniqueId ∧ r₀.configEntryId = r.configEntryId ∧
      ∀ deviceId, r.deviceId = some deviceId → r₀.deviceId = some deviceId ∧
        ∀ d ∈ R.devices, d.id = deviceId → d ∈ R'.devices := by
  have hdetached : ∀ {deviceId}, DeviceRemoved R deviceId R' → ∃ r₀ ∈ R.rows,
      r₀.uniqueId = r.uniqueId ∧ r₀.configEntryId = r.configEntryId ∧
        ∀ other, r.deviceId = some other → r₀.deviceId = some other ∧
          ∀ d ∈ R.devices, d.id = other → d ∈ R'.devices := by
    intro deviceId h
    obtain ⟨r₀, hr₀, -, rfl⟩ := (h.rows r).mp hr
    by_cases hon : r₀.deviceId = some deviceId
    · rw [detached_of_on hon]
      refine ⟨r₀, hr₀, rfl, rfl, fun other hother => ?_⟩
      cases hother
    · rw [detached_of_notOn hon]
      refine ⟨r₀, hr₀, rfl, rfl, fun other hother => ⟨hother, fun d hd hid => ?_⟩⟩
      refine (h.devices d).mpr ⟨hd, fun heq => hon ?_⟩
      rw [hother, ← hid, heq]
  cases h with
  | renamed h =>
      obtain ⟨r₀, hr₀, rfl⟩ := (h.rows r).mp hr
      refine ⟨r₀, hr₀, ?_⟩
      rw [EntityRow.renamed]
      split <;> exact ⟨rfl, rfl, fun _ hon => ⟨hon, fun d hd _ => (h.devices d).mpr hd⟩⟩
  | removed h =>
      exact ⟨r, ((h.rows r).mp hr).1, rfl, rfl, fun _ hon => ⟨hon, fun d hd _ => (h.devices d).mpr hd⟩⟩
  | emptied h => exact hdetached h
  | disconnected h => exact hdetached h

/-- No call spoils how the entities registered themselves. -/
theorem callStep_selfRegistered (h : CallStep R₀ entryId entry R R') (hreg : SelfRegistered R) :
    SelfRegistered R' where
  oneConnection := fun d hd => hreg.oneConnection d (callStep_devices h hd)
  ownDevice := by
    intro r hr uid huid deviceId hon
    obtain ⟨r₀, hr₀, hunique, hof, hkeeps⟩ := callStep_row h hr
    obtain ⟨hon₀, hstays⟩ := hkeeps deviceId hon
    obtain ⟨owner, howner, d, hd, hid, hidentifier⟩ :=
      hreg.ownDevice r₀ hr₀ uid ((congrArg _ hunique).trans huid) deviceId hon₀
    exact ⟨owner, hof.symm.trans howner, d, hstays d hd hid, hid, hidentifier⟩

/-- An enabled row of a connection stays, if it is not an orphan of the entry. -/
theorem callStep_enabled (h : CallStep R₀ entryId entry R R') (hreg : SelfRegistered R) {r : EntityRow}
    (hr : r ∈ R.rows) {uid : String} (huid : connectionUidFromEntityUniqueId r.uniqueId = some uid)
    (henabled : r.disabled = false)
    (hlisted : r.configEntryId = some entryId → ¬ Orphaned entry r) : ∃ e, moved r e ∈ R'.rows := by
  cases h with
  | @renamed old new _ h hown =>
      by_cases hold : r.entityId = old
      · exact ⟨new, (h.rows _).mpr ⟨r, hr, (if_pos hold).symm⟩⟩
      · exact ⟨r.entityId, (h.rows _).mpr ⟨r, hr, (if_neg hold).symm⟩⟩
  | @removed e _ h hown =>
      refine ⟨r.entityId, (h.rows r).mpr ⟨hr, fun he => ?_⟩⟩
      obtain ⟨hof, horphan | hnone⟩ := hown r hr he
      · exact hlisted hof horphan
      · rw [huid] at hnone
        cases hnone
  | @emptied d _ h hd hnamed hdisabled =>
      have hoff : r.deviceId ≠ some d.id := by
        intro hon
        have hdis := hdisabled r hr hon
        rw [henabled] at hdis
        cases hdis
      refine ⟨r.entityId, (h.rows r).mpr ⟨r, hr, fun e _ hid hgoes => hoff ?_, (detached_of_notOn hoff).symm⟩⟩
      rw [← hid]
      exact hgoes.1
  | @disconnected d gone _ h hd hid hgone =>
      have hoff : r.deviceId ≠ some d.id := by
        intro hon
        obtain ⟨owner, howner, d', hd', hid', hidentifier⟩ := hreg.ownDevice r hr uid huid d.id hon
        rw [Registries.eq_of_deviceId hd' hd hid'] at hidentifier
        obtain ⟨rfl, rfl⟩ := hreg.oneConnection d hd _ _ _ _ hidentifier hid
        obtain ⟨currentUids, hres, hout⟩ := hgone
        exact hlisted howner ⟨currentUids, uid, hres, huid, hout⟩
      refine ⟨r.entityId, (h.rows r).mpr ⟨r, hr, fun e _ hid hgoes => hoff ?_, (detached_of_notOn hoff).symm⟩⟩
      rw [← hid]
      exact hgoes.1

/-- What an operation leaves of a row of another entry: all of it, or what is left where
its device went that the operation was about. -/
def Spared (R₀ : Registries) (entryId : String) (r : EntityRow) (R : Registries) : Prop :=
  r ∈ R.rows ∨ ∃ d ∈ R₀.devices, d ∉ R.devices ∧ r.deviceId = some d.id ∧ NamedFor R₀ entryId d ∧
    (off r ∈ R.rows ∨ ∃ owner ∈ d.configEntries, r.configEntryId = some owner)

theorem callStep_off (h : CallStep R₀ entryId entry R R') {r : EntityRow} (hr : r ∈ R.rows)
    (hoff : r.deviceId = none) (hother : r.configEntryId ≠ some entryId) : r ∈ R'.rows := by
  have hgone : ∀ {deviceId}, DeviceRemoved R deviceId R' → r ∈ R'.rows := by
    intro deviceId h
    have hnot : ∀ other, r.deviceId ≠ some other := fun other hon => by
      rw [hoff] at hon
      cases hon
    exact (h.rows r).mpr ⟨r, hr, fun d _ _ hgoes => hnot _ hgoes.1, (detached_of_notOn (hnot _)).symm⟩
  cases h with
  | renamed h hown => exact (h.rows r).mpr ⟨r, hr, (if_neg fun he => hother (hown r hr he)).symm⟩
  | removed h hown => exact (h.rows r).mpr ⟨hr, fun he => hother (hown r hr he).1⟩
  | emptied h => exact hgone h
  | disconnected h => exact hgone h

theorem callStep_spared (h : CallStep R₀ entryId entry R R') (hdevices : ∀ d ∈ R.devices, d ∈ R₀.devices)
    {r : EntityRow} (hr : r ∈ R.rows) (hother : r.configEntryId ≠ some entryId) :
    Spared R₀ entryId r R' := by
  have hgone : ∀ {d : DeviceRow}, DeviceRemoved R d.id R' → d ∈ R.devices → NamedFor R₀ entryId d →
      Spared R₀ entryId r R' := by
    intro d h hd hnamed
    by_cases hon : r.deviceId = some d.id
    · refine Or.inr ⟨d, hdevices d hd, fun hmem => ((h.devices d).mp hmem).2 rfl, hon, hnamed, ?_⟩
      by_cases hgoes : GoesWith d r
      · exact Or.inr hgoes.2
      · refine Or.inl ((h.rows _).mpr ⟨r, hr, fun e he hid => ?_, (detached_of_on hon).symm⟩)
        rwa [Registries.eq_of_deviceId he hd hid]
    · refine Or.inl ((h.rows r).mpr ⟨r, hr, fun e _ hid hgoes => hon ?_, (detached_of_notOn hon).symm⟩)
      rw [← hid]
      exact hgoes.1
  cases h with
  | renamed h hown => exact Or.inl ((h.rows r).mpr ⟨r, hr, (if_neg fun he => hother (hown r hr he)).symm⟩)
  | removed h hown => exact Or.inl ((h.rows r).mpr ⟨hr, fun he => hother (hown r hr he).1⟩)
  | emptied h hd hnamed => exact hgone h hd hnamed
  | disconnected h hd hid => exact hgone h hd (Or.inl ⟨_, hid⟩)

theorem made_selfRegistered (h : Made R₀ entryId entry R R') (hreg : SelfRegistered R) :
    SelfRegistered R' := by
  induction h with
  | refl => exact hreg
  | tail _ hstep ih => exact callStep_selfRegistered hstep ih

theorem made_enabled (h : Made R₀ entryId entry R R') (hreg : SelfRegistered R) {r : EntityRow}
    (hr : r ∈ R.rows) {uid : String} (huid : connectionUidFromEntityUniqueId r.uniqueId = some uid)
    (henabled : r.disabled = false)
    (hlisted : r.configEntryId = some entryId → ¬ Orphaned entry r) : ∃ e, moved r e ∈ R'.rows := by
  induction h with
  | refl => exact ⟨r.entityId, hr⟩
  | tail hmade hstep ih =>
      obtain ⟨e, he⟩ := ih
      obtain ⟨e', he'⟩ := callStep_enabled hstep (made_selfRegistered hmade hreg) he huid henabled hlisted
      exact ⟨e', he'⟩

theorem made_spared (h : Made R₀ entryId entry R₀ R) {r : EntityRow} (hr : r ∈ R₀.rows)
    (hother : r.configEntryId ≠ some entryId) :
    (∀ d ∈ R.devices, d ∈ R₀.devices) ∧ Spared R₀ entryId r R := by
  induction h with
  | refl => exact ⟨fun _ hd => hd, Or.inl hr⟩
  | tail _ hstep ih =>
      obtain ⟨hdevices, hspared⟩ := ih
      refine ⟨fun d hd => hdevices d (callStep_devices hstep hd), ?_⟩
      rcases hspared with hmem | ⟨d, hd, hgone, hon, hnamed, hleft⟩
      · exact callStep_spared hstep hdevices hmem hother
      · refine Or.inr ⟨d, hd, fun hmem => hgone (callStep_devices hstep hmem), hon, hnamed, ?_⟩
        exact hleft.imp_left fun hoff => callStep_off hstep hoff rfl hother

end Calls

section Runs

variable {σ : Type} {calls : RegistryCalls σ} {s₀ : σ}

structure Registers (R R' : Registries) : Prop where
  rows : ∀ r ∈ R.rows, r ∈ R'.rows
  selfRegistered : SelfRegistered R'

def OnlyRegistered (calls : RegistryCalls σ) (hist : List (Record σ (Event σ) Unit)) : Prop :=
  ∀ rec ∈ hist, ∀ s', rec.input = .register s' → Registers (calls.view rec.before) (calls.view s')

def Maintained (hist : List (Record σ (Event σ) Unit)) (op : Operation) : Prop :=
  ∃ rec ∈ hist, rec.input = .maintain op

/-- No maintenance, in any order and whichever calls raise, loses an enabled entity of a
connection, unless its entry was loaded then without the connection: it keeps all but
its entity id. -/
theorem enabled_kept {hist : List (Record σ (Event σ) Unit)} {s : σ}
    (h : Run (maintenanceMachine calls s₀) hist s) (hreg : SelfRegistered (calls.view s₀))
    (honly : OnlyRegistered calls hist) {r : EntityRow} (hr : r ∈ (calls.view s₀).rows) {uid : String}
    (huid : connectionUidFromEntityUniqueId r.uniqueId = some uid) (henabled : r.disabled = false)
    (hlisted : ∀ op, Maintained hist op → r.configEntryId = some op.entryId → ¬ Orphaned op.entry r) :
    ∃ e, moved r e ∈ (calls.view s).rows := by
  have hkept : SelfRegistered (calls.view s) ∧ ∃ e, moved r e ∈ (calls.view s).rows := by
    refine Run.invariant_under (P := fun _ s => SelfRegistered (calls.view s) ∧
      ∃ e, moved r e ∈ (calls.view s).rows) (C := fun rec =>
        (∀ s', rec.input = .register s' → Registers (calls.view rec.before) (calls.view s')) ∧
        ∀ op, rec.input = .maintain op → r.configEntryId = some op.entryId → ¬ Orphaned op.entry r)
      ⟨hreg, r.entityId, hr⟩ ?_ h fun rec hrec => ⟨honly rec hrec, fun op hop => hlisted op ⟨rec, hrec, hop⟩⟩
    rintro hist s input - ⟨hgrow, hnever⟩ ⟨hreg, e, he⟩
    cases input with
    | maintain op =>
        have hmade := run_made calls op s
        obtain ⟨e', he'⟩ := made_enabled hmade hreg he huid henabled (hnever op rfl)
        exact ⟨made_selfRegistered hmade hreg, e', he'⟩
    | register s' =>
        have hadded := hgrow s' rfl
        exact ⟨hadded.selfRegistered, e, hadded.rows _ he⟩
  exact hkept.2

def LostDevice (calls : RegistryCalls σ) (hist : List (Record σ (Event σ) Unit)) (r : EntityRow)
    (R : Registries) : Prop :=
  ∃ rec ∈ hist, ∃ op, rec.input = .maintain op ∧ ∃ d ∈ (calls.view rec.before).devices,
    d ∉ (calls.view rec.after).devices ∧ r.deviceId = some d.id ∧
      NamedFor (calls.view rec.before) op.entryId d ∧
        (off r ∈ R.rows ∨ ∃ owner ∈ d.configEntries, r.configEntryId = some owner)

/-- Maintenance leaves the rows of other entries as they are, but for the devices that
are named for the entry it is about. -/
theorem others_spared {hist : List (Record σ (Event σ) Unit)} {s : σ}
    (h : Run (maintenanceMachine calls s₀) hist s) (honly : OnlyRegistered calls hist) {r : EntityRow}
    (hr : r ∈ (calls.view s₀).rows) (hother : ∀ op, Maintained hist op → r.configEntryId ≠ some op.entryId) :
    r ∈ (calls.view s).rows ∨ LostDevice calls hist r (calls.view s) := by
  induction h with
  | start => exact Or.inl hr
  | @step hist s h input ih =>
      have honly' : OnlyRegistered calls hist := fun rec hrec => honly rec (List.mem_cons_of_mem _ hrec)
      have hlater : ∀ {R}, LostDevice calls hist r R → ∀ {R'}, (off r ∈ R.rows → off r ∈ R'.rows) →
          LostDevice calls (Machine.record (maintenanceMachine calls s₀) s input :: hist) r R' := by
        rintro R ⟨rec, hrec, op, hop, d, hd, hgone, hon, hnamed, hleft⟩ R' hkeep
        exact ⟨rec, List.mem_cons_of_mem _ hrec, op, hop, d, hd, hgone, hon, hnamed, hleft.imp_left hkeep⟩
      have hbefore := ih honly' fun op ⟨rec, hrec, hop⟩ => hother op ⟨rec, List.mem_cons_of_mem _ hrec, hop⟩
      cases input with
      | register s' =>
          have hadded := honly _ List.mem_cons_self s' rfl
          exact hbefore.imp (hadded.rows r) fun hlost => hlater hlost (hadded.rows _)
      | maintain op =>
          have hmade := run_made calls op s
          have hne := hother op ⟨_, List.mem_cons_self, rfl⟩
          rcases hbefore with hmem | hlost
          · rcases (made_spared hmade hmem hne).2 with hkept | ⟨d, hd, hgone, hon, hnamed, hleft⟩
            · exact Or.inl hkept
            · exact Or.inr ⟨_, List.mem_cons_self, op, rfl, d, hd, hgone, hon, hnamed, hleft⟩
          · refine Or.inr (hlater hlost fun hoff => ?_)
            rcases (made_spared hmade hoff hne).2 with hkept | ⟨_, _, _, hon, _⟩
            · exact hkept
            · cases hon

end Runs

theorem input_of_play {σ ι ο : Type} {M : Machine σ ι ο} {is : List ι} {r : Record σ ι ο}
    (h : r ∈ (M.play is).1) : r.input ∈ is := by
  induction is with
  | nil => cases h
  | cons i is ih =>
      rcases List.mem_cons.mp h with rfl | h
      · exact List.mem_cons_self
      · exact List.mem_cons_of_mem _ (ih h)

def officeOperation (work : Work) (uid : String) : Operation :=
  ⟨work, "entry", some (settledEntry uid), sortedOrder, underscored⟩

def officeEvents (uid : String) : List (Event Registries) :=
  [.maintain (officeOperation .cleanupEmptyConnectionDevices uid),
    .maintain (officeOperation (.removeUnavailableEntities ⟨∅, ∅, ∅⟩) uid)]

def officeSwitch : EntityRow :=
  ⟨⟨⟨"switch", "office"⟩, UidIdentity.entityUniqueId "a" .switch, domain, some "entry"⟩, "row", some "device", false⟩

def officeHelper : EntityRow :=
  ⟨⟨⟨"sensor", "office_hours"⟩, "hours", "history_stats", some "helper"⟩, "second", some "device", false⟩

def atticSwitch : EntityRow :=
  ⟨⟨⟨"switch", "attic"⟩, UidIdentity.entityUniqueId "b" .switch, domain, some "entry"⟩, "third", some "attic", false⟩

def officeAndAttic : Registries where
  rows := [officeSwitch, officeHelper, atticSwitch]
  devices := [helperDevice, ⟨⟨"attic", {[domain, "entry", "b"]}⟩, {"entry"}, some "Attic", none⟩]
  entityIds_nodup := by decide +kernel
  uniqueKeys_nodup := by decide +kernel
  rowIds_nodup := by decide +kernel
  deviceIds_nodup := by decide +kernel
  disjoint := by decide +kernel

theorem officeAndAttic_selfRegistered : SelfRegistered officeAndAttic where
  oneConnection := by
    have hone : ∀ uid entryId v entryId' v', [domain, entryId, v] ∈ ({[domain, "entry", uid]} : Finset Identifier) →
        [domain, entryId', v'] ∈ ({[domain, "entry", uid]} : Finset Identifier) → entryId = entryId' ∧ v = v' := by
      intro uid entryId v entryId' v' hid hid'
      have he := Finset.mem_singleton.mp hid
      have he' := Finset.mem_singleton.mp hid'
      simp only [List.cons.injEq, and_true, true_and] at he he'
      exact ⟨he.1.trans he'.1.symm, he.2.trans he'.2.symm⟩
    intro d hd
    rcases List.mem_pair.mp hd with rfl | rfl
    · exact hone "a"
    · exact hone "b"
  ownDevice := by
    have hread : ∀ r ∈ officeAndAttic.rows, ∀ uid ∈ connectionUidFromEntityUniqueId r.uniqueId,
        ∀ deviceId ∈ r.deviceId, r.configEntryId = some "entry" ∧
          ∃ d ∈ officeAndAttic.devices, d.id = deviceId ∧ [domain, "entry", uid] ∈ d.identifiers := by
      decide +kernel
    intro r hr uid huid deviceId hdevice
    exact ⟨"entry", hread r hr uid huid deviceId hdevice⟩

def officeMachine : Machine Registries (Event Registries) Unit := maintenanceMachine memoryCalls officeAndAttic

theorem office_onlyRegistered (uid : String) :
    OnlyRegistered memoryCalls (officeMachine.play (officeEvents uid)).1 := by
  intro rec hrec s' hs'
  have hinput := input_of_play hrec
  rw [hs'] at hinput
  simp [officeEvents] at hinput

theorem office_maintained {uid : String} {op : Operation}
    (h : Maintained (officeMachine.play (officeEvents uid)).1 op) :
    op.entryId = "entry" ∧ op.entry = some (settledEntry uid) := by
  obtain ⟨rec, hrec, hop⟩ := h
  have hinput := input_of_play hrec
  rw [hop] at hinput
  rcases List.mem_pair.mp hinput with heq | heq
  · cases heq
    exact ⟨rfl, rfl⟩
  · cases heq
    exact ⟨rfl, rfl⟩

/-- The switch of the listed connection stays, that of the other one goes. -/
theorem office_enabled_kept : (∃ e, moved officeSwitch e ∈ (officeMachine.play (officeEvents "a")).2.rows) ∧
    ∀ r ∈ (officeMachine.play (officeEvents "a")).2.rows, r.id ≠ atticSwitch.id := by
  have huid : connectionUidFromEntityUniqueId officeSwitch.uniqueId = some "a" := by decide +kernel
  refine ⟨enabled_kept (run_play officeMachine (officeEvents "a")) officeAndAttic_selfRegistered
    (office_onlyRegistered "a") List.mem_cons_self huid rfl ?_, by decide +kernel⟩
  rintro op hop - ⟨currentUids, uid, hres, hread, hout⟩
  rw [(office_maintained hop).2] at hres
  rw [huid, Option.some.injEq] at hread
  cases hres
  exact hout (hread ▸ by decide +kernel)

/-- The helper loses the device of the connection that is gone, and stays. -/
theorem office_others_spared : officeHelper ∈ (officeMachine.play (officeEvents "b")).2.rows ∨
    LostDevice memoryCalls (officeMachine.play (officeEvents "b")).1 officeHelper
      (officeMachine.play (officeEvents "b")).2 := by
  refine others_spared (run_play officeMachine (officeEvents "b"))
    (office_onlyRegistered "b") (List.mem_cons_of_mem _ List.mem_cons_self) fun op hop => ?_
  rw [(office_maintained hop).1]
  decide

end FritzboxVpn.MaintenanceSafety
