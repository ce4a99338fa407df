import FritzboxVpn.Coordinator
import FritzboxVpn.EntityIds

namespace FritzboxVpn.EntityRepairs

open Constants Coordinator EntityIds Exceptions HomeAssistant OrderedDict RegistryRows UniqueIdCodec

inductive Lifecycle
  | setupInProgress
  | settled (state : ConfigEntryState)
deriving DecidableEq

structure LiveEntry where
  state : Lifecycle
  runtimeData : Option Coordinator.State

def runtimeFromHass (entry : Option LiveEntry) : Option Coordinator.State :=
  match entry with
  | none => none
  | some entry => if entry.state = .settled .loaded then entry.runtimeData else none

def resolveCurrentUids (entry : Option LiveEntry) : Except String (Finset String) :=
  match runtimeFromHass entry with
  | none => .error "integration_not_loaded"
  | some coordinator =>
      match coordinator.data with
      | none => .error "coordinator_not_ready"
      | some data => .ok data.keys

section Plans

variable (R : Registries) (entryId : String)

def getLegacyEntityObjectIdRepairs (slugify : String → String) : List (EntityRow × EntityId) :=
  (R.asyncEntriesForConfigEntry entryId).filterMap fun entry =>
    match expectedEntityIdForRegistryEntry slugify R entry with
    | none => none
    | some target =>
        if entry.entityId = target then none
        else if (R.asyncGet target).isSome then none
        else some (entry, target)

def addSuffixed (d : Dict EntityId (List EntityRow)) (entry : EntityRow) : Dict EntityId (List EntityRow) :=
  match entityIdBase entry.entityId with
  | none => d
  | some base => d.insert base ((d.get? base).getD [] ++ [entry])

def suffixedByBase (allEntries : List EntityRow) : Dict EntityId (List EntityRow) :=
  allEntries.foldl addSuffixed Dict.empty

/-- The order of the suffixed entries of a base: by number, then by entity id. -/
def comesBefore (e f : EntityRow) : Bool :=
  suffixRank e.entityId < suffixRank f.entityId ||
    (suffixRank e.entityId == suffixRank f.entityId &&
      decide (entityIdText e.entityId < entityIdText f.entityId))

def preferredEntry : List EntityRow → Option EntityRow
  | [] => none
  | e :: es => some (es.foldl (fun best f => if comesBefore f best then f else best) e)

def getEntityIdSuffixRepairs (allowReplaceBase : Bool) : List (EntityRow × EntityId × Bool) :=
  let allEntries := R.asyncEntriesForConfigEntry entryId
  (suffixedByBase allEntries).entries.filterMap fun p =>
    match preferredEntry p.2 with
    | none => none
    | some preferred =>
        match allEntries.find? fun e => e.entityId = p.1 with
        | some baseEntry =>
            if baseEntry.id = preferred.id then none
            else if allowReplaceBase && decide (baseEntry.configEntryId = some entryId) then
              some (preferred, p.1, true)
            else none
        | none => if (R.asyncGet p.1).isSome then none else some (preferred, p.1, false)

def orphanBaseSuffixPair (currentUids : Finset String) (entry : EntityRow) :
    Option (EntityRow × EntityRow × EntityId) :=
  (entityIdBase entry.entityId).bind fun base =>
    ((R.asyncEntriesForConfigEntry entryId).find? fun e => e.entityId = base).bind fun baseEntry =>
      if baseEntry.configEntryId ≠ some entryId then none
      else
        match connectionUidFromEntityUniqueId baseEntry.uniqueId,
            connectionUidFromEntityUniqueId entry.uniqueId with
        | some baseUid, some liveUid =>
            if baseUid ∈ currentUids ∨ liveUid ∉ currentUids ∨ baseUid = liveUid then none
            else some (baseEntry, entry, base)
        | _, _ => none

def preferLowest (d : Dict EntityId (EntityRow × EntityRow)) (m : EntityRow × EntityRow × EntityId) :
    Dict EntityId (EntityRow × EntityRow) :=
  match d.get? m.2.2 with
  | none => d.insert m.2.2 (m.1, m.2.1)
  | some (_, previous) =>
      if suffixRank m.2.1.entityId < suffixRank previous.entityId then d.insert m.2.2 (m.1, m.2.1) else d

def orphanBaseSuffixMerges (currentUids : Finset String) : List (EntityRow × EntityRow × EntityId) :=
  (((R.asyncEntriesForConfigEntry entryId).filterMap
    (orphanBaseSuffixPair R entryId currentUids)).foldl preferLowest Dict.empty).entries.map
      fun p => (p.2.1, p.2.2, p.1)

def getOrphanBaseSuffixMerges (entry : Option LiveEntry) (currentUids : Option (Finset String)) :
    List (EntityRow × EntityRow × EntityId) :=
  match currentUids with
  | some currentUids => orphanBaseSuffixMerges R entryId currentUids
  | none =>
      match resolveCurrentUids entry with
      | .error _ => []
      | .ok currentUids => orphanBaseSuffixMerges R entryId currentUids

def countRepairableEntityIssues (slugify : String → String) (entry : Option LiveEntry) : Nat :=
  (getLegacyEntityObjectIdRepairs R entryId slugify).length +
    (getOrphanBaseSuffixMerges R entryId entry none).length +
      (getEntityIdSuffixRepairs R entryId false).length

end Plans

section Repairs

variable {σ : Type} (calls : RegistryCalls σ)

def renameMessage (old new : EntityId) : String := entityIdText old ++ " → " ++ entityIdText new

def renameAll : List (EntityRow × EntityId) → σ → List String × σ
  | [], s => ([], s)
  | (entry, target) :: repairs, s =>
      match calls.asyncUpdateEntity entry.entityId target s with
      | (.ok (), s') =>
          let (messages, s'') := renameAll repairs s'
          (renameMessage entry.entityId target :: messages, s'')
      | (.error _, s') => renameAll repairs s'

def repairLegacyEntityObjectIds (slugify : String → String) (entryId : String) (s : σ) :
    (Nat × List String) × σ :=
  let (messages, s') := renameAll calls (getLegacyEntityObjectIdRepairs (calls.view s) entryId slugify) s
  ((messages.length, messages), s')

def replaceAll : List (EntityRow × EntityId × Bool) → σ → List String × σ
  | [], s => ([], s)
  | (entry, base, removeBaseFirst) :: repairs, s =>
      match (if removeBaseFirst then calls.asyncRemove base s else (.ok (), s)) with
      | (.error _, s') => replaceAll repairs s'
      | (.ok (), s') =>
          match calls.asyncUpdateEntity entry.entityId base s' with
          | (.error _, s'') => replaceAll repairs s''
          | (.ok (), s'') =>
              let (messages, s''') := replaceAll repairs s''
              (renameMessage entry.entityId base :: messages, s''')

def repairEntityIdSuffixes (entryId : String) (allowReplaceBase : Bool) (s : σ) :
    (Nat × List String) × σ :=
  let (messages, s') :=
    replaceAll calls (getEntityIdSuffixRepairs (calls.view s) entryId allowReplaceBase) s
  ((messages.length, messages), s')

def mergeAll : List (EntityRow × EntityRow × EntityId) → Finset String → σ →
    List String × Finset String × σ
  | [], orphanUids, s => ([], orphanUids, s)
  | (baseEntry, suffixedEntry, base) :: merges, orphanUids, s =>
      let orphanUids :=
        match connectionUidFromEntityUniqueId baseEntry.uniqueId with
        | none => orphanUids
        | some uid => insert uid orphanUids
      match calls.asyncRemove baseEntry.entityId s with
      | (.error _, s') => mergeAll merges orphanUids s'
      | (.ok (), s') =>
          match calls.asyncUpdateEntity suffixedEntry.entityId base s' with
          | (.error _, s'') => mergeAll merges orphanUids s''
          | (.ok (), s'') =>
              let (messages, uids, s''') := mergeAll merges orphanUids s''
              (renameMessage suffixedEntry.entityId base :: messages, uids, s''')

/-- A device with no enabled row is taken for an empty one. -/
def removeIfEmpty (device : DeviceRow) (s : σ) : Except PyError Bool × σ :=
  if ((calls.view s).asyncEntriesForDevice device.id).isEmpty then
    match calls.asyncRemoveDevice device.id s with
    | (.ok (), s') => (.ok true, s')
    | (.error e, s') => (.error e, s')
  else (.ok false, s)

def removeEmptyDevices {α : Type} (find : Registries → α → Option DeviceRow) :
    List α → σ → Except PyError Nat × σ
  | [], s => (.ok 0, s)
  | a :: as, s =>
      match find (calls.view s) a with
      | none => removeEmptyDevices find as s
      | some device =>
          match removeIfEmpty calls device s with
          | (.error e, s') => (.error e, s')
          | (.ok removed, s') =>
              match removeEmptyDevices find as s' with
              | (.error e, s'') => (.error e, s'')
              | (.ok n, s'') => (.ok (n + removed.toNat), s'')

def connectionDevice (entryId : String) (R : Registries) (uid : String) : Option DeviceRow :=
  R.asyncGetDevice [domain, entryId, uid]

def repairOrphanBaseSuffixMerges (order : IterationOrder) (entryId : String) (entry : Option LiveEntry)
    (currentUids : Option (Finset String)) (s : σ) : Except PyError (Nat × List String) × σ :=
  let merges := getOrphanBaseSuffixMerges (calls.view s) entryId entry currentUids
  if merges.isEmpty then (.ok (0, []), s)
  else
    let (messages, orphanUids, s') := mergeAll calls merges ∅ s
    match removeEmptyDevices calls (connectionDevice entryId) (order.toList orphanUids) s' with
    | (.error e, s'') => (.error e, s'')
    | (.ok _, s'') => (.ok (messages.length, messages), s'')

def repairEntityIds (order : IterationOrder) (slugify : String → String) (entryId : String)
    (entry : Option LiveEntry) (s : σ) : Except PyError (Nat × List String) × σ :=
  let ((legacyCount, legacyMessages), s₁) := repairLegacyEntityObjectIds calls slugify entryId s
  match repairOrphanBaseSuffixMerges calls order entryId entry none s₁ with
  | (.error e, s₂) => (.error e, s₂)
  | (.ok (mergeCount, mergeMessages), s₂) =>
      let ((suffixCount, suffixMessages), s₃) := repairEntityIdSuffixes calls entryId false s₂
      (.ok (legacyCount + mergeCount + suffixCount, legacyMessages ++ mergeMessages ++ suffixMessages), s₃)

def repairEntityIdsBeforePlatformSetup (order : IterationOrder) (entryId : String)
    (entry : Option LiveEntry) (s : σ) : Except PyError Nat × σ :=
  match repairOrphanBaseSuffixMerges calls order entryId entry none s with
  | (.error e, s') => (.error e, s')
  | (.ok (mergeCount, _), s') =>
      let ((repairedCount, _), s'') := repairEntityIdSuffixes calls entryId false s'
      (.ok (mergeCount + repairedCount), s'')

end Repairs

end FritzboxVpn.EntityRepairs
