import FritzboxVpn.EmptyDevices

namespace FritzboxVpn.Orphans

open Constants Coordinator EmptyDevices EntityIds EntityRepairs Exceptions HomeAssistant RegistryRows
  Text UniqueIdCodec

def IsListed (currentUids : Finset String) (r : EntityRow) : Prop :=
  ∃ uid ∈ currentUids, connectionUidFromEntityUniqueId r.uniqueId = some uid

def IsOrphan (currentUids : Finset String) (r : EntityRow) : Prop :=
  ∃ uid ∉ currentUids, connectionUidFromEntityUniqueId r.uniqueId = some uid

section Rows

variable (R : Registries) (entryId : String)

def isOrphaned (currentUids : Finset String) (entry : EntityRow) : Bool :=
  match connectionUidFromEntityUniqueId entry.uniqueId with
  | none => false
  | some uid => decide (uid ∉ currentUids)

def orphanedEntityEntries (currentUids : Finset String) : List EntityRow :=
  (R.asyncEntriesForConfigEntry entryId).filter (isOrphaned currentUids)

def getOrphanedEntityEntries (entry : Option LiveEntry) (currentUids : Option (Finset String)) :
    Except String (List EntityRow) :=
  match currentUids with
  | some currentUids => .ok (orphanedEntityEntries R entryId currentUids)
  | none => (resolveCurrentUids entry).map (orphanedEntityEntries R entryId)

def isUnexpected (entry : EntityRow) : Bool :=
  startsWith uniqueIdPrefix entry.uniqueId &&
    (connectionUidFromEntityUniqueId entry.uniqueId).isNone

def unexpectedEntityEntries : List EntityRow :=
  (R.asyncEntriesForConfigEntry entryId).filter isUnexpected

end Rows

variable {σ : Type} (calls : RegistryCalls σ)

def removeUnexpectedEntityEntries (order : IterationOrder) (entryId : String) (s : σ) :
    Except PyError Nat × σ :=
  let toRemove := unexpectedEntityEntries (calls.view s) entryId
  match removeOrphanedEntities calls order entryId toRemove true s with
  | (.error e, s') => (.error e, s')
  | (.ok _, s') => (.ok toRemove.length, s')

def untrack (entry : Option LiveEntry) (known : RuntimeData) (uidsRemoved : Finset String) : RuntimeData :=
  if uidsRemoved = ∅ then known
  else
    match EntityRepairs.runtimeFromHass entry with
    | none => known
    | some _ => known.clearKnownUids uidsRemoved

/-- The service that removes the entities of connections that are gone, for one
entry. It answers the error key of an entry that it skips. -/
def removeUnavailableEntities (order : IterationOrder) (entryId : String) (entry : Option LiveEntry)
    (known : RuntimeData) (s : σ) : Except PyError (Option String) × RuntimeData × σ :=
  match getOrphanedEntityEntries (calls.view s) entryId entry none with
  | .error errorKey => (.ok (some errorKey), known, s)
  | .ok toRemove =>
      match removeOrphanedEntities calls order entryId toRemove true s with
      | (.error e, s') => (.error e, known, s')
      | (.ok uidsRemoved, s') => (.ok none, untrack entry known uidsRemoved, s')

theorem IsOrphan.not_listed {currentUids : Finset String} {r : EntityRow} (h : IsOrphan currentUids r) :
    ¬ IsListed currentUids r := by
  rintro ⟨uid', hin, huid'⟩
  obtain ⟨uid, hout, huid⟩ := h
  rw [huid, Option.some.injEq] at huid'
  exact hout (huid' ▸ hin)

theorem isOrphaned_iff {currentUids : Finset String} {entry : EntityRow} :
    isOrphaned currentUids entry = true ↔ IsOrphan currentUids entry := by
  rw [isOrphaned, IsOrphan]
  split
  next hnone => simp [hnone]
  next uid hsome => simp [hsome]

theorem mem_orphanedEntityEntries {R : Registries} {entryId : String} {currentUids : Finset String}
    {r : EntityRow} : r ∈ orphanedEntityEntries R entryId currentUids ↔
      r ∈ R.asyncEntriesForConfigEntry entryId ∧ IsOrphan currentUids r := by
  rw [orphanedEntityEntries, List.mem_filter, isOrphaned_iff]

end FritzboxVpn.Orphans
