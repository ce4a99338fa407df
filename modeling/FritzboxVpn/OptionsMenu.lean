import FritzboxVpn.ConfigEntries
import FritzboxVpn.OrphanCleanup
import FritzboxVpn.RepairOffer

namespace FritzboxVpn.OptionsMenu

open ConfigEntries Constants Coordinator EmptyDevices EntityRepairs Exceptions HomeAssistant JsonValue
  OrderedDict OrphanCleanup Orphans RegistryRows RepairConvergence RepairMoves RepairOffer UpdateInterval

inductive Next
  | menu (actions : List String)
  | configure
  | cleanupConfirm
  | repairEntityIdsConfirm

section Steps

variable (slugify : String → String) (entryId : String)

def asyncStepInit (R : Registries) (entry : Option LiveEntry) (userInput : Option Config) : Next :=
  let (hasCleanupAction, hasRepairAction, _) := getAvailableActions R entryId slugify entry
  match userInput with
  | none =>
      if hasCleanupAction || hasRepairAction then
        .menu ([optionsActionConfigure] ++ (if hasCleanupAction then [optionsActionCleanup] else []) ++
          (if hasRepairAction then [optionsActionRepairEntityIds] else []))
      else .configure
  | some userInput =>
      match value userInput "action" with
      | .str action =>
          if action = optionsActionCleanup then .cleanupConfirm
          else if action = optionsActionRepairEntityIds then .repairEntityIdsConfirm
          else .configure
      | _ => .configure

/-- How a confirm step ends: with the checkbox, with an error over no fields, or
closed with the options as they are. -/
inductive Confirm
  | checkbox (stepId : String)
  | unavailable (stepId : String) (errors : List (String × String))
  | createEntry (data : Config)
  | abort (reason : String)

structure Outcome (σ : Type) where
  result : Except PyError Confirm
  reloaded : Bool
  known : RuntimeData
  state : σ

structure MenuEntry where
  live : LiveEntry
  options : Config

variable {σ : Type} (calls : RegistryCalls σ) (order : IterationOrder) (reload : Except PyError Unit)

def confirmOptionsAction {α : Type} (stepId : String) (entry : MenuEntry) (userInput : Option Config)
    (pending : List α) (onConfirm : RuntimeData → σ → Except PyError Unit × Bool × RuntimeData × σ)
    (known : RuntimeData) (s : σ) : Outcome σ :=
  match userInput with
  | none =>
      if pending.isEmpty then ⟨.ok (.createEntry entry.options), false, known, s⟩
      else ⟨.ok (.checkbox stepId), false, known, s⟩
  | some userInput =>
      if truthy (value userInput "confirm") && !pending.isEmpty then
        match onConfirm known s with
        | (.error e, reloaded, known', s') => ⟨.error e, reloaded, known', s'⟩
        | (.ok (), reloaded, known', s') => ⟨.ok (.createEntry entry.options), reloaded, known', s'⟩
      else ⟨.ok (.createEntry entry.options), false, known, s⟩

def onCleanup (live : LiveEntry) (toRemove : List EntityRow) (known : RuntimeData) (s : σ) :
    Except PyError Unit × Bool × RuntimeData × σ :=
  match removeOrphanedEntities calls order entryId toRemove true s with
  | (.error e, s') => (.error e, false, known, s')
  | (.ok uidsRemoved, s') => (reload, true, untrack (some live) known uidsRemoved, s')

def asyncStepCleanupConfirm (entry : Option MenuEntry) (userInput : Option Config) (known : RuntimeData)
    (s : σ) : Outcome σ :=
  match entry with
  | none => ⟨.ok (.abort errorKeyConfigEntryNotFound), false, known, s⟩
  | some entry =>
      match getOrphanedEntityEntries (calls.view s) entryId (some entry.live) none with
      | .error errorKey =>
          ⟨.ok (.unavailable "cleanup_confirm" [("base", errorKey)]), false, known, s⟩
      | .ok toRemove =>
          confirmOptionsAction "cleanup_confirm" entry userInput toRemove
            (onCleanup entryId calls order reload entry.live toRemove) known s

def onRepair (live : LiveEntry) (known : RuntimeData) (s : σ) :
    Except PyError Unit × Bool × RuntimeData × σ :=
  match repairEntityIds calls order slugify entryId (some live) s with
  | (.error e, s') => (.error e, false, known, s')
  | (.ok (count, _), s') => if count = 0 then (.ok (), false, known, s') else (reload, true, known, s')

def pendingRepairs (R : Registries) (live : LiveEntry) : List (EntityRow × EntityId) :=
  getLegacyEntityObjectIdRepairs R entryId slugify ++
    (getOrphanBaseSuffixMerges R entryId (some live) none).map (fun m => m.2) ++
      (getEntityIdSuffixRepairs R entryId false).map fun p => (p.1, p.2.1)

def asyncStepRepairEntityIdsConfirm (entry : Option MenuEntry) (userInput : Option Config)
    (known : RuntimeData) (s : σ) : Outcome σ :=
  match entry with
  | none => ⟨.ok (.abort errorKeyConfigEntryNotFound), false, known, s⟩
  | some entry =>
      confirmOptionsAction "repair_entity_ids_confirm" entry userInput
        (pendingRepairs slugify entryId (calls.view s) entry.live)
        (onRepair slugify entryId calls order reload entry.live) known s

def Offers (entry : Option LiveEntry) (action : String) (R : Registries) : Prop :=
  ∃ actions, asyncStepInit slugify entryId R entry none = .menu actions ∧ action ∈ actions

end Steps

def Confirmed (userInput : Option Config) : Prop :=
  ∃ input, userInput = some input ∧ truthy (value input "confirm") = true

structure Declined {σ : Type} (o : Outcome σ) (known : RuntimeData) (s : σ) : Prop where
  notReloaded : o.reloaded = false
  known : o.known = known
  state : o.state = s

/-- The menu keeps what it offers: an offer leads to its checkbox, nothing happens
unless that was set, and then what was offered is done and the entry reloaded. -/
structure Honoured {σ : Type} (calls : RegistryCalls σ) (order : IterationOrder)
    (slugify : String → String) (entryId : String) (entry : MenuEntry) (reload : Except PyError Unit)
    (known : RuntimeData) (s : σ) : Prop where
  cleanupOffer : Offers slugify entryId (some entry.live) optionsActionCleanup (calls.view s) ↔
    (asyncStepCleanupConfirm entryId calls order reload (some entry) none known s).result =
      .ok (.checkbox "cleanup_confirm")
  repairOffer : Offers slugify entryId (some entry.live) optionsActionRepairEntityIds (calls.view s) ↔
    (asyncStepRepairEntityIdsConfirm slugify entryId calls order reload (some entry) none known s).result =
      .ok (.checkbox "repair_entity_ids_confirm")
  unconfirmed : ∀ userInput, ¬ Confirmed userInput →
    Declined (asyncStepCleanupConfirm entryId calls order reload (some entry) userInput known s) known s ∧
      Declined (asyncStepRepairEntityIdsConfirm slugify entryId calls order reload (some entry) userInput
        known s) known s
  cleanup : ∀ userInput, Confirmed userInput →
    Offers slugify entryId (some entry.live) optionsActionCleanup (calls.view s) →
      let o := asyncStepCleanupConfirm entryId calls order reload (some entry) userInput known s
      o.result = reload.map (fun _ => .createEntry entry.options) ∧ o.reloaded = true ∧
        (∃ currentUids, resolveCurrentUids (some entry.live) = .ok currentUids ∧
          CleansUp (calls.view s) (calls.view o.state) entryId currentUids) ∧
        ¬ Offers slugify entryId (some entry.live) optionsActionCleanup (calls.view o.state)
  repair : ∀ userInput, Confirmed userInput →
    let o := asyncStepRepairEntityIdsConfirm slugify entryId calls order reload (some entry) userInput known s
    (Offers slugify entryId (some entry.live) optionsActionRepairEntityIds (calls.view s) →
      o.result = reload.map (fun _ => .createEntry entry.options) ∧ o.reloaded = true) ∧
      (¬ Offers slugify entryId (some entry.live) optionsActionRepairEntityIds (calls.view s) →
        Declined o known s)

variable {slugify : String → String} {entryId : String} {R : Registries}

theorem asyncStepInit_offers {entry : Option LiveEntry} {action : String} :
    Offers slugify entryId entry action R ↔
      ((getAvailableActions R entryId slugify entry).1 = true ∨
        (getAvailableActions R entryId slugify entry).2.1 = true) ∧
      action ∈ [optionsActionConfigure] ++
        (if (getAvailableActions R entryId slugify entry).1 then [optionsActionCleanup] else []) ++
        (if (getAvailableActions R entryId slugify entry).2.1 then [optionsActionRepairEntityIds] else []) := by
  rw [Offers, asyncStepInit]
  obtain ⟨hasCleanupAction, hasRepairAction, n⟩ := getAvailableActions R entryId slugify entry
  dsimp only
  rw [← Bool.or_eq_true]
  split
  next hany =>
    constructor
    · rintro ⟨actions, h, hmem⟩
      cases h
      exact ⟨hany, hmem⟩
    · exact fun h => ⟨_, rfl, h.2⟩
  next hnone =>
    refine ⟨fun ⟨actions, h, _⟩ => ?_, fun h => absurd h.1 hnone⟩
    cases h

theorem offersCleanup_iff {entry : Option LiveEntry} :
    Offers slugify entryId entry optionsActionCleanup R ↔
      ∃ toRemove, getOrphanedEntityEntries R entryId entry none = .ok toRemove ∧ toRemove.isEmpty = false := by
  have hmem : Offers slugify entryId entry optionsActionCleanup R ↔
      (getAvailableActions R entryId slugify entry).1 = true := by
    rw [asyncStepInit_offers]
    cases (getAvailableActions R entryId slugify entry).1 <;>
      cases (getAvailableActions R entryId slugify entry).2.1 <;> decide
  rw [hmem, getAvailableActions]
  dsimp only
  cases getOrphanedEntityEntries R entryId entry none with
  | error errorKey =>
      refine ⟨fun h => ?_, fun ⟨_, h, _⟩ => ?_⟩
      · cases h
      · cases h
  | ok toRemove =>
      rw [Bool.not_eq_true']
      refine ⟨fun h => ⟨toRemove, rfl, h⟩, fun ⟨_, h, hne⟩ => ?_⟩
      cases h
      exact hne

theorem offersRepair_iff {live : LiveEntry} :
    Offers slugify entryId (some live) optionsActionRepairEntityIds R ↔
      (pendingRepairs slugify entryId R live).isEmpty = false := by
  have hmem : Offers slugify entryId (some live) optionsActionRepairEntityIds R ↔
      (getAvailableActions R entryId slugify (some live)).2.1 = true := by
    rw [asyncStepInit_offers]
    cases (getAvailableActions R entryId slugify (some live)).1 <;>
      cases (getAvailableActions R entryId slugify (some live)).2.1 <;> decide
  have hlength : (pendingRepairs slugify entryId R live).length =
      countRepairableEntityIssues R entryId slugify (some live) := by
    simp only [pendingRepairs, List.length_append, List.length_map, countRepairableEntityIssues]
  rw [hmem, getAvailableActions, decide_eq_true_iff, ← hlength, List.length_pos_iff,
    ← List.isEmpty_eq_false_iff]

section Confirm

variable {σ α : Type} {stepId : String} {entry : MenuEntry} {pending : List α}
  {onConfirm : RuntimeData → σ → Except PyError Unit × Bool × RuntimeData × σ}
  (known : RuntimeData) (s : σ)

theorem confirm_none : (confirmOptionsAction stepId entry none pending onConfirm known s).result =
    .ok (.checkbox stepId) ↔ pending.isEmpty = false := by
  rw [confirmOptionsAction]
  cases pending.isEmpty with
  | true =>
      refine ⟨fun h => ?_, fun h => ?_⟩
      · cases h
      · cases h
  | false => exact iff_of_true rfl rfl

theorem confirm_declined {userInput : Option Config}
    (h : ¬ Confirmed userInput ∨ pending.isEmpty = true) :
    Declined (confirmOptionsAction stepId entry userInput pending onConfirm known s) known s := by
  cases userInput with
  | none =>
      rw [confirmOptionsAction]
      split <;> exact ⟨rfl, rfl, rfl⟩
  | some input =>
      rw [confirmOptionsAction, if_neg]
      · exact ⟨rfl, rfl, rfl⟩
      · rw [Bool.and_eq_true, Bool.not_eq_true']
        rintro ⟨hset, hpending⟩
        refine h.elim (fun hno => hno ⟨input, rfl, hset⟩) fun hempty => ?_
        rw [hpending] at hempty
        cases hempty

theorem confirm_ok {userInput : Option Config} (h : Confirmed userInput) (hpending : pending.isEmpty = false)
    {reload : Except PyError Unit} {known' : RuntimeData} {s' : σ}
    (hrun : onConfirm known s = (reload, true, known', s')) :
    confirmOptionsAction stepId entry userInput pending onConfirm known s =
      ⟨reload.map fun _ => .createEntry entry.options, true, known', s'⟩ := by
  obtain ⟨input, rfl, hset⟩ := h
  have hif : (truthy (value input "confirm") && !pending.isEmpty) = true := by
    rw [hset, hpending]
    rfl
  rw [confirmOptionsAction, if_pos hif, hrun]
  cases reload <;> rfl

end Confirm

section Menu

variable {σ : Type} {calls : RegistryCalls σ} {order : IterationOrder} {reload : Except PyError Unit}
  {entry : MenuEntry} {known : RuntimeData} {s : σ}

theorem orphans_gone {R R' : Registries} {currentUids : Finset String}
    (h : CleansUp R R' entryId currentUids) : orphanedEntityEntries R' entryId currentUids = [] := by
  rw [List.eq_nil_iff_forall_not_mem]
  intro r' hr'
  obtain ⟨hrow', uid, hout, huid⟩ := mem_orphanedEntityEntries.mp hr'
  obtain ⟨hmem', hof'⟩ := Registries.mem_entriesForConfigEntry.mp hrow'
  obtain ⟨r, hr, hid⟩ := h.added r' hmem'
  -- the row is an earlier one, on its device or off it
  have hsame : r' = off r ∨ r' = r := by
    rcases h.left r hr ⟨r', hmem', hid⟩ with ⟨-, hleft⟩ | ⟨-, hleft⟩
    · exact Or.inl (List.inj_on_of_nodup_map R'.rowIds_nodup hmem' hleft hid)
    · exact Or.inr (List.inj_on_of_nodup_map R'.rowIds_nodup hmem' hleft hid)
  have horphan : r ∈ orphanedEntityEntries R entryId currentUids := by
    rw [mem_orphanedEntityEntries, Registries.mem_entriesForConfigEntry]
    rcases hsame with rfl | rfl
    · exact ⟨⟨hr, hof'⟩, uid, hout, huid⟩
    · exact ⟨⟨hr, hof'⟩, uid, hout, huid⟩
  exact (h.removed r hr).mpr (Or.inl horphan) r' hmem' hid

theorem getOrphaned_ok {live : Option LiveEntry} {toRemove : List EntityRow}
    (h : getOrphanedEntityEntries R entryId live none = .ok toRemove) : ∃ currentUids,
      resolveCurrentUids live = .ok currentUids ∧ toRemove = orphanedEntityEntries R entryId currentUids := by
  rw [getOrphanedEntityEntries] at h
  cases hres : resolveCurrentUids live with
  | error errorKey =>
      rw [hres] at h
      cases h
  | ok currentUids =>
      rw [hres] at h
      cases h
      exact ⟨currentUids, rfl, rfl⟩

theorem cleanup_honoured (w : Willing calls) (hreg : SelfRegistered (calls.view s))
    {userInput : Option Config} (hset : Confirmed userInput)
    (hoffer : Offers slugify entryId (some entry.live) optionsActionCleanup (calls.view s)) :
    let o := asyncStepCleanupConfirm entryId calls order reload (some entry) userInput known s
    o.result = reload.map (fun _ => .createEntry entry.options) ∧ o.reloaded = true ∧
      (∃ currentUids, resolveCurrentUids (some entry.live) = .ok currentUids ∧
        CleansUp (calls.view s) (calls.view o.state) entryId currentUids) ∧
      ¬ Offers slugify entryId (some entry.live) optionsActionCleanup (calls.view o.state) := by
  obtain ⟨toRemove, hget, hpending⟩ := offersCleanup_iff.mp hoffer
  obtain ⟨currentUids, hres, rfl⟩ := getOrphaned_ok hget
  obtain ⟨s', hrun, hclean⟩ := removeOrphanedEntities_cleansUp w order entryId currentUids s hreg
  have hconfirm : onCleanup entryId calls order reload entry.live
      (orphanedEntityEntries (calls.view s) entryId currentUids) known s =
        (reload, true, untrack (some entry.live) known (removedUids (calls.view s) entryId currentUids), s') := by
    rw [onCleanup, hrun]
  simp only [asyncStepCleanupConfirm, hget, confirm_ok known s hset hpending hconfirm]
  refine ⟨trivial, trivial, ⟨currentUids, hres, hclean⟩, fun hagain => ?_⟩
  obtain ⟨left, hleft, hne⟩ := offersCleanup_iff.mp hagain
  obtain ⟨currentUids', hres', rfl⟩ := getOrphaned_ok hleft
  rw [hres, Except.ok.injEq] at hres'
  subst hres'
  rw [orphans_gone hclean] at hne
  cases hne

theorem repair_honoured (w : Willing calls)
    (hv : (Start.mk (calls.view s) entryId slugify (some entry.live)).ValidIds calls.validEntityId)
    {userInput : Option Config} (hset : Confirmed userInput)
    (hoffer : Offers slugify entryId (some entry.live) optionsActionRepairEntityIds (calls.view s)) :
    let o := asyncStepRepairEntityIdsConfirm slugify entryId calls order reload (some entry) userInput known s
    o.result = reload.map (fun _ => .createEntry entry.options) ∧ o.reloaded = true := by
  have hpending := offersRepair_iff.mp hoffer
  have hcount : 0 < countRepairableEntityIssues (calls.view s) entryId slugify (some entry.live) := by
    rw [List.isEmpty_eq_false_iff, ← List.length_pos_iff] at hpending
    simpa only [pendingRepairs, List.length_append, List.length_map, countRepairableEntityIssues] using hpending
  obtain ⟨n, messages, s', hrun, hn⟩ := @reports_of_count _ _ order _ _ _ w _ hv hcount
  have hconfirm : onRepair slugify entryId calls order reload entry.live known s =
      (reload, true, known, s') := by
    simp only [onRepair, hrun, Nat.ne_of_gt hn, if_false]
  simp only [asyncStepRepairEntityIdsConfirm, confirm_ok known s hset hpending hconfirm]
  exact ⟨trivial, trivial⟩

/-- Whatever the registries, the menu keeps what it offers. -/
theorem menu_honoured (w : Willing calls) (hreg : SelfRegistered (calls.view s))
    (hv : (Start.mk (calls.view s) entryId slugify (some entry.live)).ValidIds calls.validEntityId) :
    Honoured calls order slugify entryId entry reload known s where
  cleanupOffer := by
    rw [offersCleanup_iff, asyncStepCleanupConfirm]
    cases hget : getOrphanedEntityEntries (calls.view s) entryId (some entry.live) none with
    | error errorKey =>
        refine ⟨fun ⟨_, h, _⟩ => ?_, fun h => ?_⟩
        · cases h
        · cases h
    | ok toRemove =>
        dsimp only
        rw [confirm_none]
        refine ⟨fun ⟨_, h, hne⟩ => ?_, fun h => ⟨toRemove, rfl, h⟩⟩
        cases h
        exact hne
  repairOffer := by
    rw [offersRepair_iff, asyncStepRepairEntityIdsConfirm]
    exact (confirm_none known s).symm
  unconfirmed := by
    intro userInput hno
    refine ⟨?_, confirm_declined known s (Or.inl hno)⟩
    rw [asyncStepCleanupConfirm]
    cases getOrphanedEntityEntries (calls.view s) entryId (some entry.live) none with
    | error errorKey => exact ⟨rfl, rfl, rfl⟩
    | ok toRemove => exact confirm_declined known s (Or.inl hno)
  cleanup := fun _ hset hoffer => cleanup_honoured w hreg hset hoffer
  repair := by
    refine fun _ hset => ⟨fun hoffer => repair_honoured w hv hset hoffer, fun hoffer => ?_⟩
    rw [offersRepair_iff, Bool.not_eq_false] at hoffer
    exact confirm_declined known s (Or.inr hoffer)

end Menu

/-- The cleanup of a connection that is gone is offered, and done once confirmed. -/
theorem helperOffice_honoured :
    Offers underscored "entry" (some (settledEntry "b")) optionsActionCleanup helperOffice ∧
      Honoured memoryCalls sortedOrder underscored "entry" ⟨settledEntry "b", Dict.empty⟩ (.ok ()) ⟨{"a"}, {"a"}, {"a"}⟩
        helperOffice := by
  have hoffer : (getAvailableActions helperOffice "entry" underscored (some (settledEntry "b"))).1 = true := by
    decide +kernel
  refine ⟨asyncStepInit_offers.mpr ⟨Or.inl hoffer, ?_⟩, ?_⟩
  · rw [hoffer]
    exact List.mem_append_left _ (List.mem_append_right _ (List.mem_singleton_self _))
  · exact menu_honoured memoryCalls_willing helperOffice_selfRegistered
      ⟨fun _ _ => trivial, fun _ _ _ _ => trivial, fun _ _ _ _ => trivial⟩

end FritzboxVpn.OptionsMenu
