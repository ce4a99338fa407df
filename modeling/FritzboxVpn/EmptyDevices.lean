import FritzboxVpn.EntityRepairs

namespace FritzboxVpn.EmptyDevices

open Constants Coordinator EntityIds EntityRepairs Exceptions HomeAssistant OrderedDict RegistryRows
  UniqueIdCodec

variable {σ : Type} (calls : RegistryCalls σ)

def isConnectionDevice (entryId : String) (device : DeviceRow) : Bool :=
  decide (∃ i ∈ device.identifiers, i[0]? = some domain ∧ i[1]? = some entryId ∧ i.length = 3)

def cleanupEmptyConnectionDevices (entryId : String) (s : σ) : Except PyError Nat × σ :=
  removeEmptyDevices calls (fun _ device => some device)
    (((calls.view s).devicesForConfigEntry entryId).filter (isConnectionDevice entryId)) s

def uidsFromEntityEntries (entries : List EntityRow) : Finset String :=
  (entries.filterMap fun e => connectionUidFromEntityUniqueId e.uniqueId).toFinset

def removeRows : List EntityRow → σ → Except PyError Unit × σ
  | [], s => (.ok (), s)
  | entry :: entries, s =>
      match calls.asyncRemove entry.entityId s with
      | (.error e, s') => (.error e, s')
      | (.ok (), s') => removeRows entries s'

/-- The devices of removed connections go whatever is attached to them. -/
def removeConnectionDevices (entryId : String) : List String → Finset String → σ →
    Except PyError (Finset String) × σ
  | [], affected, s => (.ok affected, s)
  | uid :: uids, affected, s =>
      match connectionDevice entryId (calls.view s) uid with
      | none => removeConnectionDevices entryId uids affected s
      | some device =>
          match calls.asyncRemoveDevice device.id s with
          | (.error e, s') => (.error e, s')
          | (.ok (), s') => removeConnectionDevices entryId uids (affected.erase device.id) s'

/-- The rows go, then the devices of their connections, then the devices that
are left empty. The UIDs answered are no longer tracked. -/
def removeOrphanedEntities (order : IterationOrder) (entryId : String) (entries : List EntityRow)
    (removeFromRegistry : Bool) (s : σ) : Except PyError (Finset String) × σ :=
  if entries.isEmpty then (.ok ∅, s)
  else
    let uidsRemoved := uidsFromEntityEntries entries
    if !removeFromRegistry then (.ok ∅, s)
    else
      let deviceIdsAffected := (entries.filterMap fun e => e.deviceId.filter (· ≠ "")).toFinset
      match removeRows calls entries s with
      | (.error e, s₁) => (.error e, s₁)
      | (.ok (), s₁) =>
          match removeConnectionDevices calls entryId (order.toList uidsRemoved) deviceIdsAffected s₁ with
          | (.error e, s₂) => (.error e, s₂)
          | (.ok affected, s₂) =>
              match removeEmptyDevices calls Registries.asyncGetDeviceById (order.toList affected) s₂ with
              | (.error e, s₃) => (.error e, s₃)
              | (.ok _, s₃) => (.ok uidsRemoved, s₃)

inductive EmptyPass
  | cleanup (entryId : String)
  | orphanBaseMerge (entryId : String) (orphanUids : List String)
  | orphanRemoval (deviceIdsAffected : List String)

def EmptyPass.run : EmptyPass → σ → Except PyError Nat × σ
  | .cleanup entryId, s => cleanupEmptyConnectionDevices calls entryId s
  | .orphanBaseMerge entryId uids, s => removeEmptyDevices calls (connectionDevice entryId) uids s
  | .orphanRemoval deviceIds, s => removeEmptyDevices calls Registries.asyncGetDeviceById deviceIds s

def EmptyPass.Reaches (R : Registries) (device : DeviceRow) : EmptyPass → Prop
  | .cleanup entryId =>
      device ∈ R.devicesForConfigEntry entryId ∧ isConnectionDevice entryId device = true
  | .orphanBaseMerge entryId uids => ∃ uid ∈ uids, connectionDevice entryId R uid = some device
  | .orphanRemoval deviceIds => ∃ deviceId ∈ deviceIds, R.asyncGetDeviceById deviceId = some device

structure OnlyDisabled (R : Registries) (device : DeviceRow) : Prop where
  attached : ∃ r ∈ R.rows, r.deviceId = some device.id
  disabled : ∀ r ∈ R.rows, r.deviceId = some device.id → r.disabled = true

structure LosesNothing (R R' : Registries) : Prop where
  empty : ∀ d ∈ R.devices, d ∉ R'.devices → ∀ r ∈ R.rows, r.deviceId ≠ some d.id
  rows : ∀ r, r ∈ R'.rows ↔ r ∈ R.rows

theorem noneEnabled_iff {R : Registries} {deviceId : String} :
    (R.asyncEntriesForDevice deviceId).isEmpty = true ↔
      ∀ r ∈ R.rows, r.deviceId = some deviceId → r.disabled = true := by
  rw [List.isEmpty_iff, List.eq_nil_iff_forall_not_mem]
  simp only [Registries.mem_entriesForDevice, not_and, Bool.not_eq_false]

variable {calls}

theorem removeIfEmpty_spec (w : Willing calls) {d : DeviceRow} {s : σ}
    (hd : d ∈ (calls.view s).devices) :
    (removeIfEmpty calls d s = (.ok false, s) ∧
        ∃ r ∈ (calls.view s).rows, r.deviceId = some d.id ∧ r.disabled = false) ∨
      ∃ s', removeIfEmpty calls d s = (.ok true, s') ∧ DeviceRemoved (calls.view s) d.id (calls.view s') ∧
        ∀ r ∈ (calls.view s).rows, r.deviceId = some d.id → r.disabled = true := by
  rw [removeIfEmpty]
  by_cases he : ((calls.view s).asyncEntriesForDevice d.id).isEmpty = true
  · right
    obtain ⟨s', hs'⟩ := w.removeDevice d.id s ⟨d, hd, rfl⟩
    refine ⟨s', ?_, calls.device_ok _ _ _ hs', noneEnabled_iff.mp he⟩
    rw [if_pos he, hs']
  · left
    refine ⟨if_neg he, ?_⟩
    rw [noneEnabled_iff] at he
    push Not at he
    obtain ⟨r, hr, ha, hdis⟩ := he
    exact ⟨r, hr, ha, Bool.eq_false_iff.mpr hdis⟩

def off (r : EntityRow) : EntityRow := { r with deviceId := none }

structure Emptied (R : Registries) (named : DeviceRow → Prop) (d : DeviceRow) : Prop where
  device : d ∈ R.devices
  named : named d
  disabled : ∀ f ∈ R.rows, f.deviceId = some d.id → f.disabled = true

def Swept (R : Registries) (named : DeviceRow → Prop) (r : EntityRow) : Prop :=
  ∃ d, Emptied R named d ∧ GoesWith d r

def WasOn (R : Registries) (named : DeviceRow → Prop) (r : EntityRow) : Prop :=
  ∃ d, Emptied R named d ∧ r.deviceId = some d.id

structure Cleaned (R R' : Registries) (named : DeviceRow → Prop) : Prop where
  devices : ∀ d, d ∈ R'.devices ↔ d ∈ R.devices ∧ ¬ Emptied R named d
  rows : ∀ x, x ∈ R'.rows ↔ ∃ r ∈ R.rows, ¬ Swept R named r ∧
    ((WasOn R named r ∧ x = off r) ∨ (¬ WasOn R named r ∧ x = r))

theorem detached_of_on {r : EntityRow} {deviceId : String} (h : r.deviceId = some deviceId) :
    r.detached deviceId = off r := if_pos h

theorem detached_of_notOn {r : EntityRow} {deviceId : String} (h : r.deviceId ≠ some deviceId) :
    r.detached deviceId = r := if_neg h

theorem detached_deviceId {deviceId other : String} {r : EntityRow}
    (h : (r.detached deviceId).deviceId = some other) :
    r.detached deviceId = r ∧ r.deviceId = some other := by
  rw [EntityRow.detached] at h ⊢
  split at h
  next => cases h
  next hne => exact ⟨if_neg hne, h⟩

structure Without (R R' : Registries) (doomed : DeviceRow → Prop) : Prop where
  devices : ∀ d, d ∈ R'.devices ↔ d ∈ R.devices ∧ ¬ doomed d
  rows : ∀ x, x ∈ R'.rows ↔ ∃ r ∈ R.rows, (∀ d ∈ R.devices, doomed d → ¬ GoesWith d r) ∧
    (((∃ d ∈ R.devices, doomed d ∧ r.deviceId = some d.id) ∧ x = off r) ∨
      ((∀ d ∈ R.devices, doomed d → r.deviceId ≠ some d.id) ∧ x = r))

theorem Without.of_none {R : Registries} {doomed : DeviceRow → Prop} (h : ∀ d ∈ R.devices, ¬ doomed d) :
    Without R R doomed := by
  refine ⟨fun d => (and_iff_left_of_imp (h d)).symm, fun x => ⟨fun hx => ?_, ?_⟩⟩
  · exact ⟨x, hx, fun d hd hdoomed => absurd hdoomed (h d hd),
      Or.inr ⟨fun d hd hdoomed => absurd hdoomed (h d hd), rfl⟩⟩
  · rintro ⟨r, hr, -, ⟨⟨d, hd, hdoomed, -⟩, -⟩ | ⟨-, rfl⟩⟩
    · exact absurd hdoomed (h d hd)
    · exact hr

theorem Without.congr {R R' : Registries} {doomed doomed' : DeviceRow → Prop} (h : Without R R' doomed)
    (hsame : ∀ d ∈ R.devices, doomed d ↔ doomed' d) : Without R R' doomed' := by
  refine ⟨fun d => (h.devices d).trans (and_congr_right fun hd => not_congr (hsame d hd)), fun x => ?_⟩
  rw [h.rows]
  have hany : ∀ P : DeviceRow → Prop,
      (∃ d ∈ R.devices, doomed d ∧ P d) ↔ ∃ d ∈ R.devices, doomed' d ∧ P d := fun P =>
    exists_congr fun d => and_congr_right fun hd => and_congr_left fun _ => hsame d hd
  have hall : ∀ P : DeviceRow → Prop,
      (∀ d ∈ R.devices, doomed d → P d) ↔ ∀ d ∈ R.devices, doomed' d → P d := fun P =>
    forall₂_congr fun d hd => imp_congr_left (hsame d hd)
  simp only [hany, hall]

theorem Without.step {R R₁ R' : Registries} {d : DeviceRow} {rest : DeviceRow → Prop} (hd : d ∈ R.devices)
    (hremoved : DeviceRemoved R d.id R₁) (h : Without R₁ R' rest) :
    Without R R' fun e => e = d ∨ rest e := by
  have hother : ∀ e ∈ R.devices, e.id ≠ d.id ↔ e ≠ d := fun e he =>
    not_congr ⟨fun hid => Registries.eq_of_deviceId he hd hid, fun heq => heq ▸ rfl⟩
  have hdevice₁ : ∀ e, e ∈ R₁.devices ↔ e ∈ R.devices ∧ e ≠ d := fun e => by
    rw [hremoved.devices]
    exact and_congr_right fun he => hother e he
  refine ⟨fun e => ?_, fun x => ?_⟩
  · rw [h.devices, hdevice₁, not_or, and_assoc]
  · rw [h.rows]
    constructor
    · rintro ⟨y, hy, hgo, hcase⟩
      obtain ⟨r, hr, hstays, rfl⟩ := (hremoved.rows y).mp hy
      have hgoes : ∀ e ∈ R.devices, e = d ∨ rest e → ¬ GoesWith e r := by
        intro e he hdoomed hgoes
        by_cases hed : e = d
        · exact hstays e he (by rw [hed]) hgoes
        · refine hgo e ((hdevice₁ e).mpr ⟨he, hed⟩) (hdoomed.resolve_left hed) ?_
          rwa [detached_of_notOn fun hon => hed (Registries.eq_of_deviceId he hd
            (Option.some.inj (hgoes.1.symm.trans hon)))]
      refine ⟨r, hr, hgoes, ?_⟩
      by_cases hon : r.deviceId = some d.id
      · rw [detached_of_on hon] at hcase
        refine Or.inl ⟨⟨d, hd, Or.inl rfl, hon⟩, ?_⟩
        rcases hcase with ⟨-, rfl⟩ | ⟨-, rfl⟩ <;> rfl
      · rw [detached_of_notOn hon] at hcase
        refine hcase.imp (And.imp_left ?_) (And.imp_left ?_)
        · rintro ⟨e, he, hdoomed, hone⟩
          exact ⟨e, ((hdevice₁ e).mp he).1, Or.inr hdoomed, hone⟩
        · rintro hnot e he (rfl | hdoomed)
          · exact hon
          · by_cases hed : e = d
            · exact hed ▸ hon
            · exact hnot e ((hdevice₁ e).mpr ⟨he, hed⟩) hdoomed
    · rintro ⟨r, hr, hgo, hcase⟩
      refine ⟨r.detached d.id, (hremoved.rows _).mpr ⟨r, hr, fun e he hid => ?_, rfl⟩, fun e he hdoomed => ?_, ?_⟩
      · exact hgo e he (Or.inl (Registries.eq_of_deviceId he hd hid))
      · intro hgoes
        rw [(detached_deviceId hgoes.1).1] at hgoes
        exact hgo e ((hdevice₁ e).mp he).1 (Or.inr hdoomed) hgoes
      · by_cases hon : r.deviceId = some d.id
        · rw [detached_of_on hon]
          refine Or.inr ⟨fun e _ _ => Option.some_ne_none e.id |>.symm, ?_⟩
          rcases hcase with ⟨-, rfl⟩ | ⟨hnot, -⟩
          · rfl
          · exact absurd hon (hnot d hd (Or.inl rfl))
        · rw [detached_of_notOn hon]
          refine hcase.imp (And.imp_left ?_) (And.imp_left ?_)
          · rintro ⟨e, he, hdoomed, hone⟩
            have hed : e ≠ d := fun hed => hon (hed ▸ hone)
            exact ⟨e, (hdevice₁ e).mpr ⟨he, hed⟩, hdoomed.resolve_left hed, hone⟩
          · exact fun hnot e he hdoomed => hnot e ((hdevice₁ e).mp he).1 (Or.inr hdoomed)

theorem cleaned_iff_without {R R' : Registries} {named : DeviceRow → Prop} :
    Cleaned R R' named ↔ Without R R' (Emptied R named) := by
  have hswept : ∀ r, ¬ Swept R named r ↔ ∀ d ∈ R.devices, Emptied R named d → ¬ GoesWith d r := fun r =>
    ⟨fun h d _ hd hgo => h ⟨d, hd, hgo⟩, fun h ⟨d, hd, hgo⟩ => h d hd.device hd hgo⟩
  have hwas : ∀ r, WasOn R named r ↔ ∃ d ∈ R.devices, Emptied R named d ∧ r.deviceId = some d.id := fun r =>
    ⟨fun ⟨d, hd, hon⟩ => ⟨d, hd.device, hd, hon⟩, fun ⟨d, _, hd, hon⟩ => ⟨d, hd, hon⟩⟩
  have hnot : ∀ r, ¬ WasOn R named r ↔ ∀ d ∈ R.devices, Emptied R named d → r.deviceId ≠ some d.id := fun r =>
    ⟨fun h d _ hd hon => h ⟨d, hd, hon⟩, fun h ⟨d, hd, hon⟩ => h d hd.device hd hon⟩
  have hrow : ∀ x r, (¬ Swept R named r ∧
      ((WasOn R named r ∧ x = off r) ∨ (¬ WasOn R named r ∧ x = r))) ↔
        (∀ d ∈ R.devices, Emptied R named d → ¬ GoesWith d r) ∧
          (((∃ d ∈ R.devices, Emptied R named d ∧ r.deviceId = some d.id) ∧ x = off r) ∨
            ((∀ d ∈ R.devices, Emptied R named d → r.deviceId ≠ some d.id) ∧ x = r)) := by
    intro x r
    rw [hswept, hnot, hwas]
  constructor
  · exact fun h => ⟨h.devices, fun x =>
      (h.rows x).trans (exists_congr fun r => and_congr_right fun _ => hrow x r)⟩
  · exact fun h => ⟨h.devices, fun x =>
      (h.rows x).trans (exists_congr fun r => and_congr_right fun _ => (hrow x r).symm)⟩

theorem Cleaned.of_none {R : Registries} {named : DeviceRow → Prop} (h : ∀ d, ¬ Emptied R named d) :
    Cleaned R R named :=
  cleaned_iff_without.mpr (Without.of_none fun d _ => h d)

/-- Only devices with no enabled row matter. -/
theorem Cleaned.congr {R R' : Registries} {named named' : DeviceRow → Prop}
    (h : ∀ d, Emptied R named d ↔ Emptied R named' d) (hc : Cleaned R R' named) : Cleaned R R' named' :=
  cleaned_iff_without.mpr ((cleaned_iff_without.mp hc).congr fun d _ => h d)

section Step

variable {R R₁ : Registries} {d : DeviceRow} {named rest : DeviceRow → Prop} (hd : Emptied R named d)
  (hnamed : ∀ e ∈ R.devices, named e ↔ e = d ∨ rest e) (hremoved : DeviceRemoved R d.id R₁)

include hd hnamed hremoved

theorem emptied_step (e : DeviceRow) : Emptied R named e ↔ e = d ∨ Emptied R₁ rest e := by
  constructor
  · intro he
    by_cases hed : e = d
    · exact Or.inl hed
    · have hid : e.id ≠ d.id := fun hid => hed (Registries.eq_of_deviceId he.device hd.device hid)
      refine Or.inr ⟨(hremoved.devices e).mpr ⟨he.device, hid⟩,
        ((hnamed e he.device).mp he.named).resolve_left hed, fun f hf hatt => ?_⟩
      obtain ⟨f₀, hf₀, -, rfl⟩ := (hremoved.rows f).mp hf
      obtain ⟨hsame, hatt⟩ := detached_deviceId hatt
      rw [hsame]
      exact he.disabled f₀ hf₀ hatt
  · rintro (rfl | he)
    · exact hd
    · obtain ⟨hmem, hid⟩ := (hremoved.devices e).mp he.device
      refine ⟨hmem, (hnamed e hmem).mpr (Or.inr he.named), fun f hf hatt => ?_⟩
      have hnot : f.deviceId ≠ some d.id := fun h => hid (Option.some.inj (hatt.symm.trans h))
      refine he.disabled f ((hremoved.rows f).mpr ⟨f, hf, fun e' _ hid' hgo => ?_, ?_⟩) hatt
      · exact hnot (hid' ▸ hgo.1)
      · exact (detached_of_notOn hnot).symm

theorem Cleaned.step {R' : Registries} (hc : Cleaned R₁ R' rest) : Cleaned R R' named := by
  have hwithout := (cleaned_iff_without.mp hc).step hd.device hremoved
  exact cleaned_iff_without.mpr (hwithout.congr fun e _ => (emptied_step hd hnamed hremoved e).symm)

end Step

theorem removeEmptyDevices_cleaned (w : Willing calls) {α : Type}
    (find : Registries → α → Option DeviceRow) (Named : α → DeviceRow → Prop)
    (hfind : ∀ R a d, find R a = some d ↔ d ∈ R.devices ∧ Named a d) (as : List α) (s : σ) :
    ∃ n s', removeEmptyDevices calls find as s = (.ok n, s') ∧
      Cleaned (calls.view s) (calls.view s') fun d => ∃ a ∈ as, Named a d := by
  induction as generalizing s with
  | nil =>
      refine ⟨0, s, rfl, Cleaned.of_none fun d hd => ?_⟩
      obtain ⟨a, ha, -⟩ := hd.named
      cases ha
  | cons a as ih =>
      rw [removeEmptyDevices]
      cases ha : find (calls.view s) a with
      | none =>
          obtain ⟨n, s', hrun, hc⟩ := ih s
          refine ⟨n, s', hrun, hc.congr fun d => ?_⟩
          have hskip : d ∈ (calls.view s).devices → ((∃ b ∈ as, Named b d) ↔ ∃ b ∈ a :: as, Named b d) := by
            intro hd
            rw [List.exists_mem_cons_iff, or_iff_right]
            intro hname
            rw [(hfind _ a d).mpr ⟨hd, hname⟩] at ha
            cases ha
          exact ⟨fun h => ⟨h.device, (hskip h.device).mp h.named, h.disabled⟩,
            fun h => ⟨h.device, (hskip h.device).mpr h.named, h.disabled⟩⟩
      | some d =>
          obtain ⟨hd, hname⟩ := (hfind _ a d).mp ha
          have hnamed : ∀ e ∈ (calls.view s).devices, (∃ b ∈ a :: as, Named b e) ↔
              e = d ∨ ∃ b ∈ as, Named b e := by
            intro e he
            rw [List.exists_mem_cons_iff]
            refine or_congr_left ⟨fun hn => ?_, fun hed => hed ▸ hname⟩
            rw [(hfind _ a e).mpr ⟨he, hn⟩, Option.some.injEq] at ha
            exact ha
          rcases removeIfEmpty_spec w hd with ⟨hrun₁, f, hf, hatt, hena⟩ | ⟨s₁, hrun₁, hremoved, hdis⟩
          · obtain ⟨n, s', hrun, hc⟩ := ih s
            refine ⟨n + 0, s', by simp only [hrun₁, hrun, Bool.toNat_false], hc.congr fun e => ?_⟩
            constructor
            · exact fun h => ⟨h.device, (hnamed e h.device).mpr (Or.inr h.named), h.disabled⟩
            · refine fun h => ⟨h.device, ((hnamed e h.device).mp h.named).resolve_left ?_, h.disabled⟩
              rintro rfl
              rw [h.disabled f hf hatt] at hena
              cases hena
          · obtain ⟨n, s', hrun, hc⟩ := ih s₁
            refine ⟨n + 1, s', by simp only [hrun₁, hrun, Bool.toNat_true], ?_⟩
            exact hc.step ⟨hd, (hnamed d hd).mpr (Or.inl rfl), hdis⟩ hnamed hremoved

/-- Where no device with disabled rows only is taken for an empty one, the rows
are as they were. -/
theorem Cleaned.losesNothing_iff {R R' : Registries} {named : DeviceRow → Prop} (hc : Cleaned R R' named) :
    LosesNothing R R' ↔ ∀ d ∈ R.devices, named d → ¬ OnlyDisabled R d := by
  constructor
  · rintro ⟨hempty, -⟩ d hd hname ⟨⟨r, hr, hatt⟩, hdis⟩
    exact hempty d hd (fun hd' => ((hc.devices d).mp hd').2 ⟨hd, hname, hdis⟩) r hr hatt
  · intro h
    have hbare : ∀ d, Emptied R named d → ∀ r ∈ R.rows, r.deviceId ≠ some d.id := fun d hd r hr hatt =>
      h d hd.device hd.named ⟨⟨r, hr, hatt⟩, hd.disabled⟩
    have hswept : ∀ r ∈ R.rows, ¬ Swept R named r := fun r hr ⟨d, hd, hgo⟩ => hbare d hd r hr hgo.1
    have hwas : ∀ r ∈ R.rows, ¬ WasOn R named r := fun r hr ⟨d, hd, hon⟩ => hbare d hd r hr hon
    refine ⟨fun d hd hgone => ?_, fun x => ?_⟩
    · have hemptied : Emptied R named d := by
        by_contra hn
        exact hgone ((hc.devices d).mpr ⟨hd, hn⟩)
      exact hbare d hemptied
    · rw [hc.rows]
      constructor
      · rintro ⟨r, hr, -, ⟨hon, -⟩ | ⟨-, rfl⟩⟩
        · exact absurd hon (hwas r hr)
        · exact hr
      · intro hx
        exact ⟨x, hx, hswept x hx, Or.inr ⟨hwas x hx, rfl⟩⟩

theorem removeIfEmpty_devices {d : DeviceRow} {s s' : σ} {removed : Bool}
    (h : removeIfEmpty calls d s = (.ok removed, s')) {e : DeviceRow}
    (he : e ∈ (calls.view s).devices) (hne : e.id ≠ d.id) : e ∈ (calls.view s').devices := by
  rw [removeIfEmpty] at h
  split at h
  · cases hr : calls.asyncRemoveDevice d.id s with
    | mk result s₁ =>
        rw [hr] at h
        cases result with
        | error err => cases h
        | ok _ =>
            cases h
            exact ((calls.device_ok _ _ _ hr).devices e).mpr ⟨he, hne⟩
  · cases h
    exact he

/-- To walk through a list of devices is to look each of them up by its id. -/
theorem removeEmptyDevices_snapshot {ds : List DeviceRow} (hn : (ds.map fun d => d.id).Nodup) {s : σ}
    (hin : ∀ d ∈ ds, d ∈ (calls.view s).devices) :
    removeEmptyDevices calls (fun _ d => some d) ds s =
      removeEmptyDevices calls (fun R d => R.asyncGetDeviceById d.id) ds s := by
  induction ds generalizing s with
  | nil => rfl
  | cons d ds ih =>
      rw [List.map_cons, List.nodup_cons] at hn
      have hget : (calls.view s).asyncGetDeviceById d.id = some d :=
        Registries.asyncGetDeviceById_iff.mpr ⟨hin d List.mem_cons_self, rfl⟩
      rw [removeEmptyDevices, removeEmptyDevices, hget]
      cases hrun : removeIfEmpty calls d s with
      | mk result s' =>
          cases result with
          | error e => simp only [hrun]
          | ok removed =>
              have hrest := ih (s := s') hn.2 fun e he =>
                removeIfEmpty_devices hrun (hin e (List.mem_cons_of_mem d he)) fun hid =>
                  hn.1 (hid ▸ List.mem_map_of_mem he)
              simp only [hrun, hrest]

/-- A pass loses nothing exactly where it looks at no device that has disabled
rows only. -/
theorem emptyPass_losesNothing_iff (w : Willing calls) (pass : EmptyPass) (s : σ) :
    LosesNothing (calls.view s) (calls.view (pass.run calls s).2) ↔
      ∀ d, pass.Reaches (calls.view s) d → ¬ OnlyDisabled (calls.view s) d := by
  cases pass with
  | cleanup entryId =>
      have hsub : ∀ d ∈ ((calls.view s).devicesForConfigEntry entryId).filter (isConnectionDevice entryId),
          d ∈ (calls.view s).devices := fun d hd =>
        List.mem_of_mem_filter (List.mem_of_mem_filter hd)
      have hn : ((((calls.view s).devicesForConfigEntry entryId).filter
          (isConnectionDevice entryId)).map fun d => d.id).Nodup :=
        (calls.view s).deviceIds_nodup.sublist
          ((List.filter_sublist.trans List.filter_sublist).map _)
      obtain ⟨n, s', hrun, hc⟩ := removeEmptyDevices_cleaned w
        (fun R (d : DeviceRow) => R.asyncGetDeviceById d.id) (fun a d => d.id = a.id)
        (fun R a d => Registries.asyncGetDeviceById_iff) _ s
      rw [← removeEmptyDevices_snapshot hn hsub] at hrun
      rw [EmptyPass.run, cleanupEmptyConnectionDevices, hrun, hc.losesNothing_iff]
      constructor
      · intro h d hd
        have hmem := List.mem_filter.mpr hd
        exact h d (hsub d hmem) ⟨d, hmem, rfl⟩
      · rintro h d hd ⟨a, ha, hid⟩
        rw [(calls.view s).eq_of_deviceId hd (hsub a ha) hid]
        exact h a (List.mem_filter.mp ha)
  | orphanBaseMerge entryId uids =>
      obtain ⟨n, s', hrun, hc⟩ := removeEmptyDevices_cleaned w
        (connectionDevice entryId) (fun uid d => [domain, entryId, uid] ∈ d.identifiers)
        (fun R uid d => Registries.asyncGetDevice_iff) uids s
      rw [EmptyPass.run, hrun, hc.losesNothing_iff]
      constructor
      · rintro h d ⟨uid, hu, hget⟩
        obtain ⟨hd, hname⟩ := Registries.asyncGetDevice_iff.mp hget
        exact h d hd ⟨uid, hu, hname⟩
      · rintro h d hd ⟨uid, hu, hname⟩
        exact h d ⟨uid, hu, Registries.asyncGetDevice_iff.mpr ⟨hd, hname⟩⟩
  | orphanRemoval deviceIds =>
      obtain ⟨n, s', hrun, hc⟩ := removeEmptyDevices_cleaned w
        Registries.asyncGetDeviceById (fun deviceId d => d.id = deviceId)
        (fun R a d => Registries.asyncGetDeviceById_iff) deviceIds s
      rw [EmptyPass.run, hrun, hc.losesNothing_iff]
      constructor
      · rintro h d ⟨deviceId, hid, hget⟩
        obtain ⟨hd, hname⟩ := Registries.asyncGetDeviceById_iff.mp hget
        exact h d hd ⟨deviceId, hid, hname⟩
      · rintro h d hd ⟨deviceId, hid, hname⟩
        exact h d ⟨deviceId, hid, Registries.asyncGetDeviceById_iff.mpr ⟨hd, hname⟩⟩

def officeDevice (disabled : Bool) : Registries where
  rows := [⟨⟨⟨"sensor", "office_uid"⟩, UidIdentity.entityUniqueId "a" .uid, domain, some "entry"⟩, "row",
    some "device", disabled⟩]
  devices := [⟨⟨"device", {[domain, "entry", "a"]}⟩, {"entry"}, some "Office", none⟩]
  entityIds_nodup := List.nodup_singleton _
  uniqueKeys_nodup := List.nodup_singleton _
  rowIds_nodup := List.nodup_singleton _
  deviceIds_nodup := List.nodup_singleton _
  disjoint := by
    intro d hd e he _ _ _
    rw [List.mem_singleton.mp hd, List.mem_singleton.mp he]

/-- The cleanup at the end of a setup, where the user has disabled the rest. -/
theorem officeDevice_loses : ∃ (R : Registries) (pass : EmptyPass),
    ¬ LosesNothing R (pass.run memoryCalls R).2 := by
  refine ⟨officeDevice true, .cleanup "entry", fun h => ?_⟩
  have hrow := (h.rows _).mpr (List.mem_singleton_self _ : _ ∈ (officeDevice true).rows)
  revert hrow
  decide +kernel

theorem officeDevice_losesNothing_iff :
    LosesNothing (officeDevice false) ((EmptyPass.cleanup "entry").run memoryCalls (officeDevice false)).2 ↔
      ∀ d, (EmptyPass.cleanup "entry").Reaches (officeDevice false) d →
        ¬ OnlyDisabled (officeDevice false) d :=
  emptyPass_losesNothing_iff memoryCalls_willing (.cleanup "entry") (officeDevice false)

end FritzboxVpn.EmptyDevices
