import FritzboxVpn.Entity

namespace FritzboxVpn.AliasSafety

open Coordinator CoordinatorSteps Entity Exceptions HomeAssistant JsonValue MemoryRegistry OrderedDict
  RemapAtomicity Runs UidRemap

variable {env : Env}

/-- Every listed connection is addressed by its own UID, and by no other listed one's. -/
structure AliasSafe (env : Env) (c : State) : Prop where
  resolves : ∀ u ∈ c.dataKeys, c.resolveConnectionUid u = u
  distinct : ∀ u ∈ c.dataKeys, ∀ v ∈ c.dataKeys,
    c.resolveConnectionUid u = c.resolveConnectionUid v → u = v
  available : ∀ u ∈ c.dataKeys, connectionAvailable c u = c.lastUpdateSuccess
  shows : ∀ u ∈ c.dataKeys, connectionData c u = c.data.bind (·.get? u)
  toggles : ∀ u ∈ c.dataKeys, ∀ (β : Type) (hass : Hass)
    (asyncToggleVpn : String → Bool → β → Except PyError Bool × β) (enable : Bool) (box : β),
    ((toggleVpn env hass c asyncToggleVpn u enable box).1,
      (toggleVpn env hass c asyncToggleVpn u enable box).2.2) = asyncToggleVpn u enable box

def Unaliased (c : State) : Prop := ∀ u ∈ c.dataKeys, c.uidRemap.get? u = none

theorem Unaliased.aliasSafe {c : State} (h : Unaliased c) : AliasSafe env c := by
  have hres : ∀ u ∈ c.dataKeys, c.resolveConnectionUid u = u := fun u hu =>
    State.resolveConnectionUid_of_none (h u hu)
  refine ⟨hres, ?_, ?_, ?_, ?_⟩
  · intro u hu v hv he
    rwa [hres u hu, hres v hv] at he
  · intro u hu
    rw [connectionAvailable, hres u hu, decide_eq_true hu, Bool.and_true]
  · intro u hu
    rw [connectionData, hres u hu]
  · intro u hu β hass asyncToggleVpn enable box
    rw [toggleVpn_box, hres u hu]

/-- The box does not list a UID that was remapped away before this poll. -/
def ListsNoAlias (r : PollRecord) : Prop :=
  ∀ connections, r.input.2.fetch = .ok connections →
    ∀ u ∈ connections.keys, r.before.uidRemap.get? u = none

/-- A remap only renames UIDs that the list does not contain. -/
theorem applyUidRemap_listed {hass hass' : Hass} {c c' : State} {connections : Dict String Json}
    (h : applyUidRemapIfNeeded env hass c connections = (.ok c', hass')) {u : String}
    (hu : u ∈ connections.keys) (hn : c.uidRemap.get? u = none) : c'.uidRemap.get? u = none := by
  rcases applyUidRemap_cases env hass c connections with
    ⟨he, -⟩ | ⟨entryId, mapping, -, hm, ⟨applied, h', hr, he⟩ | ⟨e, h', -, he⟩⟩
  · rw [he] at h
    cases h
    exact hn
  · rw [he] at h
    cases h
    rw [Option.eq_none_iff_forall_ne_some]
    intro n hun
    rcases (noteApplied_uidRemap env connections c applied).mp hun with ha | ⟨-, hc⟩
    · have hmem := (remapDecision_mem hm (remap_ok_subset hr ha)).1
      exact (Finset.mem_sdiff.mp hmem).2 hu
    · rw [hn] at hc
      cases hc
  · rw [he] at h
    cases h

theorem poll_unaliased {hass hass' : Hass} {c c' : State} {p : Poll} {report : Report}
    (h : PollStep env hass c p report c' hass') (hc : Unaliased c)
    (hlist : ∀ connections, p.fetch = .ok connections →
      ∀ u ∈ connections.keys, c.uidRemap.get? u = none) : Unaliased c' := by
  cases h with
  | accepted connections c₁ c₂ hass' hf hin hr =>
      intro u hu
      have hk : u ∈ connections.keys := hu
      have hc₁ : c₁.uidRemap = c.uidRemap := by
        cases hin with
        | asIs => rfl
        | cap => rfl
      have hn := hlist connections hf u hk
      rw [← hc₁] at hn
      change (finishPoll env c₂ p connections).2.uidRemap.get? u = none
      rw [finishPoll_uidRemap]
      exact applyUidRemap_listed hr hk hn
  | emptyRefused => exact hc
  | authentication err c₁ hass' hf ha text =>
      have hs : (scheduleReauth env hass' c₁).2.uidRemap = c₁.uidRemap ∧
          (scheduleReauth env hass' c₁).2.dataKeys = c₁.dataKeys := by
        rcases scheduleReauth_cases env c₁ hass' with h | h
        · rw [h]; exact ⟨rfl, rfl⟩
        · rw [h]; exact ⟨rfl, rfl⟩
      rw [hf.eq] at hs
      intro u hu
      change u ∈ (scheduleReauth env hass' c₁).2.dataKeys at hu
      change (scheduleReauth env hass' c₁).2.uidRemap.get? u = none
      rw [hf.eq] at hu ⊢
      rw [hs.2] at hu
      rw [hs.1]
      exact hc u hu
  | connectivity err c₁ hass' hf ha text =>
      intro u hu
      change u ∈ (armRecovery env c₁ p).dataKeys at hu
      change (armRecovery env c₁ p).uidRemap.get? u = none
      rw [armRecovery_dataKeys] at hu
      rw [armRecovery_uidRemap]
      rw [hf.eq] at hu ⊢
      exact hc u hu

/-- Over runs in which no UID comes back after it was remapped away. -/
theorem aliasSafe_of_run {hist : List PollRecord} {c : State} (h : Run (pollMachine env) hist c)
    (hlist : ∀ r ∈ hist, ListsNoAlias r) : AliasSafe env c := by
  apply Unaliased.aliasSafe
  refine Run.invariant_under (P := fun _ c => Unaliased c) ?_ ?_ h hlist
  · exact fun u hu => absurd hu (Finset.notMem_empty u)
  · intro hist c i hrun hr hc
    exact poll_unaliased (poll_step env i.1 c i.2) hc hr

def officeSwitch (uid : String) : Hass where
  entities := ⟨[⟨⟨"switch", "office"⟩, UidIdentity.entityUniqueId uid .switch, Constants.domain,
    some "entry"⟩], List.nodup_singleton _, List.nodup_singleton _⟩
  devices := ⟨[], List.nodup_nil, DeviceRegistry.nil_disjoint⟩
  configEntries := Dict.ofList [("entry", ⟨.loaded, some ⟨∅, ∅, ∅⟩⟩)]

def renamedOffice : List (Hass × Poll) :=
  [(officeSwitch "a", ⟨.ok (office "b"), 3, 3⟩),
    (officeSwitch "a", ⟨.error (connectionError "connection refused"), 2, 2⟩),
    (officeSwitch "a", ⟨.ok (office "a"), 1, 1⟩)]

/-- After the remap the box lists the old UID again: that UID is data, and
everything addressed to it goes to the one it was remapped to. -/
theorem listed_uid_redirected : ∃ hist c, Run (pollMachine memoryEnv) hist c ∧
    "a" ∈ c.dataKeys ∧ c.resolveConnectionUid "a" = "b" ∧ ¬ AliasSafe memoryEnv c := by
  refine ⟨_, _, run_play (pollMachine memoryEnv)
    ((officeSwitch "b", ⟨.ok (office "a"), 4, 4⟩) :: renamedOffice), ?_, ?_, ?_⟩
  · decide +kernel
  · decide +kernel
  · intro h
    have hr := h.resolves "a" (by decide +kernel)
    revert hr
    decide +kernel

theorem aliasSafe_renamedOffice :
    AliasSafe memoryEnv ((pollMachine memoryEnv).play renamedOffice).2 := by
  apply aliasSafe_of_run (run_play (pollMachine memoryEnv) renamedOffice)
  have hempty : ∀ c : State, c.uidRemap = Dict.empty → ∀ u, c.uidRemap.get? u = none := by
    intro c hc u
    rw [hc]
    rfl
  simp only [renamedOffice, Machine.play, List.forall_mem_cons]
  refine ⟨?_, ?_, ?_, by simp⟩
  · exact fun connections _ u _ => hempty _ (by decide +kernel) u
  · exact fun connections _ u _ => hempty _ (by decide +kernel) u
  · exact fun connections _ u _ => hempty _ (by decide +kernel) u

end FritzboxVpn.AliasSafety
