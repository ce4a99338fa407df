import FritzboxVpn.KeyedWrites

namespace FritzboxVpn.KeyedAmendments

open KeyedWrites

variable {ρ ι α : Type} (K : Keyed ρ ι α)

def AmendedTo (allows : ρ → α → Prop) (r r' : ρ) : Prop := r' = r ∨ ∃ a, allows r a ∧ r' = K.set a r

/-- The records are the earlier ones, each as it was or after a write that it allows;
none was added and none is gone. -/
structure Amended (allows : ρ → α → Prop) (rows rows' : List ρ) : Prop where
  kept : ∀ r ∈ rows, ∃ r' ∈ rows', AmendedTo K allows r r'
  source : ∀ r' ∈ rows', ∃ r ∈ rows, AmendedTo K allows r r'

variable {K} {allows : ρ → α → Prop} {rows rows' rows'' : List ρ}

theorem AmendedTo.key {r r' : ρ} (h : AmendedTo K allows r r') : K.key r' = K.key r := by
  rcases h with rfl | ⟨a, -, rfl⟩
  · rfl
  · exact K.key_set a r

theorem Amended.refl (rows : List ρ) : Amended K allows rows rows :=
  ⟨fun r hr => ⟨r, hr, Or.inl rfl⟩, fun r hr => ⟨r, hr, Or.inl rfl⟩⟩

theorem AmendedTo.trans (hallows : ∀ r a b, allows r a → allows (K.set a r) b → allows r b) {r r' r'' : ρ}
    (h : AmendedTo K allows r r') (h' : AmendedTo K allows r' r'') : AmendedTo K allows r r'' := by
  rcases h with rfl | ⟨a, ha, rfl⟩
  · exact h'
  · rcases h' with rfl | ⟨b, hb, rfl⟩
    · exact Or.inr ⟨a, ha, rfl⟩
    · exact Or.inr ⟨b, hallows r a b ha hb, K.set_set b a r⟩

theorem Amended.trans (hallows : ∀ r a b, allows r a → allows (K.set a r) b → allows r b)
    (h : Amended K allows rows rows') (h' : Amended K allows rows' rows'') :
    Amended K allows rows rows'' where
  kept := by
    intro r hr
    obtain ⟨r', hr', hstep⟩ := h.kept r hr
    obtain ⟨r'', hr'', hstep'⟩ := h'.kept r' hr'
    exact ⟨r'', hr'', hstep.trans hallows hstep'⟩
  source := by
    intro r'' hr''
    obtain ⟨r', hr', hstep'⟩ := h'.source r'' hr''
    obtain ⟨r, hr, hstep⟩ := h.source r' hr'
    exact ⟨r, hr, hstep.trans hallows hstep'⟩

variable [DecidableEq ι]

/-- Writes that the records allow as they were when the writes were planned. -/
theorem Amended.write {ws : List (ι × α)} (h : Amended K allows rows rows')
    (hplanned : ∀ w ∈ ws, ∀ r ∈ rows, K.key r = w.1 → allows r w.2)
    (hwrite : Rewrites K rows' ws rows'') : Amended K allows rows rows'' := by
  have hstep : ∀ {r r'}, r ∈ rows → AmendedTo K allows r r' → AmendedTo K allows r (rewritten K ws r') := by
    intro r r' hr hr'
    rcases rewritten_cases (K := K) ws r' with ⟨-, he⟩ | ⟨a, ha, he⟩
    · rwa [he]
    · refine Or.inr ⟨a, hplanned _ ha r hr hr'.key.symm, ?_⟩
      rcases hr' with rfl | ⟨b, -, rfl⟩
      · exact he
      · rw [he, K.set_set]
  refine ⟨fun r hr => ?_, fun r'' hr'' => ?_⟩
  · obtain ⟨r', hr', hamended⟩ := h.kept r hr
    exact ⟨_, hwrite.mem hr', hstep hr hamended⟩
  · obtain ⟨r', hr', rfl⟩ := (hwrite r'').mp hr''
    obtain ⟨r, hr, hamended⟩ := h.source r' hr'
    exact ⟨r, hr, hstep hr hamended⟩

end FritzboxVpn.KeyedAmendments
