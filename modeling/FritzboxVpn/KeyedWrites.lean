import Mathlib.Data.List.Nodup
import Mathlib.Data.List.Infix

namespace FritzboxVpn.KeyedWrites

/-- Records with an identity that writes leave alone. -/
structure Keyed (ρ ι α : Type) where
  key : ρ → ι
  set : α → ρ → ρ
  key_set : ∀ a r, key (set a r) = key r
  set_set : ∀ a b r, set a (set b r) = set a r

variable {ρ ι α σ ε : Type} [DecidableEq ι] (K : Keyed ρ ι α)

def rewrite (w : ι × α) (r : ρ) : ρ := if K.key r = w.1 then K.set w.2 r else r

def rewritten (ws : List (ι × α)) (r : ρ) : ρ := ws.foldl (fun r w => rewrite K w r) r

def Rewrites (rows : List ρ) (ws : List (ι × α)) (rows' : List ρ) : Prop :=
  ∀ r, r ∈ rows' ↔ ∃ r₀ ∈ rows, r = rewritten K ws r₀

variable {K}

@[simp]
theorem key_rewrite (w : ι × α) (r : ρ) : K.key (rewrite K w r) = K.key r := by
  rw [rewrite]
  split
  · exact K.key_set w.2 r
  · rfl

@[simp]
theorem key_rewritten (ws : List (ι × α)) (r : ρ) : K.key (rewritten K ws r) = K.key r := by
  induction ws generalizing r with
  | nil => rfl
  | cons w ws ih => exact (ih (rewrite K w r)).trans (key_rewrite w r)

theorem rewritten_append (ws vs : List (ι × α)) (r : ρ) :
    rewritten K (ws ++ vs) r = rewritten K vs (rewritten K ws r) :=
  List.foldl_append

/-- The last write to a record wins. -/
theorem rewritten_cases (ws : List (ι × α)) (r : ρ) :
    (K.key r ∉ ws.map Prod.fst ∧ rewritten K ws r = r) ∨
      ∃ a, (K.key r, a) ∈ ws ∧ rewritten K ws r = K.set a r := by
  induction ws generalizing r with
  | nil => exact Or.inl ⟨List.not_mem_nil, rfl⟩
  | cons w ws ih =>
      change (_ ∧ rewritten K ws (rewrite K w r) = r) ∨
        ∃ a, _ ∧ rewritten K ws (rewrite K w r) = K.set a r
      by_cases hk : K.key r = w.1
      · have hw : rewrite K w r = K.set w.2 r := if_pos hk
        right
        rcases ih (rewrite K w r) with ⟨-, h⟩ | ⟨a, ha, h⟩
        · exact ⟨w.2, by rw [hk]; exact List.mem_cons_self, h.trans hw⟩
        · rw [key_rewrite] at ha
          exact ⟨a, List.mem_cons_of_mem w ha, by rw [h, hw, K.set_set]⟩
      · have hw : rewrite K w r = r := if_neg hk
        rw [hw]
        rcases ih r with ⟨hn, h⟩ | ⟨a, ha, h⟩
        · refine Or.inl ⟨?_, h⟩
          rw [List.map_cons, List.mem_cons, not_or]
          exact ⟨hk, hn⟩
        · exact Or.inr ⟨a, List.mem_cons_of_mem w ha, h⟩

theorem rewritten_of_notMem {ws : List (ι × α)} {r : ρ} (h : ∀ a, (K.key r, a) ∉ ws) :
    rewritten K ws r = r := by
  rcases rewritten_cases (K := K) ws r with ⟨-, he⟩ | ⟨a, ha, -⟩
  · exact he
  · exact absurd ha (h a)

theorem rewritten_of_unique {ws : List (ι × α)} {r : ρ} {a : α} (h : (K.key r, a) ∈ ws)
    (hu : ∀ b, (K.key r, b) ∈ ws → b = a) : rewritten K ws r = K.set a r := by
  rcases rewritten_cases (K := K) ws r with ⟨hn, -⟩ | ⟨b, hb, he⟩
  · exact absurd (List.mem_map_of_mem (f := Prod.fst) h) hn
  · rw [he, hu b hb]

theorem Rewrites.refl (rows : List ρ) : Rewrites K rows [] rows := fun r =>
  ⟨fun h => ⟨r, h, rfl⟩, fun ⟨_, h, he⟩ => he ▸ h⟩

theorem Rewrites.trans {rows rows' rows'' : List ρ} {ws vs : List (ι × α)}
    (h : Rewrites K rows ws rows') (h' : Rewrites K rows' vs rows'') :
    Rewrites K rows (ws ++ vs) rows'' := by
  intro r
  rw [h' r]
  constructor
  · rintro ⟨r₁, h₁, rfl⟩
    obtain ⟨r₀, h₀, rfl⟩ := (h r₁).mp h₁
    exact ⟨r₀, h₀, (rewritten_append ws vs r₀).symm⟩
  · rintro ⟨r₀, h₀, rfl⟩
    exact ⟨rewritten K ws r₀, (h _).mpr ⟨r₀, h₀, rfl⟩, rewritten_append ws vs r₀⟩

theorem Rewrites.mem {rows rows' : List ρ} {ws : List (ι × α)} (h : Rewrites K rows ws rows')
    {r : ρ} (hr : r ∈ rows) : rewritten K ws r ∈ rows' :=
  (h _).mpr ⟨r, hr, rfl⟩

def writeAll (write : σ → ι × α → Except ε σ) : List (ι × α) → σ → Except ε Unit × σ
  | [], s => (.ok (), s)
  | w :: ws, s =>
      match write s w with
      | .error e => (.error e, s)
      | .ok s' => writeAll write ws s'

/-- What a write loop leaves behind: everything up to the first failing write,
and nothing after it. -/
theorem writeAll_spec (rows : σ → List ρ) {write : σ → ι × α → Except ε σ}
    (hw : ∀ s w s', write s w = .ok s' → Rewrites K (rows s) [w] (rows s'))
    (ws : List (ι × α)) (s : σ) :
    (∃ s', writeAll write ws s = (.ok (), s') ∧ Rewrites K (rows s) ws (rows s')) ∨
      ∃ done w rest e s', ws = done ++ w :: rest ∧ writeAll write ws s = (.error e, s') ∧
        Rewrites K (rows s) done (rows s') ∧ write s' w = .error e := by
  induction ws generalizing s with
  | nil => exact Or.inl ⟨s, rfl, Rewrites.refl _⟩
  | cons w ws ih =>
      rw [writeAll]
      cases h : write s w with
      | error e => exact Or.inr ⟨[], w, ws, e, s, rfl, rfl, Rewrites.refl _, h⟩
      | ok s₁ =>
          have h₁ := hw s w s₁ h
          rcases ih s₁ with ⟨s', hs, hr⟩ | ⟨done, v, rest, e, s', hl, hs, hr, he⟩
          · exact Or.inl ⟨s', hs, h₁.trans hr⟩
          · exact Or.inr ⟨w :: done, v, rest, e, s', by rw [hl]; rfl, hs, h₁.trans hr, he⟩

end FritzboxVpn.KeyedWrites
