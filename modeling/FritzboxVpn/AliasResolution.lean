import FritzboxVpn.Chains
import FritzboxVpn.Entity

namespace FritzboxVpn.AliasResolution

open Chains Coordinator OrderedDict

/-- The rounds of the loop are the steps of a walk along the remaps. -/
theorem resolveLoop_of_follows {uidRemap : Dict String String} {seen : Finset String}
    {uid result : String} {n fuel : Nat} (h : Follows uidRemap.get? seen uid n result)
    (hf : n < fuel) : resolveLoop uidRemap fuel seen uid = result := by
  induction h generalizing fuel with
  | @ends seen uid hn =>
      obtain ⟨fuel, rfl⟩ := Nat.exists_eq_add_one_of_ne_zero (Nat.ne_of_gt hf)
      rw [resolveLoop, hn]
  | @repeats seen uid hs =>
      obtain ⟨fuel, rfl⟩ := Nat.exists_eq_add_one_of_ne_zero (Nat.ne_of_gt hf)
      rw [resolveLoop]
      cases uidRemap.get? uid with
      | none => rfl
      | some next => simp only [if_pos hs]
  | @step seen uid next result n hn hs _ ih =>
      obtain ⟨fuel, rfl⟩ := Nat.exists_eq_add_one_of_ne_zero (Nat.ne_zero_of_lt hf)
      rw [resolveLoop, hn]
      simp only [if_neg hs]
      exact ih (Nat.lt_of_succ_lt_succ hf)

theorem follows_resolveConnectionUid (c : State) (uid : String) :
    ∃ n ≤ c.uidRemap.keys.card,
      Follows c.uidRemap.get? ∅ uid n (c.resolveConnectionUid uid) := by
  have hkeys : ∀ o u, c.uidRemap.get? o = some u → o ∈ c.uidRemap.keys := fun o u h =>
    Dict.mem_keys_iff.mpr ⟨u, h⟩
  obtain ⟨n, result, hle, hf⟩ := exists_follows hkeys ∅ uid
  rw [Finset.sdiff_empty] at hle
  have hres : c.resolveConnectionUid uid = result :=
    resolveLoop_of_follows hf (Nat.lt_succ_of_le hle)
  exact ⟨n, hle, hres ▸ hf⟩

theorem resolveConnectionUid_eq {c : State} {uid result : String} {n : Nat}
    (h : Follows c.uidRemap.get? ∅ uid n result) : c.resolveConnectionUid uid = result := by
  obtain ⟨m, -, hf⟩ := follows_resolveConnectionUid c uid
  exact (hf.unique h).2

theorem resolveConnectionUid_idem (c : State) (uid : String) :
    c.resolveConnectionUid (c.resolveConnectionUid uid) = c.resolveConnectionUid uid := by
  obtain ⟨n, -, hf⟩ := follows_resolveConnectionUid c uid
  obtain ⟨m, hm⟩ := hf.idem
  exact resolveConnectionUid_eq hm

theorem connectionData_resolved (c : State) (uid : String) :
    Entity.connectionData c (c.resolveConnectionUid uid) = Entity.connectionData c uid := by
  rw [Entity.connectionData, Entity.connectionData, resolveConnectionUid_idem]

/-- Resolving takes at most a round a remap, however the remaps run in
circles. What it gives resolves to itself, and on a chain that ends it is
the end. -/
theorem resolveConnectionUid_settles (c : State) (uid : String) :
    (∃ n ≤ c.uidRemap.keys.card,
      Follows c.uidRemap.get? ∅ uid n (c.resolveConnectionUid uid) ∧
      ∀ fuel, n < fuel → resolveLoop c.uidRemap fuel ∅ uid = c.resolveConnectionUid uid) ∧
    c.resolveConnectionUid (c.resolveConnectionUid uid) = c.resolveConnectionUid uid ∧
    (Acyclic c.uidRemap.get? uid →
      IsEnd c.uidRemap.get? uid (c.resolveConnectionUid uid) ∧
      (∀ e, IsEnd c.uidRemap.get? uid e → e = c.resolveConnectionUid uid) ∧
      c.resolveConnectionUid uid ∉ c.uidRemap.keys) := by
  obtain ⟨n, hle, hf⟩ := follows_resolveConnectionUid c uid
  refine ⟨⟨n, hle, hf, fun fuel hlt => resolveLoop_of_follows hf hlt⟩,
    resolveConnectionUid_idem c uid, ?_⟩
  intro ha
  have hend := hf.isEnd ha
  exact ⟨hend, fun e he => he.unique hend, Dict.get?_eq_none_iff.mp hend.2⟩

/-- Three remaps in a circle with a tail: the tail ends up where the circle is
first met, each point of the circle at itself. -/
example :
    let c : State := { uidRemap := Dict.ofList [("t", "a"), ("a", "b"), ("b", "c"), ("c", "a")] }
    c.resolveConnectionUid "t" = "a" ∧ c.resolveConnectionUid "b" = "b" := by
  decide

end FritzboxVpn.AliasResolution
