import FritzboxVpn.FlowSafety

namespace FritzboxVpn.DiscoveredDevices

open ConfigEntries FlowRuns FlowSafety OrderedDict Runs SsdpUniqueId Text
open Uuid (Written)

inductive Spells : List Char → Nat → Prop
  | mk {before written after n} (hbefore : ∀ c ∈ before, isSpace c = true)
      (hafter : ∀ c ∈ after, isSpace c = true) (h : Written written n) :
      Spells (before ++ (written ++ after)) n

section Spelling

variable {x rest : List Char} {n : Nat}

theorem written_split {written : List Char} (h : Written written n) : ∃ (marks : List (List Char)) (t : List Char),
    written = marks.flatten ++ t ∧ (∀ m ∈ marks, m = "urn:".toList ∨ m = "uuid:".toList) ∧
      t ≠ [] ∧ (∀ c ∈ t, c ≠ 'u' ∧ c ≠ ':' ∧ isSpace c = false) ∧
        ∀ marks' : List (List Char), (∀ m ∈ marks', m = "urn:".toList ∨ m = "uuid:".toList) →
          Written (marks'.flatten ++ t) n := by
  obtain ⟨hmarks, hopened, hclosed, hbody, hlength⟩ := h
  rename_i marks opened body closed ds
  have hbrace : ∀ c, Uuid.isBrace c = true → c ≠ 'u' ∧ c ≠ ':' ∧ isSpace c = false := by
    intro c hc
    rw [Uuid.isBrace, Bool.or_eq_true, decide_eq_true_iff, decide_eq_true_iff] at hc
    rcases hc with rfl | rfl <;> decide +kernel
  refine ⟨marks, opened ++ (body ++ closed), rfl, hmarks, ?_, ?_, ?_⟩
  · intro hnil
    rw [List.append_eq_nil_iff, List.append_eq_nil_iff] at hnil
    obtain ⟨-, rfl, -⟩ := hnil
    cases hbody
    cases hlength
  · intro c hc
    rcases List.mem_append.mp hc with hc | hc
    · exact hbrace c (hopened c hc)
    · rcases List.mem_append.mp hc with hc | hc
      · obtain ⟨hu, hcolon, -, hspace⟩ := hbody.plain hc
        exact ⟨hu, hcolon, hspace⟩
      · exact hbrace c (hclosed c hc)
  · exact fun marks' hmarks' => .mk hmarks' hopened hclosed hbody hlength

theorem Spells.removePrefix (h : Spells x n) : Spells (removePrefix "uuid:".toList x) n := by
  rw [SsdpUniqueId.removePrefix]
  split
  · rename_i hmark
    obtain ⟨hbefore, hafter, hwritten⟩ := h
    rename_i before written after
    obtain ⟨marks, t, rfl, hmarks, hne, ht, hagain⟩ := written_split hwritten
    obtain ⟨more, hmore⟩ := hmark
    rcases before with _ | ⟨c, before⟩
    · rcases marks with _ | ⟨m, marks⟩
      · obtain ⟨c, t, rfl⟩ := List.exists_cons_of_ne_nil hne
        exact absurd (List.cons.inj hmore).1.symm (ht c List.mem_cons_self).1
      · have hothers : ∀ e ∈ marks, e = "urn:".toList ∨ e = "uuid:".toList :=
          fun e he => hmarks e (List.mem_cons_of_mem m he)
        rcases hmarks m List.mem_cons_self with rfl | rfl
        · have hsecond := (List.cons.inj (List.cons.inj hmore).2).1
          exact absurd hsecond (by decide)
        · have hspelled : Spells ([] ++ (marks.flatten ++ t ++ after)) n :=
            .mk hbefore hafter (hagain marks hothers)
          rwa [List.nil_append, List.flatten_cons, List.append_assoc, List.append_assoc, List.drop_left,
            ← List.append_assoc]
    · have hu : isSpace 'u' = false := by decide +kernel
      obtain rfl : 'u' = c := (List.cons.inj hmore).1
      rw [hbefore 'u' List.mem_cons_self] at hu
      cases hu
  · exact h

end Spelling

end FritzboxVpn.DiscoveredDevices
