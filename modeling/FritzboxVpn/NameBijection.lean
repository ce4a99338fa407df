import FritzboxVpn.Coordinator
import Mathlib.Data.Set.Function

namespace FritzboxVpn.NameBijection

open Constants Coordinator JsonValue KeyMatching OrderedDict Text UidIdentity

variable (reprContainer : Json → String) (oldUids newUids : Finset String)
  (oldNames : Dict String String) (newPayloads : Dict String Json)

def oldName (uid : String) : Option String := trimmed oldNames.get? uid

def newName (uid : String) : Option String := trimmed (payloadName reprContainer newPayloads) uid

structure NamesAgree : Prop where
  old_nonempty : oldUids.Nonempty
  new_nonempty : newUids.Nonempty
  disjoint : Disjoint oldUids newUids
  old_named : ∀ uid ∈ oldUids, ∃ name, oldNames.get? uid = some name ∧ strip name ≠ ""
  new_named : ∀ uid ∈ newUids, ∃ value payload name, newPayloads.get? uid = some value ∧
    asDict value = some payload ∧ field payload apiKeyName = some name ∧
      strip (pyStr reprContainer name) ≠ ""
  old_distinct : Set.InjOn (oldName oldNames) oldUids
  new_distinct : Set.InjOn (newName reprContainer newPayloads) newUids
  same_names : oldUids.image (oldName oldNames) = newUids.image (newName reprContainer newPayloads)

/-- The mapping takes the old UIDs one to one to the new ones, each to the one
of its name. -/
structure FollowsNames (mapping : Dict String String) : Prop where
  keys : mapping.keys = oldUids
  bijective : Set.BijOn (fun uid => (mapping.get? uid).getD "") oldUids newUids
  names : ∀ old new, mapping.get? old = some new →
    oldName oldNames old = newName reprContainer newPayloads new

def remapDecisionIn (oldOrder newOrder : IterationOrder) : Except String (Dict String String) :=
  nameBijectionUidRemap reprContainer (oldOrder.toList oldUids) (newOrder.toList newUids) oldNames
    newPayloads

variable {reprContainer oldUids newUids oldNames newPayloads}

theorem oldName_labelled {uid : String} : (∃ name, oldName oldNames uid = some name) ↔
    ∃ name, oldNames.get? uid = some name ∧ strip name ≠ "" := by
  simp only [oldName, trimmed, Option.bind_eq_some_iff]
  constructor
  · rintro ⟨_, name, hname, h⟩
    split at h
    next => cases h
    next hne => exact ⟨name, hname, hne⟩
  · rintro ⟨name, hname, hne⟩
    exact ⟨strip name, name, hname, if_neg hne⟩

theorem newName_labelled {uid : String} : (∃ name, newName reprContainer newPayloads uid = some name) ↔
    ∃ value payload name, newPayloads.get? uid = some value ∧ asDict value = some payload ∧
      field payload apiKeyName = some name ∧ strip (pyStr reprContainer name) ≠ "" := by
  simp only [newName, trimmed, payloadName, Option.bind_eq_some_iff]
  constructor
  · rintro ⟨_, text, htext, h⟩
    split at htext
    next => cases htext
    next payload hpayload =>
      obtain ⟨value, hvalue, hdict⟩ := Option.bind_eq_some_iff.mp hpayload
      obtain ⟨name, hname, rfl⟩ := Option.map_eq_some_iff.mp htext
      split at h
      next => cases h
      next hne => exact ⟨value, payload, name, hvalue, hdict, hname, hne⟩
  · rintro ⟨value, payload, name, hvalue, hdict, hname, hne⟩
    refine ⟨strip (pyStr reprContainer name), pyStr reprContainer name, ?_, if_neg hne⟩
    simp only [hvalue, Option.bind_some, hdict, hname, Option.map_some]

theorem image_eq_iff {α β ν : Type} [DecidableEq ν] {A : Finset α} {B : Finset β} {f : α → Option ν}
    {g : β → Option ν} (hf : ∀ a ∈ A, ∃ n, f a = some n) (hg : ∀ b ∈ B, ∃ n, g b = some n) :
    A.image f = B.image g ↔ ∀ n, (∃ a ∈ A, f a = some n) ↔ ∃ b ∈ B, g b = some n := by
  simp only [Finset.ext_iff, Finset.mem_image]
  constructor
  · exact fun h n => h (some n)
  · intro h l
    cases l with
    | none =>
        refine iff_of_false ?_ ?_
        · rintro ⟨a, ha, he⟩
          obtain ⟨n, hn⟩ := hf a ha
          rw [hn] at he
          cases he
        · rintro ⟨b, hb, he⟩
          obtain ⟨n, hn⟩ := hg b hb
          rw [hn] at he
          cases he
    | some n => exact h n

/-- The conditions on the names are a matching of the two sets. -/
theorem namesAgree_iff : NamesAgree reprContainer oldUids newUids oldNames newPayloads ↔
    oldUids.Nonempty ∧ Disjoint oldUids newUids ∧
      Matching oldUids newUids (oldName oldNames) (newName reprContainer newPayloads) := by
  constructor
  · intro h
    have hold : ∀ uid ∈ oldUids, ∃ name, oldName oldNames uid = some name := fun uid hu =>
      oldName_labelled.mpr (h.old_named uid hu)
    have hnew : ∀ uid ∈ newUids, ∃ name, newName reprContainer newPayloads uid = some name :=
      fun uid hu => newName_labelled.mpr (h.new_named uid hu)
    exact ⟨h.old_nonempty, h.disjoint, hold, hnew, fun u hu v hv he => h.old_distinct hu hv he,
      fun u hu v hv he => h.new_distinct hu hv he, (image_eq_iff hold hnew).mp h.same_names⟩
  · rintro ⟨hone, hdisj, hm⟩
    obtain ⟨old, ho⟩ := hone
    obtain ⟨new, hn, -⟩ := hm.partner ho
    refine ⟨⟨old, ho⟩, ⟨new, hn⟩, hdisj, fun uid hu => oldName_labelled.mp (hm.left_labelled uid hu),
      fun uid hu => newName_labelled.mp (hm.right_labelled uid hu),
      fun u hu v hv he => hm.left_injective u hu v hv he,
      fun u hu v hv he => hm.right_injective u hu v hv he, ?_⟩
    exact (image_eq_iff hm.left_labelled hm.right_labelled).mpr hm.same_labels

theorem namesMatch_iff (oldOrder newOrder : IterationOrder) {mapping : Dict String String}
    (h : remapDecisionIn reprContainer oldUids newUids oldNames newPayloads oldOrder newOrder = .ok mapping) :
    NamesMatch reprContainer (oldOrder.toList oldUids) (newOrder.toList newUids) oldNames newPayloads
      mapping :=
  nameBijectionUidRemap_ok (oldOrder.nodup _) (newOrder.nodup _) h

theorem remapDecisionIn_ok_iff (oldOrder newOrder : IterationOrder) :
    (∃ mapping, remapDecisionIn reprContainer oldUids newUids oldNames newPayloads oldOrder newOrder =
      .ok mapping) ↔ NamesAgree reprContainer oldUids newUids oldNames newPayloads := by
  rw [namesAgree_iff]
  constructor
  · rintro ⟨mapping, h⟩
    have hm := namesMatch_iff oldOrder newOrder h
    have hmatch := hm.matching
    rw [oldOrder.toFinset, newOrder.toFinset] at hmatch
    refine ⟨?_, ?_, hmatch⟩
    · obtain ⟨uid, hu⟩ := List.exists_mem_of_ne_nil _ hm.old_nonempty
      exact ⟨uid, mem_toList.mp hu⟩
    · exact Finset.disjoint_left.mpr fun uid hu hn =>
        hm.disjoint uid (mem_toList.mpr hu) (mem_toList.mpr hn)
  · rintro ⟨⟨uid, hu⟩, hdisj, hm⟩
    refine nameBijectionUidRemap_exists (oldOrder.nodup _) (newOrder.nodup _)
      (List.ne_nil_of_mem (mem_toList.mpr hu)) ?_ ?_
    · exact fun uid hu hn => Finset.disjoint_left.mp hdisj (mem_toList.mp hu) (mem_toList.mp hn)
    · rw [oldOrder.toFinset, newOrder.toFinset]
      exact hm

theorem get?_iff (oldOrder newOrder : IterationOrder) {mapping : Dict String String}
    (h : remapDecisionIn reprContainer oldUids newUids oldNames newPayloads oldOrder newOrder = .ok mapping)
    (old new : String) : mapping.get? old = some new ↔
      old ∈ oldUids ∧ new ∈ newUids ∧ oldName oldNames old = newName reprContainer newPayloads new := by
  rw [(namesMatch_iff oldOrder newOrder h).get?_iff, mem_toList, mem_toList]
  exact Iff.rfl

theorem followsNames (oldOrder newOrder : IterationOrder) {mapping : Dict String String}
    (h : remapDecisionIn reprContainer oldUids newUids oldNames newPayloads oldOrder newOrder = .ok mapping) :
    FollowsNames reprContainer oldUids newUids oldNames newPayloads mapping := by
  have hget := get?_iff oldOrder newOrder h
  obtain ⟨-, -, hm⟩ := namesAgree_iff.mp ((remapDecisionIn_ok_iff oldOrder newOrder).mp ⟨mapping, h⟩)
  have hgetD : ∀ old ∈ oldUids, ∃ new ∈ newUids, mapping.get? old = some new := by
    intro old ho
    obtain ⟨new, hn, he⟩ := hm.partner ho
    exact ⟨new, hn, (hget old new).mpr ⟨ho, hn, he⟩⟩
  refine ⟨?_, ⟨fun old ho => ?_, fun old ho old' ho' he => ?_, fun new hn => ?_⟩,
    fun old new hnew => ((hget old new).mp hnew).2.2⟩
  · ext old
    rw [Dict.mem_keys_iff]
    constructor
    · rintro ⟨new, hnew⟩
      exact ((hget old new).mp hnew).1
    · intro ho
      obtain ⟨new, -, hnew⟩ := hgetD old ho
      exact ⟨new, hnew⟩
  · obtain ⟨new, hn, hnew⟩ := hgetD old ho
    simp only [hnew, Option.getD_some]
    exact hn
  · obtain ⟨new, -, hnew⟩ := hgetD old ho
    obtain ⟨new', -, hnew'⟩ := hgetD old' ho'
    simp only [hnew, hnew', Option.getD_some] at he
    subst he
    exact hm.left_injective old ho old' ho'
      (((hget old new).mp hnew).2.2.trans ((hget old' new).mp hnew').2.2.symm)
  · obtain ⟨old, ho, he⟩ := hm.symm.partner hn
    exact ⟨old, ho, by simp only [(hget old new).mpr ⟨ho, hn, he.symm⟩, Option.getD_some]⟩

/-- A mapping comes out exactly where the names agree, it follows them one to one,
and the orders of the two sets decide neither. -/
theorem nameBijectionUidRemap_iff_namesAgree (reprContainer : Json → String)
    (oldUids newUids : Finset String) (oldNames : Dict String String) (newPayloads : Dict String Json)
    (oldOrder newOrder : IterationOrder) :
    ((∃ mapping, remapDecisionIn reprContainer oldUids newUids oldNames newPayloads oldOrder newOrder =
        .ok mapping) ↔ NamesAgree reprContainer oldUids newUids oldNames newPayloads) ∧
      ∀ mapping, remapDecisionIn reprContainer oldUids newUids oldNames newPayloads oldOrder newOrder =
          .ok mapping →
        FollowsNames reprContainer oldUids newUids oldNames newPayloads mapping ∧
          ∀ oldOrder' newOrder', ∃ mapping', remapDecisionIn reprContainer oldUids newUids oldNames
            newPayloads oldOrder' newOrder' = .ok mapping' ∧ mapping'.get? = mapping.get? := by
  refine ⟨remapDecisionIn_ok_iff oldOrder newOrder, fun mapping h =>
    ⟨followsNames oldOrder newOrder h, fun oldOrder' newOrder' => ?_⟩⟩
  have hagree := (remapDecisionIn_ok_iff oldOrder newOrder).mp ⟨mapping, h⟩
  obtain ⟨mapping', h'⟩ := (remapDecisionIn_ok_iff oldOrder' newOrder').mpr hagree
  refine ⟨mapping', h', funext fun old => Option.ext fun new => ?_⟩
  rw [get?_iff oldOrder' newOrder' h', get?_iff oldOrder newOrder h]

/-- Of two names that are missing and twice there, the order decides which one
the refusal is about. -/
example (newPayloads : Dict String Json) (reprContainer : Json → String) :
    nameBijectionUidRemap reprContainer ["a", "b", "c"] ["d"] (Dict.ofList [("a", "Office"), ("b", "Office")])
        newPayloads = .error "duplicate_old_name" ∧
      nameBijectionUidRemap reprContainer ["c", "a", "b"] ["d"]
        (Dict.ofList [("a", "Office"), ("b", "Office")]) newPayloads = .error "missing_old_name" := by
  constructor <;> rfl

end FritzboxVpn.NameBijection
