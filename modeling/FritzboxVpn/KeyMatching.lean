import Mathlib.Data.Finset.Card
import Mathlib.Data.Finset.Image

namespace FritzboxVpn.KeyMatching

variable {α β ν : Type}

/-- Two finite sets whose members carry pairwise distinct labels, with the
same labels on both sides. -/
structure Matching (A : Finset α) (B : Finset β) (f : α → Option ν) (g : β → Option ν) : Prop where
  left_labelled : ∀ a ∈ A, ∃ n, f a = some n
  right_labelled : ∀ b ∈ B, ∃ n, g b = some n
  left_injective : ∀ a ∈ A, ∀ a' ∈ A, f a = f a' → a = a'
  right_injective : ∀ b ∈ B, ∀ b' ∈ B, g b = g b' → b = b'
  same_labels : ∀ n, (∃ a ∈ A, f a = some n) ↔ ∃ b ∈ B, g b = some n

variable {A : Finset α} {B : Finset β} {f : α → Option ν} {g : β → Option ν}

theorem Matching.symm (h : Matching A B f g) : Matching B A g f :=
  ⟨h.right_labelled, h.left_labelled, h.right_injective, h.left_injective,
    fun n => (h.same_labels n).symm⟩

theorem Matching.trans {γ : Type} {C : Finset γ} {g' : γ → Option ν} (h : Matching A B f g)
    (h' : Matching B C g g') : Matching A C f g' :=
  ⟨h.left_labelled, h'.right_labelled, h.left_injective, h'.right_injective,
    fun n => (h.same_labels n).trans (h'.same_labels n)⟩

theorem Matching.partner (h : Matching A B f g) {a : α} (ha : a ∈ A) : ∃ b ∈ B, f a = g b := by
  obtain ⟨n, hn⟩ := h.left_labelled a ha
  obtain ⟨b, hb, hg⟩ := (h.same_labels n).mp ⟨a, ha, hn⟩
  exact ⟨b, hb, hn.trans hg.symm⟩

theorem Matching.card_le (h : Matching A B f g) : A.card ≤ B.card := by
  classical
  choose p hp hf using fun a : A => h.partner a.2
  have hi : Function.Injective p := by
    intro a a' he
    apply Subtype.ext
    apply h.left_injective a a.2 a' a'.2
    rw [hf a, hf a', he]
  calc A.card = A.attach.card := (Finset.card_attach).symm
    _ = (A.attach.image p).card := (Finset.card_image_of_injective _ hi).symm
    _ ≤ B.card := Finset.card_le_card (by
        intro b hb
        obtain ⟨a, -, rfl⟩ := Finset.mem_image.mp hb
        exact hp a)

theorem Matching.card_eq (h : Matching A B f g) : A.card = B.card :=
  le_antisymm h.card_le h.symm.card_le

/-- The same condition by the images, where it can be computed. -/
theorem Matching.of_image [DecidableEq ν] (hl : ∀ a ∈ A, (f a).isSome = true)
    (ha : ∀ a ∈ A, ∀ a' ∈ A, f a = f a' → a = a') (hb : ∀ b ∈ B, ∀ b' ∈ B, g b = g b' → b = b')
    (himage : A.image f = B.image g) : Matching A B f g := by
  have hf : ∀ l, (∃ a ∈ A, f a = l) ↔ ∃ b ∈ B, g b = l := by
    intro l
    rw [← Finset.mem_image, himage, Finset.mem_image]
  refine ⟨fun a h => Option.isSome_iff_exists.mp (hl a h), ?_, ha, hb, fun n => hf (some n)⟩
  intro b h
  obtain ⟨a, hmem, he⟩ := (hf (g b)).mpr ⟨b, h, rfl⟩
  rw [← he]
  exact Option.isSome_iff_exists.mp (hl a hmem)

end FritzboxVpn.KeyMatching
