import Mathlib.Data.List.Forall2

/-!
Two lists whose elements correspond place by place, under the changes of one
place of either list.
-/

namespace Library

open List

variable {α β : Type*} {R S : α → β → Prop} {as : List α} {bs : List β}

theorem forall₂_get? (h : Forall₂ R as bs) {i : Nat} {a : α} (ha : as[i]? = some a) :
    ∃ b, bs[i]? = some b ∧ R a b := by
  induction h generalizing i with
  | nil => cases ha
  | @cons first second as bs hfirst _ ih =>
      cases i with
      | zero =>
          rw [getElem?_cons_zero, Option.some.injEq] at ha
          exact ⟨second, rfl, ha ▸ hfirst⟩
      | succ i => exact ih ha

theorem forall₂_imp_mem (h : Forall₂ R as bs) (himp : ∀ a ∈ as, ∀ b, R a b → S a b) :
    Forall₂ S as bs := by
  have hmem : Forall₂ (fun a b => a ∈ as ∧ R a b) as bs :=
    (forall₂_and_left as bs).mpr ⟨fun _ hmem => hmem, h⟩
  exact hmem.imp fun a b hab => himp a hab.1 b hab.2

/-- One place of the right list changes, and with it the relation of its
partner to it. -/
theorem forall₂_set (h : Forall₂ R as bs) (hnodup : as.Nodup) {i : Nat} {a : α} {b : β}
    (ha : as[i]? = some a) (hnew : S a b)
    (hother : ∀ x ∈ as, x ≠ a → ∀ y, R x y → S x y) : Forall₂ S as (bs.set i b) := by
  induction h generalizing i with
  | nil => cases ha
  | @cons first second as bs hfirst hrest ih =>
      obtain ⟨hnot, hnodup⟩ := nodup_cons.mp hnodup
      cases i with
      | zero =>
          rw [getElem?_cons_zero, Option.some.injEq] at ha
          subst ha
          refine .cons hnew (forall₂_imp_mem hrest ?_)
          intro x hx y
          exact hother x (mem_cons_of_mem first hx) (fun heq => hnot (heq ▸ hx)) y
      | succ i =>
          rw [getElem?_cons_succ] at ha
          refine .cons (hother first mem_cons_self ?_ second hfirst) (ih hnodup ha ?_)
          · rintro rfl
            exact hnot (mem_of_getElem? ha)
          · exact fun x hx => hother x (mem_cons_of_mem first hx)

theorem forall₂_eraseIdx (h : Forall₂ R as bs) (i : Nat) :
    Forall₂ R (as.eraseIdx i) (bs.eraseIdx i) := by
  induction h generalizing i with
  | nil => exact .nil
  | cons hfirst hrest ih =>
      cases i with
      | zero => exact hrest
      | succ i => exact .cons hfirst (ih i)

end Library
