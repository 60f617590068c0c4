import Mathlib.Data.List.Forall2
import Mathlib.Data.List.TakeWhile

namespace FilterQuery

variable {α β : Type}

theorem forall₂_unique {R : α → β → Prop} {as : List α} {bs cs : List β}
    (h : List.Forall₂ R as bs) (k : List.Forall₂ R as cs)
    (hu : ∀ a ∈ as, ∀ b c, R a b → R a c → b = c) : bs = cs := by
  induction h generalizing cs with
  | nil =>
      cases k
      rfl
  | cons hb _ ih =>
      cases k with
      | cons hc k =>
          obtain ⟨first, others⟩ := List.forall_mem_cons.1 hu
          rw [first _ _ hb hc, ih k others]

theorem forall₂_imp_of_mem {R S : α → β → Prop} {as : List α} {bs : List β}
    (h : List.Forall₂ R as bs) (k : ∀ a ∈ as, ∀ b, R a b → S a b) : List.Forall₂ S as bs := by
  induction h with
  | nil => exact .nil
  | cons hab _ ih =>
      obtain ⟨first, others⟩ := List.forall_mem_cons.1 k
      exact .cons (first _ hab) (ih others)

theorem forall₂_congr_of_mem {R S : α → β → Prop} {as : List α} {bs : List β}
    (k : ∀ a ∈ as, ∀ b ∈ bs, R a b ↔ S a b) : List.Forall₂ R as bs ↔ List.Forall₂ S as bs := by
  induction as generalizing bs with
  | nil => cases bs <;> simp
  | cons a as ih =>
      cases bs with
      | nil => simp
      | cons b bs =>
          have first := k a List.mem_cons_self b List.mem_cons_self
          have others := ih fun a ha b hb =>
            k a (List.mem_cons_of_mem _ ha) b (List.mem_cons_of_mem _ hb)
          rw [List.forall₂_cons, List.forall₂_cons, first, others]

theorem exists_of_forall₂ {R : α → β → Prop} {as : List α} {bs : List β} {b : β}
    (h : List.Forall₂ R as bs) (hb : b ∈ bs) : ∃ a, R a b := by
  induction h with
  | nil => simp at hb
  | cons hab _ ih =>
      rcases List.mem_cons.1 hb with rfl | hb
      · exact ⟨_, hab⟩
      · exact ih hb

theorem findSome?_eq_some_iff_find? {f : α → Option β} {as : List α} {b : β} :
    as.findSome? f = some b ↔ ∃ a, as.find? (fun a => (f a).isSome) = some a ∧ f a = some b := by
  induction as with
  | nil => simp
  | cons a as ih =>
      cases hf : f a with
      | none => simp [hf, ih]
      | some c => simp [hf]

theorem takeWhile_append_of_ends {q : α → Bool} {p r : List α} (inside : ∀ d ∈ p, q d)
    (ends : ∀ d ∈ r.head?, q d = false) :
    (p ++ r).takeWhile q = p ∧ (p ++ r).dropWhile q = r := by
  rw [List.takeWhile_append_of_pos inside, List.dropWhile_append_of_pos inside]
  cases r with
  | nil => simp
  | cons d r => simp [ends d rfl]

end FilterQuery
