import FilterQuery.Query.Basic
import Mathlib.Order.Lattice

namespace FilterQuery.Query

@[elab_as_elim, induction_eliminator]
theorem inductionOn {motive : Query → Prop} (q : Query)
    (comparison : ∀ w o vs, motive (.comparison w o vs))
    (logical : ∀ c qs, (∀ q ∈ qs, motive q) → motive (.logical c qs)) : motive q := by
  refine @Query.rec motive (fun qs => ∀ q ∈ qs, motive q) comparison logical ?_ ?_ q
  · intro q hq
    cases hq
  · intro q qs h hs
    exact List.forall_mem_cons.2 ⟨h, hs⟩

theorem depth_le_depthAll_of_mem {q : Query} {qs : List Query} (h : q ∈ qs) :
    q.depth ≤ depthAll qs := by
  induction qs with
  | nil => cases h
  | cons p qs ih =>
      simp only [depthAll]
      rcases List.mem_cons.1 h with rfl | h
      · exact le_max_left _ _
      · exact (ih h).trans (le_max_right _ _)

@[simp]
theorem logicalDepth_comparison (w : String) (o : Operator) (vs : List String) :
    (Query.comparison w o vs).logicalDepth = 0 :=
  rfl

theorem logicalDepth_logical (c : Connective) (qs : List Query) :
    (Query.logical c qs).logicalDepth = depthAll qs :=
  rfl

theorem logicalDepth_lt_of_mem {c : Connective} {q : Query} {qs : List Query} (h : q ∈ qs) :
    q.logicalDepth < (Query.logical c qs).logicalDepth := by
  have := depth_le_depthAll_of_mem h
  rw [logicalDepth_logical, Nat.lt_iff_add_one_le, logicalDepth_add_one]
  exact this

theorem exists_mem_logicalDepth (c : Connective) {qs : List Query} (h : qs ≠ []) :
    ∃ q ∈ qs, (Query.logical c qs).logicalDepth = q.logicalDepth + 1 := by
  rw [logicalDepth_logical]
  induction qs with
  | nil => exact absurd rfl h
  | cons q qs ih =>
      by_cases hq : depthAll qs ≤ q.depth
      · refine ⟨q, List.mem_cons_self, ?_⟩
        rw [depthAll, max_eq_left hq, logicalDepth_add_one]
      · have hn : qs ≠ [] := by
          rintro rfl
          exact hq (Nat.zero_le _)
        obtain ⟨p, hp, hd⟩ := ih hn
        refine ⟨p, List.mem_cons_of_mem _ hp, ?_⟩
        rw [depthAll, max_eq_right (not_le.1 hq).le, hd]

inductive Part : Query → Query → Prop
  | whole (q : Query) : Part q q
  | inner {q child : Query} {c : Connective} {qs : List Query} (hc : child ∈ qs)
      (h : Part q child) : Part q (.logical c qs)

def HasOperands (q : Query) : Prop :=
  ∀ c qs, Part (.logical c qs) q → qs ≠ []

theorem hasOperands_logical {c : Connective} {qs : List Query} :
    (Query.logical c qs).HasOperands ↔ qs ≠ [] ∧ ∀ q ∈ qs, q.HasOperands := by
  constructor
  · intro h
    exact ⟨h c qs (.whole _), fun q hq d ps hp => h d ps (.inner hq hp)⟩
  · rintro ⟨hn, h⟩ d ps hp
    cases hp with
    | whole => exact hn
    | inner hq hp => exact h _ hq d ps hp

theorem HasOperands.exists_comparison {q : Query} (h : q.HasOperands) :
    ∃ w o vs, Part (.comparison w o vs) q := by
  induction q with
  | comparison w o vs => exact ⟨w, o, vs, .whole _⟩
  | logical c qs ih =>
      obtain ⟨hn, hq⟩ := hasOperands_logical.1 h
      obtain ⟨q, hm⟩ := List.exists_mem_of_ne_nil qs hn
      obtain ⟨w, o, vs, hp⟩ := ih q hm (hq q hm)
      exact ⟨w, o, vs, .inner hm hp⟩

end FilterQuery.Query
