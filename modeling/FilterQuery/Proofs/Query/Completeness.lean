import FilterQuery.Proofs.Query.Reading

namespace FilterQuery.Query

variable {limit n : Nat} {level : Level} {outer : List Level}

theorem reads_values {w : String} {o : Operator} {ts : List Token} {vs : List String}
    (h : Chain (· = .comma) Argument ts vs) :
    Reads limit ⟨level, outer, .value w o []⟩ ts ⟨level, outer, .afterValue w o vs.reverse⟩ := by
  induction h with
  | one h =>
      obtain ⟨t, rfl⟩ := h.eq_singleton
      exact .single (.value h)
  | @more ts us t vs v _ ht hv ih =>
      obtain ⟨u, rfl⟩ := hv.eq_singleton
      subst ht
      rw [List.reverse_append]
      exact ih.append (.cons .nextValue (.single (.value hv)))

theorem reads_arguments {w : String} {o : Operator} {ts : List Token} {vs : List String}
    (h : Arguments ts vs) :
    Reads limit ⟨level, outer, .arguments w o⟩ ts
      (State.complete ⟨level, outer, .constraint⟩ (.comparison w o vs)) := by
  cases h with
  | one h =>
      obtain ⟨t, rfl⟩ := h.eq_singleton
      exact .single (.argument h)
  | list h =>
      have close : Transition limit ⟨level, outer, .afterValue w o vs.reverse⟩ .rightParen _ :=
        .closeArguments
      rw [List.reverse_reverse] at close
      exact .cons .openArguments ((reads_values h).snoc close)

theorem reads_comparison {ts : List Token} {q : Query} (h : Comparison ts q) :
    Reads limit ⟨level, outer, .constraint⟩ ts
      (State.complete ⟨level, outer, .constraint⟩ q) := by
  cases h with
  | mk w ho h => exact .cons (.selector w) (.cons (.operator ho) (reads_arguments h))

def Readable (limit : Nat) (outer : List Level) (Clause : List Token → Query → Prop) : Prop :=
  ∀ ts q level, Clause ts q → q.logicalDepth ≤ limit →
    Reads limit ⟨level, outer, .constraint⟩ ts (State.complete ⟨level, outer, .constraint⟩ q)

theorem reads_conjuncts {Clause : List Token → Query → Prop} (hr : Readable limit outer Clause)
    {ts : List Token} {ds qs : List Query} (h : Chain (Joiner .and) Clause ts qs)
    (hd : ∀ q ∈ qs, q.logicalDepth ≤ limit) :
    Reads limit ⟨⟨ds, []⟩, outer, .constraint⟩ ts
      ⟨⟨ds, qs.reverse⟩, outer, .afterConstraint⟩ := by
  induction h with
  | one h => exact hr _ _ _ h (hd _ (by simp))
  | @more ts us t qs q _ ht hq ih =>
      have before := ih fun p hp => hd p (by simp [hp])
      have last := hr _ _ ⟨ds, qs.reverse⟩ hq (hd q (by simp))
      rw [List.reverse_append]
      exact before.append (.cons (.nextConjunct ht) last)

theorem reads_conjunction {Clause : List Token → Query → Prop}
    (hr : Readable limit outer Clause) {ts : List Token} {q : Query} (ds : List Query)
    (h : Joined .and Clause ts q) (hd : q.logicalDepth ≤ limit) :
    ∃ cs, Reads limit ⟨⟨ds, []⟩, outer, .constraint⟩ ts ⟨⟨ds, cs⟩, outer, .afterConstraint⟩ ∧
      Closes limit .and cs q := by
  cases h with
  | @mk qs h =>
      refine ⟨qs.reverse, reads_conjuncts hr h fun p hp => ?_, ?_, .inr hd⟩
      · exact (logicalDepth_le_of_mem_node hp).trans hd
      · rw [List.reverse_reverse]

theorem reads_disjuncts {Clause : List Token → Query → Prop} (hr : Readable limit outer Clause)
    {ts : List Token} {qs : List Query} (h : Chain (Joiner .or) (Joined .and Clause) ts qs)
    (hd : ∀ q ∈ qs, q.logicalDepth ≤ limit) :
    ∃ ds cs q, Reads limit ⟨.empty, outer, .constraint⟩ ts
      ⟨⟨ds, cs⟩, outer, .afterConstraint⟩ ∧ Closes limit .and cs q ∧ qs = (q :: ds).reverse := by
  induction h with
  | @one ts q h =>
      obtain ⟨cs, hcs, hq⟩ := reads_conjunction hr [] h (hd q (by simp))
      exact ⟨[], cs, q, hcs, hq, rfl⟩
  | @more ts us t qs q _ ht hq ih =>
      obtain ⟨ds, cs, p, before, hp, rfl⟩ := ih fun p hp => hd p (by simp [hp])
      obtain ⟨bs, last, hq⟩ := reads_conjunction hr (p :: ds) hq (hd q (by simp))
      exact ⟨p :: ds, bs, q, before.append (.cons (.nextDisjunct ht hp) last), hq, by simp⟩

theorem reads_disjunction {Clause : List Token → Query → Prop}
    (hr : Readable limit outer Clause) {ts : List Token} {q : Query}
    (h : Joined .or (Joined .and Clause) ts q) (hd : q.logicalDepth ≤ limit) :
    ∃ l p, Reads limit ⟨.empty, outer, .constraint⟩ ts ⟨l, outer, .afterConstraint⟩ ∧
      Closes limit .and l.conjuncts p ∧ Closes limit .or (p :: l.disjuncts) q := by
  cases h with
  | @mk qs h =>
      have within : ∀ p ∈ qs, p.logicalDepth ≤ limit := fun p hp =>
        (logicalDepth_le_of_mem_node hp).trans hd
      obtain ⟨ds, cs, p, hreads, hp, rfl⟩ := reads_disjuncts hr h within
      exact ⟨⟨ds, cs⟩, p, hreads, hp, rfl, .inr hd⟩

theorem reads_group {Inner : List Token → Query → Prop}
    (hr : Readable limit (level :: outer) Inner) (ho : outer.length < maxGroups) {ts : List Token}
    {q : Query} (h : Group (Joined .or (Joined .and Inner)) ts q) (hd : q.logicalDepth ≤ limit) :
    Reads limit ⟨level, outer, .constraint⟩ ts
      (State.complete ⟨level, outer, .constraint⟩ q) := by
  cases h with
  | mk h =>
      obtain ⟨l, p, hreads, hp, hq⟩ := reads_disjunction hr h hd
      exact .cons (.openGroup ho) (hreads.snoc (.closeGroup hp hq))

theorem readable_constraint (h : outer.length + n ≤ maxGroups) :
    Readable limit outer (Constraint n) := by
  induction n generalizing outer with
  | zero => exact fun ts q level hq _ => reads_comparison hq
  | succ n ih =>
      intro ts q level hq hd
      rcases hq with hq | hq
      · exact reads_comparison hq
      · have inner : Readable limit (level :: outer) (Constraint n) := ih (by simp; omega)
        exact reads_group inner (by omega) hq hd

theorem reads_of_disjunction {ts : List Token} {q : Query} (h : Disjunction maxGroups ts q)
    (hd : q.logicalDepth ≤ limit) : ∃ s, Reads limit .start ts s ∧ Finishes limit s q := by
  have readable : Readable limit [] (Constraint maxGroups) := readable_constraint (by simp)
  obtain ⟨l, p, hreads, hp, hq⟩ := reads_disjunction readable h hd
  exact ⟨_, hreads, hp, hq⟩

end FilterQuery.Query
