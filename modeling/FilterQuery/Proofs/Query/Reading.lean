import FilterQuery.Outcome
import FilterQuery.Proofs.Query.Grammar

namespace FilterQuery.Query

structure Closes (limit : Nat) (c : Connective) (clauses : List Query) (q : Query) : Prop where
  eq_node : q = node c clauses.reverse
  within : clauses.length = 1 ∨ q.logicalDepth ≤ limit

theorem combine_eq_ok_iff {limit position : Nat} {c : Connective} {clauses : List Query}
    {q : Query} : combine limit c clauses position = .ok q ↔ Closes limit c clauses q := by
  have several (h : clauses.length ≠ 1) :
      node c clauses.reverse = .logical c clauses.reverse := by
    unfold node
    split
    · next only he => exact absurd (by simpa using congrArg List.length he) h
    · rfl
  unfold combine
  split
  · next only =>
      constructor
      · intro h
        cases h
        exact ⟨rfl, .inl rfl⟩
      · intro h
        rw [h.eq_node]
        rfl
  · next hc =>
      have hl : clauses.length ≠ 1 := by
        intro hl
        obtain ⟨only, rfl⟩ := List.length_eq_one_iff.1 hl
        exact hc only rfl
      dsimp only
      split
      · next hd =>
          constructor
          · intro h
            cases h
            exact ⟨(several hl).symm, .inr hd⟩
          · intro h
            rw [h.eq_node, several hl]
      · next hd =>
          constructor
          · intro h
            cases h
          · intro h
            refine absurd (h.within.resolve_left hl) ?_
            rwa [h.eq_node, several hl]

inductive Transition (limit : Nat) : State → Token → State → Prop
  | openGroup {level : Level} {outer : List Level} (h : outer.length < maxGroups) :
      Transition limit ⟨level, outer, .constraint⟩ .leftParen
        ⟨.empty, level :: outer, .constraint⟩
  | selector {level : Level} {outer : List Level} (w : String) :
      Transition limit ⟨level, outer, .constraint⟩ (.word w) ⟨level, outer, .operator w⟩
  | operator {level : Level} {outer : List Level} {w symbol : String} {o : Operator}
      (h : Operator.ofSymbol? symbol = some o) :
      Transition limit ⟨level, outer, .operator w⟩ (.operator symbol)
        ⟨level, outer, .arguments w o⟩
  | openArguments {level : Level} {outer : List Level} {w : String} {o : Operator} :
      Transition limit ⟨level, outer, .arguments w o⟩ .leftParen ⟨level, outer, .value w o []⟩
  | argument {level : Level} {outer : List Level} {w v : String} {o : Operator} {t : Token}
      (h : Argument [t] v) :
      Transition limit ⟨level, outer, .arguments w o⟩ t
        (State.complete ⟨level, outer, .arguments w o⟩ (.comparison w o [v]))
  | value {level : Level} {outer : List Level} {w v : String} {o : Operator} {vs : List String}
      {t : Token} (h : Argument [t] v) :
      Transition limit ⟨level, outer, .value w o vs⟩ t ⟨level, outer, .afterValue w o (v :: vs)⟩
  | nextValue {level : Level} {outer : List Level} {w : String} {o : Operator}
      {vs : List String} :
      Transition limit ⟨level, outer, .afterValue w o vs⟩ .comma ⟨level, outer, .value w o vs⟩
  | closeArguments {level : Level} {outer : List Level} {w : String} {o : Operator}
      {vs : List String} :
      Transition limit ⟨level, outer, .afterValue w o vs⟩ .rightParen
        (State.complete ⟨level, outer, .afterValue w o vs⟩ (.comparison w o vs.reverse))
  | nextConjunct {level : Level} {outer : List Level} {t : Token} (h : Joiner .and t) :
      Transition limit ⟨level, outer, .afterConstraint⟩ t ⟨level, outer, .constraint⟩
  | nextDisjunct {level : Level} {outer : List Level} {t : Token} {q : Query}
      (h : Joiner .or t) (hq : Closes limit .and level.conjuncts q) :
      Transition limit ⟨level, outer, .afterConstraint⟩ t
        ⟨⟨q :: level.disjuncts, []⟩, outer, .constraint⟩
  | closeGroup {level l : Level} {outer : List Level} {q r : Query}
      (hq : Closes limit .and level.conjuncts q)
      (hr : Closes limit .or (q :: level.disjuncts) r) :
      Transition limit ⟨level, l :: outer, .afterConstraint⟩ .rightParen
        (State.complete ⟨l, outer, .afterConstraint⟩ r)

theorem closeAnd_eq_ok_iff {limit position : Nat} {l l' : Level} :
    l.closeAnd limit position = .ok l' ↔
      ∃ q, Closes limit .and l.conjuncts q ∧ l' = ⟨q :: l.disjuncts, []⟩ := by
  unfold Level.closeAnd
  rw [Outcome.bind_eq_ok_iff]
  simp only [combine_eq_ok_iff]
  constructor
  · rintro ⟨q, hq, he⟩
    cases he
    exact ⟨q, hq, rfl⟩
  · rintro ⟨q, hq, rfl⟩
    exact ⟨q, hq, rfl⟩

theorem transition_afterConstraint {limit position : Nat} {level : Level} {outer : List Level}
    {s' : State} {t : Token}
    (h : State.step limit ⟨level, outer, .afterConstraint⟩ t position = .ok s') :
    Transition limit ⟨level, outer, .afterConstraint⟩ t s' := by
  simp only [State.step] at h
  split at h
  · next hj =>
      cases h
      exact .nextConjunct (joins_iff.1 hj)
  · obtain ⟨l, hl, h⟩ := Outcome.bind_eq_ok_iff.1 h
    obtain ⟨q, hq, rfl⟩ := closeAnd_eq_ok_iff.1 hl
    split at h
    · next hj =>
        cases h
        exact .nextDisjunct (joins_iff.1 hj) hq
    · obtain ⟨r, hr, h⟩ := Outcome.bind_eq_ok_iff.1 h
      split at h
      · cases h
      · split at h
        · next ht =>
            cases h
            subst ht
            exact .closeGroup hq (combine_eq_ok_iff.1 hr)
        · cases h

theorem transition_of_step {limit position : Nat} {s s' : State} {t : Token}
    (h : s.step limit t position = .ok s') : Transition limit s t s' := by
  obtain ⟨level, outer, place⟩ := s
  cases place with
  | constraint =>
      simp only [State.step] at h
      split at h
      · split at h
        · next ho =>
            cases h
            exact .openGroup ho
        · cases h
      · cases h
        exact .selector _
      · cases h
  | operator w =>
      simp only [State.step] at h
      split at h
      · split at h
        · next ho =>
            cases h
            exact .operator ho
        · cases h
      · cases h
  | arguments w o =>
      simp only [State.step] at h
      split at h
      · next ht =>
          cases h
          subst ht
          exact .openArguments
      · split at h
        · next hv =>
            cases h
            exact .argument (value?_eq_some_iff.1 hv)
        · cases h
  | value w o vs =>
      simp only [State.step] at h
      split at h
      · next hv =>
          cases h
          exact .value (value?_eq_some_iff.1 hv)
      · cases h
  | afterValue w o vs =>
      simp only [State.step] at h
      split at h
      · next ht =>
          cases h
          subst ht
          exact .nextValue
      · split at h
        · next ht =>
            cases h
            subst ht
            exact .closeArguments
        · cases h
  | afterConstraint => exact transition_afterConstraint h

theorem step_of_transition {limit : Nat} {s s' : State} {t : Token}
    (h : Transition limit s t s') (position : Nat) : s.step limit t position = .ok s' := by
  cases h with
  | openGroup h => simp [State.step, h]
  | selector w => rfl
  | operator h => simp [State.step, h]
  | openArguments => rfl
  | argument h => cases h <;> rfl
  | value h => cases h <;> rfl
  | nextValue => rfl
  | closeArguments => rfl
  | nextConjunct h => simp [State.step, joins_iff.2 h]
  | @nextDisjunct level outer t q h hq =>
      have hl : level.closeAnd limit position = .ok ⟨q :: level.disjuncts, []⟩ :=
        closeAnd_eq_ok_iff.2 ⟨q, hq, rfl⟩
      have hn : t.joins .and = false :=
        Bool.eq_false_iff.2 fun k => not_joiner_and_of_joiner_or h (joins_iff.1 k)
      simp only [State.step, hn, hl, joins_iff.2 h]
      rfl
  | @closeGroup level l outer q r hq hr =>
      have hl : level.closeAnd limit position = .ok ⟨q :: level.disjuncts, []⟩ :=
        closeAnd_eq_ok_iff.2 ⟨q, hq, rfl⟩
      have hg : combine limit .or (q :: level.disjuncts) position = .ok r :=
        combine_eq_ok_iff.2 hr
      simp only [State.step, hl, bind, Except.bind, hg]
      rfl

theorem step_eq_ok_iff {limit position : Nat} {s s' : State} {t : Token} :
    s.step limit t position = .ok s' ↔ Transition limit s t s' :=
  ⟨transition_of_step, fun h => step_of_transition h position⟩

inductive Reads (limit : Nat) : State → List Token → State → Prop
  | nil (s : State) : Reads limit s [] s
  | cons {s s' s'' : State} {t : Token} {ts : List Token} (h : Transition limit s t s')
      (k : Reads limit s' ts s'') : Reads limit s (t :: ts) s''

namespace Reads

variable {limit : Nat} {s s' s'' : State} {t : Token} {ts us : List Token}

theorem single (h : Transition limit s t s') : Reads limit s [t] s' :=
  .cons h (.nil s')

theorem append (h : Reads limit s ts s') (k : Reads limit s' us s'') :
    Reads limit s (ts ++ us) s'' := by
  induction h with
  | nil => exact k
  | cons ht _ ih => exact .cons ht (ih k)

theorem snoc (h : Reads limit s ts s') (k : Transition limit s' t s'') :
    Reads limit s (ts ++ [t]) s'' :=
  h.append (single k)

end Reads

inductive Finishes (limit : Nat) : State → Query → Prop
  | mk {level : Level} {q r : Query} (hq : Closes limit .and level.conjuncts q)
      (hr : Closes limit .or (q :: level.disjuncts) r) :
      Finishes limit ⟨level, [], .afterConstraint⟩ r

theorem finish_eq_ok_iff {limit position : Nat} {s : State} {q : Query} :
    s.finish limit position = .ok q ↔ Finishes limit s q := by
  obtain ⟨level, outer, place⟩ := s
  constructor
  · intro h
    cases place with
    | afterConstraint =>
        simp only [State.finish] at h
        obtain ⟨l, hl, h⟩ := Outcome.bind_eq_ok_iff.1 h
        obtain ⟨p, hp, rfl⟩ := closeAnd_eq_ok_iff.1 hl
        obtain ⟨r, hr, h⟩ := Outcome.bind_eq_ok_iff.1 h
        cases outer with
        | nil =>
            cases h
            exact ⟨hp, combine_eq_ok_iff.1 hr⟩
        | cons => cases h
    | _ => cases h
  · intro h
    cases h with
    | @mk _ p _ hq hr =>
        have hl : level.closeAnd limit position = .ok ⟨p :: level.disjuncts, []⟩ :=
          closeAnd_eq_ok_iff.2 ⟨p, hq, rfl⟩
        have hg : combine limit .or (p :: level.disjuncts) position = .ok q :=
          combine_eq_ok_iff.2 hr
        simp only [State.finish, hl, bind, Except.bind, hg]
        rfl

theorem run_eq_ok_iff {limit : Nat} {s : State} {stream : Stream} {q : Query} :
    s.run limit stream = .ok q ↔
      ∃ ts s', stream.tokens? = some ts ∧ Reads limit s ts s' ∧ Finishes limit s' q := by
  induction stream generalizing s with
  | done position =>
      simp only [State.run, finish_eq_ok_iff]
      constructor
      · intro h
        exact ⟨[], s, rfl, .nil s, h⟩
      · rintro ⟨ts, s', ht, hr, hf⟩
        cases ht
        cases hr
        exact hf
  | broken fault position =>
      constructor
      · intro h
        cases h
      · rintro ⟨ts, s', ht, -⟩
        cases ht
  | token t position rest ih =>
      simp only [State.run, Outcome.bind_eq_ok_iff, step_eq_ok_iff, ih]
      constructor
      · rintro ⟨next, hn, ts, s', ht, hr, hf⟩
        exact ⟨t :: ts, s', by simp [Stream.tokens?, ht], .cons hn hr, hf⟩
      · rintro ⟨ts, s', ht, hr, hf⟩
        obtain ⟨us, hu, rfl⟩ := Option.map_eq_some_iff.1 ht
        cases hr with
        | cons hn hr => exact ⟨_, hn, us, s', hu, hr, hf⟩

theorem not_finishes_start {limit : Nat} {q : Query} : ¬Finishes limit .start q := by
  intro h
  cases h

theorem parse_eq_ok_iff_reads {limit : Nat} {s : String} {q : Query} :
    parse limit s = .ok q ↔ ∃ ts s', (Stream.ofString s).tokens? = some ts ∧
      Reads limit .start ts s' ∧ Finishes limit s' q := by
  rw [← run_eq_ok_iff]
  unfold parse
  split
  · next hs =>
      rw [hs]
      simp only [State.run, finish_eq_ok_iff]
      exact iff_of_false (by intro h; cases h) not_finishes_start
  · rfl

end FilterQuery.Query
