import FilterQuery.Proofs.Query.Completeness

namespace FilterQuery.Query

inductive Pending {α : Type} (Between : Token → Prop) (Item : List Token → α → Prop) :
    List Token → List α → Prop
  | nothing : Pending Between Item [] []
  | joined {ts : List Token} {t : Token} {as : List α} (h : Chain Between Item ts as.reverse)
      (ht : Between t) : Pending Between Item (ts ++ [t]) as

theorem Pending.chain {α : Type} {Between : Token → Prop} {Item : List Token → α → Prop}
    {ts us : List Token} {as : List α} {b : α} (h : Pending Between Item ts as)
    (hb : Item us b) : Chain Between Item (ts ++ us) (b :: as).reverse := by
  cases h with
  | nothing => exact .one hb
  | joined h ht => simpa using Chain.more h ht hb

inductive Awaits (n : Nat) : List Token → Level → Prop
  | mk {ts us : List Token} {ds cs : List Query}
      (hd : Pending (Joiner .or) (Conjunction n) ts ds)
      (hc : Pending (Joiner .and) (Constraint n) us cs) : Awaits n (ts ++ us) ⟨ds, cs⟩

inductive Holds (n : Nat) : List Token → Level → Prop
  | mk {ts us : List Token} {ds cs : List Query}
      (hd : Pending (Joiner .or) (Conjunction n) ts ds)
      (hc : Chain (Joiner .and) (Constraint n) us cs.reverse) : Holds n (ts ++ us) ⟨ds, cs⟩

section

variable {n : Nat} {ts us : List Token} {t : Token} {l : Level} {q : Query}

theorem awaits_empty : Awaits n [] .empty :=
  .mk .nothing .nothing

theorem Awaits.holds (h : Awaits n ts l) (hq : Constraint n us q) :
    Holds n (ts ++ us) ⟨l.disjuncts, q :: l.conjuncts⟩ := by
  cases h with
  | mk hd hc =>
      rw [List.append_assoc]
      exact .mk hd (hc.chain hq)

theorem Holds.awaits_conjunct (h : Holds n ts l) (ht : Joiner .and t) :
    Awaits n (ts ++ [t]) l := by
  cases h with
  | mk hd hc =>
      rw [List.append_assoc]
      exact .mk hd (.joined hc ht)

theorem Holds.chain_disjuncts (h : Holds n ts l) :
    Chain (Joiner .or) (Conjunction n) ts
      (node .and l.conjuncts.reverse :: l.disjuncts).reverse := by
  cases h with
  | mk hd hc => exact hd.chain (.mk hc)

theorem Holds.awaits_disjunct (h : Holds n ts l) (ht : Joiner .or t) :
    Awaits n (ts ++ [t]) ⟨node .and l.conjuncts.reverse :: l.disjuncts, []⟩ := by
  simpa using Awaits.mk (.joined h.chain_disjuncts ht) .nothing

theorem Holds.disjunction (h : Holds n ts l) :
    Disjunction n ts (node .or (node .and l.conjuncts.reverse :: l.disjuncts).reverse) :=
  .mk h.chain_disjuncts

end

inductive Opened : Nat → List Token → List Level → Prop
  | outside : Opened maxGroups [] []
  | group {n : Nat} {ts us : List Token} {outer : List Level} {l : Level}
      (ho : Opened (n + 1) ts outer) (hl : Awaits (n + 1) us l) :
      Opened n (ts ++ us ++ [.leftParen]) (l :: outer)

theorem Opened.add_length {n : Nat} {ts : List Token} {outer : List Level}
    (h : Opened n ts outer) : n + outer.length = maxGroups := by
  induction h with
  | outside => rfl
  | group _ _ ih => simp; omega

inductive Begun : List Token → Place → Prop
  | constraint : Begun [] .constraint
  | operator (w : String) : Begun [.word w] (.operator w)
  | arguments {symbol : String} {o : Operator} (w : String)
      (ho : Operator.ofSymbol? symbol = some o) :
      Begun [.word w, .operator symbol] (.arguments w o)
  | value {symbol : String} {o : Operator} {ts : List Token} {vs : List String} (w : String)
      (ho : Operator.ofSymbol? symbol = some o) (h : Pending (· = .comma) Argument ts vs) :
      Begun (.word w :: .operator symbol :: .leftParen :: ts) (.value w o vs)
  | afterValue {symbol : String} {o : Operator} {ts : List Token} {vs : List String} (w : String)
      (ho : Operator.ofSymbol? symbol = some o)
      (h : Chain (· = .comma) Argument ts vs.reverse) :
      Begun (.word w :: .operator symbol :: .leftParen :: ts) (.afterValue w o vs)

inductive Taken : List Token → State → Prop
  | within {n : Nat} {ts us vs : List Token} {level : Level} {outer : List Level} {place : Place}
      (ho : Opened n ts outer) (hl : Awaits n us level) (hp : Begun vs place) :
      Taken (ts ++ us ++ vs) ⟨level, outer, place⟩
  | after {n : Nat} {ts us : List Token} {level : Level} {outer : List Level}
      (ho : Opened n ts outer) (hl : Holds n us level) :
      Taken (ts ++ us) ⟨level, outer, .afterConstraint⟩

theorem taken_start : Taken [] .start :=
  .within .outside awaits_empty .constraint

theorem taken_complete {n : Nat} {ts us vs : List Token} {level : Level} {outer : List Level}
    {place : Place} {q : Query} (ho : Opened n ts outer) (hl : Awaits n us level)
    (hq : Constraint n vs q) :
    Taken (ts ++ us ++ vs) (State.complete ⟨level, outer, place⟩ q) := by
  rw [List.append_assoc]
  exact .after ho (hl.holds hq)

theorem Taken.transition {limit : Nat} {s s' : State} {ts : List Token} {t : Token}
    (h : Taken ts s) (k : Transition limit s t s') : Taken (ts ++ [t]) s' := by
  cases h with
  | @within n ts us vs level outer place ho hl hp =>
      rw [List.append_assoc _ vs]
      cases k with
      | openGroup hlt =>
          cases hp
          -- With 256 groups open none is left to nest, so the guard of the step leaves one here.
          have hn := ho.add_length
          obtain ⟨n, rfl⟩ : ∃ k, n = k + 1 := ⟨n - 1, by omega⟩
          simpa using Taken.within (.group ho hl) awaits_empty .constraint
      | selector w =>
          cases hp
          exact .within ho hl (.operator w)
      | operator hs =>
          cases hp with
          | operator => exact .within ho hl (.arguments _ hs)
      | openArguments =>
          cases hp with
          | arguments _ hs => exact .within ho hl (.value _ hs .nothing)
      | argument hv =>
          cases hp with
          | arguments _ hs =>
              exact taken_complete ho hl (constraint_of_comparison (.mk _ hs (.one hv)))
      | value hv =>
          cases hp with
          | value _ hs hvs => exact .within ho hl (.afterValue _ hs (hvs.chain hv))
      | nextValue =>
          cases hp with
          | afterValue _ hs hvs => exact .within ho hl (.value _ hs (.joined hvs rfl))
      | closeArguments =>
          cases hp with
          | afterValue _ hs hvs =>
              exact taken_complete ho hl (constraint_of_comparison (.mk _ hs (.list hvs)))
      | nextConjunct => cases hp
      | nextDisjunct => cases hp
      | closeGroup => cases hp
  | @after n ts us level outer ho hl =>
      rw [List.append_assoc]
      cases k with
      | nextConjunct ht => simpa using Taken.within ho (hl.awaits_conjunct ht) .constraint
      | nextDisjunct ht hq =>
          rw [hq.eq_node]
          simpa using Taken.within ho (hl.awaits_disjunct ht) .constraint
      | closeGroup hq hr =>
          cases ho with
          | group ho ha =>
              rw [hr.eq_node, hq.eq_node]
              simpa using taken_complete ho ha (constraint_of_group hl.disjunction)

theorem Taken.reads {limit : Nat} {s s' : State} {ts us : List Token} (h : Taken ts s)
    (k : Reads limit s us s') : Taken (ts ++ us) s' := by
  induction k generalizing ts with
  | nil => simpa using h
  | cons ht _ ih => simpa using ih (h.transition ht)

theorem Taken.disjunction {limit : Nat} {s : State} {ts : List Token} {q : Query}
    (h : Taken ts s) (k : Finishes limit s q) : Disjunction maxGroups ts q := by
  cases k with
  | mk hq hr =>
      cases h with
      | within _ _ hp => cases hp
      | after ho hl =>
          cases ho
          rw [hr.eq_node, hq.eq_node]
          exact hl.disjunction

def State.Within (limit : Nat) (s : State) : Prop :=
  ∀ l ∈ s.level :: s.outer, ∀ q ∈ l.disjuncts ++ l.conjuncts, q.logicalDepth ≤ limit

theorem within_start (limit : Nat) : State.start.Within limit := by
  simp [State.Within, State.start, Level.empty]

theorem Closes.le_limit {limit : Nat} {c : Connective} {clauses : List Query} {q : Query}
    (h : Closes limit c clauses q) (hw : ∀ p ∈ clauses, p.logicalDepth ≤ limit) :
    q.logicalDepth ≤ limit := by
  rcases h.within with hl | hd
  · obtain ⟨only, rfl⟩ := List.length_eq_one_iff.1 hl
    rw [h.eq_node]
    exact hw only (by simp)
  · exact hd

theorem State.Within.complete {limit : Nat} {s : State} {q : Query} (h : s.Within limit)
    (hq : q.logicalDepth ≤ limit) : (s.complete q).Within limit := by
  obtain ⟨own, around⟩ := List.forall_mem_cons.1 h
  refine List.forall_mem_cons.2 ⟨fun p hp => ?_, around⟩
  simp only [State.complete, List.mem_append, List.mem_cons] at hp
  rcases hp with hp | rfl | hp
  · exact own p (by simp [hp])
  · exact hq
  · exact own p (by simp [hp])

theorem State.Within.closeAnd {limit : Nat} {s : State} {q : Query} (h : s.Within limit)
    (hq : Closes limit .and s.level.conjuncts q) :
    ∀ p ∈ q :: s.level.disjuncts, p.logicalDepth ≤ limit := by
  have own := h s.level (by simp)
  refine List.forall_mem_cons.2 ⟨hq.le_limit fun p hp => ?_, fun p hp => ?_⟩
  · exact own p (by simp [hp])
  · exact own p (by simp [hp])

theorem State.Within.transition {limit : Nat} {s s' : State} {t : Token} (h : s.Within limit)
    (k : Transition limit s t s') : s'.Within limit := by
  cases k with
  | openGroup =>
      refine List.forall_mem_cons.2 ⟨?_, h⟩
      simp [Level.empty]
  | selector => exact h
  | operator => exact h
  | openArguments => exact h
  | argument => exact State.Within.complete h (by simp)
  | value => exact h
  | nextValue => exact h
  | closeArguments => exact State.Within.complete h (by simp)
  | nextConjunct => exact h
  | nextDisjunct _ hq =>
      refine List.forall_mem_cons.2 ⟨?_, (List.forall_mem_cons.1 h).2⟩
      simpa using State.Within.closeAnd h hq
  | closeGroup hq hr =>
      have around : State.Within limit ⟨_, _, .afterConstraint⟩ := (List.forall_mem_cons.1 h).2
      exact around.complete (hr.le_limit (State.Within.closeAnd h hq))

theorem State.Within.reads {limit : Nat} {s s' : State} {ts : List Token} (h : s.Within limit)
    (k : Reads limit s ts s') : s'.Within limit := by
  induction k with
  | nil => exact h
  | cons ht _ ih => exact ih (h.transition ht)

theorem State.Within.finishes {limit : Nat} {s : State} {q : Query} (h : s.Within limit)
    (k : Finishes limit s q) : q.logicalDepth ≤ limit := by
  cases k with
  | mk hq hr => exact hr.le_limit (State.Within.closeAnd h hq)

theorem disjunction_of_reads {limit : Nat} {s : State} {ts : List Token} {q : Query}
    (h : Reads limit .start ts s) (k : Finishes limit s q) :
    Disjunction maxGroups ts q ∧ q.logicalDepth ≤ limit := by
  constructor
  · simpa using (taken_start.reads h).disjunction k
  · exact ((within_start limit).reads h).finishes k

theorem parse_eq_ok_iff_disjunction (limit : Nat) (s : String) (q : Query) :
    parse limit s = .ok q ↔
      ∃ ts, (Stream.ofString s).tokens? = some ts ∧ Disjunction 256 ts q ∧
        q.logicalDepth ≤ limit := by
  rw [parse_eq_ok_iff_reads]
  constructor
  · rintro ⟨ts, s', ht, hr, hf⟩
    exact ⟨ts, ht, disjunction_of_reads hr hf⟩
  · rintro ⟨ts, ht, hq, hd⟩
    obtain ⟨s', hr, hf⟩ := reads_of_disjunction hq hd
    exact ⟨ts, s', ht, hr, hf⟩

end FilterQuery.Query
