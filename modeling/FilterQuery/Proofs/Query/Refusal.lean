import FilterQuery.Proofs.Query.Layout
import FilterQuery.Proofs.Query.Limits

namespace FilterQuery.Query

inductive Fault.Refuses : Fault → Option Token → Nat → Prop
  | unexpected (expected : Expected) (found : Option Token) (position : Nat) :
      Refuses (.unexpected expected found position) found position
  | unknownOperator (symbol : String) (position : Nat) :
      Refuses (.unknownOperator symbol position) (some (.operator symbol)) position
  | groupsTooDeep (position : Nat) :
      Refuses (.groupsTooDeep position) (some .leftParen) position

def Accepts (limit : Nat) (ts : List Token) : Prop :=
  ∃ s q, (Stream.ofString s).tokens? = some ts ∧ parse limit s = .ok q

namespace Stream

def before (position : Nat) (stream : Stream) : List Token :=
  (stream.entries.filter fun e => e.2 < position).map Prod.fst

def at? (position : Nat) : Stream → Option (Option Token)
  | .done start => if start = position then some none else none
  | .broken _ _ => none
  | .token t start rest => if start = position then some (some t) else rest.at? position

inductive Splits (position : Nat) : Stream → List Token → Option Token → Prop
  | ended : Splits position (.done position) [] none
  | here (t : Token) (rest : Stream) : Splits position (.token t position rest) [] (some t)
  | later {t : Token} {start : Nat} {rest : Stream} {ts : List Token} {k : Option Token}
      (h : Splits position rest ts k) : Splits position (.token t start rest) (t :: ts) k

inductive Ascending : Nat → Stream → Prop
  | done {least position : Nat} (h : least ≤ position) : Ascending least (.done position)
  | broken {least position : Nat} (fault : TokenFault) (h : least ≤ position) :
      Ascending least (.broken fault position)
  | token {least position : Nat} {t : Token} {rest : Stream} (h : least ≤ position)
      (k : Ascending (position + 1) rest) : Ascending least (.token t position rest)

end Stream

section Positions

variable {least least' position : Nat} {stream : Stream} {ts : List Token} {k : Option Token}

theorem Stream.Ascending.mono (h : stream.Ascending least') (hl : least ≤ least') :
    stream.Ascending least := by
  cases h with
  | done h => exact .done (hl.trans h)
  | broken fault h => exact .broken fault (hl.trans h)
  | token h k => exact .token (hl.trans h) k

theorem ascending_scan (s : List Char) (position : Nat) :
    (Stream.scan s position).Ascending position := by
  fun_induction Stream.scan s position with
  | case1 => exact .done (Nat.le_add_right _ _)
  | case2 => exact .broken _ (Nat.le_add_right _ _)
  | case3 =>
      rename_i ih
      exact .token (Nat.le_add_right _ _) (ih.mono (by omega))

theorem Stream.Splits.le (h : stream.Splits position ts k) (ha : stream.Ascending least) :
    least ≤ position := by
  induction h generalizing least with
  | ended =>
      cases ha
      assumption
  | here =>
      cases ha
      assumption
  | later _ ih =>
      cases ha with
      | token hl ha => exact hl.trans (Nat.le_of_succ_le (ih ha))

theorem Stream.Ascending.le_of_mem_entries (h : stream.Ascending least) {e : Token × Nat}
    (he : e ∈ stream.entries) : least ≤ e.2 := by
  induction h with
  | done => cases he
  | broken => cases he
  | token hl _ ih =>
      rcases List.mem_cons.1 he with rfl | he
      · exact hl
      · exact hl.trans (Nat.le_of_succ_le (ih he))

theorem Stream.Splits.before_eq (h : stream.Splits position ts k) (ha : stream.Ascending least) :
    stream.before position = ts := by
  induction h generalizing least with
  | ended => rfl
  | here t rest =>
      cases ha with
      | token _ ha =>
          have after : ∀ e ∈ rest.entries, ¬e.2 < position := fun e he => by
            have := ha.le_of_mem_entries he
            omega
          simpa [Stream.before, Stream.entries] using after
  | @later t start rest ts k h ih =>
      cases ha with
      | token _ ha =>
          have earlier : start < position := h.le ha
          rw [Stream.before, Stream.entries, List.filter_cons_of_pos (by simpa using earlier),
            List.map_cons]
          exact congrArg (t :: ·) (ih ha)

theorem Stream.Splits.at?_eq (h : stream.Splits position ts k) (ha : stream.Ascending least) :
    stream.at? position = some k := by
  induction h generalizing least with
  | ended => exact if_pos rfl
  | here => exact if_pos rfl
  | later h ih =>
      cases ha with
      | token _ ha =>
          have start := h.le ha
          rw [Stream.at?, if_neg (by omega)]
          exact ih ha

end Positions

section Faults

variable {limit position position' : Nat} {s s' s'' : State} {t : Token} {ts us : List Token}
  {k k' : Option Token} {fault : Fault}

theorem Fault.Refuses.unique (h : fault.Refuses k position) (h' : fault.Refuses k' position') :
    k = k' ∧ position = position' := by
  cases h <;> cases h' <;> exact ⟨rfl, rfl⟩

theorem not_refuses_tooDeep : ¬(Fault.tooDeep limit position).Refuses k position' := by
  rintro ⟨⟩

theorem refuses_of_refuse {α : Type} (h : (s.refuse k position : Except Fault α) = .error fault) :
    fault.Refuses k position := by
  cases h
  exact .unexpected _ _ _

theorem combine_eq_error {c : Connective} {clauses : List Query}
    (h : combine limit c clauses position = .error fault) : fault = .tooDeep limit position := by
  unfold combine at h
  split at h
  · cases h
  · dsimp only at h
    split at h
    · cases h
    · cases h
      rfl

theorem closeAnd_eq_error {l : Level} (h : l.closeAnd limit position = .error fault) :
    fault = .tooDeep limit position := by
  rcases Outcome.bind_eq_error_iff.1 h with h | ⟨clause, -, h⟩
  · exact combine_eq_error h
  · cases h

theorem step_eq_error (h : s.step limit t position = .error fault) :
    fault = .tooDeep limit position ∨ fault.Refuses (some t) position := by
  obtain ⟨level, outer, place⟩ := s
  cases place with
  | constraint =>
      simp only [State.step] at h
      split at h
      · split at h
        · cases h
        · cases h
          exact .inr (.groupsTooDeep position)
      · cases h
      · exact .inr (refuses_of_refuse h)
  | operator w =>
      simp only [State.step] at h
      split at h
      · split at h
        · cases h
        · cases h
          exact .inr (.unknownOperator _ position)
      · exact .inr (refuses_of_refuse h)
  | arguments w o =>
      simp only [State.step] at h
      split at h
      · cases h
      · split at h
        · cases h
        · exact .inr (refuses_of_refuse h)
  | value w o vs =>
      simp only [State.step] at h
      split at h
      · cases h
      · exact .inr (refuses_of_refuse h)
  | afterValue w o vs =>
      simp only [State.step] at h
      split at h
      · cases h
      · split at h
        · cases h
        · exact .inr (refuses_of_refuse h)
  | afterConstraint =>
      simp only [State.step] at h
      split at h
      · cases h
      · rcases Outcome.bind_eq_error_iff.1 h with h | ⟨l, -, h⟩
        · exact .inl (closeAnd_eq_error h)
        · split at h
          · cases h
          · rcases Outcome.bind_eq_error_iff.1 h with h | ⟨group, -, h⟩
            · exact .inl (combine_eq_error h)
            · split at h
              · exact .inr (refuses_of_refuse h)
              · split at h
                · cases h
                · exact .inr (refuses_of_refuse h)

theorem finish_eq_error (h : s.finish limit position = .error fault) :
    fault = .tooDeep limit position ∨ fault.Refuses none position := by
  obtain ⟨level, outer, place⟩ := s
  cases place with
  | afterConstraint =>
      simp only [State.finish] at h
      rcases Outcome.bind_eq_error_iff.1 h with h | ⟨l, -, h⟩
      · exact .inl (closeAnd_eq_error h)
      · rcases Outcome.bind_eq_error_iff.1 h with h | ⟨query, -, h⟩
        · exact .inl (combine_eq_error h)
        · split at h
          · cases h
          · exact .inr (refuses_of_refuse h)
  | _ => exact .inr (refuses_of_refuse h)

def State.Stuck (limit : Nat) (s : State) : Option Token → Prop
  | some t => ∀ s', ¬Transition limit s t s'
  | none => ∀ q, ¬Finishes limit s q

theorem run_eq_error {stream : Stream} (h : s.run limit stream = .error fault)
    (hf : fault.Refuses k position) :
    ∃ ts s', stream.Splits position ts k ∧ Reads limit s ts s' ∧ s'.Stuck limit k := by
  induction stream generalizing s with
  | done start =>
      rcases finish_eq_error h with rfl | refused
      · exact absurd hf not_refuses_tooDeep
      · obtain ⟨rfl, rfl⟩ := hf.unique refused
        refine ⟨[], s, .ended, .nil s, fun q hq => ?_⟩
        have finished : s.finish limit position = .ok q := finish_eq_ok_iff.2 hq
        cases h.symm.trans finished
  | broken fault start =>
      cases h
      cases hf
  | token t start rest ih =>
      rcases Outcome.bind_eq_error_iff.1 h with h | ⟨next, hn, h⟩
      · rcases step_eq_error h with rfl | refused
        · exact absurd hf not_refuses_tooDeep
        · obtain ⟨rfl, rfl⟩ := hf.unique refused
          refine ⟨[], s, .here t rest, .nil s, fun s' ht => ?_⟩
          have stepped := step_of_transition ht position
          cases h.symm.trans stepped
      · obtain ⟨ts, s', split, reads, stuck⟩ := ih h
        exact ⟨t :: ts, s', .later split, .cons (step_eq_ok_iff.1 hn) reads, stuck⟩

theorem Transition.unique (h : Transition limit s t s') (h' : Transition limit s t s'') :
    s' = s'' :=
  Except.ok.inj ((step_of_transition h 0).symm.trans (step_of_transition h' 0))

theorem not_reads_of_stuck (h : Reads limit s ts s') (hs : s'.Stuck limit us.head?)
    {q : Query} (hr : Reads limit s (ts ++ us) s'') (hq : Finishes limit s'' q) : False := by
  induction h with
  | nil s =>
      cases hr with
      | nil => exact hs q hq
      | cons ht _ => exact hs _ ht
  | cons ht _ ih =>
      cases hr with
      | cons ht' hr =>
          cases ht.unique ht'
          exact ih hs hr

end Faults

section Completion

variable {n : Nat} {ts us : List Token} {outer : List Level} {level : Level} {place : Place}
  {s : State}

theorem Opened.completes (ho : Opened n ts outer) (hl : Holds n us level) :
    ∃ q, Disjunction maxGroups (ts ++ us ++ List.replicate outer.length .rightParen) q := by
  induction ho generalizing us level with
  | outside => exact ⟨_, by simpa using hl.disjunction⟩
  | group _ ha ih =>
      obtain ⟨q, hq⟩ := ih (ha.holds (constraint_of_group hl.disjunction))
      exact ⟨q, by simpa [List.replicate_succ] using hq⟩

theorem exists_spelled_one : ∃ p, Spelled (.word "1") p :=
  ⟨['1'], .word (by simp) (List.all_eq_true.1 rfl)⟩

theorem exists_spelled_equal : ∃ p, Spelled (.operator "==") p :=
  ⟨['=', '='], .operator (.named (List.forall_mem_nil _))⟩

theorem exists_spelled_rightParen : ∃ p, Spelled .rightParen p :=
  ⟨[')'], .rightParen⟩

theorem Begun.completes (h : Begun ts place) :
    ∃ us q, (∀ t ∈ us, ∃ p, Spelled t p) ∧ Comparison (ts ++ us) q := by
  have equal : Operator.ofSymbol? "==" = some .equal := by decide
  cases h with
  | constraint =>
      refine ⟨[.word "1", .operator "==", .word "1"], _, ?_, .mk "1" equal (.one (.word "1"))⟩
      simp [exists_spelled_one, exists_spelled_equal]
  | operator w =>
      refine ⟨[.operator "==", .word "1"], _, ?_, .mk w equal (.one (.word "1"))⟩
      simp [exists_spelled_one, exists_spelled_equal]
  | arguments w ho =>
      exact ⟨[.word "1"], _, by simp [exists_spelled_one], .mk w ho (.one (.word "1"))⟩
  | value w ho h =>
      have closed := Comparison.mk w ho (.list (h.chain (.word "1")))
      refine ⟨[.word "1", .rightParen], _, ?_, by simpa using closed⟩
      simp [exists_spelled_one, exists_spelled_rightParen]
  | afterValue w ho h =>
      exact ⟨[.rightParen], _, by simp [exists_spelled_rightParen], .mk w ho (.list h)⟩

theorem Taken.completes (h : Taken ts s) :
    ∃ us q, (∀ t ∈ us, ∃ p, Spelled t p) ∧ Disjunction maxGroups (ts ++ us) q := by
  have closing (m : Nat) : ∀ t ∈ List.replicate m Token.rightParen, ∃ p, Spelled t p :=
    fun t ht => (List.eq_of_mem_replicate ht) ▸ exists_spelled_rightParen
  cases h with
  | @within n as bs cs level outer place ho hl hp =>
      obtain ⟨us, c, spelled, hc⟩ := hp.completes
      obtain ⟨q, hq⟩ := ho.completes (hl.holds (constraint_of_comparison hc))
      refine ⟨us ++ List.replicate outer.length .rightParen, q, ?_, by simpa using hq⟩
      exact List.forall_mem_append.2 ⟨spelled, closing _⟩
  | after ho hl =>
      obtain ⟨q, hq⟩ := ho.completes hl
      exact ⟨_, q, closing _, hq⟩

theorem exists_accepts (hd : ∀ t ∈ ts, ∃ p, Spelled t p) (h : Taken ts s) :
    ∃ us enough, ∀ limit, enough ≤ limit → Accepts limit (ts ++ us) := by
  obtain ⟨us, q, spelled, hq⟩ := h.completes
  obtain ⟨text, ht⟩ := exists_tokens?_of_spelled (List.forall_mem_append.2 ⟨hd, spelled⟩)
  exact ⟨us, q.logicalDepth, fun limit hl => ⟨text, q, ht, parse_of_disjunction ht hq hl⟩⟩

end Completion

section

variable {limit limit' position : Nat} {s : String} {fault : Fault} {k : Option Token}
  {us : List Token}

theorem parse_eq_error (h : parse limit s = .error fault) (hf : fault.Refuses k position) :
    State.start.run limit (Stream.ofString s) = .error fault := by
  unfold parse at h
  split at h
  · cases h
    cases hf
  · exact h

theorem parse_eq_error_of_le (h : parse limit s = .error fault) (hf : fault.Refuses k position)
    (hl : limit ≤ limit') : parse limit' s = .error fault := by
  rcases lowers_parse hl s with same | ⟨p, refused⟩
  · exact same.symm.trans h
  · cases h.symm.trans refused
    exact absurd hf not_refuses_tooDeep

theorem exists_reads_before (h : parse limit s = .error fault) (hf : fault.Refuses k position) :
    (Stream.ofString s).at? position = some k ∧ ∃ s',
      Reads limit .start ((Stream.ofString s).before position) s' ∧ s'.Stuck limit k := by
  obtain ⟨ts, s', split, reads, stuck⟩ := run_eq_error (parse_eq_error h hf) hf
  have ascending : (Stream.ofString s).Ascending 0 := ascending_scan s.toList 0
  rw [split.before_eq ascending]
  exact ⟨split.at?_eq ascending, s', reads, stuck⟩

theorem not_accepts (h : parse limit s = .error fault) (hf : fault.Refuses k position)
    (hk : us.head? = k) : ¬Accepts limit' ((Stream.ofString s).before position ++ us) := by
  rintro ⟨text, q, ht, hq⟩
  -- Both readings are the same under the larger limit, and there a state has one next state only.
  have refused := parse_eq_error_of_le h hf (le_max_left limit limit')
  obtain ⟨-, s', reads, stuck⟩ := exists_reads_before refused hf
  have within := (logicalDepth_le_of_parse hq).trans (le_max_right limit limit')
  obtain ⟨ts, s'', ht', hr, hf'⟩ := parse_eq_ok_iff_reads.1 (parse_of_logicalDepth_le hq within)
  cases ht.symm.trans ht'
  subst hk
  exact not_reads_of_stuck reads stuck hr hf'

theorem spelled_before (s : String) (position : Nat) :
    ∀ t ∈ (Stream.ofString s).before position, ∃ p, Spelled t p := by
  intro t ht
  obtain ⟨e, he, rfl⟩ := List.mem_map.1 ht
  exact exists_spelled_of_mem_entries (List.mem_of_mem_filter he)

end

theorem parse_refuses_first {limit position : Nat} {s : String} {fault : Fault} {k : Option Token}
    (h : parse limit s = .error fault) (hf : fault.Refuses k position) :
    (Stream.ofString s).at? position = some k ∧
    (∃ us enough, ∀ limit', enough ≤ limit' →
      Accepts limit' ((Stream.ofString s).before position ++ us)) ∧
    ∀ limit' us, us.head? = k → ¬Accepts limit' ((Stream.ofString s).before position ++ us) := by
  obtain ⟨found, s', reads, -⟩ := exists_reads_before h hf
  refine ⟨found, ?_, fun limit' us hk => not_accepts h hf hk⟩
  exact exists_accepts (spelled_before s position) (taken_start.reads reads)

theorem parse_refuses_first_unknown_operator :
    parse 64 "a==1;b=foo=2" = .error (.unknownOperator "=foo=" 6) ∧
    (Fault.unknownOperator "=foo=" 6).message = "unknown operator '=foo=' at position 6" ∧
    (∃ us enough, ∀ limit, enough ≤ limit →
      Accepts limit ([.word "a", .operator "==", .word "1", .semicolon, .word "b"] ++ us)) ∧
    ∀ limit us, ¬Accepts limit ([.word "a", .operator "==", .word "1", .semicolon, .word "b"] ++
      .operator "=foo=" :: us) := by
  have refused : parse 64 "a==1;b=foo=2" = .error (.unknownOperator "=foo=" 6) := by decide +kernel
  have taken : (Stream.ofString "a==1;b=foo=2").before 6 =
      [.word "a", .operator "==", .word "1", .semicolon, .word "b"] := by decide +kernel
  obtain ⟨-, begins, excluded⟩ := parse_refuses_first refused (.unknownOperator "=foo=" 6)
  rw [taken] at begins excluded
  exact ⟨refused, by decide +kernel, begins, fun limit us => excluded limit _ rfl⟩

end FilterQuery.Query
