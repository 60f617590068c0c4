import FilterQuery.Proofs.Query.Canonical

namespace FilterQuery.Query

section

variable {α β : Type} {limit limit' : Nat}

def Lowers (limit : Nat) (x y : Except Fault α) : Prop :=
  x = y ∨ ∃ position, x = .error (.tooDeep limit position)

theorem Lowers.refl (x : Except Fault α) : Lowers limit x x :=
  .inl rfl

theorem Lowers.bind {x y : Except Fault α} {f g : α → Except Fault β} (h : Lowers limit x y)
    (k : ∀ a, Lowers limit (f a) (g a)) : Lowers limit (x >>= f) (y >>= g) := by
  rcases h with rfl | ⟨position, rfl⟩
  · cases x with
    | error fault => exact .refl _
    | ok a => exact k a
  · exact .inr ⟨position, rfl⟩

theorem lowers_combine (h : limit ≤ limit') (c : Connective) (clauses : List Query)
    (position : Nat) :
    Lowers limit (combine limit c clauses position) (combine limit' c clauses position) := by
  unfold combine
  split
  · exact .refl _
  · dsimp only
    split
    · next hd =>
        rw [if_pos (hd.trans h)]
        exact .refl _
    · exact .inr ⟨position, rfl⟩

theorem lowers_closeAnd (h : limit ≤ limit') (l : Level) (position : Nat) :
    Lowers limit (l.closeAnd limit position) (l.closeAnd limit' position) :=
  (lowers_combine h .and l.conjuncts position).bind fun _ => .refl _

theorem lowers_step (h : limit ≤ limit') (s : State) (t : Token) (position : Nat) :
    Lowers limit (s.step limit t position) (s.step limit' t position) := by
  obtain ⟨level, outer, place⟩ := s
  cases place with
  | afterConstraint =>
      simp only [State.step]
      split
      · exact .refl _
      · refine (lowers_closeAnd h level position).bind fun l => ?_
        split
        · exact .refl _
        · exact (lowers_combine h .or l.disjuncts position).bind fun _ => .refl _
  | _ => exact .refl _

theorem lowers_finish (h : limit ≤ limit') (s : State) (position : Nat) :
    Lowers limit (s.finish limit position) (s.finish limit' position) := by
  obtain ⟨level, outer, place⟩ := s
  cases place with
  | afterConstraint =>
      refine (lowers_closeAnd h level position).bind fun l => ?_
      exact (lowers_combine h .or l.disjuncts position).bind fun _ => .refl _
  | _ => exact .refl _

theorem lowers_run (h : limit ≤ limit') (s : State) (stream : Stream) :
    Lowers limit (s.run limit stream) (s.run limit' stream) := by
  induction stream generalizing s with
  | done position => exact lowers_finish h s position
  | broken fault position => exact .refl _
  | token t position rest ih => exact (lowers_step h s t position).bind ih

theorem lowers_parse (h : limit ≤ limit') (s : String) :
    Lowers limit (parse limit s) (parse limit' s) := by
  unfold parse
  split
  · exact .refl _
  · exact lowers_run h .start _

theorem logicalDepth_le_of_parse {s : String} {q : Query} (h : parse limit s = .ok q) :
    q.logicalDepth ≤ limit := by
  obtain ⟨ts, s', -, hr, hf⟩ := parse_eq_ok_iff_reads.1 h
  exact (disjunction_of_reads hr hf).2

theorem parse_of_disjunction {s : String} {ts : List Token} {q : Query}
    (ht : (Stream.ofString s).tokens? = some ts) (hq : Disjunction maxGroups ts q)
    (hd : q.logicalDepth ≤ limit) : parse limit s = .ok q := by
  obtain ⟨s', hr, hf⟩ := reads_of_disjunction hq hd
  exact parse_eq_ok_iff_reads.2 ⟨ts, s', ht, hr, hf⟩

theorem parse_of_logicalDepth_le {s : String} {q : Query} (h : parse limit' s = .ok q)
    (hd : q.logicalDepth ≤ limit) : parse limit s = .ok q := by
  obtain ⟨ts, s', ht, hr, hf⟩ := parse_eq_ok_iff_reads.1 h
  exact parse_of_disjunction ht (disjunction_of_reads hr hf).1 hd

theorem parse_lowered {s : String} {q : Query} (hl : limit ≤ limit') (h : parse limit' s = .ok q) :
    (q.logicalDepth ≤ limit → parse limit s = .ok q) ∧
      (limit < q.logicalDepth → ∃ position, parse limit s = .error (.tooDeep limit position)) := by
  refine ⟨parse_of_logicalDepth_le h, fun hd => ?_⟩
  rcases lowers_parse hl s with he | refused
  · exact absurd (logicalDepth_le_of_parse (he.trans h)) (not_le.2 hd)
  · exact refused

end

section

variable {limit : Nat} {s s' : State} {ts us : List Token} {outer : List Level}

inductive Overflows (limit : Nat) (s : State) : List Token → Prop
  | mk {level : Level} {outer : List Level} {ts : List Token} (us : List Token)
      (h : Reads limit s ts ⟨level, outer, .constraint⟩) (ho : outer.length = maxGroups) :
      Overflows limit s (ts ++ .leftParen :: us)

theorem Overflows.append (h : Overflows limit s ts) (us : List Token) :
    Overflows limit s (ts ++ us) := by
  cases h with
  | mk vs h ho =>
      rw [List.append_assoc]
      exact .mk (vs ++ us) h ho

theorem Overflows.after (h : Overflows limit s' us) (k : Reads limit s ts s') :
    Overflows limit s (ts ++ us) := by
  cases h with
  | mk vs h ho =>
      rw [← List.append_assoc]
      exact .mk vs (k.append h) ho

theorem not_overflows_nil : ¬Overflows limit s [] := by
  generalize hs : [] = ts
  rintro ⟨us, -, -⟩
  simp at hs

theorem run_of_reads {stream : Stream} {t : Token} (h : Reads limit s ts s')
    (ht : stream.tokens? = some (ts ++ t :: us)) :
    ∃ position rest, s.run limit stream =
      s'.step limit t position >>= fun next => next.run limit rest := by
  induction h generalizing stream with
  | nil s =>
      cases stream with
      | done _ => cases ht
      | broken _ _ => cases ht
      | token u position rest =>
          obtain ⟨vs, -, hu⟩ := Option.map_eq_some_iff.1 ht
          cases hu
          exact ⟨position, rest, rfl⟩
  | cons hn _ ih =>
      cases stream with
      | done _ => cases ht
      | broken _ _ => cases ht
      | token u position rest =>
          obtain ⟨vs, hv, hu⟩ := Option.map_eq_some_iff.1 ht
          cases hu
          obtain ⟨later, after, hr⟩ := ih hv
          refine ⟨later, after, ?_⟩
          simp only [State.run, step_of_transition hn position]
          exact hr

theorem run_of_overflows {stream : Stream} (h : Overflows limit s ts)
    (ht : stream.tokens? = some ts) :
    ∃ position, s.run limit stream = .error (.groupsTooDeep position) := by
  cases h with
  | mk us h ho =>
      obtain ⟨position, rest, hr⟩ := run_of_reads h ht
      refine ⟨position, ?_⟩
      rw [hr]
      simp only [State.step, ho, lt_irrefl, if_false]
      rfl

theorem parse_of_overflows {text : String} (ht : (Stream.ofString text).tokens? = some ts)
    (h : Overflows limit .start ts) :
    ∃ position, parse limit text = .error (.groupsTooDeep position) := by
  have refused := run_of_overflows h ht
  unfold parse
  split
  · next he =>
      rw [he] at ht
      cases ht
      exact absurd h not_overflows_nil
  · exact refused

inductive Fares (limit : Nat) (outer : List Level) (q : Query) : Prop
  | passes (h : ∀ level, Reads limit ⟨level, outer, .constraint⟩ (tokensChild q)
      (State.complete ⟨level, outer, .constraint⟩ q))
  | overflows (h : ∀ level, Overflows limit ⟨level, outer, .constraint⟩ (tokensChild q))

theorem exists_reads_separator {level : Level} {c : Connective} {q : Query}
    (hl : c = .or → level.conjuncts = [])
    (h : Reads limit ⟨level, outer, .constraint⟩ (tokensChild q)
      (State.complete ⟨level, outer, .constraint⟩ q)) :
    ∃ level', (c = .or → level'.conjuncts = []) ∧
      Reads limit ⟨level, outer, .constraint⟩ (tokensChild q ++ [separatorToken c])
        ⟨level', outer, .constraint⟩ := by
  cases c with
  | and => exact ⟨_, nofun, h.snoc (.nextConjunct .semicolon)⟩
  | or =>
      have alone : Closes limit .and (q :: level.conjuncts) q := by
        rw [hl rfl]
        exact ⟨rfl, .inl rfl⟩
      exact ⟨_, fun _ => rfl, h.snoc (.nextDisjunct .comma alone)⟩

theorem overflows_children (c : Connective) {qs : List Query}
    (h : ∀ q ∈ qs, Fares limit outer q)
    (hs : ∃ q ∈ qs, ∀ level, Overflows limit ⟨level, outer, .constraint⟩ (tokensChild q))
    {level : Level} (hl : c = .or → level.conjuncts = []) :
    Overflows limit ⟨level, outer, .constraint⟩ (tokensAll c qs) := by
  induction qs generalizing level with
  | nil => simp at hs
  | cons q qs ih =>
      obtain ⟨first, others⟩ := List.forall_mem_cons.1 h
      cases qs with
      | nil =>
          obtain ⟨p, hm, hp⟩ := hs
          cases List.mem_singleton.1 hm
          exact hp level
      | cons p qs =>
          cases first with
          | overflows hq => exact (hq level).append _
          | passes hq =>
              obtain ⟨r, hm, hr⟩ := hs
              rcases List.mem_cons.1 hm with rfl | hm
              · exact (hr level).append _
              · obtain ⟨level', hl', before⟩ := exists_reads_separator hl (hq level)
                simpa [tokensAll] using (ih others ⟨r, hm, hr⟩ hl').after before

theorem overflows_child {q : Query} (hd : maxGroups < q.logicalDepth + outer.length)
    (ho : outer.length ≤ maxGroups)
    (h : ∀ level, outer.length < maxGroups →
      Overflows limit ⟨.empty, level :: outer, .constraint⟩ q.tokens) (level : Level) :
    Overflows limit ⟨level, outer, .constraint⟩ (tokensChild q) := by
  cases q with
  | comparison w o vs =>
      rw [logicalDepth_comparison] at hd
      omega
  | logical c qs =>
      rcases ho.eq_or_lt with he | hlt
      · exact Overflows.mk (tokensAll c qs ++ [.rightParen]) (.nil _) he
      · have inner := (h level hlt).append [.rightParen]
        exact inner.after (.single (.openGroup hlt))

theorem overflows_tokens {q : Query} (hc : q.Canonical) (hl : q.logicalDepth ≤ limit)
    (hd : maxGroups + 1 < q.logicalDepth + outer.length) (ho : outer.length ≤ maxGroups) :
    Overflows limit ⟨.empty, outer, .constraint⟩ q.tokens := by
  induction q generalizing outer with
  | comparison w o vs =>
      rw [logicalDepth_comparison] at hd
      omega
  | logical c qs ih =>
      cases hc with
      | logical hn hq =>
          have hne : qs ≠ [] := by
            rintro rfl
            simp at hn
          have within : ∀ q ∈ qs, q.logicalDepth ≤ limit := fun q hm =>
            (logicalDepth_lt_of_mem (c := c) hm).le.trans hl
          have deep : ∀ q ∈ qs, maxGroups < q.logicalDepth + outer.length → ∀ level,
              Overflows limit ⟨level, outer, .constraint⟩ (tokensChild q) := fun q hm hd =>
            overflows_child hd ho fun level hlt =>
              ih q hm (hq q hm) (within q hm) (by simp; omega) hlt
          refine overflows_children c (fun q hm => ?_) ?_ fun _ => rfl
          · by_cases hdq : maxGroups < q.logicalDepth + outer.length
            · exact .overflows (deep q hm hdq)
            · refine .passes fun level => ?_
              have derived : Constraint (maxGroups - outer.length) (tokensChild q) q :=
                constraint_tokensChild (hq q hm) (by omega) fun k => disjunction_tokens (hq q hm)
              exact readable_constraint (by omega) _ _ level derived (within q hm)
          · obtain ⟨q, hm, hdq⟩ := exists_mem_logicalDepth c hne
            exact ⟨q, hm, deep q hm (by omega)⟩

theorem parse_toText_of_logicalDepth_le {q : Query} (hc : q.Canonical) (hl : q.logicalDepth ≤ limit)
    (hd : q.logicalDepth ≤ 257) : parse limit q.toText = .ok q :=
  parse_of_disjunction (tokens?_ofString_toText hc) (disjunction_tokens hc hd) hl

theorem parse_toText_of_lt_logicalDepth {q : Query} (hc : q.Canonical)
    (hl : q.logicalDepth ≤ limit) (hd : 257 < q.logicalDepth) :
    ∃ position, parse limit q.toText = .error (.groupsTooDeep position) :=
  parse_of_overflows (tokens?_ofString_toText hc) (overflows_tokens hc hl hd (Nat.zero_le _))

end

theorem parse_toText_of_parse {limit : Nat} {s : String} {q : Query} (h : parse limit s = .ok q) :
    (q.logicalDepth ≤ 257 → parse limit q.toText = .ok q) ∧
      (257 < q.logicalDepth →
        ∃ position, parse limit q.toText = .error (.groupsTooDeep position)) := by
  have canonical := canonical_of_parse h
  have within := logicalDepth_le_of_parse h
  exact ⟨parse_toText_of_logicalDepth_le canonical within,
    parse_toText_of_lt_logicalDepth canonical within⟩

namespace Staircase

def step : Query :=
  .comparison "a" .equal ["1"]

def query : Nat → Query
  | 0 => step
  | n + 1 => .logical .or [step, .logical .and [step, query n]]

def stepText : List Char :=
  writeComparison "a" .equal ["1"]

def text : Nat → List Char
  | 0 => stepText
  | n + 1 => stepText ++ ',' :: (stepText ++ ';' :: '(' :: (text n ++ [')']))

def stepTokens : List Token :=
  comparisonTokens "a" .equal ["1"]

def tokens : Nat → List Token
  | 0 => stepTokens
  | n + 1 =>
      stepTokens ++ .comma ::
        (stepTokens ++ .semicolon :: .leftParen :: (tokens n ++ [.rightParen]))

theorem logicalDepth_query (n : Nat) : (query n).logicalDepth = 2 * n := by
  induction n with
  | zero => rfl
  | succ n ih =>
      have inner := logicalDepth_add_one (query n)
      simp only [query, logicalDepth_logical, depthAll, depth, step]
      omega

theorem lexes_step {rest : List Char} {ts : List Token} (hr : EndsWord rest) (h : Lexes rest ts) :
    Lexes (stepText ++ rest) (stepTokens ++ ts) :=
  lexes_comparison (by decide) (List.all_eq_true.1 (by decide)) hr h

theorem lexes_text (n : Nat) {rest : List Char} {ts : List Token} (hr : EndsWord rest)
    (h : Lexes rest ts) : Lexes (text n ++ rest) (tokens n ++ ts) := by
  induction n generalizing rest ts with
  | zero => exact lexes_step hr h
  | succ n ih =>
      have group := lexes_leftParen (ih (endsWord_cons (by decide)) (lexes_rightParen h))
      have conjunct := lexes_step (endsWord_separator .and) (lexes_separator .and group)
      have disjunct := lexes_step (endsWord_separator .or) (lexes_separator .or conjunct)
      simpa [text, tokens, Connective.separator, separatorToken] using disjunct

theorem constraint_step (n : Nat) : Constraint n stepTokens step :=
  constraint_of_comparison (comparison_comparisonTokens (by decide))

theorem disjunction_tokens {n k : Nat} (h : n ≤ k) : Disjunction k (tokens n) (query n) := by
  induction n generalizing k with
  | zero => exact .of_clause (.of_clause (constraint_step k))
  | succ n ih =>
      obtain ⟨k, rfl⟩ : ∃ j, k = j + 1 := ⟨k - 1, by omega⟩
      have group := constraint_of_group (ih (Nat.le_of_succ_le_succ h))
      have conjunction : Conjunction (k + 1) _ (.logical .and [step, query n]) :=
        .mk (.cons (constraint_step _) .semicolon (.one group))
      exact .mk (.cons (.of_clause (constraint_step _)) .comma (.one conjunction))

theorem parse_text {n limit : Nat} (h : n ≤ maxGroups) (hl : 2 * n ≤ limit) :
    parse limit (String.ofList (text n)) = .ok (query n) := by
  have lexed := lexes_text n endsWord_nil lexes_nil 0
  simp only [List.append_nil] at lexed
  refine parse_of_disjunction ?_ (disjunction_tokens h) ((logicalDepth_query n).le.trans hl)
  simpa [Stream.ofString] using lexed

end Staircase

open Staircase in
theorem parse_toText_of_parse_staircase :
    parse 258 (String.ofList (text 129)) = .ok (query 129) ∧ (query 129).logicalDepth = 258 ∧
      ∃ position, parse 258 (query 129).toText = .error (.groupsTooDeep position) := by
  have read : parse 258 (String.ofList (text 129)) = .ok (query 129) :=
    parse_text (by decide) le_rfl
  have depth : (query 129).logicalDepth = 258 := by rw [logicalDepth_query]
  exact ⟨read, depth, (parse_toText_of_parse read).2 (by rw [depth]; decide)⟩

open Staircase in
theorem parse_toText_ne_staircase :
    parse 258 (String.ofList (text 129)) = .ok (query 129) ∧
      parse 258 (query 129).toText ≠ .ok (query 129) := by
  have read : parse 258 (String.ofList (text 129)) = .ok (query 129) :=
    parse_text (by decide) le_rfl
  have depth : (query 129).logicalDepth = 258 := by rw [logicalDepth_query]
  obtain ⟨position, refused⟩ := parse_toText_of_lt_logicalDepth (canonical_of_parse read)
    depth.le (by rw [depth]; decide)
  exact ⟨read, by rw [refused]; nofun⟩

end FilterQuery.Query
