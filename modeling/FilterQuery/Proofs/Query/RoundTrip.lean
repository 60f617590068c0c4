import FilterQuery.Proofs.Query.Completeness
import FilterQuery.Proofs.Query.Lexing

namespace FilterQuery.Query

inductive Canonical : Query → Prop
  | comparison {w : String} {o : Operator} {vs : List String} (hn : w ≠ "")
      (hw : ∀ c ∈ w.toList, isUnreserved c) (hv : vs ≠ []) : Canonical (.comparison w o vs)
  | logical {c : Connective} {qs : List Query} (hl : 2 ≤ qs.length)
      (hq : ∀ q ∈ qs, Canonical q) : Canonical (.logical c qs)

def argumentToken (v : String) : Token :=
  if isPlain v then .word v else .quoted v

def argumentTokens : List String → List Token
  | [] => []
  | [v] => [argumentToken v]
  | v :: rest => argumentToken v :: .comma :: argumentTokens rest

def comparisonTokens (w : String) (o : Operator) (vs : List String) : List Token :=
  .word w :: .operator o.symbol ::
    match o.arity, vs with
    | .single, [v] => [argumentToken v]
    | _, _ => .leftParen :: argumentTokens vs ++ [.rightParen]

def separatorToken : Connective → Token
  | .and => .semicolon
  | .or => .comma

mutual

def tokens : Query → List Token
  | .comparison w o vs => comparisonTokens w o vs
  | .logical c qs => tokensAll c qs

def tokensAll (c : Connective) : List Query → List Token
  | [] => []
  | [q] => tokensChild q
  | q :: rest => tokensChild q ++ separatorToken c :: tokensAll c rest

def tokensChild : Query → List Token
  | .comparison w o vs => comparisonTokens w o vs
  | .logical c qs => .leftParen :: tokensAll c qs ++ [.rightParen]

end

section Lexing

variable {rest : List Char} {ts : List Token}

theorem endsWord_nil : EndsWord [] := by
  intro c hc
  cases hc

theorem endsWord_cons {c : Char} (hc : isUnreserved c = false) : EndsWord (c :: rest) := by
  intro d hd
  cases hd
  exact hc

theorem endsWord_separator (c : Connective) : EndsWord (c.separator :: rest) := by
  cases c <;> exact endsWord_cons (by decide)

theorem lexes_separator (c : Connective) (h : Lexes rest ts) :
    Lexes (c.separator :: rest) (separatorToken c :: ts) := by
  cases c with
  | and => exact lexes_spelled .semicolon (fun _ _ => id) h
  | or => exact lexes_spelled .comma (fun _ _ => id) h

theorem lexes_comma (h : Lexes rest ts) : Lexes (',' :: rest) (.comma :: ts) :=
  lexes_separator .or h

theorem lexes_leftParen (h : Lexes rest ts) : Lexes ('(' :: rest) (.leftParen :: ts) :=
  lexes_spelled .leftParen (fun _ _ => id) h

theorem lexes_rightParen (h : Lexes rest ts) : Lexes (')' :: rest) (.rightParen :: ts) :=
  lexes_spelled .rightParen (fun _ _ => id) h

theorem isUnreserved_of_isPlain {v : String} (h : isPlain v) :
    v.toList ≠ [] ∧ ∀ c ∈ v.toList, isUnreserved c := by
  simp only [isPlain, Bool.and_eq_true, List.all_eq_true] at h
  refine ⟨?_, h.1.1.2⟩
  intro he
  simp [String.toList_eq_nil_iff.1 he] at h

theorem lexes_argument (v : String) (hr : EndsWord rest) (h : Lexes rest ts) :
    Lexes (writeArgument v ++ rest) (argumentToken v :: ts) := by
  unfold writeArgument argumentToken
  split
  · next hp =>
      obtain ⟨hn, hw⟩ := isUnreserved_of_isPlain hp
      simpa using lexes_word hn hw hr h
  · simpa using lexes_quoted (v := v.toList) h

theorem lexes_arguments (vs : List String) (hr : EndsWord rest) (h : Lexes rest ts) :
    Lexes (writeArguments vs ++ rest) (argumentTokens vs ++ ts) := by
  fun_induction writeArguments vs with
  | case1 => exact h
  | case2 v => exact lexes_argument v hr h
  | case3 v vs hv ih =>
      have separated := lexes_argument v (endsWord_cons (by decide)) (lexes_comma ih)
      simpa [argumentTokens, hv] using separated

theorem head_writeArgument_ne (v : String) : ∀ d ∈ (writeArgument v ++ rest).head?, d ≠ '=' := by
  intro d hd
  unfold writeArgument at hd
  split at hd
  · next hp =>
      obtain ⟨hn, hw⟩ := isUnreserved_of_isPlain hp
      obtain ⟨c, tail, hc⟩ := List.exists_cons_of_ne_nil hn
      rw [hc] at hd
      cases hd
      exact ne_of_isUnreserved (hw _ (by simp [hc])) (by decide)
  · cases hd
    decide

theorem endsWord_symbol (o : Operator) : EndsWord (o.symbol.toList ++ rest) := by
  cases o <;> exact endsWord_cons (by decide)

theorem lexes_comparison {w : String} {o : Operator} {vs : List String} (hn : w ≠ "")
    (hw : ∀ c ∈ w.toList, isUnreserved c) (hr : EndsWord rest) (h : Lexes rest ts) :
    Lexes (writeComparison w o vs ++ rest) (comparisonTokens w o vs ++ ts) := by
  have named {s : List Char} {us : List Token} (hs : ∀ d ∈ s.head?, d ≠ '=') (k : Lexes s us) :
      Lexes (w.toList ++ (o.symbol.toList ++ s)) (.word w :: .operator o.symbol :: us) := by
    have := lexes_word (by simpa using hn) hw (endsWord_symbol o) (lexes_operator o hs k)
    simpa using this
  have several : Lexes (w.toList ++ o.symbol.toList ++ ('(' :: writeArguments vs ++ [')']) ++ rest)
      (.word w :: .operator o.symbol :: (.leftParen :: argumentTokens vs ++ [.rightParen]) ++ ts) := by
    have closed := lexes_arguments vs (endsWord_cons (by decide)) (lexes_rightParen h)
    simpa using named (by simp) (lexes_leftParen closed)
  unfold writeComparison comparisonTokens
  generalize o.arity = a
  cases a with
  | multi => exact several
  | single =>
      rcases vs with _ | ⟨v, _ | ⟨u, vs⟩⟩
      · exact several
      · simpa using named (head_writeArgument_ne v) (lexes_argument v hr h)
      · exact several

def LexesBack (q : Query) : Prop :=
  ∀ rest ts, EndsWord rest → Lexes rest ts → Lexes (q.write ++ rest) (q.tokens ++ ts)

theorem LexesBack.child {q : Query} (hq : q.LexesBack) (hr : EndsWord rest) (h : Lexes rest ts) :
    Lexes (writeChild q ++ rest) (tokensChild q ++ ts) := by
  cases q with
  | comparison w o vs => simpa only [writeChild, tokensChild, write, tokens] using hq rest ts hr h
  | logical c qs =>
      have closed := hq _ _ (endsWord_cons (by decide)) (lexes_rightParen h)
      simpa [writeChild, tokensChild, write, tokens] using lexes_leftParen closed

theorem lexes_children (c : Connective) {qs : List Query} (hq : ∀ q ∈ qs, q.LexesBack)
    (hr : EndsWord rest) (h : Lexes rest ts) :
    Lexes (writeAll c qs ++ rest) (tokensAll c qs ++ ts) := by
  induction qs with
  | nil => simpa [writeAll, tokensAll] using h
  | cons q qs ih =>
      obtain ⟨first, others⟩ := List.forall_mem_cons.1 hq
      cases qs with
      | nil => simpa only [writeAll, tokensAll] using first.child hr h
      | cons p qs =>
          have later := lexes_separator c (ih others)
          simpa [writeAll, tokensAll] using first.child (endsWord_separator c) later

theorem lexesBack_of_canonical {q : Query} (h : q.Canonical) : q.LexesBack := by
  induction q with
  | comparison w o vs =>
      intro rest ts hr hts
      cases h with
      | comparison hn hw _ => simpa only [write, tokens] using lexes_comparison hn hw hr hts
  | logical c qs ih =>
      intro rest ts hr hts
      cases h with
      | logical _ hq =>
          simp only [write, tokens]
          exact lexes_children c (fun q hm => ih q hm (hq q hm)) hr hts

theorem tokens?_ofString_toText {q : Query} (h : q.Canonical) :
    (Stream.ofString q.toText).tokens? = some q.tokens := by
  have whole := lexesBack_of_canonical h [] [] endsWord_nil lexes_nil 0
  simpa [Stream.ofString, toText] using whole

end Lexing

section Derivation

variable {n : Nat}

theorem argument_argumentToken (v : String) : Argument [argumentToken v] v := by
  unfold argumentToken
  split
  · exact .word v
  · exact .quoted v

theorem chain_argumentTokens {vs : List String} (h : vs ≠ []) :
    Chain (· = .comma) Argument (argumentTokens vs) vs := by
  fun_induction argumentTokens vs with
  | case1 => exact absurd rfl h
  | case2 v => exact .one (argument_argumentToken v)
  | case3 v vs hv ih => exact .cons (argument_argumentToken v) rfl (ih (by simpa using hv))

theorem comparison_comparisonTokens {w : String} {o : Operator} {vs : List String}
    (h : vs ≠ []) : Comparison (comparisonTokens w o vs) (.comparison w o vs) := by
  refine .mk w (Operator.ofSymbol?_symbol o) ?_
  split
  · exact .one (argument_argumentToken _)
  · exact .list (chain_argumentTokens h)

theorem joiner_separatorToken (c : Connective) : Joiner c (separatorToken c) := by
  cases c with
  | and => exact .semicolon
  | or => exact .comma

theorem chain_tokensAll (c : Connective) {Clause : List Token → Query → Prop} {qs : List Query}
    (hn : qs ≠ []) (h : ∀ q ∈ qs, Clause (tokensChild q) q) :
    Chain (Joiner c) Clause (tokensAll c qs) qs := by
  induction qs with
  | nil => exact absurd rfl hn
  | cons q qs ih =>
      obtain ⟨hq, hqs⟩ := List.forall_mem_cons.1 h
      cases qs with
      | nil => exact .one hq
      | cons p qs => exact .cons hq (joiner_separatorToken c) (ih (by simp) hqs)

theorem node_of_two_le (c : Connective) {qs : List Query} (h : 2 ≤ qs.length) :
    node c qs = .logical c qs := by
  unfold node
  split
  · simp at h
  · rfl

theorem disjunction_tokensAll (c : Connective) {qs : List Query} (hl : 2 ≤ qs.length)
    (h : ∀ q ∈ qs, Constraint n (tokensChild q) q) :
    Disjunction n (tokensAll c qs) (.logical c qs) := by
  have hn : qs ≠ [] := by
    rintro rfl
    simp at hl
  rw [← node_of_two_le c hl]
  cases c with
  | and => exact .of_clause (.mk (chain_tokensAll .and hn h))
  | or => exact .mk (chain_tokensAll .or hn fun q hq => .of_clause (h q hq))

theorem zero_lt_logicalDepth {c : Connective} {qs : List Query}
    (h : (Query.logical c qs).Canonical) : 0 < (Query.logical c qs).logicalDepth := by
  cases h with
  | logical hl _ =>
      have hm : qs[0] ∈ qs := List.getElem_mem (by omega)
      exact (Nat.zero_le _).trans_lt (logicalDepth_lt_of_mem hm)

theorem constraint_tokensChild {q : Query} (hc : q.Canonical) (hd : q.logicalDepth ≤ n)
    (hq : ∀ k, q.logicalDepth ≤ k + 1 → Disjunction k q.tokens q) :
    Constraint n (tokensChild q) q := by
  cases q with
  | comparison w o vs =>
      cases hc with
      | comparison _ _ hv => exact constraint_of_comparison (comparison_comparisonTokens hv)
  | logical c qs =>
      have hpos := zero_lt_logicalDepth hc
      obtain ⟨k, rfl⟩ : ∃ k, n = k + 1 := ⟨n - 1, by omega⟩
      exact constraint_of_group (hq k hd)

theorem disjunction_tokens {q : Query} (hc : q.Canonical) (hd : q.logicalDepth ≤ n + 1) :
    Disjunction n q.tokens q := by
  induction q generalizing n with
  | comparison w o vs =>
      cases hc with
      | comparison _ _ hv =>
          have clause := comparison_comparisonTokens (w := w) (o := o) hv
          exact .of_clause (.of_clause (constraint_of_comparison clause))
  | logical c qs ih =>
      cases hc with
      | logical hl hq =>
          -- A child in parentheses is one group deeper, and its logical depth is one less.
          refine disjunction_tokensAll c hl fun q hm => ?_
          have hlt := logicalDepth_lt_of_mem (c := c) hm
          exact constraint_tokensChild (hq q hm) (by omega) fun k => ih q hm (hq q hm)

end Derivation

theorem parse_toText {q : Query} {limit : Nat} (hc : q.Canonical) (hd : q.logicalDepth ≤ 257)
    (hl : q.logicalDepth ≤ limit) : parse limit q.toText = .ok q := by
  obtain ⟨s, hs, hf⟩ := reads_of_disjunction (disjunction_tokens hc hd) hl
  exact parse_eq_ok_iff_reads.2 ⟨q.tokens, s, tokens?_ofString_toText hc, hs, hf⟩

theorem parse_toText_conjunction_in_conjunction :
    let inner := Query.logical .and
      [.comparison "b.c" .isIn ["", "or", "x\ty"], .comparison "and" .lessThan ["=(\\\")"]]
    let q := Query.logical .and [.comparison "a" .equal ["it's, 'so'"], inner]
    q.Canonical ∧ q.logicalDepth = 2 ∧ parse 2 q.toText = .ok q := by
  intro inner q
  have hinner : inner.Canonical := by
    refine .logical (by decide) (List.forall_mem_cons.2 ⟨?_, List.forall_mem_singleton.2 ?_⟩)
    · exact .comparison (by decide) (List.all_eq_true.1 (by decide)) (by decide)
    · exact .comparison (by decide) (List.all_eq_true.1 (by decide)) (by decide)
  have hq : q.Canonical := by
    refine .logical (by decide) (List.forall_mem_cons.2 ⟨?_, List.forall_mem_singleton.2 hinner⟩)
    exact .comparison (by decide) (List.all_eq_true.1 (by decide)) (by decide)
  have hd : q.logicalDepth = 2 := rfl
  exact ⟨hq, hd, parse_toText hq (by omega) hd.le⟩

end FilterQuery.Query
