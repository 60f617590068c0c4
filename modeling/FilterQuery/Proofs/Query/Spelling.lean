import FilterQuery.Proofs.Lists
import FilterQuery.Query.Token

namespace FilterQuery.Query

inductive Enclosed (quote : Char) : List Char → List Char → Prop
  | nil : Enclosed quote [] []
  | plain {c : Char} {value text : List Char} (hq : c ≠ quote) (hb : c ≠ '\\')
      (h : Enclosed quote value text) : Enclosed quote (c :: value) (c :: text)
  | escaped {value text : List Char} (c : Char) (h : Enclosed quote value text) :
      Enclosed quote (c :: value) ('\\' :: c :: text)

inductive Symbol : List Char → Prop
  | sign {s : List Char} (h : s ∈ [['<'], ['<', '='], ['>'], ['>', '='], ['!', '=']]) : Symbol s
  | named {name : List Char} (h : ∀ c ∈ name, c.isAlpha) : Symbol ('=' :: name ++ ['='])

inductive Spelled : Token → List Char → Prop
  | word {w : List Char} (hn : w ≠ []) (hw : ∀ c ∈ w, isUnreserved c) :
      Spelled (.word (String.ofList w)) w
  | quoted {quote : Char} {value text : List Char} (hq : quote = '"' ∨ quote = '\'')
      (h : Enclosed quote value text) :
      Spelled (.quoted (String.ofList value)) (quote :: text ++ [quote])
  | operator {s : List Char} (h : Symbol s) : Spelled (.operator (String.ofList s)) s
  | semicolon : Spelled .semicolon [';']
  | comma : Spelled .comma [',']
  | leftParen : Spelled .leftParen ['(']
  | rightParen : Spelled .rightParen [')']

def Token.GoesOn (c : Char) : Token → Prop
  | .word _ => isUnreserved c
  | .operator symbol => (symbol = "<" ∨ symbol = ">") ∧ c = '='
  | _ => False

def Token.Ends (t : Token) (rest : List Char) : Prop :=
  ∀ c ∈ rest.head?, ¬t.GoesOn c

structure Lexeme.Spells (l : Lexeme) (c : Char) (s p : List Char) : Prop where
  text : s = p ++ l.rest
  tail : l.tail = p.length
  spelled : Spelled l.token (c :: p)
  ends : l.token.Ends l.rest

section

variable {c quote : Char} {s p rest value text : List Char} {l : Lexeme} {t : Token}

theorem isBlank_eq_false_of_isUnreserved (h : isUnreserved c) : Text.isBlank c = false := by
  simp only [isUnreserved, Bool.and_eq_true] at h
  simpa using h.1

theorem ne_of_isUnreserved {d : Char} (h : isUnreserved c) (hd : isReserved d) : c ≠ d := by
  rintro rfl
  simp [isUnreserved, hd] at h

theorem punctuation?_eq_none_of_isUnreserved (h : isUnreserved c) : punctuation? c = none := by
  unfold punctuation?
  split
  · exact absurd rfl (ne_of_isUnreserved h (by decide))
  · exact absurd rfl (ne_of_isUnreserved h (by decide))
  · exact absurd rfl (ne_of_isUnreserved h (by decide))
  · exact absurd rfl (ne_of_isUnreserved h (by decide))
  · rfl

theorem readToken_of_isUnreserved (h : isUnreserved c) (s : List Char) :
    readToken c s = .ok (readWord c s) := by
  have hq : ¬(c = '"' ∨ c = '\'') := by
    rintro (rfl | rfl) <;> exact absurd rfl (ne_of_isUnreserved h (by decide))
  have he : c ≠ '=' := ne_of_isUnreserved h (by decide)
  have hs : ¬(c = '!' ∨ c = '<' ∨ c = '>') := by
    rintro (rfl | rfl | rfl) <;> exact absurd rfl (ne_of_isUnreserved h (by decide))
  simp only [readToken, punctuation?_eq_none_of_isUnreserved h, if_neg hq, if_neg he, if_neg hs,
    if_pos h]

theorem Spelled.exists_cons (h : Spelled t p) :
    ∃ c tail, p = c :: tail ∧ Text.isBlank c = false ∧ (isUnreserved c ↔ ∃ w, t = .word w) := by
  cases h with
  | word hn hw =>
      obtain ⟨c, tail, rfl⟩ := List.exists_cons_of_ne_nil hn
      have hc := hw c List.mem_cons_self
      exact ⟨c, tail, rfl, isBlank_eq_false_of_isUnreserved hc, by simp [hc]⟩
  | quoted hq h =>
      rcases hq with rfl | rfl <;> exact ⟨_, _, rfl, rfl, by simp [isUnreserved, isReserved]⟩
  | operator h =>
      cases h with
      | sign h =>
          simp only [List.mem_cons, List.not_mem_nil, or_false] at h
          rcases h with rfl | rfl | rfl | rfl | rfl <;>
            exact ⟨_, _, rfl, rfl, by simp [isUnreserved, isReserved]⟩
      | named h => exact ⟨_, _, rfl, rfl, by simp [isUnreserved, isReserved]⟩
  | _ => exact ⟨_, _, rfl, rfl, by simp [isUnreserved, isReserved]⟩

theorem ends_nil (t : Token) : t.Ends [] := by
  intro c hc
  cases hc

theorem enclosed_of_readQuoted {width : Nat}
    (h : readQuoted quote s = some (value, width, rest)) :
    ∃ text, s = text ++ quote :: rest ∧ width = text.length + 1 ∧ Enclosed quote value text := by
  fun_induction readQuoted quote s generalizing value width rest with
  | case1 => cases h
  | case2 c s ih =>
      obtain ⟨⟨value', width', rest'⟩, hr, he⟩ := Option.map_eq_some_iff.1 h
      cases he
      obtain ⟨text, rfl, rfl, enclosed⟩ := ih hr
      exact ⟨'\\' :: c :: text, rfl, rfl, .escaped c enclosed⟩
  | case3 =>
      cases h
      exact ⟨[], rfl, rfl, .nil⟩
  | case4 c s hb hq ih =>
      obtain ⟨⟨value', width', rest'⟩, hr, he⟩ := Option.map_eq_some_iff.1 h
      cases he
      obtain ⟨text, rfl, rfl, enclosed⟩ := ih hr
      have plain : c ≠ '\\' := by
        rintro rfl
        cases text with
        | nil => exact hb _ _ rfl rfl
        | cons => exact hb _ _ rfl rfl
      exact ⟨c :: text, rfl, rfl, .plain hq plain enclosed⟩

theorem readQuoted_of_enclosed (hq : quote ≠ '\\') (h : Enclosed quote value text)
    (rest : List Char) :
    readQuoted quote (text ++ quote :: rest) = some (value, text.length + 1, rest) := by
  induction h with
  | nil => simp [readQuoted, hq]
  | plain hc hb _ ih => simp [readQuoted, hc, hb, ih]
  | escaped c _ ih => simp [readQuoted, ih]

theorem spells_readWord (h : isUnreserved c) (s : List Char) :
    ∃ p, (readWord c s).Spells c s p := by
  refine ⟨s.takeWhile isUnreserved, List.takeWhile_append_dropWhile.symm, rfl, .word ?_ ?_, ?_⟩
  · exact List.cons_ne_nil _ _
  · exact List.forall_mem_cons.2 ⟨h, fun d => List.mem_takeWhile_imp⟩
  · intro d hd hg
    change (s.dropWhile isUnreserved).head? = some d at hd
    have stop := List.head?_dropWhile_not isUnreserved s
    rw [hd] at stop
    exact Bool.eq_false_iff.1 stop hg

theorem spells_of_readValue (hq : quote = '"' ∨ quote = '\'') (h : readValue quote s = .ok l) :
    ∃ p, l.Spells quote s p := by
  unfold readValue at h
  split at h
  · next value width rest hr =>
      cases h
      obtain ⟨text, rfl, rfl, enclosed⟩ := enclosed_of_readQuoted hr
      exact ⟨text ++ [quote], by simp, by simp, .quoted hq enclosed, fun _ _ => id⟩
  · cases h

theorem spells_of_readNamedOperator (h : readNamedOperator s = .ok l) :
    ∃ p, l.Spells '=' s p := by
  simp only [readNamedOperator] at h
  split at h
  · next rest hd =>
      cases h
      have cut : s = s.takeWhile Char.isAlpha ++ '=' :: rest := by
        rw [← hd, List.takeWhile_append_dropWhile]
      refine ⟨s.takeWhile Char.isAlpha ++ ['='], by simpa using cut, by simp, .operator ?_, ?_⟩
      · exact .named fun d => List.mem_takeWhile_imp
      · rintro d hd ⟨sign, -⟩
        simp [← String.toList_inj] at sign
  · cases h

theorem spells_of_readSignOperator (hc : c = '!' ∨ c = '<' ∨ c = '>')
    (h : readSignOperator c s = .ok l) : ∃ p, l.Spells c s p := by
  unfold readSignOperator at h
  split at h
  · next rest =>
      cases h
      refine ⟨['='], rfl, rfl, .operator (.sign ?_), ?_⟩
      · rcases hc with rfl | rfl | rfl <;> decide
      · rintro d hd ⟨sign, -⟩
        simp [← String.toList_inj] at sign
  · next hs =>
      split at h
      · cases h
      · next hb =>
          cases h
          refine ⟨[], rfl, rfl, .operator (.sign ?_), ?_⟩
          · rcases hc.resolve_left hb with rfl | rfl <;> decide
          · rintro d hd ⟨-, rfl⟩
            obtain ⟨rest, rfl⟩ := List.head?_eq_some_iff.1 hd
            exact hs rest rfl

theorem spells_of_readToken (h : readToken c s = .ok l) : ∃ p, l.Spells c s p := by
  unfold readToken at h
  split at h
  · next t ht =>
      cases h
      unfold punctuation? at ht
      split at ht
      · cases ht
        exact ⟨[], rfl, rfl, .semicolon, fun _ _ => id⟩
      · cases ht
        exact ⟨[], rfl, rfl, .comma, fun _ _ => id⟩
      · cases ht
        exact ⟨[], rfl, rfl, .leftParen, fun _ _ => id⟩
      · cases ht
        exact ⟨[], rfl, rfl, .rightParen, fun _ _ => id⟩
      · cases ht
  · split at h
    · next hq => exact spells_of_readValue hq h
    · split at h
      · next he =>
          subst he
          exact spells_of_readNamedOperator h
      · split at h
        · next hc => exact spells_of_readSignOperator hc h
        · split at h
          · next hc =>
              cases h
              exact spells_readWord hc s
          · cases h

theorem readSignOperator_of_ne (hc : c ≠ '!') (hs : ∀ d ∈ s.head?, d ≠ '=') :
    readSignOperator c s = .ok ⟨.operator (String.ofList [c]), 0, s⟩ := by
  unfold readSignOperator
  split
  · exact absurd rfl (hs _ rfl)
  · rw [if_neg hc]

theorem readNamedOperator_append {name : List Char} (h : ∀ d ∈ name, d.isAlpha)
    (rest : List Char) : readNamedOperator (name ++ '=' :: rest) =
      .ok ⟨.operator (String.ofList ('=' :: name ++ ['='])), name.length + 1, rest⟩ := by
  have ends : ∀ d ∈ ('=' :: rest).head?, d.isAlpha = false := by
    rintro _ ⟨⟩
    rfl
  obtain ⟨taken, dropped⟩ := takeWhile_append_of_ends h ends
  simp only [readNamedOperator, taken, dropped]

theorem readToken_of_symbol (h : Symbol (c :: p))
    (he : (Token.operator (String.ofList (c :: p))).Ends rest) :
    readToken c (p ++ rest) = .ok ⟨.operator (String.ofList (c :: p)), p.length, rest⟩ := by
  generalize hs : c :: p = symbol at h
  cases h with
  | sign h =>
      simp only [List.mem_cons, List.not_mem_nil, or_false] at h
      rcases h with rfl | rfl | rfl | rfl | rfl
      · cases hs
        exact readSignOperator_of_ne (by decide) fun d hd e => he d hd ⟨.inl rfl, e⟩
      · cases hs
        rfl
      · cases hs
        exact readSignOperator_of_ne (by decide) fun d hd e => he d hd ⟨.inr rfl, e⟩
      · cases hs
        rfl
      · cases hs
        rfl
  | @named name h =>
      obtain ⟨rfl, rfl⟩ := List.cons.inj hs
      have read := readNamedOperator_append h rest
      simpa [readToken, punctuation?] using read

theorem readToken_of_spelled (h : Spelled t (c :: p)) (he : t.Ends rest) :
    readToken c (p ++ rest) = .ok ⟨t, p.length, rest⟩ := by
  generalize hs : c :: p = spelling at h
  cases h with
  | word hn hw =>
      subst hs
      obtain ⟨hc, hp⟩ := List.forall_mem_cons.1 hw
      obtain ⟨taken, dropped⟩ := takeWhile_append_of_ends hp
        fun d hd => Bool.eq_false_iff.2 (he d hd)
      rw [readToken_of_isUnreserved hc]
      simp only [readWord, taken, dropped]
  | quoted hq h =>
      obtain ⟨rfl, rfl⟩ := List.cons.inj hs
      have plain : c ≠ '\\' := by rcases hq with rfl | rfl <;> decide
      have other : punctuation? c = none := by rcases hq with rfl | rfl <;> rfl
      simp [readToken, other, hq, readValue, readQuoted_of_enclosed plain h]
  | operator h =>
      subst hs
      exact readToken_of_symbol h he
  | _ =>
      cases hs
      rfl

end

end FilterQuery.Query
