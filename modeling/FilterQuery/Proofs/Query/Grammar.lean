import FilterQuery.Proofs.Query.Tree
import FilterQuery.Query.Parser

namespace FilterQuery.Query

inductive Joiner : Connective → Token → Prop
  | semicolon : Joiner .and .semicolon
  | comma : Joiner .or .comma
  | word {c : Connective} {w : String} (h : Text.sameLetters w c.keyword) : Joiner c (.word w)

inductive Argument : List Token → String → Prop
  | word (w : String) : Argument [.word w] w
  | quoted (q : String) : Argument [.quoted q] q

inductive Chain {α : Type} (Between : Token → Prop) (Item : List Token → α → Prop) :
    List Token → List α → Prop
  | one {ts : List Token} {a : α} (h : Item ts a) : Chain Between Item ts [a]
  | more {ts us : List Token} {t : Token} {as : List α} {b : α} (h : Chain Between Item ts as)
      (ht : Between t) (hb : Item us b) : Chain Between Item (ts ++ t :: us) (as ++ [b])

inductive Arguments : List Token → List String → Prop
  | one {ts : List Token} {v : String} (h : Argument ts v) : Arguments ts [v]
  | list {ts : List Token} {vs : List String} (h : Chain (· = .comma) Argument ts vs) :
      Arguments (.leftParen :: ts ++ [.rightParen]) vs

inductive Comparison : List Token → Query → Prop
  | mk {symbol : String} {o : Operator} {ts : List Token} {vs : List String} (w : String)
      (ho : Operator.ofSymbol? symbol = some o) (h : Arguments ts vs) :
      Comparison (.word w :: .operator symbol :: ts) (.comparison w o vs)

def node (c : Connective) : List Query → Query
  | [only] => only
  | clauses => .logical c clauses

inductive Joined (c : Connective) (Clause : List Token → Query → Prop) : List Token → Query → Prop
  | mk {ts : List Token} {qs : List Query} (h : Chain (Joiner c) Clause ts qs) :
      Joined c Clause ts (node c qs)

inductive Group (Inner : List Token → Query → Prop) : List Token → Query → Prop
  | mk {ts : List Token} {q : Query} (h : Inner ts q) :
      Group Inner (.leftParen :: ts ++ [.rightParen]) q

def Constraint : Nat → List Token → Query → Prop
  | 0 => Comparison
  | n + 1 => fun ts q => Comparison ts q ∨ Group (Joined .or (Joined .and (Constraint n))) ts q

def Conjunction (n : Nat) : List Token → Query → Prop :=
  Joined .and (Constraint n)

def Disjunction (n : Nat) : List Token → Query → Prop :=
  Joined .or (Conjunction n)

def Stream.tokens? : Stream → Option (List Token)
  | .done _ => some []
  | .broken .. => none
  | .token t _ rest => rest.tokens?.map (t :: ·)

theorem value?_eq_some_iff {t : Token} {v : String} : t.value? = some v ↔ Argument [t] v := by
  constructor
  · intro h
    cases t with
    | word w => cases h; exact .word _
    | quoted q => cases h; exact .quoted _
    | operator => cases h
    | semicolon => cases h
    | comma => cases h
    | leftParen => cases h
    | rightParen => cases h
  · intro h
    cases h <;> rfl

theorem joins_iff {c : Connective} {t : Token} : t.joins c ↔ Joiner c t := by
  constructor
  · intro h
    cases t with
    | word w =>
        refine .word ?_
        cases c <;> simpa [Token.joins, Token.isKeyword] using h
    | semicolon =>
        cases c with
        | and => exact .semicolon
        | or => simp [Token.joins, Token.isKeyword] at h
    | comma =>
        cases c with
        | and => simp [Token.joins, Token.isKeyword] at h
        | or => exact .comma
    | _ => cases c <;> simp [Token.joins, Token.isKeyword] at h
  · intro h
    cases h with
    | semicolon => rfl
    | comma => rfl
    | word h => simp [Token.joins, Token.isKeyword, h]

theorem not_joiner_and_of_joiner_or {t : Token} (h : Joiner .or t) : ¬Joiner .and t := by
  intro k
  cases h with
  | comma => cases k
  | word h =>
      cases k with
      | word k =>
          have apart := Text.sameLetters_trans (Text.sameLetters_symm h) k
          exact absurd apart (by decide)

theorem Argument.eq_singleton {ts : List Token} {v : String} (h : Argument ts v) :
    ∃ t, ts = [t] := by
  cases h <;> exact ⟨_, rfl⟩

namespace Chain

variable {α : Type} {Between : Token → Prop} {Item : List Token → α → Prop}

theorem cons {ts us : List Token} {t : Token} {a : α} {as : List α} (ha : Item ts a)
    (ht : Between t) (h : Chain Between Item us as) :
    Chain Between Item (ts ++ t :: us) (a :: as) := by
  induction h with
  | one h => exact .more (.one ha) ht h
  | more _ hu hb ih => simpa using Chain.more ih hu hb

end Chain

theorem logicalDepth_le_of_mem_node {c : Connective} {q : Query} {qs : List Query} (h : q ∈ qs) :
    q.logicalDepth ≤ (node c qs).logicalDepth := by
  unfold node
  split
  · rw [List.mem_singleton.1 h]
  · exact (logicalDepth_lt_of_mem h).le

theorem Joined.of_clause {c : Connective} {Clause : List Token → Query → Prop} {ts : List Token}
    {q : Query} (h : Clause ts q) : Joined c Clause ts q :=
  .mk (.one h)

theorem constraint_of_comparison {n : Nat} {ts : List Token} {q : Query} (h : Comparison ts q) :
    Constraint n ts q := by
  cases n with
  | zero => exact h
  | succ n => exact .inl h

theorem constraint_of_group {n : Nat} {ts : List Token} {q : Query} (h : Disjunction n ts q) :
    Constraint (n + 1) (.leftParen :: ts ++ [.rightParen]) q :=
  .inr (.mk h)

end FilterQuery.Query
