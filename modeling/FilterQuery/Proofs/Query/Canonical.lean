import FilterQuery.Proofs.Query.Acceptance
import FilterQuery.Proofs.Query.RoundTrip
import Mathlib.Data.List.TakeWhile

namespace FilterQuery.Query

def Token.Sound : Token → Prop
  | .word w => w ≠ "" ∧ ∀ c ∈ w.toList, isUnreserved c
  | _ => True

theorem Spelled.sound {t : Token} {p : List Char} (h : Spelled t p) : t.Sound := by
  cases h with
  | word hn hw =>
      refine ⟨by simpa using hn, ?_⟩
      rw [String.toList_ofList]
      exact hw
  | _ => trivial

theorem sound_scan {s : List Char} {position : Nat} {ts : List Token}
    (h : (Stream.scan s position).tokens? = some ts) : ∀ t ∈ ts, t.Sound := by
  fun_induction Stream.scan s position generalizing ts with
  | case1 =>
      cases h
      exact List.forall_mem_nil _
  | case2 => cases h
  | case3 =>
      rename_i hl ih
      obtain ⟨us, hu, rfl⟩ := Option.map_eq_some_iff.1 h
      obtain ⟨p, spells⟩ := spells_of_readToken hl
      exact List.forall_mem_cons.2 ⟨spells.spelled.sound, ih hu⟩

theorem Chain.ne_nil {α : Type} {Between : Token → Prop} {Item : List Token → α → Prop}
    {ts : List Token} {as : List α} (h : Chain Between Item ts as) : as ≠ [] := by
  cases h <;> simp

theorem canonical_of_comparison {ts : List Token} {q : Query} (h : Comparison ts q)
    (hs : ∀ t ∈ ts, t.Sound) : q.Canonical := by
  cases h with
  | mk w _ ha =>
      obtain ⟨⟨hn, hw⟩, -⟩ := List.forall_mem_cons.1 hs
      refine .comparison hn hw ?_
      cases ha with
      | one _ => simp
      | list hc => exact hc.ne_nil

theorem canonical_node (c : Connective) {qs : List Query} (hn : qs ≠ [])
    (hq : ∀ q ∈ qs, q.Canonical) : (node c qs).Canonical := by
  unfold node
  split
  · exact hq _ List.mem_cons_self
  · next hs =>
      refine .logical ?_ hq
      rcases qs with _ | ⟨p, _ | ⟨q, qs⟩⟩
      · exact absurd rfl hn
      · exact absurd rfl (hs p)
      · simp

def DerivesCanonical (Clause : List Token → Query → Prop) : Prop :=
  ∀ ts q, Clause ts q → (∀ t ∈ ts, t.Sound) → q.Canonical

theorem canonical_of_chain {Between : Token → Prop} {Clause : List Token → Query → Prop}
    (hc : DerivesCanonical Clause) {ts : List Token} {qs : List Query}
    (h : Chain Between Clause ts qs) (hs : ∀ t ∈ ts, t.Sound) : ∀ q ∈ qs, q.Canonical := by
  induction h with
  | one hq => exact List.forall_mem_singleton.2 (hc _ _ hq hs)
  | more _ _ hq ih =>
      obtain ⟨before, after⟩ := List.forall_mem_append.1 hs
      refine List.forall_mem_append.2 ⟨ih before, List.forall_mem_singleton.2 ?_⟩
      exact hc _ _ hq (List.forall_mem_cons.1 after).2

theorem derivesCanonical_joined (c : Connective) {Clause : List Token → Query → Prop}
    (hc : DerivesCanonical Clause) : DerivesCanonical (Joined c Clause) := by
  intro ts q h hs
  cases h with
  | mk h => exact canonical_node c h.ne_nil (canonical_of_chain hc h hs)

theorem derivesCanonical_constraint (n : Nat) : DerivesCanonical (Constraint n) := by
  induction n with
  | zero => exact fun ts q h hs => canonical_of_comparison h hs
  | succ n ih =>
      intro ts q h hs
      rcases h with h | h
      · exact canonical_of_comparison h hs
      · have inner := derivesCanonical_joined .or (derivesCanonical_joined .and ih)
        cases h with
        | mk h =>
            refine inner _ _ h fun t ht => hs t ?_
            exact List.mem_append_left _ (List.mem_cons_of_mem _ ht)

theorem canonical_of_parse {limit : Nat} {s : String} {q : Query} (h : parse limit s = .ok q) :
    q.Canonical := by
  obtain ⟨ts, s', ht, hr, hf⟩ := parse_eq_ok_iff_reads.1 h
  have derives := derivesCanonical_joined .or (derivesCanonical_joined .and
    (derivesCanonical_constraint maxGroups))
  exact derives ts q (disjunction_of_reads hr hf).1 (sound_scan ht)

theorem Canonical.hasOperands {q : Query} (h : q.Canonical) : q.HasOperands := by
  induction q with
  | comparison w o vs => rintro c qs ⟨⟩
  | logical c qs ih =>
      cases h with
      | logical hl hq =>
          refine hasOperands_logical.2 ⟨?_, fun q hm => ih q hm (hq q hm)⟩
          rintro rfl
          simp at hl

end FilterQuery.Query
