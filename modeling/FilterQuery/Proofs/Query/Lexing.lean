import FilterQuery.Proofs.Query.Grammar
import FilterQuery.Proofs.Query.Spelling
import FilterQuery.Query.Printer

namespace FilterQuery.Query

def Lexes (s : List Char) (ts : List Token) : Prop :=
  ∀ position, (Stream.scan s position).tokens? = some ts

def EndsWord (rest : List Char) : Prop :=
  ∀ c ∈ rest.head?, isUnreserved c = false

theorem lexes_nil : Lexes [] [] := by
  intro position
  rw [Stream.scan_of_nil rfl]
  rfl

section

variable {p rest v w : List Char} {t : Token} {ts : List Token}

theorem lexes_spelled (hp : Spelled t p) (he : t.Ends rest) (h : Lexes rest ts) :
    Lexes (p ++ rest) (t :: ts) := by
  obtain ⟨c, tail, rfl, blank, -⟩ := hp.exists_cons
  intro position
  have start : Text.dropBlanks (c :: (tail ++ rest)) = c :: (tail ++ rest) :=
    List.dropWhile_cons_of_neg (by simp [blank])
  rw [List.cons_append, Stream.scan_of_ok start (readToken_of_spelled hp he)]
  simp [Stream.tokens?, h _]

theorem lexes_word (hn : w ≠ []) (hw : ∀ c ∈ w, isUnreserved c) (hr : EndsWord rest)
    (h : Lexes rest ts) : Lexes (w ++ rest) (.word (String.ofList w) :: ts) :=
  lexes_spelled (.word hn hw) (fun c hc => Bool.eq_false_iff.1 (hr c hc)) h

theorem enclosed_escape (v : List Char) : Enclosed '"' v (escape v) := by
  induction v with
  | nil => exact .nil
  | cons c v ih =>
      simp only [escape]
      split
      · exact .escaped c ih
      · next hc =>
          obtain ⟨hq, hb⟩ := not_or.1 hc
          exact .plain hq hb ih

theorem lexes_quoted (h : Lexes rest ts) :
    Lexes ('"' :: escape v ++ '"' :: rest) (.quoted (String.ofList v) :: ts) := by
  have whole := lexes_spelled (.quoted (.inl rfl) (enclosed_escape v)) (fun _ _ => id) h
  simpa using whole

theorem symbol_symbol (o : Operator) : Symbol o.symbol.toList := by
  cases o with
  | equal => exact .named (List.forall_mem_nil _)
  | isIn => exact .named (List.all_eq_true.1 (rfl : ['i', 'n'].all Char.isAlpha))
  | notIn => exact .named (List.all_eq_true.1 (rfl : ['o', 'u', 't'].all Char.isAlpha))
  | all => exact .named (List.all_eq_true.1 (rfl : ['a', 'l', 'l'].all Char.isAlpha))
  | like => exact .named (List.all_eq_true.1 (rfl : ['l', 'i', 'k', 'e'].all Char.isAlpha))
  | _ => exact .sign (by simp [Operator.symbol])

theorem lexes_operator (o : Operator) (hr : ∀ d ∈ rest.head?, d ≠ '=') (h : Lexes rest ts) :
    Lexes (o.symbol.toList ++ rest) (.operator o.symbol :: ts) := by
  have spelled := Spelled.operator (symbol_symbol o)
  rw [String.ofList_toList] at spelled
  exact lexes_spelled spelled (fun d hd hg => hr d hd hg.2) h

end

end FilterQuery.Query
