import FilterQuery.Text.Blank
import FilterQuery.Text.Case
import FilterQuery.Query.Operator

namespace FilterQuery.Query

inductive Token where
  | word (text : String)
  | quoted (text : String)
  | operator (symbol : String)
  | semicolon
  | comma
  | leftParen
  | rightParen
  deriving DecidableEq, Repr

def Token.isKeyword (c : Connective) : Token → Bool
  | .word w => Text.sameLetters w c.keyword
  | _ => false

def isReserved (c : Char) : Bool :=
  "\"'();,=!~<>".toList.contains c

def isUnreserved (c : Char) : Bool :=
  !Text.isBlank c && !isReserved c

inductive TokenFault where
  | unexpected (c : Char)
  | unterminated
  | bangWithoutEqual
  | malformedOperator (name : String)
  deriving DecidableEq, Repr

def TokenFault.message : TokenFault → String
  | .unexpected c => "unexpected character '" ++ c.toString ++ "'"
  | .unterminated => "unterminated quoted value"
  | .bangWithoutEqual => "expected '=' after '!'"
  | .malformedOperator name => "malformed operator '=" ++ name ++ "'"

structure Lexeme where
  token : Token
  tail : Nat
  rest : List Char

def readQuoted (quote : Char) : List Char → Option (List Char × Nat × List Char)
  | [] => none
  | '\\' :: c :: rest =>
      (readQuoted quote rest).map fun (value, width, rest) => (c :: value, width + 2, rest)
  | c :: rest =>
      if c = quote then
        some ([], 1, rest)
      else
        (readQuoted quote rest).map fun (value, width, rest) => (c :: value, width + 1, rest)

theorem readQuoted_length {quote : Char} {s value rest : List Char} {width : Nat}
    (h : readQuoted quote s = some (value, width, rest)) : s.length = width + rest.length := by
  fun_induction readQuoted quote s generalizing value width rest with
  | case1 => simp at h
  | case2 c s ih =>
      obtain ⟨⟨value', width', rest'⟩, hr, he⟩ := Option.map_eq_some_iff.1 h
      have := ih hr
      simp at he
      obtain ⟨-, rfl, rfl⟩ := he
      simp
      omega
  | case3 =>
      simp at h
      obtain ⟨-, rfl, rfl⟩ := h
      simp
      omega
  | case4 c s _ _ ih =>
      obtain ⟨⟨value', width', rest'⟩, hr, he⟩ := Option.map_eq_some_iff.1 h
      have := ih hr
      simp at he
      obtain ⟨-, rfl, rfl⟩ := he
      simp
      omega

def readWord (c : Char) (s : List Char) : Lexeme :=
  let tail := s.takeWhile isUnreserved
  ⟨.word (String.ofList (c :: tail)), tail.length, s.dropWhile isUnreserved⟩

theorem length_takeWhile_add_length_dropWhile (p : Char → Bool) (s : List Char) :
    (s.takeWhile p).length + (s.dropWhile p).length = s.length := by
  rw [← List.length_append, List.takeWhile_append_dropWhile]

theorem readWord_length (c : Char) (s : List Char) :
    s.length = (readWord c s).tail + (readWord c s).rest.length :=
  (length_takeWhile_add_length_dropWhile isUnreserved s).symm

def readNamedOperator (s : List Char) : Except TokenFault Lexeme :=
  let name := s.takeWhile Char.isAlpha
  match s.dropWhile Char.isAlpha with
  | '=' :: rest => .ok ⟨.operator (String.ofList ('=' :: name ++ ['='])), name.length + 1, rest⟩
  | _ => .error (.malformedOperator (String.ofList name))

theorem readNamedOperator_length {s : List Char} {l : Lexeme}
    (h : readNamedOperator s = .ok l) : s.length = l.tail + l.rest.length := by
  have key := length_takeWhile_add_length_dropWhile Char.isAlpha s
  simp only [readNamedOperator] at h
  split at h
  · next rest hd =>
      cases h
      rw [hd] at key
      simp at key ⊢
      omega
  · cases h

def readSignOperator (c : Char) (s : List Char) : Except TokenFault Lexeme :=
  match s with
  | '=' :: rest => .ok ⟨.operator (String.ofList [c, '=']), 1, rest⟩
  | _ =>
      if c = '!' then .error .bangWithoutEqual
      else .ok ⟨.operator (String.ofList [c]), 0, s⟩

theorem readSignOperator_length {c : Char} {s : List Char} {l : Lexeme}
    (h : readSignOperator c s = .ok l) : s.length = l.tail + l.rest.length := by
  unfold readSignOperator at h
  split at h
  · cases h
    simp
    omega
  · split at h
    · cases h
    · cases h
      simp

def readValue (quote : Char) (s : List Char) : Except TokenFault Lexeme :=
  match readQuoted quote s with
  | some (value, width, rest) => .ok ⟨.quoted (String.ofList value), width, rest⟩
  | none => .error .unterminated

theorem readValue_length {quote : Char} {s : List Char} {l : Lexeme}
    (h : readValue quote s = .ok l) : s.length = l.tail + l.rest.length := by
  unfold readValue at h
  split at h
  · next hq =>
      cases h
      exact readQuoted_length hq
  · cases h

def punctuation? : Char → Option Token
  | ';' => some .semicolon
  | ',' => some .comma
  | '(' => some .leftParen
  | ')' => some .rightParen
  | _ => none

def readToken (c : Char) (s : List Char) : Except TokenFault Lexeme :=
  match punctuation? c with
  | some t => .ok ⟨t, 0, s⟩
  | none =>
      if c = '"' ∨ c = '\'' then readValue c s
      else if c = '=' then readNamedOperator s
      else if c = '!' ∨ c = '<' ∨ c = '>' then readSignOperator c s
      else if isUnreserved c then .ok (readWord c s)
      else .error (.unexpected c)

theorem readToken_length {c : Char} {s : List Char} {l : Lexeme}
    (h : readToken c s = .ok l) : s.length = l.tail + l.rest.length := by
  unfold readToken at h
  split at h
  · cases h
    simp
  · split at h
    · exact readValue_length h
    · split at h
      · exact readNamedOperator_length h
      · split at h
        · exact readSignOperator_length h
        · split at h
          · cases h
            exact readWord_length c s
          · cases h

inductive Stream where
  | done (position : Nat)
  | broken (fault : TokenFault) (position : Nat)
  | token (token : Token) (position : Nat) (rest : Stream)
  deriving DecidableEq, Repr

def Stream.scan (s : List Char) (position : Nat) : Stream :=
  let start := position + (s.takeWhile Text.isBlank).length
  match _hs : Text.dropBlanks s with
  | [] => .done start
  | c :: rest =>
      match _hl : readToken c rest with
      | .error fault => .broken fault start
      | .ok l => .token l.token start (scan l.rest (start + l.tail + 1))
termination_by s.length
decreasing_by
  have h := Text.length_dropBlanks_le s
  rw [_hs, List.length_cons, readToken_length _hl] at h
  omega

theorem Stream.scan_of_nil {s : List Char} (h : Text.dropBlanks s = []) (position : Nat) :
    scan s position = .done (position + (s.takeWhile Text.isBlank).length) := by
  rw [scan]
  split
  · rfl
  · next hs => rw [h] at hs; cases hs

theorem Stream.scan_of_ok {s rest : List Char} {c : Char} {l : Lexeme}
    (h : Text.dropBlanks s = c :: rest) (hl : readToken c rest = .ok l) (position : Nat) :
    scan s position =
      let start := position + (s.takeWhile Text.isBlank).length
      .token l.token start (scan l.rest (start + l.tail + 1)) := by
  rw [scan]
  split
  · next hs => rw [h] at hs; cases hs
  · next hs =>
      rw [h] at hs
      cases hs
      split
      · next hl' => rw [hl] at hl'; cases hl'
      · next hl' => rw [hl] at hl'; cases hl'; rfl

def Stream.ofString (s : String) : Stream :=
  scan s.toList 0

end FilterQuery.Query
