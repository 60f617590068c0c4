import FilterQuery.Proofs.Query.Grammar
import FilterQuery.Proofs.Query.Spelling
import Mathlib.Data.List.Chain
import Mathlib.Tactic.MkIffOfInductiveProp

namespace FilterQuery.Query

structure Piece where
  token : Token
  spelling : List Char
  gap : List Char
  spelled : Spelled token spelling
  blank : ∀ c ∈ gap, Text.isBlank c

namespace Piece

def text (p : Piece) : List Char :=
  p.spelling ++ p.gap

@[mk_iff]
inductive Merges (p q : Piece) : Prop
  | words {v w : String} (hp : p.token = .word v) (hq : q.token = .word w)
  | sign (hp : p.token = .operator "<" ∨ p.token = .operator ">")
      (hq : q.spelling.head? = some '=')

def Parted (p q : Piece) : Prop :=
  p.Merges q → p.gap ≠ []

end Piece

structure Layout where
  lead : List Char
  pieces : List Piece
  blank : ∀ c ∈ lead, Text.isBlank c
  parted : pieces.IsChain Piece.Parted

namespace Layout

def text (l : Layout) : List Char :=
  l.lead ++ l.pieces.flatMap Piece.text

def tokens (l : Layout) : List Token :=
  l.pieces.map Piece.token

end Layout

def Stream.entries : Stream → List (Token × Nat)
  | .token t position rest => (t, position) :: rest.entries
  | _ => []

def streamOf (position : Nat) : List Piece → Stream
  | [] => .done position
  | p :: ps => .token p.token position (streamOf (position + p.text.length) ps)

section

variable {c : Char} {s lead : List Char} {p q : Piece} {ps : List Piece} {ts : List Token}
  {position : Nat}

theorem not_goesOn_of_isBlank (hc : Text.isBlank c) (t : Token) : ¬t.GoesOn c := by
  intro h
  cases t with
  | word w => simp [isBlank_eq_false_of_isUnreserved h] at hc
  | operator symbol =>
      obtain ⟨-, rfl⟩ := h
      cases hc
  | _ => exact h

theorem merges_iff_goesOn (hq : q.spelling.head? = some c) : p.Merges q ↔ p.token.GoesOn c := by
  obtain ⟨d, tail, hs, -, unreserved⟩ := q.spelled.exists_cons
  obtain rfl : d = c := by simpa [hs] using hq
  constructor
  · intro h
    cases h with
    | words hp hw =>
        rw [hp]
        exact unreserved.2 ⟨_, hw⟩
    | sign hp he =>
        have equal : d = '=' := by simpa [hq] using he
        rcases hp with hp | hp <;> rw [hp]
        · exact ⟨.inl rfl, equal⟩
        · exact ⟨.inr rfl, equal⟩
  · intro h
    cases ht : p.token with
    | word v =>
        rw [ht] at h
        obtain ⟨w, hw⟩ := unreserved.1 h
        exact .words ht hw
    | operator symbol =>
        rw [ht] at h
        obtain ⟨sign, rfl⟩ := h
        rcases sign with rfl | rfl
        · exact .sign (.inl ht) hq
        · exact .sign (.inr ht) hq
    | _ =>
        rw [ht] at h
        exact h.elim

theorem forall_parted_iff_ends :
    (∀ q ∈ ps.head?, p.Parted q) ↔ p.token.Ends (p.gap ++ ps.flatMap Piece.text) := by
  cases hg : p.gap with
  | cons d gap =>
      have blank : Text.isBlank d := p.blank d (by simp [hg])
      refine iff_of_true (fun q _ _ => by simp [hg]) ?_
      rintro c ⟨⟩
      exact not_goesOn_of_isBlank blank p.token
  | nil =>
      cases ps with
      | nil => exact iff_of_true (by simp) (ends_nil _)
      | cons q ps =>
          obtain ⟨c, tail, hs, -, -⟩ := q.spelled.exists_cons
          have first : q.spelling.head? = some c := by simp [hs]
          simp [Piece.Parted, Token.Ends, Piece.text, hg, hs, merges_iff_goesOn first]

theorem scan_pieces (hb : ∀ c ∈ lead, Text.isBlank c) (hp : ps.IsChain Piece.Parted) :
    Stream.scan (lead ++ ps.flatMap Piece.text) position =
      streamOf (position + lead.length) ps := by
  induction ps generalizing lead position with
  | nil =>
      obtain ⟨taken, dropped⟩ := takeWhile_append_of_ends (r := []) hb (by simp)
      rw [List.flatMap_nil, Stream.scan_of_nil dropped, taken]
      rfl
  | cons p ps ih =>
      obtain ⟨ends, parted⟩ := List.isChain_cons.1 hp
      obtain ⟨c, tail, hs, blank, -⟩ := p.spelled.exists_cons
      have spelled := p.spelled
      rw [hs] at spelled
      have read := readToken_of_spelled spelled (forall_parted_iff_ends.1 ends)
      obtain ⟨taken, dropped⟩ := takeWhile_append_of_ends
        (r := c :: (tail ++ (p.gap ++ ps.flatMap Piece.text))) hb (by simpa using blank)
      have whole : (p :: ps).flatMap Piece.text =
          c :: (tail ++ (p.gap ++ ps.flatMap Piece.text)) := by
        simp [Piece.text, hs]
      rw [whole, Stream.scan_of_ok dropped read, taken, streamOf]
      simp only [ih p.blank parted]
      have width : p.text.length = tail.length + 1 + p.gap.length := by
        rw [Piece.text, hs, List.length_append, List.length_cons]
      rw [width]
      congr 2
      omega

theorem entries_streamOf (before : List Piece) (p : Piece) (after : List Piece) (position : Nat) :
    (streamOf position (before ++ p :: after)).entries[before.length]? =
      some (p.token, position + (before.flatMap Piece.text).length) := by
  induction before generalizing position with
  | nil => rfl
  | cons q before ih =>
      have later := ih (position + q.text.length)
      simpa [streamOf, Stream.entries, Nat.add_assoc] using later

theorem tokens?_streamOf (ps : List Piece) (position : Nat) :
    (streamOf position ps).tokens? = some (ps.map Piece.token) := by
  induction ps generalizing position with
  | nil => rfl
  | cons p ps ih => simp [streamOf, Stream.tokens?, ih]

theorem ofString_of_layout {text : String} {l : Layout} (h : l.text = text.toList) :
    Stream.ofString text = streamOf l.lead.length l.pieces := by
  have cut : Stream.scan l.text 0 = streamOf (0 + l.lead.length) l.pieces :=
    scan_pieces l.blank l.parted
  rw [Nat.zero_add] at cut
  rw [Stream.ofString, ← h]
  exact cut

theorem exists_pieces_of_scan (h : (Stream.scan s position).tokens? = some ts) :
    ∃ l : Layout, l.text = s ∧ l.tokens = ts := by
  fun_induction Stream.scan s position generalizing ts with
  | case1 s =>
      rename_i hs
      cases h
      have blank : ∀ c ∈ s, Text.isBlank c := by
        have whole := Text.takeWhile_append_dropBlanks s
        rw [hs, List.append_nil] at whole
        rw [← whole]
        exact fun c => List.mem_takeWhile_imp
      exact ⟨⟨s, [], blank, .nil⟩, List.append_nil s, rfl⟩
  | case2 => cases h
  | case3 s position start c rest hs l hl =>
      rename_i ih
      obtain ⟨us, hu, rfl⟩ := Option.map_eq_some_iff.1 h
      obtain ⟨⟨gap, ps, blank, parted⟩, ht, rfl⟩ := ih hu
      obtain ⟨tail, hr, -, spelled, ends⟩ := spells_of_readToken hl
      let p : Piece := ⟨l.token, c :: tail, gap, spelled, blank⟩
      have first : ∀ q ∈ ps.head?, p.Parted q := by
        rw [forall_parted_iff_ends]
        change l.token.Ends (gap ++ ps.flatMap Piece.text)
        rw [show gap ++ ps.flatMap Piece.text = l.rest from ht]
        exact ends
      refine ⟨⟨s.takeWhile Text.isBlank, p :: ps, fun c => List.mem_takeWhile_imp,
        List.isChain_cons.2 ⟨first, parted⟩⟩, ?_, rfl⟩
      have after : gap ++ ps.flatMap Piece.text = l.rest := ht
      have whole := Text.takeWhile_append_dropBlanks s
      rw [hs, hr, ← after] at whole
      simpa [Layout.text, Piece.text, p] using whole

theorem exists_tokens?_of_spelled (h : ∀ t ∈ ts, ∃ p, Spelled t p) :
    ∃ text : String, (Stream.ofString text).tokens? = some ts := by
  have spaced : ∃ ps : List Piece, ps.IsChain Piece.Parted ∧ ps.map Piece.token = ts := by
    induction ts with
    | nil => exact ⟨[], .nil, rfl⟩
    | cons t ts ih =>
        obtain ⟨⟨p, hp⟩, others⟩ := List.forall_mem_cons.1 h
        obtain ⟨ps, parted, rfl⟩ := ih others
        have apart : ∀ q ∈ ps.head?, Piece.Parted ⟨t, p, [' '], hp, List.all_eq_true.1 rfl⟩ q :=
          fun q _ _ => List.cons_ne_nil ' ' []
        exact ⟨_ :: ps, List.isChain_cons.2 ⟨apart, parted⟩, rfl⟩
  obtain ⟨ps, parted, rfl⟩ := spaced
  let l : Layout := ⟨[], ps, List.forall_mem_nil _, parted⟩
  have laid : l.text = (String.ofList l.text).toList := (String.toList_ofList).symm
  refine ⟨String.ofList l.text, ?_⟩
  rw [ofString_of_layout laid]
  exact tokens?_streamOf ps 0

theorem exists_spelled_of_mem_entries {e : Token × Nat}
    (h : e ∈ (Stream.scan s position).entries) : ∃ p, Spelled e.1 p := by
  fun_induction Stream.scan s position with
  | case1 => cases h
  | case2 => cases h
  | case3 =>
      rename_i hl ih
      rcases List.mem_cons.1 h with rfl | h
      · obtain ⟨p, spells⟩ := spells_of_readToken hl
        exact ⟨_, spells.spelled⟩
      · exact ih h

end

theorem tokens?_eq_some_iff_layout (s : String) (ts : List Token) :
    ((Stream.ofString s).tokens? = some ts ↔
      ∃ l : Layout, l.text = s.toList ∧ l.tokens = ts) ∧
    ∀ l : Layout, l.text = s.toList → ∀ before p after, l.pieces = before ++ p :: after →
      (Stream.ofString s).entries[before.length]? =
        some (p.token, (l.lead ++ before.flatMap Piece.text).length) := by
  refine ⟨⟨exists_pieces_of_scan, ?_⟩, ?_⟩
  · rintro ⟨l, hl, rfl⟩
    rw [ofString_of_layout hl]
    exact tokens?_streamOf l.pieces l.lead.length
  · intro l hl before p after hp
    rw [ofString_of_layout hl, hp, List.length_append]
    exact entries_streamOf before p after l.lead.length

namespace Layout

def sample : Layout where
  lead := []
  pieces :=
    [⟨.word "a", ['a'], [], .word (by simp) (List.all_eq_true.1 rfl), List.forall_mem_nil _⟩,
     ⟨.operator "<", ['<'], [' '], .operator (.sign (by simp)), List.all_eq_true.1 rfl⟩,
     ⟨.operator "==", ['=', '='], [], .operator (.named (List.forall_mem_nil _)),
       List.forall_mem_nil _⟩,
     ⟨.quoted "b\"c", ['"', 'b', '\\', '"', 'c', '"'], [],
       .quoted (.inl rfl) (.plain (by simp) (by simp) (.escaped _
         (.plain (by simp) (by simp) .nil))), List.forall_mem_nil _⟩,
     ⟨.word "or", ['o', 'r'], [' '], .word (by simp) (List.all_eq_true.1 rfl),
       List.all_eq_true.1 rfl⟩,
     ⟨.word "d", ['d'], [], .word (by simp) (List.all_eq_true.1 rfl), List.forall_mem_nil _⟩]
  blank := List.forall_mem_nil _
  parted := by
    simp [Piece.Parted, Piece.merges_iff]

theorem text_sample : sample.text = "a< ==\"b\\\"c\"or d".toList := by
  decide

end Layout

open Layout in
theorem tokens?_eq_some_iff_layout_sample :
    sample.text = "a< ==\"b\\\"c\"or d".toList ∧
    (Stream.ofString "a< ==\"b\\\"c\"or d").tokens? =
      some [.word "a", .operator "<", .operator "==", .quoted "b\"c", .word "or", .word "d"] ∧
    (Stream.ofString "a< ==\"b\\\"c\"or d").entries[4]? = some (.word "or", 11) := by
  obtain ⟨cut, starts⟩ := tokens?_eq_some_iff_layout "a< ==\"b\\\"c\"or d"
    [.word "a", .operator "<", .operator "==", .quoted "b\"c", .word "or", .word "d"]
  refine ⟨text_sample, cut.2 ⟨sample, text_sample, rfl⟩, ?_⟩
  exact starts sample text_sample (sample.pieces.take 4) _ _ rfl

end FilterQuery.Query
