import FilterQuery.Proofs.Schema.Rearranged

namespace FilterQuery.Text

theorem pieces_eq_splitOn (mark : Char) (s : List Char) : pieces mark s = s.splitOn mark := by
  have cut := List.splitOn_intercalate mark
    (fun _ h => mark_not_mem_of_mem_pieces h) (pieces_ne_nil mark s)
  rwa [intercalate_pieces, eq_comm] at cut

end FilterQuery.Text

namespace FilterQuery.Schema

theorem segments_ne_nil (selector : String) : segments selector ≠ [] := by
  simpa [segments] using Text.pieces_ne_nil '.' selector.toList

theorem dot_not_mem_of_mem_segments {selector name : String} (h : name ∈ segments selector) :
    '.' ∉ name.toList := by
  obtain ⟨piece, hp, rfl⟩ := List.mem_map.1 h
  simpa using Text.mark_not_mem_of_mem_pieces hp

theorem intercalate_segments (selector : String) :
    ".".intercalate (segments selector) = selector := by
  rw [← String.toList_inj, String.toList_intercalate]
  have cut : (segments selector).map String.toList = Text.pieces '.' selector.toList := by
    simp [segments, Function.comp_def]
  rw [cut]
  exact Text.intercalate_pieces '.' selector.toList

theorem segments_intercalate {names : List String} (hn : names ≠ [])
    (hd : ∀ name ∈ names, '.' ∉ name.toList) : segments (".".intercalate names) = names := by
  have undotted : ∀ piece ∈ names.map String.toList, '.' ∉ piece := by
    simpa using hd
  have cut := List.splitOn_intercalate '.' undotted (by simpa using hn)
  have dot : ".".toList = ['.'] := rfl
  rw [segments, String.toList_intercalate, dot, Text.pieces_eq_splitOn, cut]
  simp [Function.comp_def]

theorem segments_eq_iff {selector : String} {names : List String} :
    segments selector = names ↔
      selector = ".".intercalate names ∧ names ≠ [] ∧ ∀ name ∈ names, '.' ∉ name.toList := by
  constructor
  · rintro rfl
    exact ⟨(intercalate_segments selector).symm, segments_ne_nil selector,
      fun _ h => dot_not_mem_of_mem_segments h⟩
  · rintro ⟨rfl, hn, hd⟩
    exact segments_intercalate hn hd

theorem segments_of_segment {name : String} (h : Segment name) : segments name = [name] := by
  simp [segments, Text.pieces_of_not_mem h.2]

inductive Nested : List (String × Field) → List (String × Field) → Prop
  | here {fields : List (String × Field)} {name : String} {f : Field}
      (h : fields.lookup name = some f) : Nested fields [(name, f)]
  | inside {fields inner chain : List (String × Field)} {name : String} {f : Field}
      (h : fields.lookup name = some f) (hf : f.fields = some inner) (k : Nested inner chain) :
      Nested fields ((name, f) :: chain)

section

variable {fields chain chain' rest : List (String × Field)} {name : String} {names : List String}

theorem Nested.ne_nil (h : Nested fields chain) : chain ≠ [] := by
  cases h <;> exact List.cons_ne_nil _ _

theorem Nested.declared (h : Nested fields chain) :
    ∀ entry ∈ chain, Declared fields entry.1 entry.2 := by
  induction h with
  | here h => simpa using Declared.direct (mem_of_lookup h)
  | inside h hf _ ih =>
      refine List.forall_mem_cons.2 ⟨.direct (mem_of_lookup h), fun entry he => ?_⟩
      exact .inner (mem_of_lookup h) hf (ih entry he)

theorem Nested.unique (h : Nested fields chain) (k : Nested fields chain')
    (hn : chain.map Prod.fst = chain'.map Prod.fst) : chain = chain' := by
  induction h generalizing chain' with
  | here h =>
      cases k with
      | here h' =>
          cases List.singleton_inj.1 hn
          rw [Option.some.inj (h.symm.trans h')]
      | inside _ _ k => exact absurd (List.map_eq_nil_iff.1 (List.cons.inj hn).2.symm) k.ne_nil
  | inside h hf l ih =>
      cases k with
      | here _ => exact absurd (List.map_eq_nil_iff.1 (List.cons.inj hn).2) l.ne_nil
      | inside h' hf' k =>
          obtain ⟨rfl, names⟩ := List.cons.inj hn
          cases h.symm.trans h'
          cases hf.symm.trans hf'
          rw [ih k names]

theorem Nested.of_append (h : Nested fields (chain ++ rest)) (hc : chain ≠ []) :
    Nested fields chain := by
  generalize hw : chain ++ rest = whole at h
  induction h generalizing chain with
  | here h =>
      obtain ⟨rfl, -⟩ | ⟨rfl, -⟩ := List.append_eq_singleton_iff.1 hw
      · exact absurd rfl hc
      · exact .here h
  | inside h hf _ ih =>
      obtain ⟨rfl, -⟩ | ⟨chain, rfl, rfl⟩ := List.append_eq_cons_iff.1 hw
      · exact absurd rfl hc
      · by_cases hn : chain = []
        · subst hn
          exact .here h
        · exact .inside h hf (ih hn rfl)

theorem Nested.isSome_fields (h : Nested fields chain) :
    ∀ entry ∈ chain.dropLast, entry.2.fields.isSome := by
  induction h with
  | here _ => simp
  | inside _ hf k ih =>
      rw [List.dropLast_cons_of_ne_nil k.ne_nil]
      exact List.forall_mem_cons.2 ⟨by simp [hf], ih⟩

theorem walk_singleton_eq_some_iff :
    walk fields [name] = some chain ↔
      name ≠ "" ∧ ∃ f, fields.lookup name = some f ∧ chain = [(name, f)] := by
  by_cases hn : name = ""
  · simp [walk, hn]
  · simp [walk, hn, @eq_comm _ chain]

theorem walk_cons_eq_some_iff (hn : names ≠ []) :
    walk fields (name :: names) = some chain ↔
      name ≠ "" ∧ ∃ f inner after, fields.lookup name = some f ∧ f.type = .object ∧
        f.fields = some inner ∧ walk inner names = some after ∧ chain = (name, f) :: after := by
  obtain ⟨next, names, rfl⟩ := List.exists_cons_of_ne_nil hn
  by_cases hn : name = ""
  · simp [walk, hn]
  · simp only [walk, String.isEmpty_iff, hn, if_false, Option.bind_eq_bind, Option.bind_eq_some_iff,
      Option.ite_none_right_eq_some, isTraversable_iff]
    simp only [ne_eq, hn, not_false_eq_true, true_and, exists_and_left, pure, Option.some.injEq,
      @eq_comm _ chain]

theorem walk_eq_some_iff :
    walk fields names = some chain ↔
      names = chain.map Prod.fst ∧ (∀ name ∈ names, name ≠ "") ∧ Nested fields chain ∧
        ∀ entry ∈ chain.dropLast, entry.2.type = .object := by
  constructor
  · intro h
    induction names generalizing fields chain with
    | nil => simp [walk] at h
    | cons name names ih =>
        by_cases hn : names = []
        · subst hn
          obtain ⟨named, f, hf, rfl⟩ := walk_singleton_eq_some_iff.1 h
          exact ⟨rfl, by simpa using named, .here hf, by simp⟩
        · obtain ⟨named, f, inner, after, hf, ht, hi, hw, rfl⟩ := (walk_cons_eq_some_iff hn).1 h
          obtain ⟨rfl, others, nested, objects⟩ := ih hw
          refine ⟨rfl, List.forall_mem_cons.2 ⟨named, others⟩, .inside hf hi nested, ?_⟩
          rw [List.dropLast_cons_of_ne_nil nested.ne_nil]
          exact List.forall_mem_cons.2 ⟨ht, objects⟩
  · rintro ⟨rfl, named, nested, objects⟩
    induction nested with
    | here h => exact walk_singleton_eq_some_iff.2 ⟨named _ (by simp), _, h, rfl⟩
    | inside h hf k ih =>
        rw [List.dropLast_cons_of_ne_nil k.ne_nil] at objects
        obtain ⟨first, others⟩ := List.forall_mem_cons.1 objects
        obtain ⟨hn, named⟩ := List.forall_mem_cons.1 named
        refine (walk_cons_eq_some_iff (by simpa using k.ne_nil)).2
          ⟨hn, _, _, _, h, first, hf, ?_, rfl⟩
        exact ih named others

theorem walk_eq_some_declared (h : walk fields names = some chain) :
    chain ≠ [] ∧ ∀ entry ∈ chain, Declared fields entry.1 entry.2 := by
  obtain ⟨-, -, nested, -⟩ := walk_eq_some_iff.1 h
  exact ⟨nested.ne_nil, nested.declared⟩

theorem Entity.walk_idField {e : Entity} {f : Field} (h : Segment e.idField)
    (hf : e.id? = some f) : e.walk e.idField = some [(e.idField, f)] := by
  rw [Entity.walk, segments_of_segment h]
  exact walk_singleton_eq_some_iff.2 ⟨h.1, f, hf, rfl⟩

end

section

variable {s : Schema} {e : Entity} {chain : List (String × Field)} {selector : String}

theorem Nested.segment (he : e ∈ s.entities) (k : Nested e.fields chain) :
    ∀ name ∈ chain.map Prod.fst, Segment name := by
  intro name hm
  obtain ⟨entry, he', rfl⟩ := List.mem_map.1 hm
  exact (s.wellFormed.sound e he _ _ (k.declared entry he')).name

theorem Nested.objects (he : e ∈ s.entities) (k : Nested e.fields chain) :
    ∀ entry ∈ chain.dropLast, entry.2.type = .object := by
  intro entry hm
  have sound := s.wellFormed.sound e he _ _ (k.declared entry (List.dropLast_subset chain hm))
  exact sound.fields.1 (k.isSome_fields entry hm)

theorem Nested.walk (he : e ∈ s.entities) (k : Nested e.fields chain) :
    e.walk (".".intercalate (chain.map Prod.fst)) = some chain := by
  have segment := k.segment he
  rw [Entity.walk,
    segments_intercalate (by simpa using k.ne_nil) fun name hm => (segment name hm).2]
  exact walk_eq_some_iff.2 ⟨rfl, fun name hm => (segment name hm).1, k, k.objects he⟩

theorem Entity.nested_of_walk (h : e.walk selector = some chain) :
    segments selector = chain.map Prod.fst ∧ "" ∉ segments selector ∧ Nested e.fields chain := by
  obtain ⟨hs, named, nested, -⟩ := walk_eq_some_iff.1 h
  exact ⟨hs, fun hm => named "" hm rfl, nested⟩

end

theorem Entity.walk_settled_by_nesting {s : Schema} {e : Entity} (he : e ∈ s.entities) :
    (∀ selector chain, e.walk selector = some chain ↔
      selector = ".".intercalate (chain.map Prod.fst) ∧ Nested e.fields chain ∧
        ∀ entry ∈ chain.dropLast, entry.2.type = .object) ∧
    (∀ chain, Nested e.fields chain → ∃! selector, e.walk selector = some chain) ∧
    ∀ selector,
      ("" ∈ segments selector → e.walk selector = none) ∧
      (∀ names rest, segments selector = names ++ rest → names ≠ [] →
        (∀ chain, Nested e.fields chain → chain.map Prod.fst ≠ names) → e.walk selector = none) ∧
      ∀ outer name f rest, Nested e.fields (outer ++ [(name, f)]) → f.type ≠ .object → rest ≠ [] →
        segments selector = (outer ++ [(name, f)]).map Prod.fst ++ rest →
          e.walk selector = none := by
  have joined : ∀ {selector chain}, e.walk selector = some chain →
      selector = ".".intercalate (chain.map Prod.fst) := by
    intro selector chain hw
    exact (segments_eq_iff.1 (Entity.nested_of_walk hw).1).1
  refine ⟨fun selector chain => ⟨fun hw => ?_, ?_⟩, fun chain hn => ?_,
    fun selector => ⟨?_, ?_, ?_⟩⟩
  · obtain ⟨-, -, nested⟩ := Entity.nested_of_walk hw
    exact ⟨joined hw, nested, nested.objects he⟩
  · rintro ⟨rfl, nested, -⟩
    exact nested.walk he
  · exact ⟨_, hn.walk he, fun _ hw => joined hw⟩
  · intro hm
    refine Option.eq_none_iff_forall_ne_some.2 fun chain hw => ?_
    exact (Entity.nested_of_walk hw).2.1 hm
  · intro names rest hs hn unknown
    refine Option.eq_none_iff_forall_ne_some.2 fun chain hw => ?_
    obtain ⟨hc, -, nested⟩ := Entity.nested_of_walk hw
    obtain ⟨first, others, rfl, rfl, -⟩ := List.map_eq_append_iff.1 (hc.symm.trans hs)
    exact unknown first (nested.of_append (by simpa using hn)) rfl
  · intro outer name f rest hf ht hr hs
    refine Option.eq_none_iff_forall_ne_some.2 fun chain hw => ?_
    obtain ⟨hc, -, nested⟩ := Entity.nested_of_walk hw
    obtain ⟨first, others, rfl, names, rfl⟩ := List.map_eq_append_iff.1 (hc.symm.trans hs)
    have hn : first ≠ [] := fun hn => by simp [hn] at names
    obtain rfl := (nested.of_append hn).unique hf names
    have passed : (name, f) ∈ (outer ++ [(name, f)] ++ others).dropLast := by
      rw [List.dropLast_append_of_ne_nil (by simpa using hr)]
      simp
    exact ht (nested.objects he _ passed)

end FilterQuery.Schema

namespace FilterQuery.Journal

open Schema (Field Nested)

def thread : List (String × Field) :=
  [("thread", ⟨.object, true, some "t",
      some [("remark", ⟨.reference "Remark", false, none, none⟩)]⟩),
   ("remark", ⟨.reference "Remark", false, none, none⟩)]

theorem nested_thread : Nested post.fields thread :=
  .inside rfl rfl (.here rfl)

theorem not_nested_reply {chain : List (String × Field)} (h : Nested post.fields chain) :
    chain.map Prod.fst ≠ ["thread", "reply"] := by
  intro hn
  cases h with
  | here _ => cases hn
  | inside h hf k =>
      obtain ⟨rfl, last⟩ := List.cons.inj hn
      cases h
      cases hf
      cases k with
      | here h =>
          cases List.singleton_inj.1 last
          cases h
      | inside _ _ k => exact k.ne_nil (List.map_eq_nil_iff.1 (List.cons.inj last).2)

end FilterQuery.Journal

namespace FilterQuery.Schema

theorem Entity.walk_settled_by_nesting_thread :
    ofDeclarations Journal.entities Journal.enums = .ok Journal.schema ∧
    Journal.post ∈ Journal.schema.entities ∧
    Journal.post.walk "thread.remark" = some Journal.thread ∧
    (∃! selector, Journal.post.walk selector = some Journal.thread) ∧
    Journal.post.walk "thread..remark" = none ∧ Journal.post.walk "thread.reply" = none ∧
    Journal.post.walk "status.remark" = none := by
  have he : Journal.post ∈ Journal.schema.entities := by decide
  obtain ⟨walked, reached, refused⟩ := Entity.walk_settled_by_nesting he
  refine ⟨Journal.ofDeclarations, he, ?_, reached _ Journal.nested_thread, ?_, ?_, ?_⟩
  · exact (walked _ _).2 ⟨rfl, Journal.nested_thread, by decide⟩
  · exact (refused _).1 (by decide)
  · exact (refused _).2.1 ["thread", "reply"] [] (by decide) (by decide)
      fun _ => Journal.not_nested_reply
  · have status : Nested Journal.post.fields [("status", ⟨.enum "Status", false, none, none⟩)] :=
      .here rfl
    exact (refused _).2.2 [] _ _ ["remark"] status (by decide) (by decide) (by decide)

end FilterQuery.Schema
