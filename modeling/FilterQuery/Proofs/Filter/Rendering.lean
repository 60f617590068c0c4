import FilterQuery.Filter.Document
import FilterQuery.Proofs.Lists
import FilterQuery.Proofs.Time.Writing

namespace FilterQuery

open Number (Double)
open Query (Operator Connective)
open Time (Instant)

namespace Json

mutual

def Agree (same : Double → Double → Prop) : Json → Json → Prop
  | .null, .null => True
  | .bool a, .bool b => a = b
  | .integer a, .integer b => a = b
  | .real a, .real b => same a b
  | .string a, .string b => a = b
  | .array js, .array ks => AgreeAll same js ks
  | .object ms, .object ns => AgreeMembers same ms ns
  | .unsupported, .unsupported => True
  | _, _ => False

def AgreeAll (same : Double → Double → Prop) : List Json → List Json → Prop
  | [], [] => True
  | j :: js, k :: ks => j.Agree same k ∧ AgreeAll same js ks
  | _, _ => False

def AgreeMembers (same : Double → Double → Prop) :
    List (String × Json) → List (String × Json) → Prop
  | [], [] => True
  | (name, j) :: ms, (name', k) :: ns => name = name' ∧ j.Agree same k ∧ AgreeMembers same ms ns
  | _, _ => False

end

mutual

theorem agree_eq_iff {j k : Json} : j.Agree Eq k ↔ j = k := by
  cases j <;> cases k <;> simp [Agree, agreeAll_eq_iff, agreeMembers_eq_iff]

theorem agreeAll_eq_iff {js ks : List Json} : AgreeAll Eq js ks ↔ js = ks := by
  cases js <;> cases ks <;> simp [AgreeAll, agree_eq_iff, agreeAll_eq_iff]

theorem agreeMembers_eq_iff {ms ns : List (String × Json)} : AgreeMembers Eq ms ns ↔ ms = ns := by
  cases ms <;> cases ns <;>
    simp [AgreeMembers, agree_eq_iff, agreeMembers_eq_iff, Prod.ext_iff, and_assoc]

end

end Json

@[elab_as_elim, induction_eliminator]
theorem Filter.inductionOn {motive : Filter → Prop} (f : Filter)
    (field : ∀ path operator operand, motive (.field path operator operand))
    (logical : ∀ join children, (∀ f ∈ children, motive f) → motive (.logical join children)) :
    motive f := by
  refine @Filter.rec motive (fun children => ∀ f ∈ children, motive f) field logical ?_ ?_ f
  · simp
  · intro f rest hf hrest
    exact List.forall_mem_cons.2 ⟨hf, hrest⟩

def Value.word? : Value → Option String
  | .string s => some s
  | .member _ m => some m
  | _ => none

def Value.isLeapSecond : Value → Bool
  | .instant t => Time.billion ≤ t.nanos
  | _ => false

namespace Filter

inductive Plain : Filter → Prop
  | field {path : String} {operator : Operator} {operand : Operand}
      (h : path ∉ ["$and", "$or"]) : Plain (.field path operator operand)
  | logical {join : Connective} {children : List Filter} (h : ∀ f ∈ children, Plain f) :
      Plain (.logical join children)

def Operand.Alike (same : Double → Double → Prop) : Operand → Operand → Prop
  | .single v, .single w => (valueDocument v).Agree same (valueDocument w)
  | .multiple vs, .multiple ws =>
      List.Forall₂ (fun v w => (valueDocument v).Agree same (valueDocument w)) vs ws
  | _, _ => False

inductive Alike (same : Double → Double → Prop) : Filter → Filter → Prop
  | field {operand operand' : Operand} (path : String) (operator : Operator)
      (h : operand.Alike same operand') :
      Alike same (.field path operator operand) (.field path operator operand')
  | logical {children children' : List Filter} (join : Connective)
      (h : List.Forall₂ (Alike same) children children') :
      Alike same (.logical join children) (.logical join children')

section

variable {same : Double → Double → Prop} {j k : Json} {name name' : String} {v w : Value}
  {o o' : Operator} {a b : Operand}

open Json (Agree AgreeAll AgreeMembers)

theorem agree_single_iff :
    (single name j).Agree same (single name' k) ↔ name = name' ∧ j.Agree same k := by
  simp [single, Agree, AgreeMembers]

theorem agree_array_map_iff {α : Type} {document : α → Json} {as bs : List α} :
    (Json.array (as.map document)).Agree same (.array (bs.map document)) ↔
      List.Forall₂ (fun x y => (document x).Agree same (document y)) as bs := by
  rw [Agree]
  induction as generalizing bs with
  | nil => cases bs <;> simp [AgreeAll]
  | cons a as ih => cases bs <;> simp [AgreeAll, ih]

def names : Json → List String
  | .object members => members.map Prod.fst
  | _ => []

theorem agreeMembers_names {ms ns : List (String × Json)} (h : AgreeMembers same ms ns) :
    ms.map Prod.fst = ns.map Prod.fst := by
  induction ms generalizing ns with
  | nil =>
      cases ns with
      | nil => rfl
      | cons n ns => exact h.elim
  | cons m ms ih =>
      cases ns with
      | nil => exact h.elim
      | cons n ns =>
          obtain ⟨name, -, rest⟩ := h
          rw [List.map_cons, List.map_cons, name, ih rest]

theorem agree_names (h : j.Agree same k) : names j = names k := by
  cases j with
  | object ms =>
      cases k with
      | object ns => exact agreeMembers_names h
      | _ => exact h.elim
  | _ =>
      cases k with
      | object ns => exact h.elim
      | _ => rfl

def reservedNames : List String :=
  ["$numberDouble", "$date", "$oid"]

theorem mem_reservedNames_of_names (h : name ∈ names (valueDocument v)) :
    name ∈ reservedNames := by
  cases v with
  | double d =>
      simp only [valueDocument] at h
      split at h
      · cases h
      · simp [List.mem_singleton.1 h, reservedNames]
  | instant t => simp [List.mem_singleton.1 h, reservedNames]
  | objectId digits => simp [List.mem_singleton.1 h, reservedNames]
  | _ => cases h

theorem valueDocument_double (d : Double) :
    valueDocument (.double d) = .real d ∨
      ∃ s, valueDocument (.double d) = single "$numberDouble" (.string s) := by
  rw [valueDocument]
  split
  · exact .inl rfl
  · exact .inr ⟨_, rfl⟩

theorem not_agree_double (d : Double) (hw : w.double? = none) :
    ¬(valueDocument (.double d)).Agree same (valueDocument w) ∧
      ¬(valueDocument w).Agree same (valueDocument (.double d)) := by
  cases w with
  | double d' => cases hw
  | _ =>
      obtain h | ⟨s, h⟩ := valueDocument_double d <;> rw [h] <;>
        simp [valueDocument, single, Agree, AgreeMembers]

theorem valueDocument_of_word? {s : String} (h : v.word? = some s) :
    valueDocument v = .string s := by
  cases v with
  | string s => rw [← Option.some.inj h, valueDocument]
  | member e m => rw [← Option.some.inj h, valueDocument]
  | _ => cases h

theorem agree_string_iff {s : String} :
    (Json.string s).Agree same (valueDocument w) ↔ w.word? = some s := by
  constructor
  · intro h
    cases w with
    | double d =>
        obtain hd | ⟨s', hd⟩ := valueDocument_double d <;> rw [hd] at h <;> exact h.elim
    | string s' => exact congrArg some (Eq.symm h)
    | member e m => exact congrArg some (Eq.symm h)
    | _ => exact h.elim
  · intro h
    rw [valueDocument_of_word? h, Agree]

theorem agree_instant_iff {t u : Instant} (ht : t.nanos < Time.billion)
    (hu : u.nanos < Time.billion) :
    (valueDocument (.instant t)).Agree same (valueDocument (.instant u)) ↔
      t.millis = u.millis := by
  rw [valueDocument, valueDocument, agree_single_iff, ← Instant.writeMillis_eq_iff ht hu]
  simp [Agree, String.ofList_inj]

theorem agree_value_iff (hv : v.double? = none) (hw : w.double? = none)
    (lv : ¬v.isLeapSecond) (lw : ¬w.isLeapSecond) :
    (valueDocument v).Agree same (valueDocument w) ↔
      v = w ∨ (∃ s, v.word? = some s ∧ w.word? = some s) ∨
        ∃ t u, v = .instant t ∧ w = .instant u ∧ t.millis = u.millis := by
  have nanos {t : Instant} (h : ¬(Value.instant t).isLeapSecond) : t.nanos < Time.billion := by
    simpa [Value.isLeapSecond] using h
  constructor
  · intro h
    cases v with
    | double d => cases hv
    | string s => exact .inr (.inl ⟨s, rfl, agree_string_iff.1 h⟩)
    | member e m => exact .inr (.inl ⟨m, rfl, agree_string_iff.1 h⟩)
    | instant t =>
        cases w with
        | double d => cases hw
        | instant u =>
            exact .inr (.inr ⟨t, u, rfl, rfl, (agree_instant_iff (nanos lv) (nanos lw)).1 h⟩)
        | objectId digits => exact absurd (agree_single_iff.1 h).1 (by decide)
        | _ => exact h.elim
    | _ =>
        left
        cases w with
        | double d => cases hw
        | _ => simp_all [valueDocument, single, Agree, AgreeMembers]
  · rintro (rfl | ⟨s, hs, hs'⟩ | ⟨t, u, rfl, rfl, h⟩)
    · cases v with
      | double d => cases hv
      | _ => simp [valueDocument, single, Agree, AgreeMembers]
    · rw [valueDocument_of_word? hs, valueDocument_of_word? hs', Agree]
    · exact (agree_instant_iff (nanos lv) (nanos lw)).2 h

theorem not_agree_array (v : Value) (js : List Json) :
    ¬(valueDocument v).Agree same (.array js) ∧ ¬(Json.array js).Agree same (valueDocument v) := by
  cases v with
  | double d =>
      obtain h | ⟨s, h⟩ := valueDocument_double d <;> rw [h] <;> exact ⟨id, id⟩
  | _ => exact ⟨id, id⟩

theorem agree_operand_iff :
    (operandDocument a).Agree same (operandDocument b) ↔ a.Alike same b := by
  cases a with
  | single v =>
      cases b with
      | single w => exact Iff.rfl
      | multiple ws => exact iff_of_false (not_agree_array v _).1 id
  | multiple vs =>
      cases b with
      | single w => exact iff_of_false (not_agree_array w _).2 id
      | multiple ws => exact agree_array_map_iff

theorem mem_reservedNames_of_operand (h : name ∈ names (operandDocument a)) :
    name ∈ reservedNames := by
  cases a with
  | single v => exact mem_reservedNames_of_names h
  | multiple vs => cases h

theorem operatorKey?_injective (h : operatorKey? o = operatorKey? o') : o = o' := by
  have distinct : ∀ o ∈ Operator.every, ∀ o' ∈ Operator.every,
      operatorKey? o = operatorKey? o' → o = o' := by decide
  exact distinct o (Operator.mem_every o) o' (Operator.mem_every o') h

theorem operatorKey?_not_reserved (h : name ∈ operatorKey? o) : name ∉ reservedNames := by
  have apart : ∀ o ∈ Operator.every, ∀ name ∈ operatorKey? o, name ∉ reservedNames := by decide
  exact apart o (Operator.mem_every o) name h

def operatorDocument (operator : Operator) (operand : Json) : Json :=
  match operatorKey? operator with
  | none => operand
  | some key => single key operand

theorem clauseDocument_eq (path : String) (operator : Operator) (operand : Json) :
    clauseDocument path operator operand = single path (operatorDocument operator operand) := by
  rw [clauseDocument, operatorDocument]
  cases operatorKey? operator <;> rfl

theorem not_agree_operand (h : name ∈ operatorKey? o) :
    ¬(operandDocument a).Agree same (single name j) ∧
      ¬(single name j).Agree same (operandDocument a) := by
  have apart : names (operandDocument a) ≠ [name] := fun hn =>
    operatorKey?_not_reserved h (mem_reservedNames_of_operand (a := a) (by simp [hn]))
  exact ⟨fun ha => apart (agree_names ha), fun ha => apart (agree_names ha).symm⟩

theorem agree_operator_iff :
    (operatorDocument o (operandDocument a)).Agree same
        (operatorDocument o' (operandDocument b)) ↔ o = o' ∧ a.Alike same b := by
  rw [operatorDocument, operatorDocument]
  by_cases ho : o = o'
  · subst ho
    cases operatorKey? o with
    | none => simp [agree_operand_iff]
    | some key => simp [agree_single_iff, agree_operand_iff]
  · have distinct : operatorKey? o ≠ operatorKey? o' := mt operatorKey?_injective ho
    refine iff_of_false ?_ fun h => ho h.1
    cases hk : operatorKey? o with
    | none =>
        cases hk' : operatorKey? o' with
        | none => exact absurd (hk.trans hk'.symm) distinct
        | some key' => exact (not_agree_operand hk').1
    | some key =>
        cases hk' : operatorKey? o' with
        | none => exact (not_agree_operand hk).2
        | some key' =>
            intro h
            rw [hk, hk', (agree_single_iff.1 h).1] at distinct
            exact distinct rfl

theorem agree_clause_iff {path path' : String} :
    (document (.field path o a)).Agree same (document (.field path' o' b)) ↔
      path = path' ∧ o = o' ∧ a.Alike same b := by
  rw [document, document, clauseDocument_eq, clauseDocument_eq, agree_single_iff,
    agree_operator_iff]

theorem documents_eq_map (fs : List Filter) : documents fs = fs.map document := by
  induction fs with
  | nil => rfl
  | cons f fs ih => rw [documents, ih, List.map_cons]

theorem agree_logical_iff {join join' : Connective} {fs gs : List Filter} :
    (document (.logical join fs)).Agree same (document (.logical join' gs)) ↔
      join = join' ∧ List.Forall₂ (fun f g => f.document.Agree same g.document) fs gs := by
  have keys : joinKey join = joinKey join' ↔ join = join' := by
    cases join <;> cases join' <;> decide
  rw [document, document, agree_single_iff, documents_eq_map, documents_eq_map,
    agree_array_map_iff, keys]

theorem not_agree_clause {path : String} {join : Connective} {fs : List Filter}
    (h : Plain (.field path o a)) :
    ¬(document (.field path o a)).Agree same (document (.logical join fs)) ∧
      ¬(document (.logical join fs)).Agree same (document (.field path o a)) := by
  have apart : path ≠ joinKey join := by
    rintro rfl
    cases h with
    | field h => cases join <;> simp [joinKey] at h
  rw [document, document, clauseDocument_eq, agree_single_iff, agree_single_iff]
  exact ⟨fun h => apart h.1, fun h => apart h.1.symm⟩

theorem agree_document_iff {f g : Filter} (hf : f.Plain) (hg : g.Plain) :
    f.document.Agree same g.document ↔ f.Alike same g := by
  induction f generalizing g with
  | field path operator operand =>
      cases g with
      | field path' operator' operand' =>
          rw [agree_clause_iff]
          constructor
          · rintro ⟨rfl, rfl, h⟩
            exact .field path operator h
          · rintro ⟨⟩
            exact ⟨rfl, rfl, ‹_›⟩
      | logical join children =>
          refine iff_of_false (not_agree_clause hf).1 ?_
          rintro ⟨⟩
  | logical join children ih =>
      cases g with
      | field path operator operand =>
          refine iff_of_false (not_agree_clause hg).2 ?_
          rintro ⟨⟩
      | logical join' children' =>
          obtain - | plain := hf
          obtain - | plain' := hg
          rw [agree_logical_iff, forall₂_congr_of_mem fun f hm g hm' =>
            ih f hm (plain f hm) (plain' g hm')]
          constructor
          · rintro ⟨rfl, h⟩
            exact .logical join h
          · rintro ⟨⟩
            exact ⟨rfl, ‹_›⟩

theorem document_eq_iff {f g : Filter} (hf : f.Plain) (hg : g.Plain) :
    f.document = g.document ↔ f.Alike Eq g := by
  rw [← Json.agree_eq_iff, agree_document_iff hf hg]

end

theorem document_tells_apart (same : Double → Double → Prop) :
    (∀ f g : Filter, f.Plain → g.Plain →
      (f.document.Agree same g.document ↔ f.Alike same g)) ∧
    (∀ v w : Value, v.double? = none → w.double? = none → ¬v.isLeapSecond → ¬w.isLeapSecond →
      ((valueDocument v).Agree same (valueDocument w) ↔
        v = w ∨ (∃ s, v.word? = some s ∧ w.word? = some s) ∨
          ∃ t u, v = .instant t ∧ w = .instant u ∧ t.millis = u.millis)) ∧
    (∀ d w, w.double? = none →
      ¬(valueDocument (.double d)).Agree same (valueDocument w) ∧
        ¬(valueDocument w).Agree same (valueDocument (.double d))) :=
  ⟨fun _ _ hf hg => agree_document_iff hf hg,
    fun _ _ hv hw lv lw => agree_value_iff hv hw lv lw,
    fun d _ hw => not_agree_double d hw⟩

theorem document_tells_apart_zeros :
    let same (a b : Double) : Prop := a.equal b
    let v := Value.instant ⟨0, 1⟩
    let w := Value.instant ⟨0, 999999⟩
    let f := Filter.logical .or
      [.field "a" .equal (.single (.double (.finite false .zero))),
       .field "b" .isIn (.multiple [.string "X", v])]
    let g := Filter.logical .or
      [.field "a" .equal (.single (.double (.finite true .zero))),
       .field "b" .isIn (.multiple [.member "E" "X", w])]
    (v.double? = none ∧ w.double? = none ∧ ¬v.isLeapSecond ∧ ¬w.isLeapSecond ∧
      (valueDocument v).Agree same (valueDocument w)) ∧
    (f.Plain ∧ g.Plain ∧ f.document.Agree same g.document ∧ f.Alike same g) ∧
    ((Value.string "NaN").double? = none ∧
      ¬(valueDocument (.double .nan)).Agree same (valueDocument (.string "NaN"))) := by
  intro same v w f g
  obtain ⟨filters, values, doubles⟩ := document_tells_apart same
  have written : (valueDocument v).Agree same (valueDocument w) :=
    (values v w rfl rfl (by decide) (by decide)).2 (.inr (.inr ⟨_, _, rfl, rfl, by decide⟩))
  have plain : f.Plain := .logical (by simpa using ⟨.field (by decide), .field (by decide)⟩)
  have plain' : g.Plain := .logical (by simpa using ⟨.field (by decide), .field (by decide)⟩)
  have zeros : (Operand.single (.double (.finite false .zero))).Alike same
      (.single (.double (.finite true .zero))) := rfl
  have members : (Operand.multiple [.string "X", v]).Alike same
      (.multiple [.member "E" "X", w]) := .cons rfl (.cons written .nil)
  have agree : f.document.Agree same g.document :=
    agree_logical_iff.2 ⟨rfl, .cons (agree_clause_iff.2 ⟨rfl, rfl, zeros⟩)
      (.cons (agree_clause_iff.2 ⟨rfl, rfl, members⟩) .nil)⟩
  exact ⟨⟨rfl, rfl, by decide, by decide, written⟩,
    ⟨plain, plain', agree, (filters f g plain plain').1 agree⟩, rfl, (doubles .nan _ rfl).1⟩

end Filter

end FilterQuery
