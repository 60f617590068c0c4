import FilterQuery.Proofs.Schema.Rearranged
import FilterQuery.Schema.Document

namespace FilterQuery.Json

variable {name : String} {members members' : List (String × Json)}

theorem memberOnce_perm (h : members.Perm members') :
    memberOnce name members = memberOnce name members' := by
  have hf := h.filter fun m => m.1 == name
  unfold memberOnce
  generalize members.filter _ = found at hf
  generalize members'.filter _ = found' at hf
  rcases found with - | ⟨member, - | ⟨next, rest⟩⟩
  · rw [hf.nil_eq]
  · rw [hf.singleton_eq]
  · rcases found' with - | ⟨member', - | ⟨next', rest'⟩⟩
    · exact absurd hf.eq_nil (by simp)
    · exact absurd hf.eq_singleton (by simp)
    · rfl

theorem memberOnce_append_of_forall_ne (h : ∀ m ∈ members, m.1 ≠ name) :
    memberOnce name (members ++ members') = memberOnce name members' := by
  have absent : members.filter (fun m => m.1 == name) = [] :=
    List.filter_eq_nil_iff.2 fun m hm => by simpa using h m hm
  rw [memberOnce, List.filter_append, absent, List.nil_append, memberOnce]

theorem allMembersSupported_iff :
    allMembersSupported members ↔ ∀ m ∈ members, m.2.isSupported := by
  induction members with
  | nil => simp [allMembersSupported]
  | cons m rest ih => simp [allMembersSupported, ih]

theorem allMembersSupported_perm (h : members.Perm members') :
    allMembersSupported members = allMembersSupported members' := by
  rw [Bool.eq_iff_iff, allMembersSupported_iff, allMembersSupported_iff]
  exact forall_congr' fun m => by rw [h.mem_iff]

end FilterQuery.Json

namespace FilterQuery.Schema

open Json (memberOnce)

section

variable {members members' : List (String × Json)}

theorem innerOfMembers?_eq :
    innerOfMembers? members =
      (memberOnce "properties" members).bind (Json.optional innerOfJson? none) := by
  induction members with
  | nil => rfl
  | cons m rest ih =>
      obtain ⟨name, j⟩ := m
      by_cases hn : name = "properties"
      · subst hn
        have others : (rest.any fun m => m.1 == "properties") =
            !(rest.filter fun m => m.1 == "properties").isEmpty := by
          rw [Bool.eq_iff_iff]
          simp
        simp only [innerOfMembers?, if_true, others, memberOnce, List.filter_cons, beq_self_eq_true]
        cases rest.filter fun m => m.1 == "properties" <;> rfl
      · simp [innerOfMembers?, hn, ih, memberOnce]

theorem ofMembers?_perm {typeName? : Json → Option String} (h : members.Perm members') :
    FieldType.ofMembers? typeName? members = FieldType.ofMembers? typeName? members' := by
  have once : ∀ name, memberOnce name members = memberOnce name members' :=
    fun _ => Json.memberOnce_perm h
  have strings : stringMember? members = stringMember? members' := by
    funext name
    simp only [stringMember?, once]
  simp only [FieldType.ofMembers?, once, strings]

theorem fieldOfJson?_perm (h : members.Perm members') :
    fieldOfJson? (.object members) = fieldOfJson? (.object members') := by
  have once : ∀ name, memberOnce name members = memberOnce name members' :=
    fun _ => Json.memberOnce_perm h
  simp only [fieldOfJson?, innerOfMembers?_eq, once, ofMembers?_perm (h.filter _),
    Json.allMembersSupported_perm (h.filter _)]

end

section

variable {type : FieldType} {isArray : Bool} {storedAs : Option String} {properties : Option Json}
  {members : List (String × Json)}

def detailMembers (isArray : Bool) (storedAs : Option String) (properties : Option Json) :
    List (String × Json) :=
  ("array", .bool isArray) :: storedAsMembers storedAs ++
    (properties.map fun j => ("properties", j)).toList

def fieldMembers (type : FieldType) (isArray : Bool) (storedAs : Option String)
    (properties : Option Json) : List (String × Json) :=
  type.toMembers ++ detailMembers isArray storedAs properties

theorem fieldToJson_eq {fields : Option (List (String × Field))} :
    fieldToJson ⟨type, isArray, storedAs, fields⟩ =
      .object (fieldMembers type isArray storedAs
        (fields.map fun inner => .object (fieldsToMembers inner))) := by
  cases fields <;> simp [fieldToJson, fieldMembers, detailMembers, innerToMembers]

theorem ofMembers?_toMembers : FieldType.ofMembers? typeName? type.toMembers = some type := by
  cases type <;> simp [FieldType.ofMembers?, FieldType.toMembers, FieldType.name, memberOnce,
    typeName?, FieldType.ofName?, stringMember?, Json.string?]

theorem allMembersSupported_toMembers : Json.allMembersSupported type.toMembers := by
  cases type <;> simp [FieldType.toMembers, Json.allMembersSupported, Json.isSupported]

theorem not_mem_ownMembers_of_mem_toMembers : ∀ m ∈ type.toMembers, m.1 ∉ ownMembers := by
  cases type <;> simp [FieldType.toMembers, ownMembers]

theorem mem_ownMembers_of_mem_detailMembers :
    ∀ m ∈ detailMembers isArray storedAs properties, m.1 ∈ ownMembers := by
  cases storedAs <;> cases properties <;> simp [detailMembers, storedAsMembers, ownMembers]

theorem filter_fieldMembers :
    (fieldMembers type isArray storedAs properties).filter (fun m => !ownMembers.contains m.1) =
      type.toMembers := by
  have others : type.toMembers.filter (fun m => !ownMembers.contains m.1) = type.toMembers :=
    List.filter_eq_self.2 fun m hm => by simpa using not_mem_ownMembers_of_mem_toMembers m hm
  have own : (detailMembers isArray storedAs properties).filter
      (fun m => !ownMembers.contains m.1) = [] :=
    List.filter_eq_nil_iff.2 fun m hm => by simpa using mem_ownMembers_of_mem_detailMembers m hm
  rw [fieldMembers, List.filter_append, others, own, List.append_nil]

theorem memberOnce_fieldMembers {name : String} (hn : name ∈ ownMembers) :
    memberOnce name (fieldMembers type isArray storedAs properties) =
      memberOnce name (detailMembers isArray storedAs properties) := by
  refine Json.memberOnce_append_of_forall_ne fun m hm he => ?_
  exact not_mem_ownMembers_of_mem_toMembers m hm (he ▸ hn)

theorem fieldOfJson?_fieldMembers
    (h : members.Perm (fieldMembers type isArray storedAs properties)) :
    fieldOfJson? (.object members) = (Json.optional innerOfJson? none properties).map
      fun fields => ⟨type, isArray, storedAs, fields⟩ := by
  have array : memberOnce "array" (detailMembers isArray storedAs properties) =
      some (some (.bool isArray)) := by
    cases storedAs <;> cases properties <;> simp [memberOnce, detailMembers, storedAsMembers]
  have stored : memberOnce "stored_as" (detailMembers isArray storedAs properties) =
      some (storedAs.map .string) := by
    cases storedAs <;> cases properties <;> simp [memberOnce, detailMembers, storedAsMembers]
  have inner : memberOnce "properties" (detailMembers isArray storedAs properties) =
      some properties := by
    cases storedAs <;> cases properties <;> simp [memberOnce, detailMembers, storedAsMembers]
  have isArray? : Json.optional Json.bool? false (some (.bool isArray)) = some isArray := rfl
  have storedAs? : Json.optional storedAs? none (storedAs.map .string) = some storedAs := by
    cases storedAs <;> rfl
  have own : "array" ∈ ownMembers ∧ "stored_as" ∈ ownMembers ∧ "properties" ∈ ownMembers := by
    simp [ownMembers]
  rw [fieldOfJson?_perm h]
  simp only [fieldOfJson?, filter_fieldMembers, allMembersSupported_toMembers,
    ofMembers?_toMembers, innerOfMembers?_eq, memberOnce_fieldMembers own.1,
    memberOnce_fieldMembers own.2.1, memberOnce_fieldMembers own.2.2, array, stored, inner]
  cases hp : Json.optional innerOfJson? none properties <;> simp [hp, isArray?, storedAs?]

end

theorem innerOfMembers?_of_fieldOfJson? {members : List (String × Json)} {f : Field}
    (h : fieldOfJson? (.object members) = some f) : innerOfMembers? members = some f.fields := by
  rw [fieldOfJson?] at h
  split at h
  · cases h
  · simp only [Option.bind_eq_bind, Option.bind_eq_some_iff] at h
    obtain ⟨type, -, _, -, isArray, -, _, -, storedAs, -, fields, hi, h⟩ := h
    cases h
    exact hi

def Distinct (fields : List (String × Field)) : Prop :=
  (fields.map Prod.fst).Nodup ∧
    ∀ name f, Declared fields name f → ∀ inner, f.fields = some inner → (inner.map Prod.fst).Nodup

section

variable {fields : List (String × Field)} {name : String} {f : Field}

theorem distinct_iff :
    Distinct fields ↔ (fields.map Prod.fst).Nodup ∧
      ∀ name f, (name, f) ∈ fields → ∀ inner, f.fields = some inner → Distinct inner := by
  rw [Distinct, forall_declared_iff]
  refine and_congr_right fun _ => forall₃_congr fun name f _ => ?_
  simp only [Distinct, forall_and]

theorem distinct_nil : Distinct [] :=
  distinct_iff.2 ⟨.nil, by simp⟩

theorem distinct_cons_iff :
    Distinct ((name, f) :: fields) ↔
      name ∉ fields.map Prod.fst ∧ (∀ inner, f.fields = some inner → Distinct inner) ∧
        Distinct fields := by
  rw [distinct_iff, List.map_cons, List.nodup_cons, @distinct_iff fields]
  constructor
  · rintro ⟨⟨fresh, nodup⟩, inner⟩
    exact ⟨fresh, inner name f List.mem_cons_self, nodup,
      fun other g hg => inner other g (List.mem_cons_of_mem _ hg)⟩
  · rintro ⟨fresh, first, nodup, others⟩
    refine ⟨⟨fresh, nodup⟩, fun other g hg => ?_⟩
    rcases List.mem_cons.1 hg with he | hg
    · cases he
      exact first
    · exact others other g hg

theorem Distinct.rearranged {fields' : List (String × Field)} (hd : Distinct fields)
    (h : Rearranged fields fields') : Distinct fields' := by
  induction h with
  | nil => exact hd
  | cons entry h ih =>
      obtain ⟨fresh, inner, others⟩ := distinct_cons_iff.1 hd
      exact distinct_cons_iff.2 ⟨mt h.perm_names.mem_iff.2 fresh, inner, ih others⟩
  | embedded _ h ihi ih =>
      obtain ⟨fresh, inner, others⟩ := distinct_cons_iff.1 hd
      refine distinct_cons_iff.2 ⟨mt h.perm_names.mem_iff.2 fresh, ?_, ih others⟩
      rintro _ ⟨⟩
      exact ihi (inner _ rfl)
  | swap first second fields =>
      obtain ⟨fresh, inner, others⟩ := distinct_cons_iff.1 hd
      obtain ⟨fresh', inner', others⟩ := distinct_cons_iff.1 others
      simp only [List.map_cons, List.mem_cons, not_or] at fresh
      refine distinct_cons_iff.2 ⟨?_, inner', distinct_cons_iff.2 ⟨fresh.2, inner, others⟩⟩
      exact List.not_mem_cons_of_ne_of_not_mem (Ne.symm fresh.1) fresh'
  | trans _ _ ih ih' => exact ih' (ih hd)

theorem addField_eq :
    addField name f fields =
      if name ∈ fields.map Prod.fst then fields else (name, f) :: fields := by
  have found : (fields.any fun g => g.1 == name) ↔ name ∈ fields.map Prod.fst := by
    simp
  simp only [addField, found]

theorem Distinct.addField (h : Distinct fields)
    (hf : ∀ inner, f.fields = some inner → Distinct inner) :
    Distinct (addField name f fields) := by
  rw [addField_eq]
  split
  · exact h
  · next fresh => exact distinct_cons_iff.2 ⟨fresh, hf, h⟩

end

mutual

theorem distinct_of_fieldOfJson? {j : Json} {f : Field} (h : fieldOfJson? j = some f) :
    ∀ inner, f.fields = some inner → Distinct inner := by
  cases j with
  | object members =>
      exact distinct_of_innerOfMembers? (innerOfMembers?_of_fieldOfJson? h)
  | _ => simp [fieldOfJson?] at h

theorem distinct_of_innerOfMembers? {members : List (String × Json)}
    {fields : Option (List (String × Field))} (h : innerOfMembers? members = some fields) :
    ∀ inner, fields = some inner → Distinct inner := by
  cases members with
  | nil =>
      cases h
      simp
  | cons m rest =>
      obtain ⟨name, j⟩ := m
      rw [innerOfMembers?] at h
      split at h
      · split at h
        · cases h
        · exact distinct_of_innerOfJson? h
      · exact distinct_of_innerOfMembers? h

theorem distinct_of_innerOfJson? {j : Json} {fields : Option (List (String × Field))}
    (h : innerOfJson? j = some fields) : ∀ inner, fields = some inner → Distinct inner := by
  cases j with
  | null =>
      cases h
      simp
  | object members =>
      obtain ⟨inner, hi, rfl⟩ := Option.map_eq_some_iff.1 h
      rintro _ ⟨⟩
      exact distinct_of_fieldsOfMembers? hi
  | _ => simp [innerOfJson?] at h

theorem distinct_of_fieldsOfMembers? {members : List (String × Json)}
    {fields : List (String × Field)} (h : fieldsOfMembers? members = some fields) :
    Distinct fields := by
  cases members with
  | nil =>
      cases h
      exact distinct_nil
  | cons m rest =>
      obtain ⟨name, j⟩ := m
      obtain ⟨f, hf, h⟩ := Option.bind_eq_some_iff.1 h
      obtain ⟨others, ho, h⟩ := Option.bind_eq_some_iff.1 h
      cases h
      exact (distinct_of_fieldsOfMembers? ho).addField (distinct_of_fieldOfJson? hf)

end

inductive Documented : List (String × Field) → List (String × Json) → Prop
  | nil : Documented [] []
  | plain {name : String} {type : FieldType} {isArray : Bool} {storedAs : Option String}
      {fields : List (String × Field)} {members documents : List (String × Json)}
      (hm : members.Perm (fieldMembers type isArray storedAs none))
      (h : Documented fields documents) :
      Documented ((name, ⟨type, isArray, storedAs, none⟩) :: fields)
        ((name, .object members) :: documents)
  | embedding {name : String} {type : FieldType} {isArray : Bool} {storedAs : Option String}
      {inner fields : List (String × Field)} {innerDocuments members documents : List (String × Json)}
      (hi : Documented inner innerDocuments)
      (hm : members.Perm (fieldMembers type isArray storedAs (some (.object innerDocuments))))
      (h : Documented fields documents) :
      Documented ((name, ⟨type, isArray, storedAs, some inner⟩) :: fields)
        ((name, .object members) :: documents)

mutual

theorem documented_cons (name : String) (f : Field) {fields : List (String × Field)}
    {documents : List (String × Json)} (h : Documented fields documents) :
    Documented ((name, f) :: fields) ((name, fieldToJson f) :: documents) := by
  match f with
  | ⟨type, isArray, storedAs, none⟩ =>
      rw [fieldToJson_eq]
      exact .plain (.refl _) h
  | ⟨type, isArray, storedAs, some inner⟩ =>
      rw [fieldToJson_eq]
      exact .embedding (documented_fieldsToMembers inner) (.refl _) h

theorem documented_fieldsToMembers (fields : List (String × Field)) :
    Documented fields (fieldsToMembers fields) := by
  match fields with
  | [] => exact .nil
  | (name, f) :: rest => exact documented_cons name f (documented_fieldsToMembers rest)

end

theorem fieldsOfMembers?_of_documented {fields : List (String × Field)}
    {documents : List (String × Json)} (h : Documented fields documents) (hd : Distinct fields) :
    fieldsOfMembers? documents = some fields := by
  induction h with
  | nil => rfl
  | plain hm _ ih =>
      obtain ⟨fresh, -, others⟩ := distinct_cons_iff.1 hd
      rw [fieldsOfMembers?, fieldOfJson?_fieldMembers hm, ih others]
      simp [Json.optional, addField_eq, fresh]
  | embedding _ hm _ ihi ih =>
      obtain ⟨fresh, inner, others⟩ := distinct_cons_iff.1 hd
      rw [fieldsOfMembers?, fieldOfJson?_fieldMembers hm, Json.optional, innerOfJson?,
        ihi (inner _ rfl), ih others]
      simp [addField_eq, fresh]

def Entity.Documented (e : Entity) (members : List (String × Json)) : Prop :=
  ∃ documents, Schema.Documented e.fields documents ∧
    members.Perm [("name", .string e.name), ("id_field", .string e.idField),
      ("properties", .object documents)]

section

variable {e : Entity} {members : List (String × Json)}

theorem Entity.toJson_documented (e : Entity) :
    ∃ members, e.toJson = .object members ∧ e.Documented members :=
  ⟨_, rfl, _, documented_fieldsToMembers e.fields, .refl _⟩

theorem distinct_of_fieldsOfJson? {j : Option Json} {fields : List (String × Field)}
    (h : Json.optional fieldsOfJson? [] j = some fields) : Distinct fields := by
  cases j with
  | none =>
      cases h
      exact distinct_nil
  | some j =>
      cases j with
      | object members => exact distinct_of_fieldsOfMembers? h
      | _ => simp [Json.optional, fieldsOfJson?] at h

theorem distinct_of_entityOfJson? {j : Json} (h : entityOfJson? j = some e) :
    Distinct e.fields := by
  obtain ⟨values, -, h⟩ := Option.bind_eq_some_iff.1 h
  split at h
  · simp only [Option.bind_eq_bind, Option.bind_eq_some_iff] at h
    obtain ⟨_, -, name, -, idField, -, fields, hf, h⟩ := h
    cases h
    exact distinct_of_fieldsOfJson? hf
  · cases h

theorem entityOfJson?_of_documented (h : e.Documented members) (hd : Distinct e.fields) :
    entityOfJson? (.object members) = some e := by
  obtain ⟨documents, hf, hm⟩ := h
  have read := fieldsOfMembers?_of_documented hf hd
  simp only [entityOfJson?, Json.record?, Json.memberOnce_perm hm]
  simp [memberOnce, Json.string?, Json.optional, fieldsOfJson?, read]

end

theorem Entity.document_round_trip (e : Entity) :
    (entityOfJson? e.toJson = some e ↔ Distinct e.fields) ∧
      (Distinct e.fields → ∀ e' members, e.Rearranged e' → e'.Documented members →
        entityOfJson? (.object members) = some e') := by
  refine ⟨⟨distinct_of_entityOfJson?, fun hd => ?_⟩, fun hd e' members hr h => ?_⟩
  · obtain ⟨members, hj, h⟩ := e.toJson_documented
    rw [hj]
    exact entityOfJson?_of_documented h hd
  · exact entityOfJson?_of_documented h (hd.rearranged hr.fields)

end FilterQuery.Schema

namespace FilterQuery.Journal

open Schema (Entity)

def draft : Entity :=
  ⟨"", "id",
    [("body.text", ⟨.enum "Status", true, some "type", some []⟩),
     ("object", ⟨.object, false, none, none⟩),
     ("properties", ⟨.reference "", false, some "",
      some [("type", ⟨.custom "Money", true, none,
        some [("properties", ⟨.untyped, false, none, none⟩), ("", ⟨.date, false, none, none⟩)]⟩)]⟩)]⟩

end FilterQuery.Journal

namespace FilterQuery.Schema

theorem Entity.document_round_trip_draft :
    Distinct Journal.draft.fields ∧ entityOfJson? Journal.draft.toJson = some Journal.draft := by
  have distinct : Distinct Journal.draft.fields := by
    simp [Journal.draft, distinct_cons_iff, distinct_nil]
  exact ⟨distinct, (Entity.document_round_trip Journal.draft).1.2 distinct⟩

end FilterQuery.Schema
