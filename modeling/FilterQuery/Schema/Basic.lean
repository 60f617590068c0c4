import FilterQuery.Schema.Mapping

namespace FilterQuery.Schema

structure Declarations where
  entities : List Entity
  enums : List EnumType
  deriving DecidableEq, Repr

section

variable (d : Declarations)

def Declarations.entity? (name : String) : Option Entity :=
  d.entities.find? fun e => e.name == name

def Declarations.enum? (name : String) : Option EnumType :=
  d.enums.find? fun e => e.name == name

def Declarations.hasEntity (name : String) : Bool :=
  (d.entity? name).isSome

def Declarations.hasEnum (name : String) : Bool :=
  (d.enum? name).isSome

end

theorem mem_of_entity? {d : Declarations} {name : String} {e : Entity}
    (h : d.entity? name = some e) : e ∈ d.entities ∧ e.name = name :=
  ⟨List.mem_of_find?_eq_some h, by simpa using List.find?_some h⟩

def insertName (name : String) : List String → List String
  | [] => [name]
  | other :: rest => if name < other then name :: other :: rest else other :: insertName name rest

def sortNames : List String → List String
  | [] => []
  | name :: rest => insertName name (sortNames rest)

theorem mem_insertName {name wanted : String} {names : List String} :
    wanted ∈ insertName name names ↔ wanted = name ∨ wanted ∈ names := by
  induction names with
  | nil => simp [insertName]
  | cons other rest ih =>
      simp only [insertName]
      split
      · simp
      · simp only [List.mem_cons, ih]
        exact or_left_comm

theorem mem_sortNames {wanted : String} {names : List String} :
    wanted ∈ sortNames names ↔ wanted ∈ names := by
  induction names with
  | nil => simp [sortNames]
  | cons name rest ih => simp [sortNames, mem_insertName, ih]

def Declarations.entityNames (d : Declarations) : List String :=
  sortNames (d.entities.map Entity.name)

inductive ChainFault where
  | cycle (entity : String)
  | missing (entity idField : String)
  | unknown (entity target : String)
  | notScalar (entity typeName : String)
  deriving DecidableEq, Repr

def Declarations.identifierType (d : Declarations) (unvisited : List String) (e : Entity) :
    Except ChainFault FieldType :=
  if _h : e.name ∈ unvisited then
    match e.id? with
    | none => .error (.missing e.name e.idField)
    | some f =>
        match f.type with
        | .reference target =>
            match d.entity? target with
            | none => .error (.unknown e.name target)
            | some next => d.identifierType (unvisited.erase e.name) next
        | type =>
            if type.isScalar then .ok type else .error (.notScalar e.name type.name)
  else
    .error (.cycle e.name)
termination_by unvisited.length
decreasing_by
  have := List.length_pos_of_mem _h
  rw [List.length_erase_of_mem _h]
  omega

def Declarations.idType (d : Declarations) (e : Entity) : Except ChainFault FieldType :=
  d.identifierType (d.entities.map Entity.name) e

def Declarations.Refers (d : Declarations) (next e : Entity) : Prop :=
  ∃ f target, e.id? = some f ∧ f.type = .reference target ∧ d.entity? target = some next

theorem acc_of_identifierType {d : Declarations} {unvisited : List String} {e : Entity}
    {type : FieldType} (h : d.identifierType unvisited e = .ok type) : Acc d.Refers e := by
  fun_induction d.identifierType unvisited e with
  | case1 => cases h
  | case2 => cases h
  | case3 unvisited e _ f hf target ht next hn ih =>
      refine ⟨e, ?_⟩
      rintro other ⟨g, other, hg, hgt, ho⟩
      cases hf.symm.trans hg
      cases ht.symm.trans hgt
      cases hn.symm.trans ho
      exact ih h
  | case4 unvisited e _ f hf hr _ =>
      refine ⟨e, ?_⟩
      rintro other ⟨g, target, hg, hgt, -⟩
      cases hf.symm.trans hg
      exact absurd hgt (hr target)
  | case5 => cases h
  | case6 => cases h

end FilterQuery.Schema
