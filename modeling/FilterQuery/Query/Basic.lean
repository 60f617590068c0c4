import FilterQuery.Query.Operator

namespace FilterQuery

open Query (Operator Connective)

inductive Query where
  | comparison (selector : String) (operator : Operator) (arguments : List String)
  | logical (connective : Connective) (children : List Query)
  deriving Repr

namespace Query

mutual

def decEq : (a b : Query) → Decidable (a = b)
  | .comparison s o as, .comparison t p bs =>
      if h : s = t ∧ o = p ∧ as = bs then
        isTrue (by obtain ⟨rfl, rfl, rfl⟩ := h; rfl)
      else
        isFalse (by intro e; injection e; exact h ⟨‹_›, ‹_›, ‹_›⟩)
  | .logical c xs, .logical d ys =>
      if h : c = d then
        match decEqAll xs ys with
        | isTrue k => isTrue (by rw [h, k])
        | isFalse k => isFalse (by intro e; injection e; exact k ‹_›)
      else
        isFalse (by intro e; injection e; exact h ‹_›)
  | .comparison .., .logical .. => isFalse (by intro e; injection e)
  | .logical .., .comparison .. => isFalse (by intro e; injection e)

def decEqAll : (as bs : List Query) → Decidable (as = bs)
  | [], [] => isTrue rfl
  | a :: as, b :: bs =>
      match decEq a b, decEqAll as bs with
      | isTrue h, isTrue k => isTrue (by rw [h, k])
      | isFalse h, _ => isFalse (by intro e; injection e; exact h ‹_›)
      | _, isFalse k => isFalse (by intro e; injection e; exact k ‹_›)
  | [], _ :: _ => isFalse (by intro e; injection e)
  | _ :: _, [] => isFalse (by intro e; injection e)

end

instance : DecidableEq Query := decEq

mutual

def depth : Query → Nat
  | .comparison .. => 1
  | .logical _ children => depthAll children + 1

def depthAll : List Query → Nat
  | [] => 0
  | q :: qs => max q.depth (depthAll qs)

end

theorem one_le_depth (q : Query) : 1 ≤ q.depth := by
  cases q <;> simp [depth]

def logicalDepth (q : Query) : Nat :=
  q.depth - 1

theorem logicalDepth_add_one (q : Query) : q.logicalDepth + 1 = q.depth :=
  Nat.sub_add_cancel q.one_le_depth

mutual

def selectors : Query → List String
  | .comparison selector _ _ => [selector]
  | .logical _ children => selectorsAll children

def selectorsAll : List Query → List String
  | [] => []
  | q :: qs => q.selectors ++ selectorsAll qs

end

end Query

end FilterQuery
