namespace FilterQuery.Outcome

variable {ε α β : Type}

@[simp]
theorem bind_eq_ok_iff {x : Except ε α} {f : α → Except ε β} {b : β} :
    x >>= f = .ok b ↔ ∃ a, x = .ok a ∧ f a = .ok b := by
  cases x with
  | error e => simp [bind, Except.bind]
  | ok a => simp [bind, Except.bind]

theorem then_eq_ok_iff {x : Except ε Unit} {y : Except ε β} {b : β} :
    (x >>= fun _ => y) = .ok b ↔ x = .ok () ∧ y = .ok b := by
  rw [bind_eq_ok_iff]
  constructor
  · rintro ⟨⟨⟩, hx, hy⟩
    exact ⟨hx, hy⟩
  · rintro ⟨hx, hy⟩
    exact ⟨(), hx, hy⟩

theorem forM_eq_ok_iff {f : α → Except ε Unit} {xs : List α} :
    xs.forM f = .ok () ↔ ∀ x ∈ xs, f x = .ok () := by
  induction xs with
  | nil => exact iff_of_true rfl (by simp)
  | cons x xs ih =>
      change (f x >>= fun _ => xs.forM f) = .ok () ↔ _
      rw [then_eq_ok_iff, ih, List.forall_mem_cons]

theorem bind_eq_error_iff {x : Except ε α} {f : α → Except ε β} {e : ε} :
    x >>= f = .error e ↔ x = .error e ∨ ∃ a, x = .ok a ∧ f a = .error e := by
  cases x with
  | error e' => simp [bind, Except.bind]
  | ok a => simp [bind, Except.bind]

def error? : Except ε α → Option ε
  | .ok _ => none
  | .error e => some e

@[simp]
theorem error?_eq_some_iff {x : Except ε α} {e : ε} : error? x = some e ↔ x = .error e := by
  cases x <;> simp [error?]

@[simp]
theorem error?_eq_none_iff {x : Except ε α} : error? x = none ↔ ∃ a, x = .ok a := by
  cases x <;> simp [error?]

def Settles (fault : Option ε) (Good : α → Prop) (x : Except ε α) : Prop :=
  match fault with
  | some e => x = .error e
  | none => ∃ a, x = .ok a ∧ Good a

theorem settles_self (x : Except ε α) : Settles (error? x) (fun a => x = .ok a) x := by
  cases x with
  | error e => rfl
  | ok a => exact ⟨a, rfl, rfl⟩

theorem settles_ok {Good : α → Prop} {a : α} (h : Good a) :
    Settles (none : Option ε) Good (.ok a) :=
  ⟨a, rfl, h⟩

theorem Settles.bind {first second : Option ε} {Good : α → Prop} {Better : β → Prop}
    {x : Except ε α} {f : α → Except ε β} (h : Settles first Good x)
    (k : ∀ a, Good a → Settles second Better (f a)) :
    Settles (first.or second) Better (x >>= f) := by
  cases first with
  | some e =>
      change x = .error e at h
      rw [h]
      rfl
  | none =>
      obtain ⟨a, rfl, ha⟩ := h
      exact k a ha

theorem Settles.map {fault : Option ε} {Good : α → Prop} {Better : β → Prop} {x : Except ε α}
    {f : α → β} (h : Settles fault Good x) (k : ∀ a, Good a → Better (f a)) :
    Settles fault Better (f <$> x) := by
  cases fault with
  | some e =>
      change x = .error e at h
      rw [h]
      rfl
  | none =>
      obtain ⟨a, rfl, ha⟩ := h
      exact ⟨f a, rfl, k a ha⟩

theorem Settles.good {fault : Option ε} {Good : α → Prop} {a : α}
    (h : Settles fault Good (.ok a)) : Good a := by
  cases fault with
  | some e => cases h
  | none =>
      obtain ⟨_, hx, ha⟩ := h
      cases hx
      exact ha

theorem Settles.fault {fault : Option ε} {Good : α → Prop} {e : ε}
    (h : Settles fault Good (.error e)) : fault = some e := by
  cases fault with
  | some e' =>
      cases h
      rfl
  | none =>
      obtain ⟨_, hx, _⟩ := h
      cases hx

theorem mapError_eq_ok_iff {ε' : Type} {g : ε → ε'} {x : Except ε α} {a : α} :
    x.mapError g = .ok a ↔ x = .ok a := by
  cases x with
  | error fault => exact ⟨nofun, nofun⟩
  | ok b =>
      constructor <;> intro h <;> cases h <;> rfl

theorem mapError_eq_error_iff {ε' : Type} {g : ε → ε'} {x : Except ε α} {e : ε'} :
    x.mapError g = .error e ↔ ∃ fault, x = .error fault ∧ g fault = e := by
  cases x with
  | error fault =>
      constructor
      · intro h
        exact ⟨fault, rfl, Except.error.inj h⟩
      · rintro ⟨fault', hx, rfl⟩
        cases hx
        rfl
  | ok a =>
      constructor
      · nofun
      · rintro ⟨fault, hx, -⟩
        cases hx

theorem mapError_map {ε' : Type} (g : ε → ε') (f : α → β) (x : Except ε α) :
    (f <$> x).mapError g = f <$> x.mapError g := by
  cases x <;> rfl

theorem mapError_bind {ε' : Type} (g : ε → ε') (x : Except ε α) (f : α → Except ε β) :
    (x >>= f).mapError g = x.mapError g >>= fun a => (f a).mapError g := by
  cases x <;> rfl

end FilterQuery.Outcome
