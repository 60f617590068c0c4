namespace FilterQuery.Text

def pieces (mark : Char) : List Char → List (List Char)
  | [] => [[]]
  | c :: rest =>
      match pieces mark rest with
      | [] => [[c]]
      | piece :: more => if c = mark then [] :: piece :: more else (c :: piece) :: more

theorem pieces_ne_nil (mark : Char) (s : List Char) : pieces mark s ≠ [] := by
  cases s with
  | nil => simp [pieces]
  | cons c rest =>
      simp only [pieces]
      split
      · simp
      · split <;> simp

theorem pieces_of_not_mem {mark : Char} {s : List Char} (h : mark ∉ s) : pieces mark s = [s] := by
  induction s with
  | nil => rfl
  | cons c rest ih =>
      simp only [List.mem_cons, not_or] at h
      have hc : c ≠ mark := fun e => h.1 e.symm
      rw [pieces, ih h.2]
      simp [hc]

theorem mark_not_mem_of_mem_pieces {mark : Char} {s piece : List Char}
    (h : piece ∈ pieces mark s) : mark ∉ piece := by
  induction s generalizing piece with
  | nil =>
      simp [pieces] at h
      simp [h]
  | cons c rest ih =>
      simp only [pieces] at h
      split at h
      · next hr => exact absurd hr (pieces_ne_nil mark rest)
      · next first more hr =>
          rw [hr] at ih
          split at h
          · rcases List.mem_cons.1 h with rfl | h
            · simp
            · exact ih h
          · next hc =>
              rcases List.mem_cons.1 h with rfl | h
              · have hf := ih List.mem_cons_self
                simp only [List.mem_cons, not_or]
                exact ⟨fun e => hc e.symm, hf⟩
              · exact ih (List.mem_cons_of_mem _ h)

theorem intercalate_pieces (mark : Char) (s : List Char) :
    [mark].intercalate (pieces mark s) = s := by
  induction s with
  | nil => rfl
  | cons c rest ih =>
      simp only [pieces]
      split
      · next hr => exact absurd hr (pieces_ne_nil mark rest)
      · next first more hr =>
          rw [hr] at ih
          split
          · next hc =>
              subst hc
              rw [← ih]
              simp [List.intercalate]
          · rw [← ih]
            cases more <;> simp [List.intercalate]

end FilterQuery.Text
