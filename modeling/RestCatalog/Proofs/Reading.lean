/-!
# Reading a list item by item

The endpoints of a catalog are read as calls, and the parts of a template text as verbs.  Both
go from the first item to the last: either all of them are read (`readEach_eq_ok_iff`), or the
first one that cannot be read is refused (`readEach_eq_error_iff`).
-/

namespace RestCatalog

variable {α β ε : Type} {read? : α → Option β} {refuse : α → ε} {item : α} {items rest : List α}
  {result : β} {results : List β} {error : ε}

/-- Reads the items of a list in order and refuses the first one that cannot be read. -/
def readEach (read? : α → Option β) (refuse : α → ε) (items : List α) : Except ε (List β) :=
  items.mapM fun item =>
    match read? item with
    | some result => .ok result
    | none => .error (refuse item)

theorem readEach_nil : readEach read? refuse [] = .ok [] := rfl

theorem readEach_cons_of_none (hread : read? item = none) :
    readEach read? refuse (item :: rest) = .error (refuse item) := by
  unfold readEach
  rw [List.mapM_cons, hread]
  rfl

theorem readEach_cons_of_some (hread : read? item = some result) :
    readEach read? refuse (item :: rest) = (readEach read? refuse rest).map (result :: ·) := by
  unfold readEach
  rw [List.mapM_cons, hread]
  exact bind_pure_comp (m := Except ε) (result :: ·) _

theorem readEach_eq_ok_iff :
    readEach read? refuse items = .ok results ↔ items.map read? = results.map some := by
  induction items generalizing results with
  | nil => cases results <;> simp [readEach_nil]
  | cons item rest ih =>
      rw [List.map_cons]
      cases hread : read? item with
      | none =>
          rw [readEach_cons_of_none hread]
          cases results <;> simp
      | some result =>
          rw [readEach_cons_of_some hread]
          cases hrest : readEach read? refuse rest with
          | error error => cases results <;> simp [Except.map, ← ih, hrest]
          | ok others => cases results <;> simp [Except.map, ← ih, hrest]

theorem readEach_eq_error_iff :
    readEach read? refuse items = .error error ↔
      ∃ item, items.find? (fun item => (read? item).isNone) = some item ∧ refuse item = error := by
  induction items with
  | nil => simp [readEach_nil]
  | cons first rest ih =>
      cases hread : read? first with
      | none =>
          rw [readEach_cons_of_none hread, List.find?_cons_of_pos (by simp [hread])]
          simp
      | some result =>
          rw [readEach_cons_of_some hread, List.find?_cons_of_neg (by simp [hread]), ← ih]
          cases readEach read? refuse rest <;> simp [Except.map]

end RestCatalog
