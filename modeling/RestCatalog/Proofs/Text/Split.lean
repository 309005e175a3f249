import RestCatalog.Text.Words

/-!
# Cutting a text at separators

Up to its first separator a text is one piece (`splitOn_append_cons`).  Where two texts are put
together, the last piece of the one and the first piece of the other become one piece
(`splitOn_append`).  A cut at one character is what the library calls splitting a list
(`splitOn_eq_splitOn`), so its lemmas on joining apply.
-/

namespace RestCatalog.Text

variable {cut : Char → Bool} {piece text rest : List Char}
  {pieces : List (List Char)} {c : Char}

theorem splitOn_cons_of_cut (hcut : cut c = true) (rest : List Char) :
    splitOn cut (c :: rest) = [] :: splitOn cut rest := by
  rw [splitOn, if_pos hcut]

/-- A character that makes no cut is put in front of the first piece. -/
theorem splitOn_cons_of_kept (hkept : cut c = false) (hrest : splitOn cut rest = piece :: pieces) :
    splitOn cut (c :: rest) = (c :: piece) :: pieces := by
  rw [splitOn, hrest]
  simp [hkept]

theorem splitOn_ne_nil (cut : Char → Bool) (text : List Char) : splitOn cut text ≠ [] := by
  cases text with
  | nil => exact List.cons_ne_nil _ _
  | cons c rest =>
      unfold splitOn
      split
      · exact List.cons_ne_nil _ _
      · split <;> exact List.cons_ne_nil _ _

theorem splitOn_eq_splitOnP (cut : Char → Bool) (text : List Char) :
    splitOn cut text = text.splitOnP cut := by
  induction text with
  | nil => rw [List.splitOnP_nil, splitOn]
  | cons c rest ih =>
      obtain ⟨piece, pieces, hrest⟩ := List.exists_cons_of_ne_nil (splitOn_ne_nil cut rest)
      rw [List.splitOnP_cons_eq_if_modifyHead, splitOn, ← ih, hrest]
      rfl

/-- Cutting a text at a character is what the library calls splitting a list. -/
theorem splitOn_eq_splitOn (c : Char) (text : List Char) :
    splitOn (· = c) text = text.splitOn c := by
  have hcut : (fun other : Char => decide (other = c)) = (· == c) := rfl
  unfold List.splitOn
  rw [splitOn_eq_splitOnP, hcut]

/-- A piece ends at the first separator. -/
theorem splitOn_append_cons (hkept : ∀ c ∈ piece, cut c = false) (hcut : cut c = true)
    (rest : List Char) : splitOn cut (piece ++ c :: rest) = piece :: splitOn cut rest := by
  induction piece with
  | nil => exact splitOn_cons_of_cut hcut rest
  | cons first piece ih =>
      exact splitOn_cons_of_kept (hkept first List.mem_cons_self)
        (ih fun c hc => hkept c (List.mem_cons_of_mem _ hc))

theorem splitOn_append (cut : Char → Bool) (text rest : List Char) :
    ∃ before last first after, splitOn cut text = before ++ [last] ∧
      splitOn cut rest = first :: after ∧
      splitOn cut (text ++ rest) = before ++ (last ++ first) :: after := by
  induction text with
  | nil =>
      obtain ⟨first, after, hrest⟩ := List.exists_cons_of_ne_nil (splitOn_ne_nil cut rest)
      exact ⟨[], [], first, after, rfl, hrest, hrest⟩
  | cons c text ih =>
      obtain ⟨before, last, first, after, htext, hrest, hboth⟩ := ih
      cases hcut : cut c with
      | true =>
          refine ⟨[] :: before, last, first, after, ?_, hrest, ?_⟩
          · rw [splitOn_cons_of_cut hcut, htext, List.cons_append]
          · rw [List.cons_append, splitOn_cons_of_cut hcut, hboth, List.cons_append]
      | false =>
          cases before with
          | nil =>
              exact ⟨[], c :: last, first, after, splitOn_cons_of_kept hcut htext, hrest,
                splitOn_cons_of_kept hcut hboth⟩
          | cons piece before =>
              exact ⟨(c :: piece) :: before, last, first, after, splitOn_cons_of_kept hcut htext,
                hrest, splitOn_cons_of_kept hcut hboth⟩

/-- Pieces hold characters of the text that make no cut, and nothing else. -/
theorem of_mem_splitOn (hpiece : piece ∈ splitOn cut text) (hc : c ∈ piece) :
    c ∈ text ∧ cut c = false := by
  induction text generalizing piece with
  | nil =>
      obtain rfl : piece = [] := by simpa [splitOn] using hpiece
      cases hc
  | cons first text ih =>
      obtain ⟨head, pieces, htext⟩ := List.exists_cons_of_ne_nil (splitOn_ne_nil cut text)
      have hrest : ∀ {other : List Char}, other ∈ head :: pieces → c ∈ other →
          c ∈ first :: text ∧ cut c = false := fun hother hc =>
        (ih (htext ▸ hother) hc).imp_left (List.mem_cons_of_mem _)
      cases hcut : cut first with
      | true =>
          rw [splitOn_cons_of_cut hcut, htext] at hpiece
          rcases List.mem_cons.mp hpiece with rfl | hpiece
          · cases hc
          · exact hrest hpiece hc
      | false =>
          rw [splitOn_cons_of_kept hcut htext] at hpiece
          rcases List.mem_cons.mp hpiece with rfl | hpiece
          · rcases List.mem_cons.mp hc with rfl | hc
            · exact ⟨List.mem_cons_self, hcut⟩
            · exact hrest List.mem_cons_self hc
          · exact hrest (List.mem_cons_of_mem _ hpiece) hc

end RestCatalog.Text
