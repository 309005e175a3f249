import RestCatalog.Text.Words

/-!
# Words and parts of a text

Lowering never drops a character, and the cuts inside a name leave a character on either
side.  So the words of a compound name are not empty (`ne_empty_of_mem_splitWords`), nor is a
name in lower case (`lower_ne_empty`).

What is looked for in a text is found if it is an unbroken part of it (`occursIn_iff`).

Texts that are not empty may be joined in groups: joining the groups first, dropping those
that come out empty and joining the rest is joining all of them at once
(`intercalate_flatten`).
-/

namespace RestCatalog.Text

/-! ## Lowering and cutting -/

theorem lowerChar_ne_nil (c : Char) : lowerChar c ≠ [] := by
  unfold lowerChar
  split
  case isTrue => simp
  case isFalse => split <;> simp

theorem lowerFrom_ne_nil {text : List Char} (hsome : text ≠ []) (before : List Char) :
    lowerFrom before text ≠ [] := by
  cases text with
  | nil => exact absurd rfl hsome
  | cons c rest =>
      unfold lowerFrom
      refine List.append_ne_nil_of_left_ne_nil ?_ _
      split
      case isTrue => simp
      case isFalse => exact lowerChar_ne_nil c

theorem ofList_ne_empty {text : List Char} (hsome : text ≠ []) : String.ofList text ≠ "" := by
  intro hempty
  have hlist := congrArg String.toList hempty
  rw [String.toList_ofList, String.toList_empty] at hlist
  exact hsome hlist

theorem toList_ne_nil {text : String} (hsome : text ≠ "") : text.toList ≠ [] :=
  fun hnil => hsome (String.toList_eq_nil_iff.mp hnil)

theorem lower_ne_empty {text : String} (hsome : text ≠ "") : lower text ≠ "" :=
  ofList_ne_empty (lowerFrom_ne_nil (toList_ne_nil hsome) [])

theorem ne_nil_of_mem_splitHumps {text word : List Char} (hword : word ∈ splitHumps text) :
    word ≠ [] := by
  fun_induction splitHumps text with
  | case1 => cases hword
  | case2 a =>
      rw [List.mem_singleton.mp hword]
      exact List.cons_ne_nil a []
  | case3 a b rest hnone ih =>
      rw [List.mem_singleton.mp hword]
      exact List.cons_ne_nil a []
  | case4 a b rest first words hsome hends ih =>
      rcases List.mem_cons.mp hword with rfl | hword
      · exact List.cons_ne_nil a []
      · exact ih (hsome ▸ hword)
  | case5 a b rest first words hsome hgoes ih =>
      rcases List.mem_cons.mp hword with rfl | hword
      · exact List.cons_ne_nil a first
      · exact ih (hsome ▸ List.mem_cons_of_mem first hword)

theorem ne_empty_of_mem_splitWords {text word : String} (hword : word ∈ splitWords text) :
    word ≠ "" := by
  unfold splitWords at hword
  split at hword
  case h_1 first second more hraw =>
    rw [← hraw] at hword
    obtain ⟨raw, hmem, rfl⟩ := List.mem_map.mp hword
    obtain ⟨piece, -, hpiece⟩ := List.mem_flatMap.mp hmem
    exact ofList_ne_empty (lowerFrom_ne_nil (ne_nil_of_mem_splitHumps hpiece) [])
  case h_2 => cases hword

/-! ## Parts of a text -/

theorem occursIn_iff {part text : List Char} : occursIn part text = true ↔ part <:+: text := by
  induction text with
  | nil => simp [occursIn]
  | cons c text ih =>
      rw [occursIn, Bool.or_eq_true, List.isPrefixOf_iff_prefix, ih, List.infix_cons_iff]

/-! ## Joining -/

variable {separator : String}

theorem intercalate_ne_empty {words : List String} (hsome : words ≠ [])
    (hwords : ∀ word ∈ words, word ≠ "") : separator.intercalate words ≠ "" := by
  cases words with
  | nil => exact absurd rfl hsome
  | cons first rest =>
      have hfirst := hwords first List.mem_cons_self
      cases rest with
      | nil =>
          rw [String.intercalate_singleton]
          exact hfirst
      | cons second rest =>
          intro hempty
          rw [String.intercalate_cons_cons, String.append_eq_empty_iff,
            String.append_eq_empty_iff] at hempty
          exact hfirst hempty.1.1

/-- Joined groups without the empty ones, joined again, are all words joined at once. -/
theorem intercalate_flatten {groups : List (List String)}
    (hwords : ∀ group ∈ groups, ∀ word ∈ group, word ≠ "") :
    separator.intercalate ((groups.map separator.intercalate).filter (· ≠ "")) =
      separator.intercalate groups.flatten := by
  induction groups with
  | nil => rfl
  | cons group groups ih =>
      have hrest : ∀ group ∈ groups, ∀ word ∈ group, word ≠ "" :=
        fun other hother => hwords other (List.mem_cons_of_mem _ hother)
      have hgroup := hwords group List.mem_cons_self
      rw [List.map_cons, List.flatten_cons]
      by_cases hnil : group = []
      case pos =>
        rw [hnil, String.intercalate_nil, List.filter_cons_of_neg (by simp), ih hrest,
          List.nil_append]
      case neg =>
        rw [List.filter_cons_of_pos (by simpa using intercalate_ne_empty hnil hgroup)]
        by_cases hflat : groups.flatten = []
        case pos =>
          have hnone : (groups.map separator.intercalate).filter (· ≠ "") = [] := by
            rw [List.filter_eq_nil_iff, List.forall_mem_map]
            intro other hother
            rw [List.flatten_eq_nil_iff.mp hflat other hother, String.intercalate_nil]
            simp
          rw [hnone, hflat, String.intercalate_singleton, List.append_nil]
        case neg =>
          -- a word further on keeps its group, so a separator follows the first one either way
          have hsome : (groups.map separator.intercalate).filter (· ≠ "") ≠ [] := by
            intro hnone
            obtain ⟨other, hother, hne⟩ : ∃ other ∈ groups, other ≠ [] := by
              simpa using hflat
            have hempty := List.filter_eq_nil_iff.mp hnone _ (List.mem_map_of_mem hother)
            exact hempty (decide_eq_true (intercalate_ne_empty hne (hrest other hother)))
          rw [String.intercalate_cons_of_ne_nil hsome, ih hrest,
            String.intercalate_append_of_ne_nil hnil hflat]

end RestCatalog.Text
