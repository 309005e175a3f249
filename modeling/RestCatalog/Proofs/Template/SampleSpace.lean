import RestCatalog.Proofs.OrderedMap
import RestCatalog.Proofs.Template.Format
import RestCatalog.Template.SampleSpace

/-!
# Which templates a resource has

Whatever a resource owns, its templates are found among twelve combinations of verbs, and they
stand in one order: `Template.order`.  Which of them there are depends on the verbs that are
owned, on whether something can create the resource, and on whether its path has variables
(`Template.isSensible`).

* `combinations_eq`: the combinations that are listed are this selection.  The three parts of
  the order are compared one by one (`selected_pairs`, `selected_deletions`).
* `entries_sampleSpace`: so are the templates, since different combinations have different
  texts and no template is lost when they are entered under them.
* `isEmpty_sampleSpace`: every verb that is owned makes a template of its own.
-/

namespace RestCatalog

namespace Template

/-- All combinations of verbs that can make sense, in the order in which they are listed. -/
def order : List (List Verb) :=
  [[.post], [.post, .post]] ++
    ([.get, .put, .patch, .delete].flatMap fun verb => [[verb], [.post, verb]]) ++
      [.put, .patch].map fun verb => [.post, verb, .delete]

/-- Whether a combination makes sense for a resource: a single verb has to be owned; a second
POST needs an owned POST and a path with variables; and other verbs after a POST have to be
owned by a resource that something can create. -/
def isSensible (owns : Verb → Bool) (creatable hasVariables : Bool) : List Verb → Bool
  | [verb] => owns verb
  | [.post, .post] => owns .post && hasVariables
  | .post :: others => creatable && others.all owns
  | _ => false

/-- Whether a combination needs no other resource: it is one verb on a path without
variables. -/
def isIndependent (hasVariables : Bool) (verbs : List Verb) : Bool :=
  verbs.length = 1 && !hasVariables

theorem ne_nil_of_mem_order {verbs : List Verb} (hverbs : verbs ∈ order) : verbs ≠ [] := by
  rintro rfl
  simp [order] at hverbs

/-- A verb alone is among the combinations if resources handle it. -/
theorem singleton_mem_order {verb : Verb} (hhandled : verb ∈ Verb.handled) : [verb] ∈ order := by
  revert verb
  decide

theorem pair_mem_order {verb : Verb} (hhandled : verb ∈ Verb.handled) : [.post, verb] ∈ order := by
  revert verb
  decide

theorem isSensible_post_verb (owns : Verb → Bool) (creatable hasVariables : Bool) {verb : Verb}
    (hother : verb ≠ .post) :
    isSensible owns creatable hasVariables [.post, verb] = (creatable && owns verb) := by
  cases verb <;> simp [isSensible] at hother ⊢

/-- On a path without variables, where a POST stands beside no other verb, nothing makes sense but
single verbs. -/
theorem length_eq_one_of_isSensible {owns : Verb → Bool} {verbs : List Verb}
    (halone : ¬ (owns .post = true ∧ ∃ verb, verb ≠ .post ∧ owns verb = true))
    (hverbs : verbs ∈ order) (hsensible : isSensible owns (owns .post) false verbs = true) :
    verbs.length = 1 := by
  -- only in one combination does another POST follow the first one
  have htail : ∀ verbs ∈ order, verbs = [.post, .post] ∨ .post ∉ verbs.tail := by decide
  unfold isSensible at hsensible
  split at hsensible
  case h_1 => rfl
  case h_2 => simp at hsensible
  case h_3 others hsome hpair =>
    rw [Bool.and_eq_true, List.all_eq_true] at hsensible
    obtain ⟨hpost, hothers⟩ := hsensible
    have hnone : .post ∉ others := (htail _ hverbs).resolve_left (by simpa using hpair)
    obtain ⟨verb, hverb⟩ := List.exists_mem_of_ne_nil others (by simpa using hsome)
    refine absurd ⟨hpost, verb, ?_, hothers verb hverb⟩ halone
    rintro rfl
    exact hnone hverb
  case h_4 => cases hsensible

/-- No two combinations have one text. -/
theorem nodup_map_format_order : (order.map format).Nodup := by
  have hnodup : order.Nodup := by decide
  refine hnodup.map_on ?_
  intro verbs hverbs others hothers hformat
  exact format_inj (ne_nil_of_mem_order hverbs) (ne_nil_of_mem_order hothers) hformat

end Template

namespace VerbInventory

open Template

variable {verb : Verb} (inventory : VerbInventory) (owns : Verb → Bool)
  (creatable hasVariables withRows : Bool)

/-! ## The combinations -/

/-- Of the verbs other than POST, each alone and after a POST, the selection keeps those that are
owned. -/
private theorem selected_pairs {verbs : List Verb} (hverbs : .post ∉ verbs) :
    ((verbs.flatMap fun verb => [[verb], [.post, verb]]).filter
        (isSensible owns creatable hasVariables)).map
          (fun verbs => (verbs, isIndependent hasVariables verbs)) =
      (verbs.filter owns).flatMap fun verb =>
        ([verb], !hasVariables) :: if creatable then [([.post, verb], false)] else [] := by
  induction verbs with
  | nil => rfl
  | cons verb rest ih =>
      rw [List.mem_cons, not_or] at hverbs
      have hsingle : isSensible owns creatable hasVariables [verb] = owns verb := rfl
      have hpair := isSensible_post_verb owns creatable hasVariables (Ne.symm hverbs.1)
      rw [List.flatMap_cons, List.filter_append, List.map_append, ih hverbs.2]
      cases howns : owns verb <;> cases creatable <;>
        simp [hsingle, hpair, howns, isIndependent]

/-- Of the verbs between a POST and a DELETE it keeps those that are owned, if a DELETE is owned by
a resource that can be created. -/
private theorem selected_deletions (verbs : List Verb) :
    ((verbs.map fun verb => [.post, verb, .delete]).filter
        (isSensible owns creatable hasVariables)).map
          (fun verbs => (verbs, isIndependent hasVariables verbs)) =
      if creatable && owns .delete then
        (verbs.filter owns).map fun verb => ([.post, verb, .delete], false)
      else [] := by
  have hsensible : ∀ verb, isSensible owns creatable hasVariables [.post, verb, .delete] =
      ((creatable && owns .delete) && owns verb) := by
    intro verb
    rw [Bool.and_assoc, Bool.and_comm (owns .delete)]
    cases verb <;> simp [isSensible]
  rw [List.filter_map, List.map_map]
  simp only [Function.comp_def, hsensible]
  cases creatable && owns .delete <;> simp [isIndependent]

/-- The combinations that are listed are the sensible ones, in the common order. -/
theorem combinations_eq :
    inventory.combinations hasVariables withRows =
      (order.filter (isSensible inventory.owns (inventory.creatable hasVariables withRows)
        hasVariables)).map fun verbs => (verbs, isIndependent hasVariables verbs) := by
  have howned : ∀ verb ∈ [Verb.get, .put, .patch, .delete],
      ([Verb.get, .put, .patch, .delete].filter inventory.owns).contains verb =
        inventory.owns verb := by
    intro verb hverb
    rw [Bool.eq_iff_iff, List.contains_iff_mem, List.mem_filter, and_iff_right hverb]
  have hdeleted : [Verb.put, .patch].filter
      ([Verb.get, .put, .patch, .delete].filter inventory.owns).contains =
        [Verb.put, .patch].filter inventory.owns :=
    List.filter_congr fun verb hverb => howned verb (by simp at hverb ⊢; tauto)
  unfold combinations order
  dsimp only
  rw [hdeleted, howned .delete (by simp)]
  generalize inventory.creatable hasVariables withRows = creatable
  rw [List.filter_append, List.filter_append, List.map_append, List.map_append,
    selected_pairs inventory.owns creatable hasVariables (by decide), selected_deletions]
  congr 2
  -- what is left are the combinations of POST with itself
  have hpost : inventory.owns .post = inventory.post := rfl
  cases howns : inventory.post <;> cases hasVariables <;>
    simp [isSensible, isIndependent, hpost, howns]

/-! ## The templates -/

/-- The templates are the sensible combinations, each under its text and not tried yet. -/
theorem entries_sampleSpace :
    (inventory.sampleSpace hasVariables withRows).entries =
      (order.filter (isSensible inventory.owns (inventory.creatable hasVariables withRows)
        hasVariables)).map fun verbs =>
          (format verbs, Template.fresh verbs (isIndependent hasVariables verbs)) := by
  have hkeys : ((inventory.combinations hasVariables withRows).map
      fun combination => format combination.1).Nodup := by
    rw [combinations_eq, List.map_map]
    exact nodup_map_format_order.sublist (List.filter_sublist.map format)
  unfold sampleSpace
  rw [OrderedMap.entries_foldl_insertIfNew
    (fun combination : List Verb × Bool => format combination.1)
    (fun combination => Template.fresh combination.1 combination.2) _ {} hkeys,
    combinations_eq, List.map_map]
  rfl

/-- A resource that owns every verb has all twelve on a path with variables. -/
example :
    (sampleSpace { post := true, get := true, put := true, patch := true, delete := true }
      true false).keys =
        ["POST", "POST-POST", "GET", "POST-GET", "PUT", "POST-PUT", "PATCH", "POST-PATCH",
          "DELETE", "POST-DELETE", "POST-PUT-DELETE", "POST-PATCH-DELETE"] := by
  decide +kernel

/-- Every verb that is owned makes a template of its own. -/
theorem isEmpty_sampleSpace (hhandled : verb ∈ Verb.handled) (howns : inventory.owns verb = true) :
    (inventory.sampleSpace hasVariables withRows).isEmpty = false := by
  unfold OrderedMap.isEmpty
  rw [entries_sampleSpace, List.isEmpty_eq_false_iff_exists_mem]
  exact ⟨_, List.mem_map_of_mem (List.mem_filter.mpr ⟨singleton_mem_order hhandled, howns⟩)⟩

end VerbInventory

end RestCatalog
