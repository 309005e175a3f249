import RestCatalog.Proofs.Template.SampleSpace

/-!
# Templates under their own texts

What happens to the templates of a resource finds them by their texts: a visit is entered
under the text of the template that was selected.  It reaches that template and no other one
because every template stands under its own text, and no text is used twice (`WellNamed`).
The templates that a sample space lists are of this kind, and they stay so whatever is changed
about them apart from their texts.
-/

namespace RestCatalog

namespace Templates

variable {templates : Templates} {template : Template}

/-- Every template stands under its own text, and no text is used twice. -/
structure WellNamed (templates : Templates) : Prop where
  nodup_keys : templates.keys.Nodup
  text_eq : ∀ entry ∈ templates.entries, entry.2.text = entry.1

namespace WellNamed

variable (wellNamed : templates.WellNamed)
include wellNamed

theorem text_eq_of_get? {text : String} (hget : templates.get? text = some template) :
    template.text = text :=
  wellNamed.text_eq (text, template) (OrderedMap.mem_entries_of_get? hget)

/-- The place of a template among the entries. -/
theorem exists_split (htemplate : template ∈ templates.values) :
    ∃ before after, templates.entries = before ++ (template.text, template) :: after := by
  obtain ⟨entry, hentry, rfl⟩ := List.mem_map.mp htemplate
  obtain ⟨before, after, hsplit⟩ := List.append_of_mem hentry
  refine ⟨before, after, ?_⟩
  rw [hsplit, wellNamed.text_eq entry hentry]

theorem get?_text (htemplate : template ∈ templates.values) :
    templates.get? template.text = some template := by
  obtain ⟨before, after, hsplit⟩ := wellNamed.exists_split htemplate
  rw [OrderedMap.get?_eq_some_iff wellNamed.nodup_keys, hsplit]
  exact List.mem_append_right _ List.mem_cons_self

theorem mapValues {change : Template → Template} (hchange : ∀ t, (change t).text = t.text) :
    Templates.WellNamed (templates.mapValues change) := by
  constructor
  case nodup_keys =>
    rw [OrderedMap.keys_mapValues]
    exact wellNamed.nodup_keys
  case text_eq =>
    intro entry hentry
    obtain ⟨old, hold, rfl⟩ := List.mem_map.mp hentry
    exact (hchange old.2).trans (wellNamed.text_eq old hold)

theorem modify (template : Template) {change : Template → Template}
    (hchange : ∀ t, (change t).text = template.text) :
    Templates.WellNamed (OrderedMap.modify templates template.text change) := by
  constructor
  case nodup_keys =>
    rw [OrderedMap.keys_modify]
    exact wellNamed.nodup_keys
  case text_eq =>
    intro entry hentry
    obtain ⟨old, hold, rfl⟩ := List.mem_map.mp hentry
    split
    case isTrue hkey => exact (hchange old.2).trans hkey.symm
    case isFalse => exact wellNamed.text_eq old hold

end WellNamed

end Templates

namespace VerbInventory

variable (inventory : VerbInventory) (hasVariables withRows : Bool)

theorem wellNamed_sampleSpace :
    Templates.WellNamed (inventory.sampleSpace hasVariables withRows) := by
  constructor
  case nodup_keys =>
    unfold OrderedMap.keys
    rw [entries_sampleSpace, List.map_map]
    exact Template.nodup_map_format_order.sublist (List.filter_sublist.map Template.format)
  case text_eq =>
    intro entry hentry
    rw [entries_sampleSpace] at hentry
    obtain ⟨verbs, -, rfl⟩ := List.mem_map.mp hentry
    rfl

/-- No template of a sample space was tried yet, and its size is the number of its verbs. -/
theorem fresh_of_mem_sampleSpace {template : Template}
    (htemplate : template ∈ (inventory.sampleSpace hasVariables withRows).values) :
    template = .fresh template.verbs template.independent := by
  obtain ⟨entry, hentry, rfl⟩ := List.mem_map.mp htemplate
  rw [entries_sampleSpace] at hentry
  obtain ⟨verbs, hverbs, rfl⟩ := List.mem_map.mp hentry
  have hsome := Template.ne_nil_of_mem_order (List.mem_filter.mp hverbs).1
  have hparse : (Template.fresh verbs (Template.isIndependent hasVariables verbs)).verbs =
      verbs :=
    Template.verbs_of_parse (Template.parse_format hsome)
  dsimp only
  rw [hparse]
  rfl

end VerbInventory

end RestCatalog
