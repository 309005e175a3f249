import RestCatalog.Proofs.Resource.SetUp
import RestCatalog.Proofs.Template.Naming

/-!
# Sizes and visits apart

Two things change about a template after it was listed: its visits, and once its size.
`unvisited` takes the visits away, so that what is left can be compared with the templates as
they were listed.  Counting the calls of a creation in does not depend on the visits
(`unvisited_sizeTemplates`), and it happens once: what was counted in first stays, whatever
comes later (`sizeTemplates_sizeTemplates`).
-/

namespace RestCatalog

namespace Template

/-- A template that was visited a number of times. -/
def visited (template : Template) (times : Nat) : Template :=
  { template with visits := times }

/-- A template with the calls of a creation counted in, if it has a POST and does not count
them yet. -/
def sizedBy (more : Nat) (template : Template) : Template :=
  if template.contains .post && !template.sizeAssured then
    { template with size := template.size + more, sizeAssured := true }
  else template

theorem text_sizedBy (more : Nat) (template : Template) :
    (template.sizedBy more).text = template.text := by
  unfold sizedBy
  split <;> rfl

/-- The visits do not matter for the size. -/
theorem visited_sizedBy (more times : Nat) (template : Template) :
    (template.sizedBy more).visited times = (template.visited times).sizedBy more := by
  have hcontains : (template.visited times).contains .post = template.contains .post := rfl
  have hassured : (template.visited times).sizeAssured = template.sizeAssured := rfl
  unfold sizedBy
  rw [hcontains, hassured]
  split <;> rfl

/-- What is counted in once is not counted in again. -/
theorem sizedBy_sizedBy (first later : Nat) (template : Template) :
    (template.sizedBy first).sizedBy later = template.sizedBy first := by
  by_cases hopen : (template.contains .post && !template.sizeAssured) = true
  · have hassured : (template.sizedBy first).sizeAssured = true := by
      unfold sizedBy
      rw [if_pos hopen]
    rw [sizedBy, hassured]
    simp
  · have hsame : ∀ more, template.sizedBy more = template := fun more => if_neg hopen
    rw [hsame first, hsame later]

end Template

namespace Templates

variable {templates : Templates} {template : Template}

/-- Templates as if none of them was visited yet. -/
def unvisited (templates : Templates) : Templates :=
  templates.mapValues (·.visited 0)

theorem visits_of_unvisited (hsame : templates.unvisited = templates)
    (htemplate : template ∈ templates.values) : template.visits = 0 := by
  rw [← hsame] at htemplate
  unfold unvisited at htemplate
  rw [OrderedMap.values_mapValues] at htemplate
  obtain ⟨start, -, rfl⟩ := List.mem_map.mp htemplate
  rfl

end Templates

theorem VerbInventory.unvisited_sampleSpace (inventory : VerbInventory)
    (hasVariables withRows : Bool) :
    Templates.unvisited (inventory.sampleSpace hasVariables withRows) =
      inventory.sampleSpace hasVariables withRows := by
  unfold Templates.unvisited
  conv_rhs => rw [← OrderedMap.mapValues_id (inventory.sampleSpace hasVariables withRows)]
  refine OrderedMap.mapValues_congr fun template htemplate => ?_
  rw [inventory.fresh_of_mem_sampleSpace hasVariables withRows htemplate]
  rfl

namespace Resource

variable {templates : Templates}

theorem sizeTemplates_some (more : Nat) (templates : Templates) :
    sizeTemplates (some more) templates = templates.mapValues (Template.sizedBy more) :=
  rfl

theorem wellNamed_sizeTemplates (wellNamed : templates.WellNamed) (more : Option Nat) :
    (sizeTemplates more templates).WellNamed := by
  cases more with
  | none => exact wellNamed
  | some more => exact wellNamed.mapValues (Template.text_sizedBy more)

theorem unvisited_sizeTemplates (more : Option Nat) (templates : Templates) :
    (sizeTemplates more templates).unvisited = sizeTemplates more templates.unvisited := by
  cases more with
  | none => rfl
  | some more =>
      unfold Templates.unvisited
      rw [sizeTemplates_some, sizeTemplates_some, OrderedMap.mapValues_mapValues,
        OrderedMap.mapValues_mapValues]
      exact OrderedMap.mapValues_congr fun template _ => template.visited_sizedBy more 0

/-- Only what is counted in first is counted in. -/
theorem sizeTemplates_sizeTemplates (first later : Option Nat) (templates : Templates) :
    sizeTemplates later (sizeTemplates first templates) =
      sizeTemplates (first.or later) templates := by
  cases first with
  | none => rfl
  | some first =>
      cases later with
      | none => rfl
      | some later =>
          rw [Option.some_or, sizeTemplates_some, sizeTemplates_some,
            OrderedMap.mapValues_mapValues]
          exact OrderedMap.mapValues_congr fun template _ => template.sizedBy_sizedBy first later

end Resource

end RestCatalog
