import Mathlib.Algebra.GroupWithZero.Nat
import RestCatalog.Proofs.Template.Naming
import RestCatalog.Resource.Selection

/-!
# One selection, and its visit

A query says which templates may be selected and what decides between them.  It ends in one
of three ways: it is refused because it names a template that the resource does not have, it
finds no template that its condition admits, or it selects one (`selectTemplate_of_refused`,
`selectTemplate_of_none`, `selectTemplate_of_some`).  Only the last way changes the resource:
`Visited` says that the template was in the pool, and that its visits and nothing else went up
by one.

Every selected template is counted, and no visit is entered without one, so over any number
of queries the visits add up to the number of answers that hold a template
(`totalVisits_selectAll`).
-/

namespace RestCatalog

/-- The selection of a template: what may be selected, and what decides. -/
structure TemplateQuery (σ : Type) where
  admits : Template → Bool
  /-- The names of the templates to select from, if not all are. -/
  chosen : Option (List String)
  lessVisited : Bool
  chooser : Chooser σ

variable {σ : Type} [ChoiceSource σ]

/-! ## What is selected -/

theorem mem_of_leastVisited? {templates : List Template} {template : Template}
    (hleast : leastVisited? templates = some template) : template ∈ templates := by
  induction templates generalizing template with
  | nil => cases hleast
  | cons first rest ih =>
      unfold leastVisited? at hleast
      cases hrest : leastVisited? rest with
      | none =>
          rw [hrest] at hleast
          exact Option.some.inj hleast ▸ List.mem_cons_self
      | some other =>
          rw [hrest] at hleast
          obtain rfl := Option.some.inj hleast
          split
          · exact List.mem_cons_of_mem _ (ih hrest)
          · exact List.mem_cons_self

/-- Of the templates with the fewest visits the first is selected. -/
theorem leastVisited?_append_cons {before after : List Template} {template : Template}
    (hbefore : ∀ other ∈ before, template.visits < other.visits)
    (hafter : ∀ other ∈ after, template.visits ≤ other.visits) :
    leastVisited? (before ++ template :: after) = some template := by
  induction before with
  | nil =>
      rw [List.nil_append]
      unfold leastVisited?
      cases hrest : leastVisited? after with
      | none => rfl
      | some other =>
          have hother := hafter other (mem_of_leastVisited? hrest)
          simp only [if_neg (Nat.not_lt.mpr hother)]
  | cons first rest ih =>
      have hfirst := hbefore first List.mem_cons_self
      rw [List.cons_append]
      unfold leastVisited?
      rw [ih fun other hother => hbefore other (List.mem_cons_of_mem _ hother)]
      simp only [if_pos hfirst]

theorem exists_leastVisited {templates : List Template} (hsome : templates ≠ []) :
    ∃ template, leastVisited? templates = some template := by
  cases templates with
  | nil => exact absurd rfl hsome
  | cons first rest =>
      unfold leastVisited?
      cases leastVisited? rest with
      | none => exact ⟨_, rfl⟩
      | some other => exact ⟨_, rfl⟩

/-- One of the candidates is chosen. -/
theorem Chooser.exists_choose {α : Type} {candidates : List α} (question : List α → Question)
    (chooser : Chooser σ) (hsome : candidates ≠ []) :
    ∃ choice ∈ candidates, ∃ next, chooser.choose question candidates = (some choice, next) := by
  cases candidates with
  | nil => exact absurd rfl hsome
  | cons first rest =>
      unfold Chooser.choose
      exact ⟨_, List.get_mem _ _, _, rfl⟩

namespace Resource

variable {resource later : Resource} {admits : Template → Bool} {chosen : Option (List String)}
  {pool : List Template} {query : TemplateQuery σ}

/-! ## How a selection ends -/

theorem selectTemplate_of_refused {error : CatalogError}
    (hpool : resource.templatePool chosen = .error error) (admits : Template → Bool)
    (lessVisited : Bool) (chooser : Chooser σ) :
    resource.selectTemplate admits chosen lessVisited chooser = (.error error, chooser) := by
  unfold selectTemplate
  simp only [hpool]

theorem selectTemplate_of_none (hpool : resource.templatePool chosen = .ok pool)
    (hnone : pool.filter admits = []) (lessVisited : Bool) (chooser : Chooser σ) :
    resource.selectTemplate admits chosen lessVisited chooser =
      (.ok (resource, none), chooser) := by
  unfold selectTemplate
  simp only [hpool, hnone, List.isEmpty_nil, if_true]

/-- The least visited template is selected without a choice, any other one by a choice. -/
theorem selectTemplate_of_some (hpool : resource.templatePool chosen = .ok pool)
    (hsome : pool.filter admits ≠ []) (lessVisited : Bool) (chooser : Chooser σ) :
    ∃ template ∈ pool.filter admits, ∃ next,
      (lessVisited = true → leastVisited? (pool.filter admits) = some template ∧
        next = chooser) ∧
      resource.selectTemplate admits chosen lessVisited chooser =
        (.ok ((resource.visit template).1, some (resource.visit template).2), next) := by
  have hnot : (pool.filter admits).isEmpty = false := by
    simpa only [List.isEmpty_eq_false_iff] using hsome
  unfold selectTemplate
  cases lessVisited with
  | true =>
      obtain ⟨template, hleast⟩ := exists_leastVisited hsome
      refine ⟨template, mem_of_leastVisited? hleast, chooser, fun _ => ⟨hleast, rfl⟩, ?_⟩
      simp only [hpool, hnot, hleast, Bool.false_eq_true, if_false, if_true]
  | false =>
      obtain ⟨template, htemplate, next, hchoose⟩ :=
        chooser.exists_choose Question.templates hsome
      refine ⟨template, htemplate, next, nofun, ?_⟩
      simp only [hpool, hnot, hchoose, Bool.false_eq_true, if_false]

/-- The templates that are selected from are templates of the resource. -/
theorem mem_values_of_templatePool {template : Template}
    (hpool : resource.templatePool chosen = .ok pool) (htemplate : template ∈ pool) :
    template ∈ resource.templates.values := by
  unfold templatePool at hpool
  cases chosen with
  | none =>
      obtain rfl := Except.ok.inj hpool
      exact htemplate
  | some names =>
      dsimp only at hpool
      split at hpool
      case isTrue =>
        obtain rfl := Except.ok.inj hpool
        obtain ⟨name, -, hget⟩ := List.mem_filterMap.mp htemplate
        exact List.mem_map_of_mem (f := Prod.snd) (OrderedMap.mem_entries_of_get? hget)
      case isFalse => cases hpool

/-! ## Queries one after the other -/

/-- A resource after a query, and the answer.  A query that is refused changes nothing. -/
def select (resource : Resource) (query : TemplateQuery σ) :
    Resource × Except CatalogError (Option Template) :=
  match (resource.selectTemplate query.admits query.chosen query.lessVisited query.chooser).1 with
  | .ok (later, selected) => (later, .ok selected)
  | .error error => (resource, .error error)

/-- A resource after some queries, and their answers. -/
def selectAll (resource : Resource) :
    List (TemplateQuery σ) → Resource × List (Except CatalogError (Option Template))
  | [] => (resource, [])
  | query :: rest =>
    let (between, answer) := resource.select query
    let (later, answers) := selectAll between rest
    (later, answer :: answers)

/-- Whether an answer holds a template. -/
def holdsTemplate : Except CatalogError (Option Template) → Bool
  | .ok (some _) => true
  | _ => false

/-- How often the templates of a resource were visited, taken together. -/
def totalVisits (resource : Resource) : Nat :=
  (resource.templates.values.map Template.visits).sum

/-- What a query that selects a template has done: the template was in the pool and is admitted,
and its visits went up by one.  All else is as it was. -/
def Visited (resource later : Resource) (query : TemplateQuery σ) (selected : Template) : Prop :=
  ∃ pool template before after,
    resource.templatePool query.chosen = .ok pool ∧ template ∈ pool ∧
      query.admits template = true ∧
      selected = { template with visits := template.visits + 1 } ∧
      resource.templates.entries = before ++ (template.text, template) :: after ∧
      later = { resource with templates := ⟨before ++ (template.text, selected) :: after⟩ }

theorem select_of_ok {selected : Option Template}
    (hselect : (resource.selectTemplate query.admits query.chosen query.lessVisited
      query.chooser).1 = .ok (later, selected)) :
    resource.select query = (later, .ok selected) := by
  unfold select
  rw [hselect]

theorem selectAll_cons (resource : Resource) (query : TemplateQuery σ)
    (rest : List (TemplateQuery σ)) :
    resource.selectAll (query :: rest) =
      (((resource.select query).1.selectAll rest).1,
        (resource.select query).2 :: ((resource.select query).1.selectAll rest).2) :=
  rfl

theorem selectAll_concat (resource : Resource) (queries : List (TemplateQuery σ))
    (query : TemplateQuery σ) :
    (resource.selectAll (queries ++ [query])).1 =
      ((resource.selectAll queries).1.select query).1 := by
  induction queries generalizing resource with
  | nil => rfl
  | cons first rest ih =>
      rw [List.cons_append, selectAll_cons, selectAll_cons]
      exact ih _

section

variable (wellNamed : resource.templates.WellNamed)
include wellNamed

/-- A query leaves the resource alone unless it selects a template. -/
theorem select_cases (query : TemplateQuery σ) :
    (∃ answer, holdsTemplate answer = false ∧ resource.select query = (resource, answer)) ∨
      ∃ later selected, resource.select query = (later, .ok (some selected)) ∧
        resource.Visited later query selected := by
  unfold select
  cases hpool : resource.templatePool query.chosen with
  | error error =>
      rw [selectTemplate_of_refused hpool]
      exact .inl ⟨_, rfl, rfl⟩
  | ok pool =>
      by_cases hnone : pool.filter query.admits = []
      · rw [selectTemplate_of_none hpool hnone]
        exact .inl ⟨_, rfl, rfl⟩
      · obtain ⟨template, htemplate, next, -, hselect⟩ :=
          selectTemplate_of_some hpool hnone query.lessVisited query.chooser
        obtain ⟨hmem, hadmits⟩ := List.mem_filter.mp htemplate
        obtain ⟨before, after, hsplit⟩ :=
          wellNamed.exists_split (mem_values_of_templatePool hpool hmem)
        rw [hselect]
        refine .inr ⟨_, _, rfl, pool, template, before, after, hpool, hmem, hadmits, rfl,
          hsplit, ?_⟩
        have hentries := OrderedMap.entries_modify wellNamed.nodup_keys hsplit
          fun _ => { template with visits := template.visits + 1 }
        unfold visit
        dsimp only
        rw [← hentries]

theorem visited_of_select {selected : Template}
    (hselect : resource.select query = (later, .ok (some selected))) :
    resource.Visited later query selected := by
  rcases select_cases wellNamed query with ⟨answer, hnone, hsame⟩ | ⟨_, _, hother, visited⟩
  · cases hsame.symm.trans hselect
    cases hnone
  · cases hother.symm.trans hselect
    exact visited

end

omit [ChoiceSource σ] in
/-- A visit keeps the templates under their texts, and adds one to the visits. -/
theorem Visited.wellNamed {selected : Template} (visited : resource.Visited later query selected)
    (wellNamed : resource.templates.WellNamed) : later.templates.WellNamed := by
  obtain ⟨pool, template, before, after, -, -, -, rfl, hsplit, rfl⟩ := visited
  have hentries := OrderedMap.entries_modify wellNamed.nodup_keys hsplit
    fun _ => { template with visits := template.visits + 1 }
  have hmodified : Templates.WellNamed (resource.templates.modify template.text
      fun _ => { template with visits := template.visits + 1 }) :=
    wellNamed.modify template fun _ => rfl
  rw [← hentries]
  exact hmodified

omit [ChoiceSource σ] in
theorem Visited.totalVisits_eq {selected : Template}
    (visited : resource.Visited later query selected) :
    later.totalVisits = resource.totalVisits + 1 := by
  obtain ⟨pool, template, before, after, -, -, -, rfl, hsplit, rfl⟩ := visited
  unfold totalVisits OrderedMap.values
  rw [hsplit]
  simp only [List.map_append, List.map_cons, List.sum_append, List.sum_cons]
  omega

theorem wellNamed_select (wellNamed : resource.templates.WellNamed) (query : TemplateQuery σ) :
    (resource.select query).1.templates.WellNamed := by
  rcases select_cases wellNamed query with ⟨answer, -, hsame⟩ | ⟨later, selected, hselect, visited⟩
  · rw [hsame]
    exact wellNamed
  · rw [hselect]
    exact visited.wellNamed wellNamed

theorem wellNamed_selectAll (wellNamed : resource.templates.WellNamed)
    (queries : List (TemplateQuery σ)) :
    (resource.selectAll queries).1.templates.WellNamed := by
  induction queries generalizing resource with
  | nil => exact wellNamed
  | cons query rest ih => exact ih (wellNamed_select wellNamed query)

/-- The visits count the answers that hold a template. -/
theorem totalVisits_selectAll (wellNamed : resource.templates.WellNamed)
    (queries : List (TemplateQuery σ)) :
    (resource.selectAll queries).1.totalVisits =
      resource.totalVisits + (resource.selectAll queries).2.countP holdsTemplate := by
  induction queries generalizing resource with
  | nil => rfl
  | cons query rest ih =>
      have hrest := ih (wellNamed_select wellNamed query)
      rw [selectAll_cons]
      dsimp only
      rw [hrest, List.countP_cons]
      rcases select_cases wellNamed query with
        ⟨answer, hnone, hsame⟩ | ⟨later, selected, hselect, visited⟩
      · rw [hsame, hnone]
        rfl
      · have hholds : holdsTemplate (.ok (some selected)) = true := rfl
        rw [hselect, hholds, visited.totalVisits_eq, if_pos rfl]
        omega

end Resource

end RestCatalog
