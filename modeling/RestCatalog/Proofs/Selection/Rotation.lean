import Mathlib.Algebra.BigOperators.Group.List.Basic
import RestCatalog.Proofs.Catalog.SetUp
import RestCatalog.Proofs.Resource.Size
import RestCatalog.Proofs.Selection.Visit

/-!
# Selecting the least visited template goes round

Queries that ask for the least visited template, always under the same condition on its name,
take the admitted templates one after the other and then start again.  What carries this is
`MidRound`: at any time the admitted templates fall into those that were visited in the round
at hand and those still to be visited, in the order of the pool, with one visit between them.
A query then finds the first of the latter (`MidRound.select`), and when none is left the next
round begins (`MidRound.turn`).

`FairSelection` puts this together with what holds of queries of any kind, and
`Catalog.fairSelection` says it of every resource of a catalog, whose templates all start
unvisited.
-/

namespace RestCatalog

variable {σ : Type} [ChoiceSource σ]

namespace Resource

variable {resource later : Resource} {admits : String → Bool} {chosen : Option (List String)}
  {pool accepted done todo : List Template} {next : Template} {rounds : Nat}

/-! ## The pool while visits go on -/

/-- The templates of a pool have different texts. -/
theorem nodup_texts_of_templatePool (wellNamed : resource.templates.WellNamed)
    (hpool : resource.templatePool chosen = .ok pool) : (pool.map Template.text).Nodup := by
  have hfound : ∀ names : List String, names.Nodup →
      ((names.filterMap resource.templates.get?).map Template.text).Nodup := by
    intro names hnames
    rw [List.map_filterMap]
    refine hnames.filterMap ?_
    intro name other text hname hother
    obtain ⟨template, htemplate, rfl⟩ := Option.map_eq_some_iff.mp hname
    obtain ⟨template', htemplate', htext⟩ := Option.map_eq_some_iff.mp hother
    rw [← wellNamed.text_eq_of_get? htemplate, ← wellNamed.text_eq_of_get? htemplate', htext]
  unfold templatePool at hpool
  cases chosen with
  | none =>
      obtain rfl := Except.ok.inj hpool
      rw [OrderedMap.values_eq_filterMap wellNamed.nodup_keys]
      exact hfound _ wellNamed.nodup_keys
  | some names =>
      dsimp only at hpool
      split at hpool
      case isTrue =>
        obtain rfl := Except.ok.inj hpool
        exact hfound _ (nodup_eraseDups names)
      case isFalse => cases hpool

/-- A pool holds the same templates whatever has become of them. -/
theorem templatePool_of_keys_eq (wellNamed : resource.templates.WellNamed)
    (wellNamed' : later.templates.WellNamed)
    (hkeys : later.templates.keys = resource.templates.keys)
    (hpool : resource.templatePool chosen = .ok pool) :
    later.templatePool chosen =
      .ok (pool.filterMap fun template => later.templates.get? template.text) := by
  have hlater : later.templates.get? = fun name =>
      (resource.templates.get? name).bind fun template => later.templates.get? template.text := by
    funext name
    cases hget : resource.templates.get? name with
    | none =>
        rw [OrderedMap.get?_eq_none_iff, ← hkeys] at hget
        exact OrderedMap.get?_eq_none_iff.mpr hget
    | some template => rw [Option.bind_some, wellNamed.text_eq_of_get? hget]
  have hcontains : later.templates.contains = resource.templates.contains := by
    funext name
    rw [Bool.eq_iff_iff, OrderedMap.contains_iff, OrderedMap.contains_iff, hkeys]
  unfold templatePool at hpool ⊢
  cases chosen with
  | none =>
      obtain rfl := Except.ok.inj hpool
      dsimp only
      rw [OrderedMap.values_eq_filterMap wellNamed'.nodup_keys,
        OrderedMap.values_eq_filterMap wellNamed.nodup_keys, hkeys, List.filterMap_filterMap,
        ← hlater]
  | some names =>
      dsimp only at hpool ⊢
      rw [hcontains]
      split at hpool
      case isTrue hknown =>
        obtain rfl := Except.ok.inj hpool
        rw [if_pos hknown, List.filterMap_filterMap, ← hlater]
      case isFalse => cases hpool

/-! ## Rounds -/

/-- A round of visits: the templates `done` were visited in it and those `todo` were not, after
a number of full rounds.  The other templates are as they were at the start. -/
structure MidRound (resource later : Resource) (done todo : List Template) (rounds : Nat) :
    Prop where
  wellNamed : later.templates.WellNamed
  keys_eq : later.templates.keys = resource.templates.keys
  get?_done : ∀ template ∈ done,
    later.templates.get? template.text = some (template.visited (rounds + 1))
  get?_todo : ∀ template ∈ todo,
    later.templates.get? template.text = some (template.visited rounds)
  get?_others : ∀ name ∉ (done ++ todo).map Template.text,
    later.templates.get? name = resource.templates.get? name

/-- When nothing is left to visit the next round begins. -/
theorem MidRound.turn (mid : MidRound resource later done [] rounds) :
    MidRound resource later [] done (rounds + 1) := by
  refine ⟨mid.wellNamed, mid.keys_eq, nofun, mid.get?_done, ?_⟩
  have hothers := mid.get?_others
  rwa [List.append_nil] at hothers

/-- The candidates of a query in the middle of a round. -/
theorem MidRound.candidates_eq (mid : MidRound resource later done todo rounds)
    (wellNamed : resource.templates.WellNamed)
    (hpool : resource.templatePool chosen = .ok pool)
    (haccepted : (pool.filter fun template => admits template.text) = done ++ todo) :
    ∃ candidates, later.templatePool chosen = .ok candidates ∧
      (candidates.filter fun template => admits template.text) =
        done.map (·.visited (rounds + 1)) ++ todo.map (·.visited rounds) := by
  refine ⟨_, templatePool_of_keys_eq wellNamed mid.wellNamed mid.keys_eq hpool, ?_⟩
  -- a later look-up does not change the name that the condition is about
  have hadmits : ∀ template ∈ pool, (later.templates.get? template.text).filter
      (fun template => admits template.text) =
        if admits template.text then later.templates.get? template.text else none := by
    intro template _
    cases hget : later.templates.get? template.text with
    | none => simp
    | some found =>
        have htext := mid.wellNamed.text_eq_of_get? hget
        simp only [Option.filter_some, htext]
  have hdone : done.filterMap (fun template => later.templates.get? template.text) =
      done.map (·.visited (rounds + 1)) := by
    rw [List.filterMap_congr mid.get?_done, List.filterMap_eq_map']
  have htodo : todo.filterMap (fun template => later.templates.get? template.text) =
      todo.map (·.visited rounds) := by
    rw [List.filterMap_congr mid.get?_todo, List.filterMap_eq_map']
  rw [List.filter_filterMap, List.filterMap_congr hadmits, ← List.filterMap_filter, haccepted,
    List.filterMap_append, hdone, htodo]

/-- Visiting the first template that is left moves it to those that were visited. -/
theorem MidRound.visit (mid : MidRound resource later done (next :: todo) rounds)
    (hnodup : ((done ++ next :: todo).map Template.text).Nodup) :
    MidRound resource (later.visit (next.visited rounds)).1 (done ++ [next]) todo rounds := by
  have hvisit : (later.visit (next.visited rounds)).1.templates =
      OrderedMap.modify later.templates next.text fun _ => next.visited (rounds + 1) := rfl
  rw [(List.perm_middle.map _).nodup_iff, List.map_cons, List.nodup_cons] at hnodup
  have hother : ∀ template ∈ done ++ todo, template.text ≠ next.text := by
    intro template htemplate htext
    exact hnodup.1 (List.mem_map.mpr ⟨template, htemplate, htext⟩)
  constructor
  case wellNamed =>
    rw [hvisit]
    exact mid.wellNamed.modify next fun _ => rfl
  case keys_eq => rw [hvisit, OrderedMap.keys_modify, mid.keys_eq]
  case get?_done =>
    intro template htemplate
    rw [hvisit, OrderedMap.get?_modify]
    rcases List.mem_append.mp htemplate with hdone | hnext
    · rw [if_neg (hother template (List.mem_append_left _ hdone)), mid.get?_done template hdone]
    · obtain rfl := List.mem_singleton.mp hnext
      rw [if_pos rfl, mid.get?_todo template List.mem_cons_self, Option.map_some]
  case get?_todo =>
    intro template htodo
    rw [hvisit, OrderedMap.get?_modify, if_neg (hother template (List.mem_append_right _ htodo)),
      mid.get?_todo template (List.mem_cons_of_mem _ htodo)]
  case get?_others =>
    intro name hname
    rw [List.append_assoc, List.singleton_append] at hname
    have hne : name ≠ next.text := by
      rintro rfl
      exact hname (List.mem_map_of_mem (List.mem_append_right _ List.mem_cons_self))
    rw [hvisit, OrderedMap.get?_modify, if_neg hne, mid.get?_others name hname]

/-- The first template that was not visited in the round is selected, without a choice. -/
theorem MidRound.select (mid : MidRound resource later done (next :: todo) rounds)
    (wellNamed : resource.templates.WellNamed)
    (hpool : resource.templatePool chosen = .ok pool)
    (haccepted : (pool.filter fun template => admits template.text) = done ++ next :: todo)
    (chooser : Chooser σ) :
    ∃ visited, later.selectTemplate (fun template => admits template.text) chosen true chooser =
        (.ok (visited, some (next.visited (rounds + 1))), chooser) ∧
      MidRound resource visited (done ++ [next]) todo rounds := by
  obtain ⟨candidates, hlater, hcandidates⟩ := mid.candidates_eq wellNamed hpool haccepted
  have hleast : leastVisited? (candidates.filter fun template => admits template.text) =
      some (next.visited rounds) := by
    rw [hcandidates, List.map_cons]
    refine leastVisited?_append_cons ?_ ?_
    · intro other hother
      obtain ⟨template, -, rfl⟩ := List.mem_map.mp hother
      exact Nat.lt_succ_self rounds
    · intro other hother
      obtain ⟨template, -, rfl⟩ := List.mem_map.mp hother
      exact Nat.le_refl rounds
  have hsome : (candidates.filter fun template => admits template.text) ≠ [] := by
    rw [hcandidates]
    simp
  obtain ⟨template, -, chooser', hleast', hselect⟩ :=
    selectTemplate_of_some hlater hsome true chooser
  obtain ⟨htemplate, rfl⟩ := hleast' rfl
  obtain rfl : next.visited rounds = template := Option.some.inj (hleast.symm.trans htemplate)
  refine ⟨_, hselect, mid.visit ?_⟩
  rw [← haccepted]
  exact (nodup_texts_of_templatePool wellNamed hpool).sublist (List.filter_sublist.map _)

/-! ## Rotation -/

/-- The query for the least visited of the templates whose name a condition admits. -/
def leastVisitedQuery (admits : String → Bool) (chosen : Option (List String))
    (chooser : Chooser σ) : TemplateQuery σ where
  admits := fun template => admits template.text
  chosen := chosen
  lessVisited := true
  chooser := chooser

/-- After any number of such queries the admitted templates are in the middle of a round. -/
theorem exists_midRound (wellNamed : resource.templates.WellNamed)
    (hunvisited : ∀ template ∈ resource.templates.values, template.visits = 0)
    (hpool : resource.templatePool chosen = .ok pool)
    (hsome : (pool.filter fun template => admits template.text) ≠ [])
    (choosers : List (Chooser σ)) :
    ∃ done next todo rounds,
      (pool.filter fun template => admits template.text) = done ++ next :: todo ∧
        choosers.length =
          rounds * (pool.filter fun template => admits template.text).length + done.length ∧
        MidRound resource
          (resource.selectAll (choosers.map (leastVisitedQuery admits chosen))).1
          done (next :: todo) rounds := by
  induction choosers using List.reverseRecOn with
  | nil =>
      obtain ⟨next, todo, haccepted⟩ := List.exists_cons_of_ne_nil hsome
      refine ⟨[], next, todo, 0, haccepted, by simp, wellNamed, rfl, nofun, ?_, fun _ _ => rfl⟩
      intro template htemplate
      rw [← haccepted] at htemplate
      have hmem := mem_values_of_templatePool hpool (List.mem_filter.mp htemplate).1
      have hsame : template.visited 0 = template := by
        unfold Template.visited
        rw [← hunvisited template hmem]
      rw [hsame]
      exact wellNamed.get?_text hmem
  | append_singleton choosers chooser ih =>
      obtain ⟨done, next, todo, rounds, haccepted, hlength, mid⟩ := ih
      obtain ⟨visited, hselect, mid'⟩ := mid.select wellNamed hpool haccepted chooser
      have hvisited : (resource.selectAll
          ((choosers ++ [chooser]).map (leastVisitedQuery admits chosen))).1 = visited := by
        have hlast : (resource.selectAll (choosers.map (leastVisitedQuery admits chosen))).1.select
            (leastVisitedQuery admits chosen chooser) =
              (visited, .ok (some (next.visited (rounds + 1)))) :=
          select_of_ok (congrArg Prod.fst hselect)
        rw [List.map_append, List.map_singleton, selectAll_concat, hlast]
      rw [hvisited, List.length_append, List.length_singleton, hlength]
      cases todo with
      | cons second todo =>
          refine ⟨done ++ [next], second, todo, rounds, ?_, ?_, mid'⟩
          · rw [haccepted, List.append_assoc, List.singleton_append]
          · rw [List.length_append, List.length_singleton, Nat.add_assoc]
      | nil =>
          -- the round is over, and all admitted templates are to be visited again
          have hround : (pool.filter fun template => admits template.text).length =
              done.length + 1 := by
            rw [haccepted, List.length_append, List.length_singleton]
          obtain ⟨first, rest, hfirst⟩ := List.exists_cons_of_ne_nil hsome
          have mid'' := mid'.turn
          rw [← haccepted, hfirst] at mid''
          refine ⟨[], first, rest, rounds + 1, hfirst, ?_, mid''⟩
          rw [hround, Nat.succ_mul, List.length_nil]
          omega

/-- What holds after a number of queries for the least visited of some templates. -/
structure Rotates (resource : Resource) (admits : String → Bool) (chosen : Option (List String))
    (accepted : List Template) (choosers : List (Chooser σ)) (later : Resource) : Prop where
  /-- The next query selects the next template in turn, and no choice is asked for. -/
  next : ∀ chooser : Chooser σ, ∃ template visited,
    accepted[choosers.length % accepted.length]? = some template ∧
      later.selectTemplate (fun template => admits template.text) chosen true chooser =
        (.ok (visited, some (template.visited (choosers.length / accepted.length + 1))), chooser)
  /-- The visits of the admitted templates differ by at most one. -/
  balanced : ∀ template ∈ later.templates.values, ∀ other ∈ later.templates.values,
    template.text ∈ accepted.map Template.text → other.text ∈ accepted.map Template.text →
      template.visits ≤ other.visits + 1
  others : ∀ template ∈ later.templates.values,
    template.text ∉ accepted.map Template.text → template.visits = 0

theorem rotates (wellNamed : resource.templates.WellNamed)
    (hunvisited : ∀ template ∈ resource.templates.values, template.visits = 0)
    (hpool : resource.templatePool chosen = .ok pool)
    (hsome : (pool.filter fun template => admits template.text) ≠ [])
    (choosers : List (Chooser σ)) :
    resource.Rotates admits chosen (pool.filter fun template => admits template.text) choosers
      (resource.selectAll (choosers.map (leastVisitedQuery admits chosen))).1 := by
  obtain ⟨done, next, todo, rounds, haccepted, hlength, mid⟩ :=
    exists_midRound wellNamed hunvisited hpool hsome choosers
  have hshort : done.length < (pool.filter fun template => admits template.text).length := by
    rw [haccepted, List.length_append, List.length_cons]
    omega
  have hvisits : ∀ template ∈ (resource.selectAll
      (choosers.map (leastVisitedQuery admits chosen))).1.templates.values,
      template.text ∈ (done ++ next :: todo).map Template.text →
        template.visits = rounds ∨ template.visits = rounds + 1 := by
    intro template htemplate htext
    have hget := mid.wellNamed.get?_text htemplate
    obtain ⟨start, hstart, hsame⟩ := List.mem_map.mp htext
    rw [← hsame] at hget
    rcases List.mem_append.mp hstart with hdone | htodo
    · rw [mid.get?_done start hdone] at hget
      exact .inr (congrArg Template.visits (Option.some.inj hget)).symm
    · rw [mid.get?_todo start htodo] at hget
      exact .inl (congrArg Template.visits (Option.some.inj hget)).symm
  constructor
  case next =>
    intro chooser
    obtain ⟨visited, hselect, -⟩ := mid.select wellNamed hpool haccepted chooser
    have hmod : choosers.length % (pool.filter fun template => admits template.text).length =
        done.length := by
      rw [hlength, Nat.mul_add_mod', Nat.mod_eq_of_lt hshort]
    have hdiv : choosers.length / (pool.filter fun template => admits template.text).length =
        rounds := by
      rw [hlength, Nat.mul_comm, Nat.mul_add_div (by omega), Nat.div_eq_of_lt hshort, Nat.add_zero]
    refine ⟨next, visited, ?_, ?_⟩
    · rw [hmod, haccepted, List.getElem?_append_right (Nat.le_refl _), Nat.sub_self]
      rfl
    · rw [hdiv]
      exact hselect
  case balanced =>
    intro template htemplate other hother htext htext'
    rw [haccepted] at htext htext'
    rcases hvisits template htemplate htext with h | h <;>
      rcases hvisits other hother htext' with h' | h' <;> omega
  case others =>
    intro template htemplate htext
    rw [haccepted] at htext
    have hget := mid.get?_others template.text htext
    rw [mid.wellNamed.get?_text htemplate] at hget
    exact hunvisited template
      (List.mem_map_of_mem (f := Prod.snd) (OrderedMap.mem_entries_of_get? hget.symm))

/-! ## Fair selection -/

/-- How the templates of a resource are selected, whatever the queries are. -/
structure FairSelection (σ : Type) [ChoiceSource σ] (resource : Resource) : Prop where
  /-- The visits count the queries that selected a template. -/
  totalVisits_eq : ∀ queries : List (TemplateQuery σ),
    (resource.selectAll queries).1.totalVisits =
      (resource.selectAll queries).2.countP holdsTemplate
  /-- Each of them has visited a template that was to be selected from and is admitted. -/
  visited : ∀ (queries : List (TemplateQuery σ)) (query : TemplateQuery σ) later selected,
    (resource.selectAll queries).1.select query = (later, .ok (some selected)) →
      (resource.selectAll queries).1.Visited later query selected
  /-- A query that selects none changes nothing. -/
  idle : ∀ (queries : List (TemplateQuery σ)) (query : TemplateQuery σ),
    holdsTemplate ((resource.selectAll queries).1.select query).2 = false →
      ((resource.selectAll queries).1.select query).1 = (resource.selectAll queries).1
  /-- Queries for the least visited template under one condition on its name take the admitted
  templates in turn. -/
  rotates : ∀ admits chosen pool, resource.templatePool chosen = .ok pool →
    (pool.filter fun template => admits template.text) ≠ [] →
      ∀ choosers : List (Chooser σ),
        resource.Rotates admits chosen (pool.filter fun template => admits template.text) choosers
          (resource.selectAll (choosers.map (leastVisitedQuery admits chosen))).1

end Resource

namespace Catalog

variable {config : Config} {endpoints : List Endpoint} {catalog : Catalog} {resource : Resource}

/-- In a catalog the templates stand under their texts, and none was visited yet. -/
theorem wellNamed_of_ofEndpoints (hbuilt : ofEndpoints endpoints config = .ok catalog)
    (hresource : resource ∈ catalog.resources) :
    resource.templates.WellNamed ∧
      ∀ template ∈ resource.templates.values, template.visits = 0 := by
  have hsetUp := setUp_of_ofEndpoints hbuilt hresource
  have hlisted : resource.templates.unvisited = resource.templates := by
    rw [hsetUp.templates_eq, Resource.unvisited_sizeTemplates]
    exact congrArg _ (VerbInventory.unvisited_sampleSpace _ _ _)
  refine ⟨?_, fun template => Templates.visits_of_unvisited hlisted⟩
  rw [hsetUp.templates_eq]
  exact Resource.wellNamed_sizeTemplates (VerbInventory.wellNamed_sampleSpace _ _ _) _

/-- Selection is fair on every resource of a catalog. -/
theorem fairSelection (hbuilt : ofEndpoints endpoints config = .ok catalog)
    (hresource : resource ∈ catalog.resources) : resource.FairSelection σ := by
  obtain ⟨wellNamed, hunvisited⟩ := wellNamed_of_ofEndpoints hbuilt hresource
  constructor
  case totalVisits_eq =>
    intro queries
    have hzero : resource.totalVisits = 0 := by
      refine List.sum_eq_zero fun visits hvisits => ?_
      obtain ⟨template, htemplate, rfl⟩ := List.mem_map.mp hvisits
      exact hunvisited template htemplate
    rw [Resource.totalVisits_selectAll wellNamed, hzero, Nat.zero_add]
  case visited =>
    intro queries query later selected hselect
    exact Resource.visited_of_select (Resource.wellNamed_selectAll wellNamed queries) hselect
  case idle =>
    intro queries query hnone
    rcases Resource.select_cases (Resource.wellNamed_selectAll wellNamed queries) query with
      ⟨answer, -, hsame⟩ | ⟨later, selected, hselect, -⟩
    · rw [hsame]
    · rw [hselect] at hnone
      cases hnone
  case rotates =>
    intro admits chosen pool hpool hsome choosers
    exact Resource.rotates wellNamed hunvisited hpool hsome choosers

/-- A shop is read or created and then read; asked five times for the least visited of the two
templates, its resource gives them in turn. -/
theorem fairSelection_shop :
    ∃ catalog resource, ofEndpoints shopEndpoints .standard = .ok catalog ∧
      resource ∈ catalog.resources ∧ resource.FairSelection Script ∧
      resource.templates.values.map Template.text = ["GET", "POST-GET"] ∧
      let queries : List (TemplateQuery Script) := List.replicate 5
        (Resource.leastVisitedQuery (fun _ => true) none { source := { numbers := [0] } })
      (resource.selectAll queries).2.map (fun answer => answer.toOption.join.map Template.text) =
        [some "GET", some "POST-GET", some "GET", some "POST-GET", some "GET"] := by
  have hevaluated : (ofEndpoints shopEndpoints .standard).toOption.any (fun catalog =>
      (catalog.resourceAt? readShop.path).any fun resource =>
        let queries : List (TemplateQuery Script) := List.replicate 5
          (Resource.leastVisitedQuery (fun _ => true) none { source := { numbers := [0] } })
        resource.templates.values.map Template.text = ["GET", "POST-GET"] &&
          (resource.selectAll queries).2.map
              (fun answer => answer.toOption.join.map Template.text) =
            [some "GET", some "POST-GET", some "GET", some "POST-GET", some "GET"]) = true := by
    decide +kernel
  obtain ⟨catalog, hbuilt, hany⟩ := exists_of_any hevaluated
  obtain ⟨resource, hfound, hfacts⟩ := (Option.any_eq_true _ _).mp hany
  simp only [Bool.and_eq_true, decide_eq_true_eq] at hfacts
  have hresource := mem_resources_of_resourceAt? hfound
  exact ⟨catalog, resource, hbuilt, hresource, fairSelection hbuilt hresource, hfacts.1, hfacts.2⟩

end Catalog

end RestCatalog
