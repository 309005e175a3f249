import RestCatalog.OpenApi
import RestCatalog.Proofs.Catalog.SetUp
import RestCatalog.Proofs.Validation.Checked

/-!
# Which endpoints a description has

Whatever else a description holds, an endpoint is only made for one of five methods, and the
endpoint keeps the method in capitals (`method_mem_of_readPaths`).  These are the methods that
resources handle, so a catalog never has to refuse an endpoint of a description for its method
(`handled_of_endpoints`).
-/

namespace RestCatalog

/-! ## Steps that succeed -/

theorem ok_bind {ε α β : Type} (value : α) (next : α → Except ε β) :
    (Except.ok value >>= next) = next value := rfl

/-- Two steps one after the other succeed if both do. -/
theorem exists_of_bind_eq_ok {ε α β : Type} {first : Except ε α} {next : α → Except ε β}
    {result : β} (hrun : first >>= next = .ok result) :
    ∃ value, first = .ok value ∧ next value = .ok result := by
  cases first with
  | error error => cases hrun
  | ok value => exact ⟨value, rfl, hrun⟩

theorem exists_of_map_eq_ok {ε α β : Type} {f : α → β} {step : Except ε α} {result : β}
    (hrun : f <$> step = .ok result) : ∃ value, step = .ok value ∧ f value = result := by
  cases step with
  | error error => cases hrun
  | ok value => exact ⟨value, rfl, Except.ok.inj hrun⟩

namespace OpenApi

open Document

variable {path shared operation : Value} {method : String} {item paths document : Fields}
  {endpoint : Endpoint} {made : List Endpoint}

/-! ## The methods of the endpoints -/

theorem method_of_readOperation
    (hread : readOperation path method shared operation = .ok endpoint) :
    endpoint.method = method := by
  unfold readOperation at hread
  obtain ⟨fields, -, hread⟩ := exists_of_bind_eq_ok hread
  obtain ⟨sharedParams, -, hread⟩ := exists_of_bind_eq_ok hread
  obtain ⟨merged, -, hread⟩ := exists_of_bind_eq_ok hread
  obtain ⟨ownParams, -, hread⟩ := exists_of_bind_eq_ok hread
  obtain ⟨all, -, hread⟩ := exists_of_bind_eq_ok hread
  obtain ⟨params, -, hread⟩ := exists_of_bind_eq_ok hread
  obtain ⟨body, -, hread⟩ := exists_of_bind_eq_ok hread
  dsimp only at hread
  split at hread
  case h_2 => cases hread
  case h_1 valid hvalid =>
    rw [← Except.ok.inj hread]
    obtain ⟨withTags, tags, htags, -, hall⟩ := Checked.seq_eq_valid_iff.mp hvalid
    obtain ⟨withSummary, summary, hsummary, -, hsome⟩ := Checked.seq_eq_valid_iff.mp htags
    obtain ⟨text, -, hpath⟩ := Checked.map_eq_valid_iff.mp hsummary
    rw [← hall, ← hsome, ← hpath]

/-- A field of a path makes an endpoint with its name as the method, or none. -/
theorem exists_of_readItem_cons {key : String}
    (hread : readItem path shared ((.text key, operation) :: item) = .ok made) :
    ∃ first : Option Endpoint, ∃ others, readItem path shared item = .ok others ∧
      made = first.toList ++ others ∧ ∀ endpoint ∈ first, endpoint.method ∈ methods := by
  unfold readItem at hread
  dsimp only at hread
  split at hread
  case isTrue hmethod =>
    obtain ⟨first, hfirst, hread⟩ := exists_of_bind_eq_ok hread
    obtain ⟨others, hothers, hread⟩ := exists_of_bind_eq_ok hread
    obtain ⟨endpoint, hoperation, rfl⟩ := exists_of_map_eq_ok hfirst
    refine ⟨some endpoint, others, hothers, (Except.ok.inj hread).symm, ?_⟩
    intro other hother
    obtain rfl := Option.mem_some.mp hother
    rw [method_of_readOperation hoperation]
    exact List.contains_iff_mem.mp hmethod
  case isFalse =>
    obtain ⟨first, hfirst, hread⟩ := exists_of_bind_eq_ok hread
    obtain ⟨others, hothers, hread⟩ := exists_of_bind_eq_ok hread
    obtain rfl := Except.ok.inj hfirst
    exact ⟨none, others, hothers, (Except.ok.inj hread).symm, by simp⟩

theorem method_mem_of_readItem (hread : readItem path shared item = .ok made) :
    ∀ endpoint ∈ made, endpoint.method ∈ methods := by
  induction item generalizing made with
  | nil =>
      obtain rfl := Except.ok.inj hread
      simp
  | cons field rest ih =>
      obtain ⟨key, operation⟩ := field
      cases key with
      | text key =>
          obtain ⟨first, others, hothers, rfl, hfirst⟩ := exists_of_readItem_cons hread
          intro endpoint hendpoint
          rcases List.mem_append.mp hendpoint with hnew | hold
          · exact hfirst endpoint (Option.mem_toList.mp hnew)
          · exact ih hothers endpoint hold
      | _ => cases hread

theorem method_mem_of_readPaths (hread : readPaths paths = .ok made) :
    ∀ endpoint ∈ made, endpoint.method ∈ methods := by
  induction paths generalizing made with
  | nil =>
      obtain rfl := Except.ok.inj hread
      simp
  | cons entry rest ih =>
      obtain ⟨path, item⟩ := entry
      unfold readPaths at hread
      obtain ⟨fields, -, hread⟩ := exists_of_bind_eq_ok hread
      obtain ⟨first, hfirst, hread⟩ := exists_of_bind_eq_ok hread
      obtain ⟨others, hothers, hread⟩ := exists_of_bind_eq_ok hread
      obtain rfl := Except.ok.inj hread
      intro endpoint hendpoint
      rcases List.mem_append.mp hendpoint with hnew | hold
      · exact method_mem_of_readItem hfirst endpoint hnew
      · exact ih hothers endpoint hold

/-- The methods that make endpoints are handled, and capitals do not change them. -/
theorem upper_mem_of_mem_methods (hmethod : method ∈ methods) :
    Text.upper method ∈ Verb.handled.map Verb.text := by
  revert method
  decide +kernel

/-- Every endpoint of a description has a method that resources handle. -/
theorem handled_of_endpoints (hread : endpoints document = .ok made) :
    ∀ endpoint ∈ made, endpoint.Handled := by
  unfold endpoints at hread
  obtain ⟨paths, -, hread⟩ := exists_of_bind_eq_ok hread
  intro endpoint hendpoint
  exact upper_mem_of_mem_methods (method_mem_of_readPaths hread endpoint hendpoint)

end OpenApi

end RestCatalog
