import RestCatalog.Proofs.Catalog.Build
import RestCatalog.Proofs.Preparation.Run
import RestCatalog.Proofs.Text.Strip

/-!
# Finding the calls of a catalog again

A resource stands under the path text that its calls share (`Keyed`), and a look-up
normalises the text it is given.  Looking up a name of the form `VERB path` normalises the
path once, like the grouping of the calls, and leads to the first call of the resource
with that verb (`findCall_title`).  Looking up the home of a call normalises the path that
is normal already once more.  Stripping white space and then slashes can leave white space
that was shielded by a slash, and so the second time can lead elsewhere, or nowhere:
exactly if the path of the call is not stable (`Keyed.placeFor?_eq_some_iff`).

`FoundAgain` collects what this means for one call of a catalog, `foundAgain` proves it of
every call, and `not_foundAgain_gap` is a call that is found by its name but has no home.
-/

namespace RestCatalog

open Text

/-! ## Names that are looked up -/

theorem Path.ofText_trim (text : String) : Path.ofText (trim text) = Path.ofText text := by
  unfold Path.ofText
  rw [toList_trim, stripChars_stripChars]

theorem Path.stable_iff {text : String} :
    Path.Stable text ↔ (Path.ofText (Path.ofText text).text).text = (Path.ofText text).text := by
  refine ⟨congrArg Path.text, ?_⟩
  intro htext
  unfold Path.Stable
  generalize Path.ofText (Path.ofText text).text = twice at htext ⊢
  generalize Path.ofText text = once at htext ⊢
  cases twice
  cases once
  exact congrArg Path.mk htext

/-- The name `VERB path` of a call. -/
def Call.title (call : Call) : String := call.verb.text ++ " " ++ call.path

/-- No character of a verb is lost when a name is trimmed and split. -/
private theorem verb_text_kept (verb : Verb) :
    (∀ c ∈ verb.text.toList, isBlank c = false ∧ (c != ' ') = true ∧ (c != ':') = true) ∧
      verb.text.toList ≠ [] ∧ upper verb.text = verb.text := by
  have hkept : (verb.text.toList.all fun c => !isBlank c) = true := by
    cases verb <;> decide +kernel
  refine ⟨?_, ?_, ?_⟩
  · intro c hc
    exact ⟨by simpa using List.all_eq_true.mp hkept c hc,
      bne_iff_ne.mpr (Verb.ne_of_mem_text hc (by decide)),
      bne_iff_ne.mpr (Verb.ne_of_mem_text hc (by decide))⟩
  · cases verb <;> decide +kernel
  · cases verb <;> decide +kernel

namespace Catalog

/-- A name with a blank is split at the first one. -/
private theorem splitName_of_blank {name : String} {verb path : List Char}
    (htext : stripChars isBlank name.toList = verb ++ ' ' :: path)
    (hverb : ∀ c ∈ verb, (c != ' ') = true) :
    splitName name = (upper (trim (String.ofList verb)), trim (String.ofList path)) := by
  unfold splitName
  simp only [htext, List.contains_append, List.contains_cons, beq_self_eq_true, Bool.true_or,
    Bool.or_true, if_true]
  rw [List.takeWhile_append_of_pos hverb, List.dropWhile_append_of_pos hverb]
  simp only [List.takeWhile_cons, List.dropWhile_cons, bne_self_eq_false, Bool.false_eq_true,
    if_false, List.append_nil, List.drop_succ_cons, List.drop_zero]

/-- A name with neither a blank nor a colon is all verb. -/
private theorem splitName_of_no_cut {name : String} {verb : List Char}
    (htext : stripChars isBlank name.toList = verb)
    (hverb : ∀ c ∈ verb, (c != ' ') = true ∧ (c != ':') = true) :
    splitName name = (upper (trim (String.ofList verb)), trim "") := by
  have hcut : verb.contains ' ' = false := by
    rw [List.contains_eq_mem, decide_eq_false_iff_not]
    intro hmem
    simpa using (hverb ' ' hmem).1
  unfold splitName
  simp only [htext, hcut, Bool.false_eq_true, if_false]
  rw [List.takeWhile_eq_self_iff.mpr fun c hc => (hverb c hc).2,
    List.dropWhile_eq_nil_iff.mpr fun c hc => (hverb c hc).2]
  rfl

private theorem stripped_verb_text (verb : Verb) : Stripped isBlank verb.text.toList := by
  obtain ⟨hkept, -, -⟩ := verb_text_kept verb
  exact ⟨fun c hc => (hkept c (List.mem_of_head? hc)).1,
    fun c hc => (hkept c (List.mem_of_getLast? hc)).1⟩

private theorem upper_trim_verb_text (verb : Verb) :
    upper (trim (String.ofList verb.text.toList)) = verb.text := by
  have htrim : trim verb.text = verb.text := by
    rw [← String.toList_inj, toList_trim, stripChars_of_stripped (stripped_verb_text verb)]
  rw [String.ofList_toList, htrim, (verb_text_kept verb).2.2]

/-- The name of a call is split into its verb and its path without white space around it. -/
theorem splitName_title (call : Call) :
    splitName call.title = (call.verb.text, trim call.path) := by
  obtain ⟨hkept, hsome, -⟩ := verb_text_kept call.verb
  obtain ⟨before, after, hbefore, hafter, hpath⟩ :=
    exists_around_stripChars isBlank call.path.toList
  have hstripped := stripped_stripChars isBlank call.path.toList
  have hverb := stripped_verb_text call.verb
  have htitle : call.title.toList = call.verb.text.toList ++ ' ' :: call.path.toList := by
    unfold Call.title
    simp
  cases hcore : stripChars isBlank call.path.toList with
  | nil =>
      -- the blank between the verb and the path is stripped off too, and the verb is left
      have hblank : ∀ c ∈ ' ' :: call.path.toList, isBlank c = true := by
        intro c hc
        rw [hpath, hcore] at hc
        simp only [List.append_nil, List.mem_cons, List.mem_append] at hc
        rcases hc with rfl | hc | hc
        · decide
        · exact hbefore c hc
        · exact hafter c hc
      have htext : stripChars isBlank call.title.toList = call.verb.text.toList := by
        rw [htitle]
        simpa using stripChars_around [] _ (by simp) hblank hverb
      have htrim : trim call.path = trim "" := by
        rw [← String.toList_inj, toList_trim, hcore]
        rfl
      rw [splitName_of_no_cut htext fun c hc => (hkept c hc).2, upper_trim_verb_text, htrim]
  | cons first rest =>
      rw [hcore] at hpath hstripped
      have hends :
          Stripped isBlank (call.verb.text.toList ++ ' ' :: (before ++ first :: rest)) := by
        constructor
        case head_kept =>
          intro c hc
          rw [List.head?_append_of_ne_nil _ hsome] at hc
          exact hverb.head_kept c hc
        case last_kept =>
          intro c hc
          refine hstripped.last_kept c ?_
          rw [← hc, ← List.cons_append, ← List.append_assoc,
            List.getLast?_append_of_ne_nil _ (by simp)]
      have htext : stripChars isBlank call.title.toList =
          call.verb.text.toList ++ ' ' :: (before ++ first :: rest) := by
        rw [htitle, hpath]
        simpa using stripChars_around [] after (by simp) hafter hends
      have htrim : trim (String.ofList (before ++ first :: rest)) = trim call.path := by
        rw [← String.toList_inj, toList_trim, toList_trim, String.toList_ofList, hcore]
        simpa using stripChars_around before [] hbefore (by simp) hstripped
      rw [splitName_of_blank htext fun c hc => (hkept c hc).2.1, upper_trim_verb_text, htrim]

/-! ## Where the resources stand -/

variable {config : Config} {endpoints : List Endpoint} {catalog : Catalog} {resource : Resource}
  {place : Nat} {call target : Call} {name path : String}

/-- Every resource stands under the path text that its calls share, and no two under one. -/
structure Keyed (catalog : Catalog) : Prop where
  nodup_keys : catalog.entries.keys.Nodup
  restPath_eq : ∀ entry ∈ catalog.entries.entries, ∀ call ∈ entry.2.calls,
    call.restPath.text = entry.1

theorem keyed_of_ofEndpoints (hbuilt : ofEndpoints endpoints config = .ok catalog) :
    catalog.Keyed := by
  obtain ⟨calls, -, hentries, -⟩ := entries_of_ofEndpoints hbuilt
  constructor
  case nodup_keys =>
    rw [hentries, keys_of_mapValues_drafts]
    exact nodup_eraseDups _
  case restPath_eq =>
    intro entry hentry call hcall
    rw [hentries] at hentry
    rw [calls_eq_of_mem_entries config hentry, List.mem_filter, decide_eq_true_eq] at hcall
    exact hcall.2

/-- The resource at a path stands at the place of the path. -/
theorem resourceAt?_eq_bind (catalog : Catalog) (path : String) :
    catalog.resourceAt? path =
      (catalog.placeOf? path).bind fun place => catalog.resources[place]? := by
  unfold resourceAt? placeOf? resources OrderedMap.get? OrderedMap.keys OrderedMap.values
  rw [List.findIdx?_map, List.find?_eq_bind_findIdx?_getElem?, Option.map_bind]
  simp only [List.getElem?_map]
  rfl

/-- The home of a call, if it has one, is what stands at its place. -/
theorem resourceAt?_restPath (catalog : Catalog) (call : Call) :
    catalog.resourceAt? call.restPath.text =
      (catalog.placeFor? call).bind fun place => catalog.resources[place]? :=
  resourceAt?_eq_bind catalog call.restPath.text

namespace Keyed

variable (keyed : catalog.Keyed)
include keyed

theorem placeOf?_eq_some_iff :
    catalog.placeOf? path = some place ↔
      catalog.entries.keys[place]? = some (Path.ofText path).text := by
  unfold placeOf?
  rw [List.findIdx?_eq_some_iff_getElem]
  simp only [decide_eq_true_eq]
  constructor
  · rintro ⟨hplace, hkey, -⟩
    rw [List.getElem?_eq_getElem hplace, hkey]
  · intro hkey
    obtain ⟨hplace, hkey⟩ := List.getElem?_eq_some_iff.mp hkey
    refine ⟨hplace, hkey, ?_⟩
    intro earlier hearlier hsame
    have hindex := (keyed.nodup_keys.getElem_inj_iff).mp (hsame.trans hkey.symm)
    omega

section

variable (hplace : catalog.resources[place]? = some resource) (hcall : call ∈ resource.calls)
include hplace hcall

/-- The calls of the resource at a place have its key as their path. -/
theorem key_at : catalog.entries.keys[place]? = some call.restPath.text := by
  unfold resources OrderedMap.values at hplace
  rw [List.getElem?_map] at hplace
  obtain ⟨entry, hentry, rfl⟩ := Option.map_eq_some_iff.mp hplace
  unfold OrderedMap.keys
  rw [List.getElem?_map, hentry, Option.map_some,
    keyed.restPath_eq entry (List.mem_of_getElem? hentry) call hcall]

/-- A call has its home at its own resource exactly if its path is stable. -/
theorem placeFor?_eq_some_iff : catalog.placeFor? call = some place ↔ Path.Stable call.path := by
  unfold placeFor?
  rw [keyed.placeOf?_eq_some_iff, keyed.key_at hplace hcall, Option.some.injEq, Path.stable_iff]
  exact eq_comm

/-- The name of a call leads to the first call with its verb on its own resource. -/
theorem findCall_title :
    ∃ found, catalog.findCall call.title = .ok found ∧ resource.callWith? call.verb = some found := by
  have hhere : catalog.placeOf? (trim call.path) = some place := by
    rw [keyed.placeOf?_eq_some_iff, Path.ofText_trim]
    exact keyed.key_at hplace hcall
  obtain ⟨index, hindex⟩ : ∃ index,
      resource.calls.findIdx? (fun other => other.verb = call.verb) = some index := by
    rw [← Option.isSome_iff_exists, List.findIdx?_isSome, List.any_eq_true]
    exact ⟨call, hcall, by simp⟩
  obtain ⟨hlt, -⟩ := List.findIdx?_eq_some_iff_getElem.mp hindex
  have hlocate : catalog.locateCall call.title = .ok (place, index) := by
    unfold locateCall
    simp only [splitName_title, hhere, Verb.ofText?_text, hplace, Option.bind_some, hindex]
  refine ⟨resource.calls[index], ?_, ?_⟩
  · unfold findCall
    simp only [hlocate, hplace, Option.bind_some, List.getElem?_eq_getElem hlt]
  · unfold Resource.callWith?
    rw [List.find?_eq_bind_findIdx?_getElem?, hindex, Option.bind_some,
      List.getElem?_eq_getElem hlt]

end

end Keyed

/-! ## Sampling a call -/

section

variable {σ : Type} [ChoiceSource σ]

theorem sampleCalls_of_home (hfound : catalog.findCall name = .ok target)
    (hhome : catalog.resourceAt? target.restPath.text = some resource) (limit : Option Int)
    (chooser : Chooser σ) :
    ∃ status before location later, catalog.sampleCalls name limit chooser =
      (.ok (status, before ++ [{ target with locationId := location }]), later) := by
  unfold sampleCalls
  simp only [hfound, hhome, ResourceGroup.prepare]
  generalize hprepared : catalog.resources.prepareFor resource _ _ 1 target chooser = prepared
  obtain ⟨location, htarget⟩ : ∃ location,
      prepared.1.target = { target with locationId := location } := by
    rw [← hprepared]
    exact (ResourceGroup.prepareFor_run _ _ _ _ 1 target chooser).target_eq
  exact ⟨_, _, location, _, by rw [htarget]⟩

theorem sampleCalls_of_homeless (hfound : catalog.findCall name = .ok target)
    (hhome : catalog.resourceAt? target.restPath.text = none) (limit : Option Int)
    (chooser : Chooser σ) :
    catalog.sampleCalls name limit chooser = (.error (.homelessCall target.name), chooser) := by
  unfold sampleCalls
  simp only [hfound, hhome]

end

/-- How a call of the resource at a place is found again, by itself and by its name. -/
structure FoundAgain (catalog : Catalog) (place : Nat) (resource : Resource) (call found : Call) :
    Prop where
  /-- Its home is the resource exactly if its path is stable. -/
  home_iff : catalog.placeFor? call = some place ↔ Path.Stable call.path
  mem_calls : found ∈ resource.calls
  verb_eq : found.verb = call.verb
  findCall_eq : catalog.findCall call.title = .ok found
  /-- With a home, wherever it is, sampling leads to what was found. -/
  sampled : ∀ {σ : Type} [ChoiceSource σ] (limit : Option Int) (chooser : Chooser σ),
    catalog.placeFor? call ≠ none →
      ∃ status before location later, catalog.sampleCalls call.title limit chooser =
        (.ok (status, before ++ [{ found with locationId := location }]), later)
  /-- Without one it is refused. -/
  homeless : ∀ {σ : Type} [ChoiceSource σ] (limit : Option Int) (chooser : Chooser σ),
    catalog.placeFor? call = none →
      catalog.sampleCalls call.title limit chooser = (.error (.homelessCall found.name), chooser)

/-- Every call of a catalog is found again, but has a home there only if its path is stable. -/
theorem foundAgain (hbuilt : ofEndpoints endpoints config = .ok catalog)
    (hplace : catalog.resources[place]? = some resource) (hcall : call ∈ resource.calls) :
    ∃ found, catalog.FoundAgain place resource call found := by
  have keyed := keyed_of_ofEndpoints hbuilt
  obtain ⟨found, hfind, hfirst⟩ := keyed.findCall_title hplace hcall
  have hmem : found ∈ resource.calls := List.mem_of_find?_eq_some hfirst
  -- both calls lie on the key of the resource, so they have the same home
  have hpath : found.restPath.text = call.restPath.text :=
    Option.some.inj ((keyed.key_at hplace hmem).symm.trans (keyed.key_at hplace hcall))
  refine ⟨found, ?_⟩
  constructor
  case home_iff => exact keyed.placeFor?_eq_some_iff hplace hcall
  case mem_calls => exact hmem
  case verb_eq => simpa using List.find?_some hfirst
  case findCall_eq => exact hfind
  case sampled =>
    intro σ _ limit chooser hhome
    obtain ⟨other, hother⟩ := Option.ne_none_iff_exists'.mp hhome
    have hkey := keyed.placeOf?_eq_some_iff.mp hother
    have hlt : other < catalog.resources.length := by
      have hlength := (List.getElem?_eq_some_iff.mp hkey).1
      unfold OrderedMap.keys at hlength
      unfold resources OrderedMap.values
      rwa [List.length_map] at hlength ⊢
    have hresource : catalog.resourceAt? found.restPath.text = some catalog.resources[other] := by
      rw [hpath, resourceAt?_restPath, hother, Option.bind_some, List.getElem?_eq_getElem hlt]
    exact sampleCalls_of_home hfind hresource limit chooser
  case homeless =>
    intro σ _ limit chooser hhome
    refine sampleCalls_of_homeless hfind ?_ limit chooser
    rw [hpath, resourceAt?_restPath, hhome, Option.bind_none]

theorem foundAgain_shop :
    ∃ catalog place resource found, ofEndpoints shopEndpoints .standard = .ok catalog ∧
      catalog.resources[place]? = some resource ∧ readShop ∈ resource.calls ∧
      catalog.FoundAgain place resource readShop found := by
  obtain ⟨catalog, resource, hbuilt, hresource, hcalls, -⟩ := exists_shop
  obtain ⟨place, hplace⟩ := List.mem_iff_getElem?.mp hresource
  have hcall : readShop ∈ resource.calls := by
    rw [hcalls]
    exact List.mem_singleton_self _
  obtain ⟨found, hfound⟩ := foundAgain hbuilt hplace hcall
  exact ⟨catalog, place, resource, found, hbuilt, hplace, hcall, hfound⟩

/-- A call on a path that ends in a blank before a slash. -/
def readGap : Call := { verb := .get, path := "/a /" }

/-- The call of a catalog with nothing else is found by its name, but it has no home, and
sampling it is refused. -/
theorem not_foundAgain_gap :
    ∃ catalog resource, ofEndpoints [{ method := "GET", path := "/a /" }] .standard = .ok catalog ∧
      catalog.resources[0]? = some resource ∧ resource.calls = [readGap] ∧
      catalog.findCall readGap.title = .ok readGap ∧ catalog.placeFor? readGap = none ∧
      ∀ {σ : Type} [ChoiceSource σ] (limit : Option Int) (chooser : Chooser σ),
        catalog.sampleCalls readGap.title limit chooser =
          (.error (.homelessCall readGap.name), chooser) := by
  have hevaluated : (ofEndpoints [{ method := "GET", path := "/a /" }] .standard).toOption.any
      (fun catalog =>
        (catalog.resources[0]?).any (fun resource => resource.calls = [readGap]) &&
          (catalog.findCall readGap.title).toOption = some readGap &&
          catalog.placeFor? readGap = none) = true := by
    decide +kernel
  obtain ⟨catalog, hbuilt, hfacts⟩ := exists_of_any hevaluated
  simp only [Bool.and_eq_true, decide_eq_true_eq] at hfacts
  obtain ⟨⟨hresource, hfind⟩, hhome⟩ := hfacts
  obtain ⟨resource, hplace, hcalls⟩ := (Option.any_eq_true _ _).mp hresource
  have hfound : catalog.findCall readGap.title = .ok readGap := by
    cases hfind' : catalog.findCall readGap.title with
    | error error => simp [hfind', Except.toOption] at hfind
    | ok found => simpa [hfind', Except.toOption] using hfind
  refine ⟨catalog, resource, hbuilt, hplace, of_decide_eq_true hcalls, hfound, hhome, ?_⟩
  intro σ _ limit chooser
  refine sampleCalls_of_homeless hfound ?_ limit chooser
  rw [resourceAt?_restPath, hhome, Option.bind_none]

end Catalog

end RestCatalog
