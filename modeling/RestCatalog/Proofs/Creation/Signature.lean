import RestCatalog.Call.Basic
import RestCatalog.Proofs.Creation.Participants

/-!
# What a signature tells about a set of names

The signature of a set is its sorted list of names, joined by commas.  A name may hold
commas of its own, and then another set can have the same signature: `a`, `b` and the
single name `a,b` have.

Two lists of names that are joined to one text agree name by name up to some place.  If
they are not the same list, one of the two has a name there that goes on where the name of
the other ends: with a comma, and behind it as the other's next name begins (`GoesOnAt`).
`Entangled` says that this happens somewhere.  It happens between any two different lists
with one text (`entangled_of_ne`, by induction along the lists) and nowhere between equal
lists, so it decides whether sets with one signature are the same
(`mem_iff_iff_not_entangled`).

Names without commas are never entangled (`not_entangled_of_no_comma`).  Neither are the
names of calls unless a path holds a comma in front of what looks like the name of a call
(`not_entangled_of_plainPath`).
-/

namespace RestCatalog

/-- A list that is sorted without repetitions is the set it stands for. -/
theorem sortedSet_eq_self {names : List String} (hsorted : names.Pairwise (· < ·)) :
    sortedSet names = names := by
  apply List.Subset.antisymm_of_pairwise (pairwise_sortedSet names) hsorted
  · intro name hname
    rwa [mem_sortedSet] at hname
  · intro name hname
    rwa [mem_sortedSet]

/-! ## Where two lists of names come apart -/

/-- At a place one list has a name that goes on, after a comma, where the name of the other list
ends, and that goes on as the other list does: as its next name begins, up to a comma. -/
def GoesOnAt (names others : List String) (place : Nat) : Prop :=
  ∃ short next long rest, names[place]? = some short ∧ names[place + 1]? = some next ∧
    others[place]? = some long ∧ long.toList = short.toList ++ ',' :: rest ∧
    (rest.takeWhile fun c => c != ',') = next.toList.takeWhile fun c => c != ','

/-- Two lists of names are entangled if somewhere a name of one goes on after a name of the
other. -/
def Entangled (names others : List String) : Prop :=
  ∃ place, GoesOnAt names others place ∨ GoesOnAt others names place

theorem not_goesOnAt_self (names : List String) (place : Nat) : ¬ GoesOnAt names names place := by
  rintro ⟨short, next, long, rest, hshort, -, hlong, hrest, -⟩
  obtain rfl := Option.some.inj (hshort.symm.trans hlong)
  have hlength := congrArg List.length hrest
  rw [List.length_append, List.length_cons] at hlength
  omega

theorem GoesOnAt.cons {names others : List String} {place : Nat} (goesOn : GoesOnAt names others place)
    (first first' : String) : GoesOnAt (first :: names) (first' :: others) (place + 1) := by
  obtain ⟨short, next, long, rest, hshort, hnext, hlong, hrest⟩ := goesOn
  exact ⟨short, next, long, rest, by simpa using hshort, by simpa using hnext, by simpa using hlong,
    hrest⟩

theorem Entangled.cons {names others : List String} (entangled : Entangled names others)
    (first first' : String) : Entangled (first :: names) (first' :: others) := by
  obtain ⟨place, goesOn | goesOn⟩ := entangled
  · exact ⟨place + 1, .inl (goesOn.cons first first')⟩
  · exact ⟨place + 1, .inr (goesOn.cons first' first)⟩

/-- The names of a list, each with a comma in front. -/
private def joinedTail (names : List String) : List Char :=
  names.flatMap fun name => ',' :: name.toList

private theorem toList_intercalate_cons (first : String) (rest : List String) :
    (",".intercalate (first :: rest)).toList = first.toList ++ joinedTail rest := by
  induction rest generalizing first with
  | nil => simp [joinedTail]
  | cons second rest ih =>
      rw [String.intercalate_cons_cons, String.toList_append, String.toList_append, ih second]
      simp [joinedTail]

/-- What precedes the first comma is not changed by what begins with one. -/
private theorem takeWhile_append_joinedTail (text : List Char) (names : List String) :
    ((text ++ joinedTail names).takeWhile fun c => c != ',') = text.takeWhile fun c => c != ',' := by
  induction text with
  | nil => cases names <;> simp [joinedTail]
  | cons c text ih =>
      rw [List.cons_append, List.takeWhile_cons, List.takeWhile_cons, ih]

/-- If the text of one name ends earlier, the other name goes on after it. -/
private theorem goesOnAt_of_append {short long : String} {names others : List String} {more : List Char}
    (hlong : long.toList = short.toList ++ more) (hmore : more ≠ [])
    (htail : joinedTail names = more ++ joinedTail others) :
    GoesOnAt (short :: names) (long :: others) 0 := by
  cases names with
  | nil =>
      have hnil : [] = more ++ joinedTail others := htail
      exact absurd (List.append_eq_nil_iff.mp hnil.symm).1 hmore
  | cons next names =>
      obtain ⟨c, rest, rfl⟩ := List.exists_cons_of_ne_nil hmore
      have hsplit : ',' :: (next.toList ++ joinedTail names) = c :: (rest ++ joinedTail others) := by
        simpa [joinedTail] using htail
      obtain ⟨rfl, hrest⟩ := List.cons.inj hsplit
      refine ⟨short, next, long, rest, rfl, rfl, rfl, hlong, ?_⟩
      -- behind the comma both texts are the same, and the first name there ends with a comma or
      -- with the text
      rw [← takeWhile_append_joinedTail rest others, ← hrest, takeWhile_append_joinedTail]

/-- Different lists of names that are joined to one text are entangled. -/
theorem entangled_of_ne {names others : List String} (hnames : names ≠ []) (hothers : others ≠ [])
    (hjoined : ",".intercalate names = ",".intercalate others) (hne : names ≠ others) :
    Entangled names others := by
  induction names generalizing others with
  | nil => exact absurd rfl hnames
  | cons first rest ih =>
      obtain ⟨first', rest', rfl⟩ := List.exists_cons_of_ne_nil hothers
      have htexts : first.toList ++ joinedTail rest = first'.toList ++ joinedTail rest' := by
        rw [← toList_intercalate_cons, ← toList_intercalate_cons, hjoined]
      by_cases hfirst : first = first'
      · subst hfirst
        have htails : joinedTail rest = joinedTail rest' := List.append_cancel_left htexts
        cases rest with
        | nil =>
            cases rest' with
            | nil => exact absurd rfl hne
            | cons second' rest' => simp [joinedTail] at htails
        | cons second rest =>
            cases rest' with
            | nil => simp [joinedTail] at htails
            | cons second' rest' =>
                have hjoined' : ",".intercalate (second :: rest) =
                    ",".intercalate (second' :: rest') := by
                  rw [← String.toList_inj, toList_intercalate_cons, toList_intercalate_cons]
                  simpa [joinedTail] using htails
                exact (ih (by simp) (by simp) hjoined' fun h => hne (by rw [h])).cons first first
      · have hdiffer : first.toList ≠ first'.toList := fun h => hfirst (String.toList_inj.mp h)
        rcases List.append_eq_append_iff.mp htexts with ⟨more, hlong, htail⟩ | ⟨more, hlong, htail⟩
        · have hmore : more ≠ [] := by
            rintro rfl
            exact hdiffer (by simpa using hlong.symm)
          exact ⟨0, .inl (goesOnAt_of_append hlong hmore htail)⟩
        · have hmore : more ≠ [] := by
            rintro rfl
            exact hdiffer (by simpa using hlong)
          exact ⟨0, .inr (goesOnAt_of_append hlong hmore htail)⟩

/-! ## What the signature tells apart -/

theorem sortedSet_ne_nil {names : List String} (hnames : names ≠ []) : sortedSet names ≠ [] := by
  obtain ⟨name, hname⟩ := List.exists_mem_of_ne_nil _ hnames
  exact List.ne_nil_of_mem (mem_sortedSet.mpr hname)

/-- Only the empty name and the empty set have an empty signature. -/
theorem signatureOf_ne_empty {names : List String} (hsome : names ≠ [])
    (hnames : ∀ name ∈ names, name ≠ "") : signatureOf names ≠ "" := by
  obtain ⟨first, rest, hsorted⟩ := List.exists_cons_of_ne_nil (sortedSet_ne_nil hsome)
  have hfirst : first ∈ names := by
    rw [← mem_sortedSet, hsorted]
    exact List.mem_cons_self
  unfold signatureOf
  rw [hsorted]
  intro hempty
  have hlist := congrArg String.toList hempty
  rw [toList_intercalate_cons, String.toList_empty] at hlist
  exact hnames first hfirst (String.toList_eq_nil_iff.mp (List.append_eq_nil_iff.mp hlist).1)

theorem mem_iff_of_sortedSet_eq {names others : List String}
    (hsame : sortedSet names = sortedSet others) (name : String) : name ∈ names ↔ name ∈ others := by
  rw [← mem_sortedSet, hsame, mem_sortedSet]

/-- Sets with one signature are the same unless their lists are entangled. -/
theorem mem_iff_iff_not_entangled {names others : List String} (hnames : names ≠ [])
    (hothers : others ≠ []) (hsignature : signatureOf names = signatureOf others) :
    (∀ name, name ∈ names ↔ name ∈ others) ↔ ¬ Entangled (sortedSet names) (sortedSet others) := by
  constructor
  · intro hsame
    rw [sortedSet_congr hsame]
    rintro ⟨place, goesOn | goesOn⟩
    · exact not_goesOnAt_self _ _ goesOn
    · exact not_goesOnAt_self _ _ goesOn
  · intro hnot
    by_contra hdiffer
    refine hnot (entangled_of_ne (sortedSet_ne_nil hnames) (sortedSet_ne_nil hothers) hsignature ?_)
    exact fun hsame => hdiffer (mem_iff_of_sortedSet_eq hsame)

/-- Names without commas are not entangled. -/
theorem not_entangled_of_no_comma {names others : List String}
    (hnames : ∀ name ∈ names, ',' ∉ name.toList) (hothers : ∀ name ∈ others, ',' ∉ name.toList) :
    ¬ Entangled names others := by
  have hnone : ∀ {names others : List String} {place : Nat},
      (∀ name ∈ others, ',' ∉ name.toList) → ¬ GoesOnAt names others place := by
    rintro names others place hothers ⟨short, next, long, rest, -, -, hlong, hrest, -⟩
    refine hothers long (List.mem_of_getElem? hlong) ?_
    rw [hrest]
    simp
  rintro ⟨place, goesOn | goesOn⟩
  · exact hnone hothers goesOn
  · exact hnone hnames goesOn

/-! ## The names of calls -/

/-- A path in which no comma is followed by a verb and a colon, as the name of a call begins. -/
def PlainPath (path : String) : Prop :=
  ∀ verb : Verb, ¬ ',' :: (verb.text ++ ":").toList <:+: path.toList

private theorem no_comma_of_verb (verb : Verb) :
    ∀ c ∈ (verb.text ++ ":").toList, (c != ',') = true := by
  intro c hc
  rw [String.toList_append, List.mem_append] at hc
  rcases hc with hc | hc
  · exact bne_iff_ne.mpr (Verb.ne_of_mem_text hc (by decide))
  · obtain rfl : c = ':' := by simpa using hc
    decide

/-- The name of a call on a plain path does not go on after another name as that of a call. -/
private theorem not_goesOnAt_of_plainPath {names others : List String} {place : Nat}
    (hnames : ∀ name ∈ names, ∃ call : Call, name = call.name)
    (hothers : ∀ name ∈ others, ∃ call : Call, name = call.name ∧ PlainPath call.path) :
    ¬ GoesOnAt names others place := by
  rintro ⟨short, next, long, rest, -, hnext, hlong, hrest, hbegin⟩
  obtain ⟨follower, rfl⟩ := hnames next (List.mem_of_getElem? hnext)
  obtain ⟨call, rfl, hplain⟩ := hothers long (List.mem_of_getElem? hlong)
  have hname : ∀ call : Call, call.name.toList = (call.verb.text ++ ":").toList ++ call.path.toList := by
    intro call
    unfold Call.name
    rw [String.toList_append]
  -- the text behind the comma begins with the verb of the next name
  rw [hname follower, List.takeWhile_append_of_pos (no_comma_of_verb _)] at hbegin
  have hverb : (follower.verb.text ++ ":").toList <+: rest := by
    have hprefix : (rest.takeWhile fun c => c != ',') <+: rest := List.takeWhile_prefix _
    rw [hbegin] at hprefix
    exact (List.prefix_append _ _).trans hprefix
  obtain ⟨further, rfl⟩ := hverb
  rw [hname call] at hrest
  -- and the comma stands behind the verb of the call, which has none
  rcases List.append_eq_append_iff.mp hrest with ⟨before, -, hpath⟩ | ⟨before, hshort, hpath⟩
  · refine hplain follower.verb ⟨before, further, ?_⟩
    rw [hpath]
    simp
  · cases before with
    | nil =>
        refine hplain follower.verb ⟨[], further, ?_⟩
        simpa using hpath
    | cons c before =>
        obtain ⟨rfl, -⟩ := List.cons.inj hpath
        have hcomma := no_comma_of_verb call.verb ',' (by rw [hshort]; simp)
        exact absurd hcomma (by decide)

/-- The names of calls on plain paths are not entangled. -/
theorem not_entangled_of_plainPath {names others : List String}
    (hnames : ∀ name ∈ names, ∃ call : Call, name = call.name ∧ PlainPath call.path)
    (hothers : ∀ name ∈ others, ∃ call : Call, name = call.name ∧ PlainPath call.path) :
    ¬ Entangled names others := by
  have hcalls : ∀ {names : List String},
      (∀ name ∈ names, ∃ call : Call, name = call.name ∧ PlainPath call.path) →
        ∀ name ∈ names, ∃ call : Call, name = call.name := by
    intro names hnames name hname
    obtain ⟨call, heq, -⟩ := hnames name hname
    exact ⟨call, heq⟩
  rintro ⟨place, goesOn | goesOn⟩
  · exact not_goesOnAt_of_plainPath (hcalls hnames) hothers goesOn
  · exact not_goesOnAt_of_plainPath (hcalls hothers) hnames goesOn

end RestCatalog
