import RestCatalog.Proofs.Preparation.Run

/-!
# Preparing a call in its sequence

`prepare` returns the calls that a target needs in front of it.  The sequence that they are for
holds the target already, and others with it, and it is changed step by step: a call is put in
front as soon as it is found, and the locations are entered on the way back.  A `Draft` is such
a sequence.  Its calls are known by their places, so one call may stand in it more than once,
and is changed everywhere at once.

`prepareIn` is the preparation on a draft.  What it leaves is what `prepare` returns, written
into the draft (`prepareIn_eq`).  That settles what becomes of the calls that were there before:
they stand behind the new ones as they are, but for the location of the target.  A preparation
that fails has not handed over anything (`PreparationRun.untouched`), so then the calls in front
of them use no location and keep none either (`prepareIn_leaves`).
-/

namespace RestCatalog

/-- A sequence that is being prepared: calls by their places, and the places in the order of the
sequence. -/
@[ext]
structure Draft where
  calls : List Call
  order : List Nat
  bounded : ∀ place ∈ order, place < calls.length

namespace Draft

variable {draft : Draft} {place : Nat} {call other : Call}

def callAt (draft : Draft) (place : Nat) : Call := draft.calls.getD place default

/-- The calls in the order of the sequence. -/
def sequence (draft : Draft) : List Call := draft.order.map draft.callAt

/-- Puts a new call in front of the sequence; its place is the next one. -/
def putFirst (call : Call) (draft : Draft) : Draft where
  calls := draft.calls ++ [call]
  order := draft.calls.length :: draft.order
  bounded := by
    intro place hplace
    rw [List.length_append, List.length_singleton]
    rcases List.mem_cons.mp hplace with rfl | hbefore
    · exact Nat.lt_succ_self _
    · exact Nat.lt_succ_of_lt (draft.bounded place hbefore)

/-- Puts calls in front of the sequence, the last of them first. -/
def putAll (draft : Draft) (calls : List Call) : Draft := calls.foldr putFirst draft

/-- Changes the call at a place, wherever it stands. -/
def write (draft : Draft) (place : Nat) (call : Call) : Draft where
  calls := draft.calls.set place call
  order := draft.order
  bounded := by
    intro other hother
    rw [List.length_set]
    exact draft.bounded other hother

/-- Hands the location of the call at one place on to the call at another one. -/
def handOver (draft : Draft) (post target : Nat) : Draft :=
  let handed := RestCatalog.handOver (draft.callAt post) (draft.callAt target)
  (draft.write post handed.1).write target handed.2

/-! ## Reading and writing -/

@[simp]
theorem length_calls_putFirst (draft : Draft) (call : Call) :
    (draft.putFirst call).calls.length = draft.calls.length + 1 := by
  simp [putFirst]

theorem callAt_putFirst (hplace : place < draft.calls.length) :
    (draft.putFirst call).callAt place = draft.callAt place := by
  unfold callAt putFirst
  rw [List.getD_eq_getElem?_getD, List.getElem?_append_left hplace, List.getD_eq_getElem?_getD]

@[simp]
theorem callAt_putFirst_length : (draft.putFirst call).callAt draft.calls.length = call := by
  simp [callAt, putFirst]

theorem callAt_putAll (hplace : place < draft.calls.length) (calls : List Call) :
    place < (draft.putAll calls).calls.length ∧
      (draft.putAll calls).callAt place = draft.callAt place := by
  induction calls with
  | nil => exact ⟨hplace, rfl⟩
  | cons call rest ih =>
      constructor
      · exact Nat.lt_of_lt_of_le ih.1 (List.sublist_append_left _ _).length_le
      · exact (callAt_putFirst ih.1).trans ih.2

theorem sequence_putAll (draft : Draft) (calls : List Call) :
    (draft.putAll calls).sequence = calls ++ draft.sequence := by
  induction calls with
  | nil => rfl
  | cons call rest ih =>
      have hbefore : (draft.putAll rest).order.map (draft.putAll (call :: rest)).callAt =
          (draft.putAll rest).sequence :=
        List.map_congr_left fun place hplace =>
          callAt_putFirst ((draft.putAll rest).bounded place hplace)
      have hfirst : (draft.putAll (call :: rest)).callAt (draft.putAll rest).calls.length = call :=
        callAt_putFirst_length
      calc (draft.putAll (call :: rest)).sequence
          = (draft.putAll (call :: rest)).callAt (draft.putAll rest).calls.length ::
              (draft.putAll rest).order.map (draft.putAll (call :: rest)).callAt := rfl
        _ = call :: rest ++ draft.sequence := by rw [hbefore, hfirst, ih, List.cons_append]

theorem putAll_concat (draft : Draft) (calls : List Call) (call : Call) :
    draft.putAll (calls ++ [call]) = (draft.putFirst call).putAll calls := by
  unfold putAll
  rw [List.foldr_append, List.foldr_cons, List.foldr_nil]

@[simp]
theorem write_callAt (hplace : place < draft.calls.length) :
    draft.write place (draft.callAt place) = draft := by
  ext1
  · simp [write, callAt, List.getD_eq_getElem?_getD, hplace]
  · rfl

theorem write_putFirst (hplace : place < draft.calls.length) :
    (draft.putFirst call).write place other = (draft.write place other).putFirst call := by
  ext1
  · simp [write, putFirst, List.set_append_left, hplace]
  · simp [write, putFirst]

@[simp]
theorem write_putFirst_length :
    (draft.putFirst call).write draft.calls.length other = draft.putFirst other := by
  ext1
  · simp [write, putFirst]
  · rfl

theorem write_putAll (hplace : place < draft.calls.length) (calls : List Call) :
    (draft.putAll calls).write place call = (draft.write place call).putAll calls := by
  induction calls with
  | nil => rfl
  | cons first rest ih =>
      exact (write_putFirst (callAt_putAll hplace rest).1).trans (congrArg (putFirst first) ih)

/-- A draft with what was prepared for the call at a place. -/
def withPrepared (draft : Draft) (place : Nat) (prepared : Preparation) : Draft :=
  (draft.write place prepared.target).putAll prepared.inserted

theorem withPrepared_nil (hplace : place < draft.calls.length) (status : PreparationStatus) :
    draft.withPrepared place ⟨status, [], draft.callAt place⟩ = draft :=
  write_callAt hplace

/-- A POST that was prepared in front of the sequence is one that was prepared by itself, and
the location that it hands on reaches the target. -/
theorem withPrepared_followedBy (hplace : place < draft.calls.length) (call : Call)
    (inner : Preparation) :
    draft.withPrepared place (inner.followedBy (draft.callAt place)) =
      if inner.status = .created then
        ((draft.putFirst call).withPrepared draft.calls.length inner).handOver draft.calls.length
          place
      else (draft.putFirst call).withPrepared draft.calls.length inner := by
  have hinner : (draft.putFirst call).withPrepared draft.calls.length inner =
      (draft.putFirst inner.target).putAll inner.inserted := by
    unfold withPrepared
    rw [write_putFirst_length]
  rw [hinner]
  unfold Preparation.followedBy
  split
  case isTrue =>
    have hnew : draft.calls.length < (draft.putFirst inner.target).calls.length := by simp
    have hold : ∀ call, place < (draft.putFirst call).calls.length := fun call => by
      simp [Nat.lt_succ_of_lt hplace]
    unfold handOver withPrepared
    dsimp only
    rw [(callAt_putAll hnew _).2, (callAt_putAll (hold _) _).2, callAt_putFirst_length,
      callAt_putFirst hplace, write_putAll hnew, write_putFirst_length, write_putAll (hold _),
      write_putFirst hplace, putAll_concat]
  case isFalse =>
    unfold withPrepared
    dsimp only
    rw [write_callAt hplace, putAll_concat]

/-- A POST that nothing was put in front of is put there as it is. -/
theorem withPrepared_alone (hplace : place < draft.calls.length) (call : Call)
    (status : PreparationStatus) :
    draft.withPrepared place
        ((⟨status, [], call⟩ : Preparation).followedBy (draft.callAt place)) =
      if status = .created then (draft.putFirst call).handOver draft.calls.length place
      else draft.putFirst call := by
  have halone : (draft.putFirst call).withPrepared draft.calls.length ⟨status, [], call⟩ =
      draft.putFirst call := by
    unfold withPrepared
    rw [write_putFirst_length]
    rfl
  rw [withPrepared_followedBy hplace call, halone]

end Draft

namespace ResourceGroup

variable {σ : Type} [ChoiceSource σ] (group : ResourceGroup)

/-- Prepares the call at a place of a draft. -/
def prepareIn (resource : Resource) (limit : Option Int) :
    (remaining : Nat) → (draft : Draft) → (place : Nat) → Chooser σ →
      PreparationStatus × Draft × Chooser σ
  | 0, draft, _, chooser => (.notFoundDependent, draft, chooser)
  | remaining + 1, draft, place, chooser =>
    if limit.any fun (most : Int) => most ≤ (draft.order.length : Int) then
      (.notEnoughLength, draft, chooser)
    else
      match group.chooseClosest resource (draft.callAt place) [.post] chooser with
      | (none, chooser) =>
        (if (draft.callAt place).verb = .post then .created else .notFound, draft, chooser)
      | (some pattern, chooser) =>
        let post := draft.calls.length
        let draft := draft.putFirst (pattern.createdFor (draft.callAt place))
        if !(draft.callAt post).restPath.needsDependency then
          (.created, draft.handOver post place, chooser)
        else if remaining = 0 then (.notFoundDependent, draft, chooser)
        else
          match prepareIn resource limit remaining draft post chooser with
          | (.created, draft, chooser) => (.created, draft.handOver post place, chooser)
          | (_, draft, chooser) => (.notFoundDependent, draft, chooser)

variable {group} {resource : Resource} {limit : Option Int} {chooser : Chooser σ} {draft : Draft}
  {place fuel length : Nat} {target : Call}

/-! ## What is left of a draft -/

/-- A preparation on a draft finds what the preparation of its target finds, and leaves the draft
with that. -/
theorem prepareIn_eq (group : ResourceGroup) (resource : Resource) (limit : Option Int)
    (remaining : Nat) (chooser : Chooser σ) (hplace : place < draft.calls.length) :
    group.prepareIn resource limit remaining draft place chooser =
      let prepared :=
        group.prepareFor resource limit remaining draft.order.length (draft.callAt place) chooser
      (prepared.1.status, draft.withPrepared place prepared.1, prepared.2) := by
  induction remaining generalizing draft place chooser with
  | zero =>
      dsimp only [prepareIn, prepareFor]
      rw [Draft.withPrepared_nil hplace]
  | succ remaining ih =>
      unfold prepareIn prepareFor
      split
      case isTrue =>
        dsimp only
        rw [Draft.withPrepared_nil hplace]
      case isFalse =>
        obtain ⟨candidate, later, hchoice⟩ : ∃ candidate later,
            group.chooseClosest resource (draft.callAt place) [.post] chooser =
              (candidate, later) := ⟨_, _, rfl⟩
        rw [hchoice]
        cases candidate with
        | none =>
            dsimp only
            rw [Draft.withPrepared_nil hplace]
        | some pattern =>
            dsimp only
            generalize pattern.createdFor (draft.callAt place) = post
            have halone := Draft.withPrepared_alone hplace post
            rw [Draft.callAt_putFirst_length]
            split
            case isTrue =>
              exact congrArg (fun left => (PreparationStatus.created, left, later))
                (halone .created).symm
            case isFalse =>
              split
              case isTrue =>
                exact congrArg (fun left => (PreparationStatus.notFoundDependent, left, later))
                  (halone .notFoundDependent).symm
              case isFalse =>
                -- the POST stands first now, in a sequence that is longer by it
                have hpost : draft.calls.length < (draft.putFirst post).calls.length := by simp
                have hlength : (draft.putFirst post).order.length = draft.order.length + 1 := rfl
                rw [ih later hpost, Draft.callAt_putFirst_length, hlength]
                obtain ⟨inner, after⟩ :=
                  group.prepareFor resource limit remaining (draft.order.length + 1) post later
                have hstep := draft.withPrepared_followedBy hplace post inner
                obtain ⟨status, inserted, prepared⟩ := inner
                cases status with
                | created =>
                    exact congrArg (fun left => (PreparationStatus.created, left, after))
                      hstep.symm
                | _ =>
                    exact congrArg (fun left => (PreparationStatus.notFoundDependent, left, after))
                      hstep.symm

/-! ## What was handed over -/

/-- All calls that are put in front are POSTs. -/
theorem PreparationRun.posts {prepared : Preparation × Chooser σ}
    (run : group.PreparationRun resource limit fuel length target chooser prepared) :
    ∀ post ∈ prepared.1.inserted, post.verb = .post := by
  induction run with
  | full => simp
  | missing => simp
  | @settled _ _ target pattern _ _ _ hchoice _ =>
      have halike := (handOver_alike (pattern.createdFor target) target).1
      have hpost : (pattern.createdFor target).verb = .post := verb_of_chooseClosest hchoice
      exact List.forall_mem_singleton.mpr (halike.verb_eq.trans hpost)
  | @exhausted _ target pattern _ _ _ hchoice _ =>
      have hpost : (pattern.createdFor target).verb = .post := verb_of_chooseClosest hchoice
      exact List.forall_mem_singleton.mpr hpost
  | @further _ _ target pattern _ _ _ inner _ hchoice _ run ih =>
      obtain ⟨last, hinserted, halike⟩ := inner.inserted_followedBy target
      obtain ⟨location, htarget⟩ := run.target_eq
      have hpost : (pattern.createdFor target).verb = .post := verb_of_chooseClosest hchoice
      have hlast : last.verb = .post :=
        halike.verb_eq.trans ((congrArg Call.verb htarget).trans hpost)
      dsimp only
      rw [hinserted]
      exact List.forall_mem_append.mpr ⟨ih, List.forall_mem_singleton.mpr hlast⟩

/-- A preparation that fails has changed neither its target nor any call in front of it: no step
on the way back was a success. -/
theorem PreparationRun.untouched {prepared : Preparation × Chooser σ}
    (run : group.PreparationRun resource limit fuel length target chooser prepared)
    (hfailed : prepared.1.status ≠ .created) :
    prepared.1.target = target ∧
      ∀ post ∈ prepared.1.inserted, post.savesLocation = false ∧ post.locationId = none := by
  induction run with
  | full => exact ⟨rfl, nofun⟩
  | missing => exact ⟨rfl, nofun⟩
  | settled => exact absurd rfl hfailed
  | exhausted =>
      refine ⟨rfl, fun post hpost => ?_⟩
      rw [List.mem_singleton.mp hpost]
      exact ⟨rfl, rfl⟩
  | @further _ _ target _ _ _ _ inner _ _ _ _ ih =>
      have hinner : inner.status ≠ .created := fun hcreated =>
        hfailed (Preparation.status_followedBy_eq_created.mpr hcreated)
      obtain ⟨hpost, hbefore⟩ := ih hinner
      dsimp only at hpost hbefore ⊢
      unfold Preparation.followedBy
      rw [if_neg hinner]
      refine ⟨rfl, List.forall_mem_append.mpr ⟨hbefore, ?_⟩⟩
      rw [List.forall_mem_singleton, hpost]
      exact ⟨rfl, rfl⟩

end ResourceGroup

/-- What a preparation of the call at a place leaves of a draft. -/
structure Draft.LeftBy (draft later : Draft) (place : Nat) (status : PreparationStatus) : Prop where
  /-- Without success the sequence stands as it was behind new POSTs that use no location and
  keep none. -/
  failed : status ≠ .created →
    later.callAt place = draft.callAt place ∧
    ∃ posts, later.sequence = posts ++ draft.sequence ∧
      ∀ post ∈ posts, post.verb = .post ∧ post.savesLocation = false ∧ post.locationId = none
  /-- With success it stands behind new POSTs with another location of the target, at most. -/
  created : status = .created →
    ∃ posts location, later.sequence = posts ++
        (draft.write place { draft.callAt place with locationId := location }).sequence ∧
      ∀ post ∈ posts, post.verb = .post

namespace ResourceGroup

variable {σ : Type} [ChoiceSource σ] {group : ResourceGroup} {resource : Resource}
  {draft : Draft} {place : Nat}

/-- A preparation of a call in its sequence leaves there what `prepare` returns.  The calls that
were there before stay as they are if it fails, and all but the location of that call if it
succeeds. -/
theorem prepareIn_leaves (group : ResourceGroup) (resource : Resource) (limit : Option Int)
    (chooser : Chooser σ) (hplace : place ∈ draft.order) :
    let prepared :=
      group.prepare resource limit draft.order.length (draft.callAt place) chooser
    group.prepareIn resource limit (resource.ancestors.length + 1) draft place chooser =
        (prepared.1.status, draft.withPrepared place prepared.1, prepared.2) ∧
      draft.LeftBy (draft.withPrepared place prepared.1) place prepared.1.status := by
  have hlt := draft.bounded place hplace
  have run := group.prepareFor_run resource limit resource.ancestors.length draft.order.length
    (draft.callAt place) chooser
  refine ⟨group.prepareIn_eq resource limit _ chooser hlt, ?_⟩
  constructor
  case failed =>
    intro hfailed
    obtain ⟨htarget, huntouched⟩ := run.untouched hfailed
    unfold Draft.withPrepared prepare
    rw [htarget, Draft.write_callAt hlt]
    exact ⟨(Draft.callAt_putAll hlt _).2, _, Draft.sequence_putAll _ _,
      fun post hpost => ⟨run.posts post hpost, huntouched post hpost⟩⟩
  case created =>
    intro _
    obtain ⟨location, htarget⟩ := run.target_eq
    refine ⟨_, location, ?_, run.posts⟩
    unfold Draft.withPrepared prepare
    rw [Draft.sequence_putAll, htarget]

/-- A POST that needs another resource, and a GET below it. -/
def nestedGroup : ResourceGroup :=
  [{ path := Path.ofText "/A/{a}/B", calls := [{ verb := .post, path := "/A/{a}/B" }] },
    { path := Path.ofText "/A/{a}/B/{b}"
      calls := [{ verb := .get, path := "/A/{a}/B/{b}" }]
      ancestors := [0] }]

/-- The GET twice in one sequence, with a location that it was given before. -/
def repeatedGet : Draft where
  calls := [{ verb := .get, path := "/A/{a}/B/{b}", locationId := some "B" }]
  order := [0, 0]
  bounded := by decide

/-- The sequence is at its limit after one POST, so the location of the GET stays. -/
theorem prepareIn_leaves_repeatedGet :
    0 ∈ repeatedGet.order ∧
      ∃ later after, nestedGroup.prepareIn nestedGroup[1] (some 3) 2 repeatedGet 0 firstChooser =
          (.notFoundDependent, later, after) ∧
        repeatedGet.LeftBy later 0 .notFoundDependent ∧
        later.sequence.map (fun call => (call.verb, call.savesLocation, call.locationId)) =
          [(.post, false, none), (.get, false, some "B"), (.get, false, some "B")] := by
  have hplace : 0 ∈ repeatedGet.order := by decide
  obtain ⟨hrun, left⟩ :=
    nestedGroup.prepareIn_leaves nestedGroup[1] (some 3) firstChooser hplace
  have hstatus : (nestedGroup.prepare nestedGroup[1] (some 3) repeatedGet.order.length
      (repeatedGet.callAt 0) firstChooser).1.status = .notFoundDependent := by
    decide +kernel
  rw [hstatus] at hrun left
  exact ⟨hplace, _, _, hrun, left, by decide +kernel⟩

end ResourceGroup

end RestCatalog
