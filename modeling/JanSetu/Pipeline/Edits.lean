import JanSetu.Pipeline.Decision

/-!
# Citizen edits and re-extractions

`update_review` and `reextract_grievance` both load the row and write columns
back later.  What a re-extraction takes from the citizen it writes back as it
was loaded, and an edit does not write what it repeats.  An edit outlives
whatever comes after it as long as both find that content stored as they have
loaded it.
-/

namespace JanSetu

/-- The targets of the older category names are categories. -/
theorem canonicalCategoryKey_canonical {key : Option String}
    {canonical : String} (found : canonicalCategoryKey key = some canonical) :
    ∃ category, canonicalCategory canonical = some category := by
  have targets : ∀ entry ∈ legacyCategoryAliases ++ legacyDefaults,
      (canonicalCategory entry.2).isSome = true := by
    decide +kernel
  have listed : ∀ entries : List (String × String),
      (∀ entry ∈ entries, entry ∈ legacyCategoryAliases ++ legacyDefaults) →
      ∀ key, entries.lookup key = some canonical →
      ∃ category, canonicalCategory canonical = some category := by
    intro entries among key lookup
    obtain ⟨name, member⟩ : ∃ name, (name, canonical) ∈ entries := by
      induction entries with
      | nil => cases lookup
      | cons entry entries induction =>
          rw [List.lookup_cons] at lookup
          cases same : key == entry.1 with
          | true =>
              rw [same] at lookup
              cases lookup
              exact ⟨entry.1, .head _⟩
          | false =>
              rw [same] at lookup
              obtain ⟨name, member⟩ := induction
                (fun other member => among other (.tail _ member)) lookup
              exact ⟨name, .tail _ member⟩
    exact Option.isSome_iff_exists.mp (targets _ (among _ member))
  cases key with
  | none => cases found
  | some key =>
      simp only [canonicalCategoryKey] at found
      split at found
      · cases found
      · split at found
        case isTrue own =>
          cases found
          exact Option.isSome_iff_exists.mp own
        case isFalse =>
          split at found
          case h_1 _ lookup =>
            cases found
            exact listed legacyCategoryAliases
              (fun _ => List.mem_append_left _) key lookup
          case h_2 =>
            exact listed legacyDefaults
              (fun _ => List.mem_append_right _) key found

namespace Pipeline

open Process (Label)
open Transition.System (Always)

/-! ## What an edit leaves -/

/-- The snapshot is of the category that is stored. -/
def Coherent (row : Grievance) : Prop :=
  row.routingSnapshot.map (·.categoryId) = row.categoryId

/-- `dict(grievance.structured_facts or {})`. -/
def factsOf (row : Grievance) : StructuredFacts :=
  row.structuredFacts.getD .empty

/-- A category that a re-extraction does not replace. -/
def Concrete (key : String) : Prop :=
  key ∉ reviewFallbackCategories

/-- The edit that chose the category `key` is stored, and routed by. -/
structure EditKept (key : String) (body : ReviewPatch) (row : Grievance) :
    Prop where
  category : Concrete key → row.categoryId = some key
  summary : ∀ text, body.summary = some text → Python.strip text ≠ "" →
    (factsOf row).summary = some (Python.strip text)
  answer : ∀ text, body.clarificationAnswer = some text →
    (factsOf row).clarificationAnswer = some (Python.strip text)
  coherent : Coherent row

/-- The stored row is as good as the one that was loaded, for what the
operation takes from it. -/
def Current : Operation → Grievance → Grievance → Prop
  | .reextract, known, row =>
      row.categoryId = known.categoryId ∧
        (factsOf row).summary = (factsOf known).summary ∧
        (factsOf row).clarificationAnswer =
          (factsOf known).clarificationAnswer
  | .updateReview _ body, known, row =>
      (∀ key scope, UpdateReview.accepted body known = some (key, scope) →
        known.categoryId = some key → row.categoryId = some key) ∧
      (∀ text, body.summary = some text →
        (factsOf known).summary = some (Python.strip text) →
        (factsOf row).summary = some (Python.strip text)) ∧
      ∀ text, body.clarificationAnswer = some text →
        (factsOf known).clarificationAnswer = some (Python.strip text) →
        (factsOf row).clarificationAnswer = some (Python.strip text)
  | operation, _, _ =>
      operation.extracts = false ∧ operation.reviews = false

/-! ## One write -/

section

variable {known current : Grievance} (now : Time)
  {change : Grievance → Grievance}

/-- A category that is written takes its snapshot along, and one that is not
written is stored already. -/
theorem set_coherent (knownCoherent : Coherent known)
    (coherent : Coherent current)
    (changed : Coherent (change known))
    (stored : (change known).categoryId = known.categoryId →
      current.categoryId = known.categoryId) :
    let row :=
      (RowSession.set { known := known, current := current } now
        change).current
    row.categoryId = (change known).categoryId ∧ Coherent row := by
  intro row
  have category : row.categoryId = (change known).categoryId := by
    by_cases same : (change known).categoryId = known.categoryId
    · have kept : row.categoryId = current.categoryId :=
        RowSession.categoryId_isColumn.set_same _ _ same
      rw [kept, same]
      exact stored same
    · exact RowSession.categoryId_isColumn.set_new _ _ same
  refine ⟨category, ?_⟩
  show row.routingSnapshot.map (·.categoryId) = row.categoryId
  rw [category]
  by_cases same : (change known).routingSnapshot = known.routingSnapshot
  · have kept : row.routingSnapshot = current.routingSnapshot :=
      RowSession.routingSnapshot_isColumn.set_same _ _ same
    have unchanged : (change known).categoryId = known.categoryId := by
      rw [← changed, same, knownCoherent]
    rw [kept, coherent, stored unchanged, unchanged]
  · have written : row.routingSnapshot = (change known).routingSnapshot :=
      RowSession.routingSnapshot_isColumn.set_new _ _ same
    rw [written, changed]

/-- A member of `structured_facts` that is set, or that the writer repeats of
what is stored. -/
theorem set_member {Value : Type} (member : StructuredFacts → Value)
    {value : Value} (sets : member (factsOf (change known)) = value)
    (stored : member (factsOf known) = value →
      member (factsOf current) = value) :
    member (factsOf (RowSession.set { known := known, current := current }
      now change).current) = value := by
  have isColumn := RowSession.structuredFacts_isColumn
  by_cases same : (change known).structuredFacts = known.structuredFacts
  · have kept : factsOf (RowSession.set
        { known := known, current := current } now change).current =
        factsOf current :=
      congrArg (·.getD StructuredFacts.empty) (isColumn.set_same _ _ same)
    have repeats : factsOf (change known) = factsOf known :=
      congrArg (·.getD StructuredFacts.empty) same
    rw [kept]
    apply stored
    rw [← repeats, sets]
  · have written : factsOf (RowSession.set
        { known := known, current := current } now change).current =
        factsOf (change known) :=
      congrArg (·.getD StructuredFacts.empty) (isColumn.set_new _ _ same)
    rw [written, sets]

variable {key : String} {body : ReviewPatch}

/-- The edit itself. -/
theorem EditKept.of_edit {userId : String} {scope : AssetScope}
    (knownCoherent : Coherent known) (coherent : Coherent current)
    (accepted : UpdateReview.accepted body known = some (key, scope))
    (fresh : Current (.updateReview userId body) known current) :
    EditKept key body (RowSession.set { known := known, current := current }
      now (UpdateReview.fields body key scope)).current := by
  obtain ⟨category, summary, answer⟩ := fresh
  have stored : (UpdateReview.fields body key scope known).categoryId =
      known.categoryId → current.categoryId = known.categoryId := by
    intro same
    have repeated : known.categoryId = some key := same.symm
    rw [repeated]
    exact category key scope accepted repeated
  obtain ⟨chosen, routed⟩ := set_coherent now knownCoherent coherent
    (rfl : Coherent (UpdateReview.fields body key scope known)) stored
  refine ⟨fun _ => chosen, ?_, ?_, routed⟩
  · intro text given _
    apply set_member now (·.summary) _ (summary text given)
    simp [UpdateReview.fields, UpdateReview.facts, factsOf, given]
  · intro text given
    apply set_member now (·.clarificationAnswer) _ (answer text given)
    simp [UpdateReview.fields, UpdateReview.facts, factsOf, given]

/-- A re-extraction. -/
theorem EditKept.of_reextract {category : Category}
    {extraction : StructuredExtraction} {route : Option JurisdictionRoute}
    (kept : EditKept key body current)
    (canonical : canonicalCategory key = some category)
    (knownCoherent : Coherent known)
    (fresh : Current .reextract known current) :
    EditKept key body (RowSession.set { known := known, current := current }
      now (Reextract.fields extraction route)).current := by
  obtain ⟨sameCategory, sameSummary, sameAnswer⟩ := fresh
  obtain ⟨chosen, routed⟩ := set_coherent now knownCoherent
    kept.coherent (rfl : Coherent (Reextract.fields extraction route known))
    fun _ => sameCategory
  refine ⟨?_, ?_, ?_, routed⟩
  · intro concrete
    have own : known.categoryId = some key :=
      sameCategory.symm.trans (kept.category concrete)
    have present : key ≠ "" := by
      rintro rfl
      rw [canonicalCategory_ne_empty] at canonical
      cases canonical
    have citizens : Reextract.citizenCategory known = some key := by
      have refuses : ¬ (key = "" ∨ key ∈ reviewFallbackCategories) := by
        rintro (empty | fallback)
        · exact present empty
        · exact concrete fallback
      simp only [Reextract.citizenCategory, own, if_neg refuses]
    have keeps : (Reextract.category known extraction).key = key := by
      simp only [Reextract.category, citizens]
      rw [categoryOrDefault_canonical canonical,
        canonicalCategory_key canonical]
    rw [chosen]
    exact congrArg some keeps
  · intro text given nonempty
    have stored := kept.summary text given nonempty
    apply set_member now (·.summary) _ fun _ => stored
    have loaded : (known.structuredFacts.getD .empty).summary =
        some (Python.strip text) := sameSummary.symm.trans stored
    have truthy : Python.truthy (some (Python.strip text)) = true := by
      simpa [Python.truthy] using nonempty
    show (Reextract.mergedFacts known extraction).summary = _
    simp only [Reextract.mergedFacts, loaded, truthy, if_true]
  · intro text given
    have stored := kept.answer text given
    apply set_member now (·.clarificationAnswer) _ fun _ => stored
    exact sameAnswer.symm.trans stored

end

/-! ## Steps -/

/-- The columns an edit is read from. -/
def SameEdit (row other : Grievance) : Prop :=
  row.categoryId = other.categoryId ∧
    row.structuredFacts = other.structuredFacts ∧
    row.routingSnapshot = other.routingSnapshot

theorem Coherent.of_same {row other : Grievance} (coherent : Coherent other)
    (same : SameEdit row other) : Coherent row := by
  unfold Coherent
  rw [same.1, same.2.2]
  exact coherent

theorem EditKept.of_same {key : String} {body : ReviewPatch}
    {row other : Grievance} (kept : EditKept key body other)
    (same : SameEdit row other) : EditKept key body row := by
  have facts : factsOf row = factsOf other :=
    congrArg (·.getD StructuredFacts.empty) same.2.1
  constructor
  · rw [same.1]
    exact kept.category
  · rw [facts]
    exact kept.summary
  · rw [facts]
    exact kept.answer
  · exact kept.coherent.of_same same

section

variable {settings : Settings} {id : String} {known : Grievance}
  {now : Time} {answer : Answer} {operation : Operation}
  {fields : Grievance → Grievance} {next : Grievance → Progress}

theorem Operation.Writes.same_edit
    (writes : operation.Writes settings id known answer fields next)
    (extracts : operation.extracts = false)
    (reviews : operation.reviews = false) :
    SameEdit (fields known) known := by
  cases writes with
  | runPipeline => cases extracts
  | reextract => cases extracts
  | updateReview => cases reviews
  | officialAction => cases reviews
  | recheckImage =>
      exact ⟨withReceipt_column settings (fun _ => rfl) _ _ known,
        withReceipt_column settings (fun _ => rfl) _ _ known,
        withReceipt_column settings (fun _ => rfl) _ _ known⟩
  | _ => exact ⟨rfl, rfl, rfl⟩

theorem set_same_edit {session : RowSession}
    (same : SameEdit (fields session.known) session.known) :
    SameEdit (session.set now fields).current session.current :=
  ⟨RowSession.categoryId_isColumn.set_same _ _ same.1,
    RowSession.structuredFacts_isColumn.set_same _ _ same.2.1,
    RowSession.routingSnapshot_isColumn.set_same _ _ same.2.2⟩

theorem registeredThen_same_edit {session : RowSession} {confirmedAt : Time}
    (same : ∀ row, SameEdit (fields row) row) :
    SameEdit (registeredThen session confirmedAt now fields).current
      session.current :=
  ⟨registeredThen_same RowSession.categoryId_isColumn _ _ _ (fun _ => rfl)
      fun row => (same row).1,
    registeredThen_same RowSession.structuredFacts_isColumn _ _ _
      (fun _ => rfl) fun row => (same row).2.1,
    registeredThen_same RowSession.routingSnapshot_isColumn _ _ _
      (fun _ => rfl) fun row => (same row).2.2⟩

/-- A property of the edit is kept by every write of a step that neither
extracts nor reviews. -/
theorem Task.Touches.keeps_edit {task : Task} {current : Grievance}
    {routes : List JurisdictionRouteRow} {property : Grievance → Prop}
    {writes : RowSession → RowSession}
    (columns : ∀ row other, SameEdit row other → property other →
      property row)
    (touches : task.Touches settings routes now answer id known writes)
    (wrote : ∀ operation fields next, task = .loaded operation id known →
      operation.Writes settings id known answer fields next →
      operation.Commits settings routes id known now answer fields →
      (operation.extracts || operation.reviews) = true →
      property (RowSession.set { known := known, current := current } now
        fields).current)
    (before : property current) :
    property
      (writes { known := known, current := current : RowSession }).current := by
  cases touches with
  | @wrote operation _ _ _ _ writes commits =>
      cases decides : operation.extracts || operation.reviews with
      | true => exact wrote _ _ _ rfl writes commits decides
      | false =>
          obtain ⟨extracts, reviews⟩ := Bool.or_eq_false_iff.mp decides
          exact columns _ _
            (set_same_edit (writes.same_edit extracts reviews)) before
  | confirmed confirms =>
      refine columns _ _ (set_same_edit ?_) before
      cases confirms <;> exact ⟨rfl, rfl, rfl⟩
  | openedWindow =>
      exact columns _ _
        (registeredThen_same_edit fun _ => ⟨rfl, rfl, rfl⟩) before
  | merged =>
      exact columns _ _
        (registeredThen_same_edit fun _ => ⟨rfl, rfl, rfl⟩) before
  | reported =>
      exact columns _ _ (set_same_edit ⟨rfl, rfl, rfl⟩) before
  | submitted =>
      exact columns _ _ (set_same_edit ⟨rfl, rfl, rfl⟩) before
  | retried =>
      exact columns _ _ (set_same_edit ⟨rfl, rfl, rfl⟩) before

end

/-! ## Runs -/

/-- Edits and re-extractions of the grievance alone revise it, and find stored
what they have loaded of the citizen's. -/
def Revises (id : String) (world : World Store Job)
    (label : Label Request Choice) : Prop :=
  ∀ pid choice operation known, label = .resume pid choice →
    choice.answer ≠ .raises → Runs world pid (.loaded operation id known) →
    operation.refuses known choice.answer = false →
    world.shared.Every id (Current operation known)

/-- No edit of the grievance is committed. -/
def Unedited (id : String) (world : World Store Job)
    (label : Label Request Choice) : Prop :=
  ∀ pid choice userId body known, label = .resume pid choice →
    Runs world pid (.loaded (.updateReview userId body) id known) →
    choice.answer = .raises ∨
      Operation.refuses known (.updateReview userId body) choice.answer = true

def coherent (id : String) : TaskInvariant :=
  { shared := fun store => store.Every id Coherent
    own := fun _ task => ∀ operation known,
      task = .loaded operation id known → Coherent known
    waiting := fun _ _ => True
    pair := fun _ _ => True }

section

variable {settings : Settings} {geometry : Geometry} {id : String}
  {world next final : World Store Job}
  {labels : List (Label Request Choice)}
  {allowed : World Store Job → Label Request Choice → Prop}

/-- What is written by an extraction or a review that is allowed. -/
theorem Operation.Writes.current {operation : Operation}
    {known stored : Grievance} {answer : Answer} {now : Time}
    {fields : Grievance → Grievance} {next : Grievance → Progress}
    {routes : List JurisdictionRouteRow}
    (writes : operation.Writes settings id known answer fields next)
    (commits : operation.Commits settings routes id known now answer fields)
    (decides : (operation.extracts || operation.reviews) = true)
    (fresh : Current operation known stored) :
    (∃ userId body key scope, operation = .updateReview userId body ∧
      UpdateReview.accepted body known = some (key, scope) ∧
      fields = UpdateReview.fields body key scope) ∨
    ∃ extraction route, operation = .reextract ∧
      fields = Reextract.fields extraction route := by
  cases writes with
  | runPipeline => cases fresh.1
  | officialAction => cases fresh.2
  | reextract extraction route => exact .inr ⟨extraction, route, rfl, rfl⟩
  | updateReview userId body key scope accepted =>
      exact .inl ⟨userId, body, key, scope, rfl, accepted, rfl⟩
  | _ => cases decides

/-- A write of an edit or a re-extraction takes the snapshot along. -/
theorem set_coherent_of_current {operation : Operation}
    {known stored : Grievance} {answer : Answer} {now : Time}
    {fields : Grievance → Grievance} {next : Grievance → Progress}
    {routes : List JurisdictionRouteRow}
    (writes : operation.Writes settings id known answer fields next)
    (commits : operation.Commits settings routes id known now answer fields)
    (decides : (operation.extracts || operation.reviews) = true)
    (fresh : Current operation known stored)
    (knownCoherent : Coherent known) (before : Coherent stored) :
    Coherent (RowSession.set { known := known, current := stored } now
      fields).current := by
  rcases writes.current commits decides fresh with
    ⟨userId, body, key, scope, rfl, accepted, rfl⟩ |
    ⟨extraction, route, rfl, rfl⟩
  · exact (EditKept.of_edit now knownCoherent before accepted fresh).coherent
  · have changed : Coherent (Reextract.fields extraction route known) := rfl
    exact (set_coherent now knownCoherent before changed
      fun _ => fresh.1).2

theorem coherent_holds
    (revises : ∀ world label, allowed world label → Revises id world label)
    (reachable : (program settings geometry Coherent).system.ReachableWhen
      allowed world) : (coherent id).Holds world := by
  refine TaskInvariant.holds ?_ ?_ ?_ ?_ ?_ ?_ reachable
  · intro store initial row found
    exact initial.2.2 id row found
  · intro store after same
    refine ⟨?_, fun _ holds => holds, fun _ _ => trivial⟩
    intro before row found
    rw [same.1] at found
    exact before row found
  · intro world pid request task _ _ _ starts
    refine ⟨?_, fun _ _ _ _ => ⟨trivial, trivial⟩⟩
    rintro operation known rfl
    cases request <;> cases starts
  · exact fun _ _ _ _ _ _ _ _ _ _ => trivial
  · intro world pid store other _
    refine ⟨?_, fun _ _ _ _ => ⟨trivial, trivial⟩⟩
    intro operation known same
    cases same
  · intro world pid task choice after progress _ holding permitted runs plain
      moves
    have shared : after.Every id Coherent := by
      refine moves.every (fun _ _ _ _ _ => rfl) ?_ holding.shared
      intro known writes current touches here before
      refine touches.keeps_edit (fun _ _ same holds => holds.of_same same) ?_
        before
      rintro operation fields next rfl writes commits decides
      have found := here.resolve_left (by simp [Task.merges])
      have fresh := revises _ _ permitted pid choice operation known rfl
        plain runs (writes.accepts commits decides) current found
      exact set_coherent_of_current writes commits decides fresh
        (holding.own runs operation known rfl) before
    refine ⟨shared, fun _ _ _ _ before => before, fun _ before => before, ?_⟩
    rintro next rfl
    refine ⟨?_, fun _ _ _ _ => ⟨trivial, trivial⟩⟩
    rintro operation known rfl
    exact shared known moves.loads

/-- An edit outlives the re-extractions that find it as they loaded it. -/
theorem edit_kept {key : String} {body : ReviewPatch} {category : Category}
    (canonical : canonicalCategory key = some category)
    (reachable : (program settings geometry Coherent).system.ReachableWhen
      (Revises id) world)
    (runs : (program settings geometry Coherent).system.RunWhen
      (fun world label => Revises id world label ∧ Unedited id world label)
      world labels final)
    (before : world.shared.Has id (EditKept key body)) :
    final.shared.Has id (EditKept key body) := by
  induction runs with
  | nil => exact before
  | @cons state next _ label _ permitted taken _ induction =>
      apply induction (reachable.next permitted.1 taken)
      refine step_has taken ?_ before
      intro pid choice task after progress is runs plain moves
      have holding := coherent_holds (fun _ _ permitted => permitted)
        reachable
      refine moves.has ?_ before
      intro known writes current touches here kept
      refine touches.keeps_edit (fun _ _ same holds => holds.of_same same) ?_
        kept
      rintro operation fields next rfl writes commits decides
      have found := here.resolve_left (by simp [Task.merges])
      have accepts := writes.accepts commits decides
      have fresh := permitted.1 pid choice operation known is plain runs
        accepts current found
      rcases writes.current commits decides fresh with
        ⟨userId, edit, other, scope, rfl, _, _⟩ |
        ⟨extraction, route, rfl, rfl⟩
      · -- No edit is committed any more.
        have refused := (permitted.2 pid choice userId edit known is
          runs).resolve_left plain
        rw [accepts] at refused
        cases refused
      · exact kept.of_reextract _ canonical
          (holding.own runs .reextract known rfl) fresh

/-- An edit that is accepted is written. -/
theorem updateReview_writes {store after : Store} {choice : Choice}
    {userId key : String} {scope : AssetScope} {body : ReviewPatch}
    {known : Grievance} {progress : Progress}
    (resumed : (Task.loaded (.updateReview userId body) id known).resume
      settings geometry store choice = some (after, progress))
    (plain : choice.answer ≠ .raises) (own : known.userId = some userId)
    (accepted : UpdateReview.accepted body known = some (key, scope)) :
    ∃ current, store.Wrote after id known current
      (·.set choice.now (UpdateReview.fields body key scope)) := by
  unfold Task.resume at resumed
  rw [if_neg plain] at resumed
  have ran : Operation.run settings geometry store id known choice.now
      (.updateReview userId body) choice.answer =
        some (after, progress) := resumed
  unfold Operation.run at ran
  split at ran <;> first | contradiction | skip
  case h_6 same _ =>
    cases same
    unfold Store.updateReview at ran
    rw [if_neg (not_not.mpr own), accepted] at ran
    obtain ⟨current, wrote, _⟩ := Store.write_wrote ran
    exact ⟨current, wrote⟩

/-- As long as edits and re-extractions find stored what they have loaded of
the citizen's, the snapshot is of the stored category, and what the last edit
has set is what is stored. -/
theorem edit_stands
    (reachable : (program settings geometry Coherent).system.ReachableWhen
      (Revises id) world) :
    world.shared.Every id Coherent ∧
      ∀ pid choice userId body known key scope next,
        (program settings geometry Coherent).system.step world
          (.resume pid choice) = some next →
        Revises id world (.resume pid choice) →
        Runs world pid (.loaded (.updateReview userId body) id known) →
        choice.answer ≠ .raises → known.userId = some userId →
        UpdateReview.accepted body known = some (key, scope) →
        ∀ labels final,
          (program settings geometry Coherent).system.RunWhen
            (fun world label => Revises id world label ∧
              Unedited id world label) next labels final →
          final.shared.Has id (EditKept key body) := by
  have holding := coherent_holds (fun _ _ permitted => permitted) reachable
  refine ⟨holding.shared, ?_⟩
  intro pid choice userId body known key scope next taken revises runs plain
    own accepted labels final continues
  obtain ⟨progress, moving⟩ := step_task taken runs
  obtain ⟨current, wrote⟩ := updateReview_writes moving plain own accepted
  have accepts : Operation.refuses known (.updateReview userId body)
      choice.answer = false := by
    simp [Operation.refuses, own, accepted]
  have fresh := revises pid choice _ known rfl plain runs accepts current
    wrote.found
  have kept : next.shared.Has id (EditKept key body) :=
    ⟨_, wrote.find_self,
      .of_edit _ (holding.own runs _ known rfl)
        (holding.shared current wrote.found) accepted fresh⟩
  have canonical : canonicalCategoryKey
      (chosenCategory body.categoryId known) = some key := by
    unfold UpdateReview.accepted at accepted
    split at accepted
    case h_1 found _ =>
      cases accepted
      exact found
    case h_2 => cases accepted
  obtain ⟨category, found⟩ := canonicalCategoryKey_canonical canonical
  exact edit_kept found (reachable.next revises taken) continues kept

end

/-! ## An edit that stands, and one that is lost -/

/-- A citizen's correction of the category, with a summary and an answer. -/
def correction : ReviewPatch :=
  { categoryId := some "pothole_surface_damage", assetScope := none
    summary := some " Deep pothole ", clarificationAnswer := some "Main Road" }

def Operation.edits : Operation → Bool
  | .updateReview _ _ => true
  | _ => false

/-- A process that is alone finds stored what it has loaded. -/
def findsLoaded (edits : Bool) (store : Store) (job : Job) (_ : Choice) :
    Bool :=
  match job.task with
  | some (.loaded operation id known) =>
      store.grievances.find id = some known &&
        (operation = .reextract || edits && operation.edits)
  | _ => true

theorem Current.refl {operation : Operation} (known : Grievance)
    (corrects : operation = .reextract ∨ operation.edits = true) :
    Current operation known known := by
  rcases corrects with rfl | edits
  · exact ⟨rfl, rfl, rfl⟩
  · cases operation with
    | updateReview =>
        exact ⟨fun _ _ _ same => same, fun _ _ same => same,
          fun _ _ same => same⟩
    | _ => cases edits

theorem revises_of_spawn {world : World Store Job} {pid : Nat}
    {request : Request} {id : String} :
    Revises id world (.spawn pid request) ∧
      Unedited id world (.spawn pid request) := by
  constructor
  · intro _ _ _ _ same
    cases same
  · intro _ _ _ _ _ same
    cases same

theorem revises_of_alone {world : World Store Job} {job : Job}
    {choice : Choice} {id : String} {edits : Bool}
    (only : Process.OnlyRunning world 0 (some job))
    (test : findsLoaded edits world.shared job choice = true) :
    Revises id world (.resume 0 choice) := by
  intro pid _ operation known same _ runs _ row found
  have doing := task_of_alone only runs
  simp only [findsLoaded, doing, Bool.and_eq_true, decide_eq_true_eq,
    Bool.or_eq_true] at test
  have loaded : row = known := Option.some.inj (found.symm.trans test.1)
  rw [loaded]
  exact Current.refl known (test.2.imp_right And.right)

theorem unedited_of_alone {world : World Store Job} {job : Job}
    {choice : Choice} {id : String}
    (only : Process.OnlyRunning world 0 (some job))
    (test : findsLoaded false world.shared job choice = true) :
    Unedited id world (.resume 0 choice) := by
  intro pid _ userId body known same runs
  have doing := task_of_alone only runs
  simp [findsLoaded, doing] at test

/-- A correction that a re-extraction takes up. -/
theorem edit_stands_reextracted :
    ∃ next final labels,
      (program defaultSettings flatMap Coherent).system.RunWhen
        (fun world label => Revises "g" world label ∧
          Unedited "g" world label) next labels final ∧
      final.Quiet ∧
      (final.shared.grievances.find "g").map (·.flags) =
        some ["category_dispute"] ∧
      final.shared.Has "g" (EditKept "pothole_surface_damage" correction) := by
  let program := program defaultSettings flatMap Coherent
  let edit : Operation := .updateReview "citizen" correction
  let store : Store := .single "g" reviewedGrievance
  have only : Process.OnlyRunning
      ((World.start store).put store 0
        (some (Job.request (.opened edit "g"))))
      0 (some (.request (.opened edit "g"))) := by
    have idle : Process.OnlyRunning (World.start store) 0
        (none : Option Job) := by
      intro other
      simp [World.start]
    exact idle.put store _
  have spawned : program.system.ReachableWhen (Revises "g")
      ((World.start store).put store 0
        (some (Job.request (.opened edit "g")))) := by
    have initial : program.initial store := Store.single_initial rfl
    have started : program.system.ReachableWhen (Revises "g")
        (World.start store) := .start ⟨store, initial, rfl⟩
    have begins : Revises "g" (World.start store)
        (.spawn 0 (.updateReview "g" "citizen" correction)) :=
      revises_of_spawn.1
    exact started.next begins rfl
  have ran : ((program.alone (findsLoaded true) store
        (Job.request (.opened edit "g")) [⟨1, .plain⟩]).bind fun first =>
      (first.2.bind fun job =>
        program.alone (findsLoaded true) first.1 job [⟨2, .plain⟩]).bind
          fun second =>
      (program.serial (findsLoaded false) second.1
        [(.reextract "g",
          [⟨3, .plain⟩, ⟨4, .extraction streetlightExtraction⟩])]).map
        fun final => (first.2, second.2,
          (final.grievances.find "g").map (·.flags))) =
      some (some (Job.request (.loaded edit "g" reviewedGrievance)), none,
        some ["category_dispute"]) := by
    decide +kernel
  obtain ⟨⟨shared, job⟩, loads, rest⟩ := Option.bind_eq_some_iff.mp ran
  obtain ⟨⟨written, after⟩, writes, rest⟩ := Option.bind_eq_some_iff.mp rest
  obtain ⟨last, served, same⟩ := Option.map_eq_some_iff.mp rest
  simp only [Prod.mk.injEq] at same
  obtain ⟨rfl, rfl, flags⟩ := same
  obtain ⟨world, loading, rfl, loaded⟩ :=
    Process.Program.runWhen_alone (fun _ _ _ => revises_of_alone) only loads
  obtain ⟨next, step, rfl, finished⟩ :=
    Process.Program.runWhen_alone (fun _ _ _ => revises_of_alone) loaded
      writes
  let spares := fun (world : World Store Job)
      (label : Label Request Choice) =>
    Revises "g" world label ∧ Unedited "g" world label
  have corrects : ∀ (world : World Store Job) (job : Job) (choice : Choice),
      Process.OnlyRunning world 0 (some job) →
      findsLoaded false world.shared job choice = true →
      spares world (.resume 0 choice) :=
    fun _ _ _ only test =>
      ⟨revises_of_alone only test, unedited_of_alone only test⟩
  obtain ⟨labels, final, runs, rfl, quiet⟩ :=
    Process.Program.runWhen_serial (fun _ _ _ _ => revises_of_spawn) corrects
      finished.quiet served
  cases step with
  | cons permitted taken rest =>
      cases rest
      have reached := spawned.run loading
      have doing : Runs world 0 (.loaded edit "g" reviewedGrievance) :=
        ⟨_, loaded 0, rfl⟩
      have accepted : UpdateReview.accepted correction reviewedGrievance =
          some ("pothole_surface_damage", .unknown) := by
        decide +kernel
      have plain : (Answer.plain : Answer) ≠ .raises := by simp
      exact ⟨next, final, labels, runs, quiet, flags,
        (edit_stands reached).2 0 ⟨2, .plain⟩ "citizen" correction
          reviewedGrievance _ _ next taken permitted doing plain rfl accepted
          labels final runs⟩

/-- A grievance of which the pipeline could not make out the category. -/
def unclearGrievance : Grievance :=
  { reviewedGrievance with
    category := some "insufficient_information"
    categoryId := some "insufficient_information"
    routingSnapshot := reviewedGrievance.routingSnapshot.map
      ({ · with categoryId := "insufficient_information" }) }

def Store.categoryOf (store : Store) (id : String) : Option (Option String) :=
  (store.grievances.find id).map (·.categoryId)

/-- A re-extraction has loaded a report with too little information.  The
citizen chooses a category, which the model's answer then replaces. -/
theorem edit_lost :
    ∃ world final,
      (program defaultSettings flatMap Coherent).system.Reachable world ∧
      (program defaultSettings flatMap Coherent).system.RunWhen Always world
        [.resume 0 ⟨3, .extraction streetlightExtraction⟩] final ∧
      final.Quiet ∧
      world.shared.categoryOf "g" = some (some "pothole_surface_damage") ∧
      final.shared.categoryOf "g" = some (some "streetlight_out") := by
  have ran : (((program defaultSettings flatMap Coherent).system.run
      (World.start (.single "g" unclearGrievance))
      [.spawn 0 (.reextract "g"), .resume 0 ⟨1, .plain⟩,
       .spawn 1 (.updateReview "g" "citizen" correction),
       .resume 1 ⟨2, .plain⟩, .resume 1 ⟨2, .plain⟩]).bind fun middle =>
      ((program defaultSettings flatMap Coherent).system.run middle
        [.resume 0 ⟨3, .extraction streetlightExtraction⟩]).map fun final =>
        (middle.shared.categoryOf "g", final.shared.categoryOf "g",
          (List.range 2).all fun pid => (final.processes pid).isNone)) =
      some (some (some "pothole_surface_damage"),
        some (some "streetlight_out"), true) := by
    decide +kernel
  have initial : (program defaultSettings flatMap Coherent).initial
      (.single "g" unclearGrievance) := Store.single_initial rfl
  exact Process.Program.runs_quiet 2 (Store.categoryOf · "g") initial rfl ran

end Pipeline

end JanSetu
