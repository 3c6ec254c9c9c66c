import JanSetu.Library.Noninterference
import JanSetu.Officials.CodeSafety

/-!
# Who is an official

The response to a code request is generic, so that nobody can find out by it
whether an email belongs to an official.  The requests of the login tell the
same with and without the official, in any order, among logins of other
officials, as long as nobody guesses a code that was made for the email.
-/

namespace JanSetu.Officials

open Process (Label Program Related Matched)
open Python (lower strip)

/-- What the caller of a request is told; `failed` is an exception. -/
inductive Response where
  | tooManyRequests
  | codeRequested (challengeId : String)
  | invalidOrExpired
  | session (session : OfficialSession)
  | failed
deriving DecidableEq

section

variable (sha256 : String → String) (settings : Settings)

/-- The response that ends the first transaction of a verification. -/
def Store.refusal (store : Store) (body : OfficialCodeVerify) (now : Time) :
    Option Response :=
  match store.challenges.find body.challengeId with
  | none => some .invalidOrExpired
  | some challenge =>
      if challenge.isLive now then
        match settings.codeMatches sha256 challenge body.code with
        | none => some .failed
        | some _ => none
      else some .invalidOrExpired

/-- The response of a step that ends its request. -/
def Handler.respond (store : Store) (handler : Handler) (choice : Choice) :
    Option Response :=
  match handler, choice.answer with
  | .counting email, .plain =>
      if settings.officialCodeMaxPerHour ≤
          store.recentOfficialChallengeCount (hash sha256 email)
            choice.now then
        some .tooManyRequests
      else none
  | .lookingUp email, .plain =>
      match store.officialsByEmail email with
      | [] => none
      | [_] => none
      | _ => some .failed
  | .creating _ _, .drawn challengeId _ => some (.codeRequested challengeId)
  | .verifying body, .plain =>
      store.refusal sha256 settings body choice.now
  | .refusing _ _ _, .plain => some .invalidOrExpired
  | .reading _ _ officialId _ _, .plain =>
      match store.officials.find officialId with
      | none => some .invalidOrExpired
      | some official =>
          if official.active then none else some .invalidOrExpired
  | .consuming _ _ officialId _ _ official, .plain =>
      match store.officials.find officialId with
      | none => some .failed
      | some _ => some (.session (official.session settings officialId
          choice.now))
  | .administering _ _, _ => none
  | _, .raises => some .failed
  | _, _ => none

end

/-! ## Stores with and without the official -/

section

variable (hidden : String → Bool) (address : String)
  (sha256 : String → String) (settings : Settings)

/-- The challenges differ at most in the official they are bound to, and only
where they were made for the address. -/
structure AlikeRow (left right : OfficialLoginChallenge) : Prop where
  same : right = { left with officialUserId := right.officialUserId }
  bound : left.officialUserId = right.officialUserId ∧
      (∀ officialId, left.officialUserId = some officialId →
        hidden officialId = false) ∨
    left.emailHash = sha256 address

/-- The hidden ids are those of the address, of which there is one at most. -/
structure Secret (store : Store) : Prop where
  address : ∀ officialId row, store.officials.find officialId = some row →
    (hidden officialId = true ↔ lower row.email = address)
  single : ∀ officialId other row further, hidden officialId = true →
    hidden other = true → store.officials.find officialId = some row →
    store.officials.find other = some further → officialId = other

structure Alike (left right : Store) : Prop where
  locked : left.locked = right.locked
  challenges : ∀ challengeId,
    Option.Rel (AlikeRow hidden address sha256)
      (left.challenges.find challengeId) (right.challenges.find challengeId)
  officials : ∀ officialId, hidden officialId = false →
    left.officials.find officialId = right.officials.find officialId
  left : Secret hidden address left
  right : Secret hidden address right

inductive AlikeHandler : Handler → Handler → Prop where
  | counting (email : String) :
      AlikeHandler (.counting email) (.counting email)
  | lookingUp (email : String) :
      AlikeHandler (.lookingUp email) (.lookingUp email)
  | creating {email : String} {left right : Option String} :
      left = right ∧
          (∀ officialId, left = some officialId →
            hidden officialId = false) ∨
        lower (strip email) = address →
      AlikeHandler (.creating email left) (.creating email right)
  | verifying (body : OfficialCodeVerify) :
      AlikeHandler (.verifying body) (.verifying body)
  | refusing {challengeId code : String}
      {left right : OfficialLoginChallenge} :
      AlikeRow hidden address sha256 left right →
      AlikeHandler (.refusing challengeId code left)
        (.refusing challengeId code right)
  | reading {challengeId code officialId : String} {checkedAt : Time}
      {left right : OfficialLoginChallenge} :
      hidden officialId = false →
      AlikeRow hidden address sha256 left right →
      AlikeHandler (.reading challengeId code officialId checkedAt left)
        (.reading challengeId code officialId checkedAt right)
  | consuming {challengeId code officialId : String} {checkedAt : Time}
      {left right : OfficialLoginChallenge} {official : OfficialUser} :
      hidden officialId = false →
      AlikeRow hidden address sha256 left right →
      AlikeHandler
        (.consuming challengeId code officialId checkedAt left official)
        (.consuming challengeId code officialId checkedAt right official)
  | administering {officialId : String} {row : OfficialUser} :
      hidden officialId = false → lower row.email ≠ address →
      AlikeHandler (.administering officialId row)
        (.administering officialId row)

end

section

variable {hidden : String → Bool} {address : String}
  {sha256 : String → String} {settings : Settings}
  {left right : Store} {choice : Choice}

theorem AlikeRow.hash {one two : OfficialLoginChallenge}
    (alike : AlikeRow hidden address sha256 one two) :
    two.codeHash = one.codeHash ∧ two.emailHash = one.emailHash ∧
      two.createdAt = one.createdAt := by
  rw [alike.same]
  exact ⟨rfl, rfl, rfl⟩

/-- What the code compares of a row is the same. -/
theorem AlikeRow.codeMatches {one two : OfficialLoginChallenge}
    (alike : AlikeRow hidden address sha256 one two) (code : String) :
    settings.codeMatches sha256 two code =
      settings.codeMatches sha256 one code := by
  unfold Settings.codeMatches
  rw [alike.hash.1]

theorem AlikeRow.isLive {one two : OfficialLoginChallenge}
    (alike : AlikeRow hidden address sha256 one two) (now : Time) :
    two.isLive now = one.isLive now := by
  rw [alike.same]
  rfl

theorem AlikeRow.consumed {one two : OfficialLoginChallenge}
    (alike : AlikeRow hidden address sha256 one two) (now : Time) :
    AlikeRow hidden address sha256 { one with consumedAt := some now }
      { two with consumedAt := some now } := by
  refine ⟨?_, alike.bound⟩
  rw [alike.same]

/-- One more attempt. -/
theorem AlikeRow.counted {one two : OfficialLoginChallenge}
    (alike : AlikeRow hidden address sha256 one two) :
    AlikeRow hidden address sha256
      { one with attemptCount := one.attemptCount + 1 }
      { two with attemptCount := two.attemptCount + 1 } := by
  refine ⟨?_, alike.bound⟩
  rw [alike.same]

theorem Alike.found (alike : Alike hidden address sha256 left right)
    (challengeId : String) :
    left.challenges.find challengeId = none ∧
        right.challenges.find challengeId = none ∨
      ∃ one two, left.challenges.find challengeId = some one ∧
        right.challenges.find challengeId = some two ∧
        AlikeRow hidden address sha256 one two := by
  have both := alike.challenges challengeId
  generalize left.challenges.find challengeId = first at both ⊢
  generalize right.challenges.find challengeId = second at both ⊢
  cases both with
  | some rows => exact .inr ⟨_, _, rfl, rfl, rows⟩
  | none => exact .inl ⟨rfl, rfl⟩

/-- The cap is reached in both at once. -/
theorem Alike.count (alike : Alike hidden address sha256 left right)
    (emailHash : String) (now : Time) :
    right.recentOfficialChallengeCount emailHash now =
      left.recentOfficialChallengeCount emailHash now := by
  apply Table.count_eq_of_find
  intro challengeId
  rcases alike.found challengeId with
    ⟨nowhere, none⟩ | ⟨one, two, here, there, rows⟩
  · rw [nowhere, none]
  · obtain ⟨_, emails, times⟩ := rows.hash
    rw [here, there, Option.any_some, Option.any_some, emails, times]

/-- Another email has the same officials in both. -/
theorem Alike.mem_officialsByEmail
    (alike : Alike hidden address sha256 left right) {email : String}
    (other : lower (strip email) ≠ address) {officialId : String}
    (member : officialId ∈ left.officialsByEmail email) :
    hidden officialId = false ∧ officialId ∈ right.officialsByEmail email := by
  obtain ⟨row, found, passes⟩ := Table.mem_select.mp member
  simp only [Bool.and_eq_true, decide_eq_true_eq] at passes
  have open_ : hidden officialId = false := by
    rw [← Bool.not_eq_true, alike.left.address officialId row found,
      passes.1]
    exact other
  refine ⟨open_, Table.mem_select.mpr ⟨row, ?_, ?_⟩⟩
  · rw [← alike.officials officialId open_]
    exact found
  · simpa using passes

/-- An email of another official is looked up alike. -/
theorem Alike.officialsByEmail
    (alike : Alike hidden address sha256 left right) {email : String}
    (other : lower (strip email) ≠ address) :
    (left.officialsByEmail email).Perm (right.officialsByEmail email) := by
  apply (List.perm_ext_iff_of_nodup (Table.nodup_select _ _)
    (Table.nodup_select _ _)).mpr
  intro officialId
  constructor
  · exact fun member => (alike.mem_officialsByEmail other member).2
  · intro member
    obtain ⟨row, found, passes⟩ := Table.mem_select.mp member
    simp only [Bool.and_eq_true, decide_eq_true_eq] at passes
    have open_ : hidden officialId = false := by
      rw [← Bool.not_eq_true, alike.right.address officialId row found,
        passes.1]
      exact other
    refine Table.mem_select.mpr ⟨row, ?_, by simpa using passes⟩
    rw [alike.officials officialId open_]
    exact found

/-- The address has one official or none. -/
theorem Secret.officialsByEmail {store : Store}
    (secret : Secret hidden address store) {email : String}
    (own : lower (strip email) = address) :
    (store.officialsByEmail email).length ≤ 1 := by
  have same : ∀ one ∈ store.officialsByEmail email,
      ∀ two ∈ store.officialsByEmail email, one = two := by
    intro one first two second
    obtain ⟨row, found, passes⟩ := Table.mem_select.mp first
    obtain ⟨further, also, succeeds⟩ := Table.mem_select.mp second
    simp only [Bool.and_eq_true, decide_eq_true_eq, own] at passes succeeds
    exact secret.single one two row further
      ((secret.address one row found).mpr passes.1)
      ((secret.address two further also).mpr succeeds.1) found also
  have distinct : (store.officialsByEmail email).Nodup :=
    Table.nodup_select _ _
  generalize store.officialsByEmail email = ids at same distinct
  match ids with
  | [] => exact Nat.zero_le 1
  | [_] => exact le_rfl
  | one :: two :: _ =>
      have equal := same one List.mem_cons_self two
        (List.mem_cons_of_mem _ List.mem_cons_self)
      subst equal
      exact absurd List.mem_cons_self (List.nodup_cons.mp distinct).1

/-! ## Writes -/

theorem Alike.record (alike : Alike hidden address sha256 left right)
    (first second : Event) :
    Alike hidden address sha256 (left.record first) (right.record second) :=
  ⟨alike.locked, alike.challenges, alike.officials,
    ⟨alike.left.address, alike.left.single⟩,
    ⟨alike.right.address, alike.right.single⟩⟩

theorem Alike.lock (alike : Alike hidden address sha256 left right)
    (challengeId : String) :
    Alike hidden address sha256 (left.lock challengeId)
      (right.lock challengeId) := by
  refine ⟨?_, alike.challenges, alike.officials,
    ⟨alike.left.address, alike.left.single⟩,
    ⟨alike.right.address, alike.right.single⟩⟩
  show challengeId :: left.locked = challengeId :: right.locked
  rw [alike.locked]

theorem Alike.unlock (alike : Alike hidden address sha256 left right)
    (challengeId : String) :
    Alike hidden address sha256 (left.unlock challengeId)
      (right.unlock challengeId) := by
  refine ⟨?_, alike.challenges, alike.officials,
    ⟨alike.left.address, alike.left.single⟩,
    ⟨alike.right.address, alike.right.single⟩⟩
  show left.locked.filter (· ≠ challengeId) =
    right.locked.filter (· ≠ challengeId)
  rw [alike.locked]

theorem Alike.setChallenge (alike : Alike hidden address sha256 left right)
    (challengeId : String) {one two : OfficialLoginChallenge}
    (rows : AlikeRow hidden address sha256 one two) :
    Alike hidden address sha256 (left.setChallenge challengeId one)
      (right.setChallenge challengeId two) := by
  refine ⟨alike.locked, ?_, alike.officials,
    ⟨alike.left.address, alike.left.single⟩,
    ⟨alike.right.address, alike.right.single⟩⟩
  intro other
  unfold Store.setChallenge
  rw [Table.find_put, Table.find_put]
  split
  case isTrue => exact .some rows
  case isFalse => exact alike.challenges other

theorem Secret.put {store : Store} (secret : Secret hidden address store)
    {officialId : String} {row : OfficialUser}
    (open_ : hidden officialId = false) (other : lower row.email ≠ address) :
    Secret hidden address
      { store with officials := store.officials.put officialId row } := by
  have kept : ∀ id found, hidden id = true →
      (store.officials.put officialId row).find id = some found →
      store.officials.find id = some found := by
    intro id found own here
    rw [Table.find_put] at here
    split at here
    case isTrue same =>
      subst same
      rw [open_] at own
      cases own
    case isFalse => exact here
  constructor
  · intro id found here
    dsimp only at here
    rw [Table.find_put] at here
    split at here
    case isTrue same =>
      subst same
      cases here
      rw [open_]
      exact iff_of_false Bool.false_ne_true other
    case isFalse => exact secret.address id found here
  · intro one two first second own also here there
    exact secret.single one two first second own also
      (kept one first own here) (kept two second also there)

theorem Alike.putOfficial (alike : Alike hidden address sha256 left right)
    {officialId : String} {row : OfficialUser}
    (open_ : hidden officialId = false) (other : lower row.email ≠ address) :
    Alike hidden address sha256
      { left with officials := left.officials.put officialId row }
      { right with officials := right.officials.put officialId row } := by
  refine ⟨alike.locked, alike.challenges, ?_, alike.left.put open_ other,
    alike.right.put open_ other⟩
  intro id visible
  dsimp only
  rw [Table.find_put, Table.find_put]
  split
  case isTrue => rfl
  case isFalse => exact alike.officials id visible

/-! ## Steps -/

/-- The results of a step are alike. -/
def AlikeResult (hidden : String → Bool) (address : String)
    (sha256 : String → String) (left right : Store × Option Handler) : Prop :=
  Alike hidden address sha256 left.1 right.1 ∧
    Option.Rel (AlikeHandler hidden address sha256) left.2 right.2

theorem Alike.ends (alike : Alike hidden address sha256 left right) :
    AlikeResult hidden address sha256 (left, none) (right, none) :=
  ⟨alike, .none⟩

theorem Alike.continues (alike : Alike hidden address sha256 left right)
    {one two : Handler} (handlers : AlikeHandler hidden address sha256 one two) :
    AlikeResult hidden address sha256 (left, some one) (right, some two) :=
  ⟨alike, .some handlers⟩

theorem Alike.lookingUp (alike : Alike hidden address sha256 left right)
    (email : String) (now : Time) :
    (Handler.lookingUp email).respond sha256 settings left ⟨now, .plain⟩ =
        (Handler.lookingUp email).respond sha256 settings right
          ⟨now, .plain⟩ ∧
      Option.Rel (AlikeResult hidden address sha256)
        ((Handler.lookingUp email).resume sha256 settings left ⟨now, .plain⟩)
        ((Handler.lookingUp email).resume sha256 settings right
          ⟨now, .plain⟩) := by
  simp only [Handler.respond, Handler.resume]
  by_cases own : lower (strip email) = address
  · have first := alike.left.officialsByEmail own
    have second := alike.right.officialsByEmail own
    generalize left.officialsByEmail email = one at first ⊢
    generalize right.officialsByEmail email = two at second ⊢
    have bound : ∀ ids other : Option String,
        AlikeHandler hidden address sha256 (.creating email ids)
          (.creating email other) := fun _ _ => .creating (.inr own)
    match one, two with
    | [], [] => exact ⟨rfl, .some (alike.continues (bound _ _))⟩
    | [], [_] => exact ⟨rfl, .some (alike.continues (bound _ _))⟩
    | [_], [] => exact ⟨rfl, .some (alike.continues (bound _ _))⟩
    | [_], [_] => exact ⟨rfl, .some (alike.continues (bound _ _))⟩
    | _ :: _ :: _, _ => simp at first
    | _, _ :: _ :: _ => simp at second
  · have same := alike.officialsByEmail own
    have open_ : ∀ id ∈ left.officialsByEmail email, hidden id = false :=
      fun id member => (alike.mem_officialsByEmail own member).1
    generalize left.officialsByEmail email = one at same open_ ⊢
    generalize right.officialsByEmail email = two at same ⊢
    match one, two with
    | [], [] =>
        refine ⟨rfl, .some (alike.continues (.creating (.inl ⟨rfl, ?_⟩)))⟩
        intro _ impossible
        cases impossible
    | [first], [second] =>
        obtain rfl := List.singleton_perm_singleton.mp same
        refine ⟨rfl, .some (alike.continues (.creating (.inl ⟨rfl, ?_⟩)))⟩
        intro id found
        cases found
        exact open_ first List.mem_cons_self
    | _ :: _ :: _, _ :: _ :: _ => exact ⟨rfl, .some alike.ends⟩
    | [], _ :: _ => simp at same
    | _ :: _, [] => simp at same
    | [_], _ :: _ :: _ => simp at same
    | _ :: _ :: _, [_] => simp at same

/-- The first transaction of a verification whose code was not guessed. -/
theorem Alike.verifying (alike : Alike hidden address sha256 left right)
    (body : OfficialCodeVerify) (now : Time)
    (unguessed : ∀ challenge,
      left.challenges.find body.challengeId = some challenge →
      challenge.emailHash = sha256 address →
      settings.codeMatches sha256 challenge body.code ≠ some true) :
    left.refusal sha256 settings body now =
        right.refusal sha256 settings body now ∧
      AlikeResult hidden address sha256
        (left.verifyOfficialCode sha256 settings body now)
        (right.verifyOfficialCode sha256 settings body now) := by
  unfold Store.refusal Store.verifyOfficialCode
  rcases alike.found body.challengeId with
    ⟨nowhere, none⟩ | ⟨one, two, here, there, rows⟩
  · rw [nowhere, none]
    exact ⟨rfl, alike.ends⟩
  · rw [here, there]
    dsimp only
    rw [rows.isLive, rows.codeMatches]
    have missed := unguessed one here
    have locks := alike.lock body.challengeId
    have counted := rows.counted
    split
    case isFalse => exact ⟨rfl, alike.ends⟩
    case isTrue =>
      refine ⟨rfl, ?_⟩
      cases compared : settings.codeMatches sha256 one body.code with
      | none => exact alike.ends
      | some matched =>
          rcases rows.bound with ⟨same, open_⟩ | own
          · rw [← same] at counted ⊢
            cases bound : one.officialUserId with
            | none =>
                rw [bound] at counted
                cases matched
                all_goals exact locks.continues (.refusing counted)
            | some officialId =>
                rw [bound] at counted
                cases matched with
                | true =>
                    exact locks.continues
                      (.reading (open_ officialId bound) counted)
                | false => exact locks.continues (.refusing counted)
          · cases matched with
            | true => exact absurd compared (missed own)
            | false => exact locks.continues (.refusing rows.counted)

theorem Alike.creating (alike : Alike hidden address sha256 left right)
    {email challengeId codeHash : String} {expiresAt now : Time}
    {one two : Option String}
    (bound : one = two ∧
        (∀ officialId, one = some officialId → hidden officialId = false) ∨
      lower (strip email) = address) (first second : Event) :
    Alike hidden address sha256
      ((left.setChallenge challengeId
        { officialUserId := one, emailHash := hash sha256 email
          codeHash := codeHash, expiresAt := expiresAt, consumedAt := none
          attemptCount := 0, createdAt := now }).record first)
      ((right.setChallenge challengeId
        { officialUserId := two, emailHash := hash sha256 email
          codeHash := codeHash, expiresAt := expiresAt, consumedAt := none
          attemptCount := 0, createdAt := now }).record second) := by
  apply Alike.record
  apply alike.setChallenge
  refine ⟨rfl, ?_⟩
  rcases bound with same | own
  · exact .inl same
  · right
    show sha256 (lower (strip email)) = sha256 address
    rw [own]

theorem Alike.consume (alike : Alike hidden address sha256 left right)
    {challengeId code officialId : String} {checkedAt now : Time}
    {one two : OfficialLoginChallenge} {official current : OfficialUser}
    (open_ : hidden officialId = false)
    (rows : AlikeRow hidden address sha256 one two)
    (found : left.officials.find officialId = some current) :
    Alike hidden address sha256
      (left.consume settings challengeId code officialId checkedAt one
        official current now)
      (right.consume settings challengeId code officialId checkedAt two
        official current now) := by
  have other : lower current.email ≠ address := by
    intro own
    rw [(alike.left.address officialId current found).mpr own] at open_
    cases open_
  have written : Alike hidden address sha256
      (left.setChallenge challengeId { one with consumedAt := some now })
      (right.setChallenge challengeId { two with consumedAt := some now }) :=
    alike.setChallenge challengeId (rows.consumed now)
  have renamed : lower { current with lastLoginAt := some now }.email ≠
      address := other
  have loggedIn := written.putOfficial open_ renamed
  refine ⟨?_, loggedIn.challenges, loggedIn.officials,
    ⟨loggedIn.left.address, loggedIn.left.single⟩,
    ⟨loggedIn.right.address, loggedIn.right.single⟩⟩
  show left.locked.filter (· ≠ challengeId) =
    right.locked.filter (· ≠ challengeId)
  rw [alike.locked]

theorem AlikeHandler.locks {one two : Handler}
    (handlers : AlikeHandler hidden address sha256 one two) :
    one.locks = two.locks := by
  cases handlers <;> rfl

theorem Alike.releases (alike : Alike hidden address sha256 left right)
    {one two : Handler}
    (handlers : AlikeHandler hidden address sha256 one two) :
    Alike hidden address sha256 (one.locks.elim left left.unlock)
      (two.locks.elim right right.unlock) := by
  rw [handlers.locks]
  cases two.locks with
  | none => exact alike
  | some challengeId => exact alike.unlock challengeId

/-- An exception has no response of its own. -/
theorem Alike.raises (alike : Alike hidden address sha256 left right)
    {one two : Handler} (now : Time)
    (handlers : AlikeHandler hidden address sha256 one two) :
    one.respond sha256 settings left ⟨now, .raises⟩ =
        two.respond sha256 settings right ⟨now, .raises⟩ ∧
      Option.Rel (AlikeResult hidden address sha256)
        (one.resume sha256 settings left ⟨now, .raises⟩)
        (two.resume sha256 settings right ⟨now, .raises⟩) := by
  have released := (alike.releases handlers).ends
  cases handlers with
  | counting => exact ⟨rfl, .some released⟩
  | lookingUp => exact ⟨rfl, .some released⟩
  | creating => exact ⟨rfl, .some released⟩
  | verifying => exact ⟨rfl, .some released⟩
  | refusing => exact ⟨rfl, .some released⟩
  | reading => exact ⟨rfl, .some released⟩
  | consuming => exact ⟨rfl, .some released⟩
  | administering => exact ⟨rfl, .some released⟩

/-- Only a creation draws. -/
theorem Alike.draws (alike : Alike hidden address sha256 left right)
    {one two : Handler} (now : Time) (challengeId : String) (number : Nat)
    (handlers : AlikeHandler hidden address sha256 one two) :
    one.respond sha256 settings left ⟨now, .drawn challengeId number⟩ =
        two.respond sha256 settings right ⟨now, .drawn challengeId number⟩ ∧
      Option.Rel (AlikeResult hidden address sha256)
        (one.resume sha256 settings left ⟨now, .drawn challengeId number⟩)
        (two.resume sha256 settings right
          ⟨now, .drawn challengeId number⟩) := by
  cases handlers with
  | counting => exact ⟨rfl, .none⟩
  | lookingUp => exact ⟨rfl, .none⟩
  | creating bound =>
      refine ⟨rfl, ?_⟩
      have absent : (left.challenges.find challengeId).isNone =
          (right.challenges.find challengeId).isNone := by
        rcases alike.found challengeId with
          ⟨nowhere, none⟩ | ⟨one, two, here, there, _⟩
        · rw [nowhere, none]
        · rw [here, there]
          rfl
      simp only [Handler.resume, absent]
      split
      case isTrue => exact .some (alike.creating bound _ _).ends
      case isFalse => exact .none
  | verifying => exact ⟨rfl, .none⟩
  | refusing => exact ⟨rfl, .none⟩
  | reading => exact ⟨rfl, .none⟩
  | consuming => exact ⟨rfl, .none⟩
  | administering => exact ⟨rfl, .none⟩

theorem Alike.plain (alike : Alike hidden address sha256 left right)
    {one two : Handler} (now : Time)
    (handlers : AlikeHandler hidden address sha256 one two)
    (unguessed : ∀ body challenge, one = .verifying body →
      left.challenges.find body.challengeId = some challenge →
      challenge.emailHash = sha256 address →
      settings.codeMatches sha256 challenge body.code ≠ some true) :
    one.respond sha256 settings left ⟨now, .plain⟩ =
        two.respond sha256 settings right ⟨now, .plain⟩ ∧
      Option.Rel (AlikeResult hidden address sha256)
        (one.resume sha256 settings left ⟨now, .plain⟩)
        (two.resume sha256 settings right ⟨now, .plain⟩) := by
  cases handlers with
  | counting email =>
      simp only [Handler.respond, Handler.resume, alike.count]
      split
      case isTrue => exact ⟨trivial, .some alike.ends⟩
      case isFalse => exact ⟨trivial, .some (alike.continues (.lookingUp email))⟩
  | lookingUp email => exact alike.lookingUp email now
  | creating => exact ⟨rfl, .none⟩
  | verifying body =>
      obtain ⟨told, result⟩ := alike.verifying body now
        fun challenge => unguessed body challenge rfl
      refine ⟨told, ?_⟩
      simp only [Handler.resume, alike.locked]
      split
      case isTrue => exact .none
      case isFalse => exact .some result
  | refusing rows =>
      refine ⟨rfl, .some (Alike.ends ?_)⟩
      exact ((alike.setChallenge _ rows).record _ _).unlock _
  | @reading challengeId code officialId checkedAt _ _ open_ rows =>
      simp only [Handler.respond, Handler.resume,
        alike.officials officialId open_]
      cases right.officials.find officialId with
      | none => exact ⟨trivial, .some (alike.unlock challengeId).ends⟩
      | some official =>
          cases active : official.active with
          | true =>
              simp only [active, if_true]
              exact ⟨trivial, .some
                ((alike.record _ _).continues (.consuming open_ rows))⟩
          | false =>
              simp only [active]
              exact ⟨trivial, .some (alike.unlock challengeId).ends⟩
  | @consuming challengeId code officialId checkedAt _ _ official open_
      rows =>
      simp only [Handler.respond, Handler.resume,
        ← alike.officials officialId open_]
      cases found : left.officials.find officialId with
      | none => exact ⟨trivial, .some (alike.unlock challengeId).ends⟩
      | some current =>
          exact ⟨trivial, .some (alike.consume open_ rows found).ends⟩
  | administering open_ other =>
      exact ⟨rfl, .some (alike.putOfficial open_ other).ends⟩

/-! ## Runs -/

end

/-! ## A code that is asked for and missed -/

end JanSetu.Officials
