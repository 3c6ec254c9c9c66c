import JanSetu.Auth.Codes
import JanSetu.Db.Session
import JanSetu.Library.Process
import JanSetu.Library.Table

/-!
# Rotation of refresh tokens

`rotate_refresh` and the commit of the `/auth/refresh` endpoint, one process
for each request and one step for each statement.  The statements of an open
transaction are invisible to the others until it commits; an `UPDATE` or an
`INSERT` holds its row until then, and a second one on the same row waits and
evaluates its `WHERE` again on what was committed.
-/

namespace JanSetu.Auth

open Process (Program Label)

structure RefreshToken where
  userId : String
  expiresAt : Time
  revokedAt : Option Time
deriving DecidableEq

def RefreshToken.Active (token : RefreshToken) (now : Time) : Prop :=
  token.revokedAt = none ∧ now < token.expiresAt

instance (token : RefreshToken) (now : Time) :
    Decidable (token.Active now) :=
  inferInstanceAs (Decidable (_ ∧ _))

/-- A token pair handed to a browser, with the hash of the token it was
redeemed for. -/
structure Redeemed where
  tokenHash : String
  userId : String
  rawRefresh : String
deriving DecidableEq

structure TokenStore where
  refreshTokens : Table String RefreshToken
  /-- The hashes whose rows open transactions have written. -/
  held : List String
  redeemed : List Redeemed
deriving DecidableEq

namespace TokenStore

def findActiveRefreshToken (store : TokenStore) (tokenHash : String)
    (now : Time) : Option RefreshToken :=
  match store.refreshTokens.find tokenHash with
  | none => none
  | some token => if token.Active now then some token else none

def hold (store : TokenStore) (tokenHash : String) : TokenStore :=
  { store with held := tokenHash :: store.held }

def letGo (store : TokenStore) (tokenHashes : List String) : TokenStore :=
  { store with held := store.held.filter (· ∉ tokenHashes) }

def redeemedFor (store : TokenStore) (tokenHash : String) : List Redeemed :=
  store.redeemed.filter (·.tokenHash = tokenHash)

end TokenStore

/-- Where a call of `rotate_refresh` stands.  `revokedAt` is what its own
revocation wrote, `none` when the `UPDATE` matched no row: the call does not
look at the row count and goes on. -/
inductive Rotation where
  | find (rawRefreshToken : String)
  | revoke (tokenHash userId : String)
  | issue (tokenHash userId : String) (revokedAt : Option Time)
  | commit (tokenHash userId : String) (revokedAt : Option Time)
      (rawRefresh newHash : String) (expiresAt : Time)
deriving DecidableEq

inductive RotationChoice where
  | now (now : Time)
  | issue (now : Time) (rawRefresh : String)
deriving DecidableEq

def heldBy (tokenHash : String) (revokedAt : Option Time) : List String :=
  if revokedAt.isSome then [tokenHash] else []

section

variable (refreshTokenDays : Nat) (sha256 : String → String)

def TokenStore.commitRotation (store : TokenStore)
    (tokenHash userId : String) (revokedAt : Option Time)
    (rawRefresh newHash : String) (expiresAt : Time) : TokenStore :=
  let revoked :=
    match revokedAt with
    | none => store.refreshTokens
    | some _ =>
        store.refreshTokens.updateWhere (fun key _ => key = tokenHash)
          fun row => { row with revokedAt := revokedAt }
  { (store.letGo (newHash :: heldBy tokenHash revokedAt)) with
    refreshTokens := revoked.put newHash
      { userId := userId, expiresAt := expiresAt, revokedAt := none }
    redeemed :=
      { tokenHash := tokenHash, userId := userId, rawRefresh := rawRefresh } ::
        store.redeemed }

/-- One statement of `rotate_refresh`, or its commit.  `none` is a statement
that still waits for a row another transaction holds. -/
def Rotation.resume (store : TokenStore) :
    Rotation → RotationChoice → Option (TokenStore × Option Rotation)
  | .find rawRefreshToken, .now now =>
      match store.findActiveRefreshToken (hashCode sha256 rawRefreshToken) now with
      | none => some (store, none)
      | some token =>
          some (store, some (.revoke (hashCode sha256 rawRefreshToken) token.userId))
  | .revoke tokenHash userId, .now now =>
      if tokenHash ∈ store.held then none
      else
        match store.refreshTokens.find tokenHash with
        | none => some (store, some (.issue tokenHash userId none))
        | some token =>
            if token.revokedAt = none then
              some (store.hold tokenHash,
                some (.issue tokenHash userId (some now)))
            else some (store, some (.issue tokenHash userId none))
  | .issue tokenHash userId revokedAt, .issue now rawRefresh =>
      let newHash := hashCode sha256 rawRefresh
      if newHash ∈ store.held then none
      else
        match store.refreshTokens.find newHash with
        -- A unique violation rolls the transaction back.
        | some _ => some (store.letGo (heldBy tokenHash revokedAt), none)
        | none =>
            some (store.hold newHash,
              some (.commit tokenHash userId revokedAt rawRefresh newHash
                (now + days refreshTokenDays)))
  | .commit tokenHash userId revokedAt rawRefresh newHash expiresAt, .now _ =>
      some (store.commitRotation tokenHash userId revokedAt rawRefresh newHash
        expiresAt, none)
  | _, _ => none

/-- The rollback of a request that goes away. -/
def Rotation.release (store : TokenStore) : Rotation → TokenStore
  | .find _ => store
  | .revoke _ _ => store
  | .issue tokenHash _ revokedAt => store.letGo (heldBy tokenHash revokedAt)
  | .commit tokenHash _ revokedAt _ newHash _ =>
      store.letGo (newHash :: heldBy tokenHash revokedAt)

def rotation : Program TokenStore Rotation String RotationChoice :=
  { initial := fun store => store.held = [] ∧ store.redeemed = []
    start := .find
    resume := Rotation.resume refreshTokenDays sha256
    release := Rotation.release }

end

/-! ## What the writes leave as it was -/

namespace TokenStore

@[simp] theorem hold_refreshTokens (store : TokenStore) (tokenHash : String) :
    (store.hold tokenHash).refreshTokens = store.refreshTokens :=
  rfl

@[simp] theorem hold_redeemed (store : TokenStore) (tokenHash : String) :
    (store.hold tokenHash).redeemed = store.redeemed :=
  rfl

@[simp] theorem letGo_refreshTokens (store : TokenStore)
    (tokenHashes : List String) :
    (store.letGo tokenHashes).refreshTokens = store.refreshTokens :=
  rfl

@[simp] theorem letGo_redeemed (store : TokenStore)
    (tokenHashes : List String) :
    (store.letGo tokenHashes).redeemed = store.redeemed :=
  rfl

theorem mem_held_letGo {store : TokenStore} {tokenHashes : List String}
    {tokenHash : String} (member : tokenHash ∈ store.held)
    (other : tokenHash ∉ tokenHashes) :
    tokenHash ∈ (store.letGo tokenHashes).held := by
  simp [letGo, member, other]

def Known (store : TokenStore) (tokenHash : String) : Prop :=
  ∃ token, store.refreshTokens.find tokenHash = some token

def Revoked (store : TokenStore) (tokenHash : String) : Prop :=
  ∃ token, store.refreshTokens.find tokenHash = some token ∧
    token.revokedAt ≠ none

theorem findActiveRefreshToken_eq_some {store : TokenStore}
    {tokenHash : String} {now : Time} {token : RefreshToken}
    (found : store.findActiveRefreshToken tokenHash now = some token) :
    store.refreshTokens.find tokenHash = some token ∧ token.Active now := by
  unfold findActiveRefreshToken at found
  split at found
  · simp at found
  · split at found
    · simp_all
    · simp at found

section

variable {store : TokenStore} {tokenHash userId : String}
  {revokedAt : Option Time} {rawRefresh newHash : String} {expiresAt : Time}

/-- The rows after a commit: the new token, the redeemed one with the
revocation this call wrote, and the others unchanged. -/
theorem find_commitRotation (key : String) :
    (store.commitRotation tokenHash userId revokedAt rawRefresh newHash
      expiresAt).refreshTokens.find key =
      if key = newHash then
        some { userId := userId, expiresAt := expiresAt, revokedAt := none }
      else (store.refreshTokens.find key).map fun token =>
        if key = tokenHash ∧ revokedAt ≠ none then
          { token with revokedAt := revokedAt }
        else token := by
  cases revokedAt with
  | none => simp [commitRotation, Table.find_put]
  | some at' =>
      simp [commitRotation, Table.find_put, Table.find_updateWhere]

theorem known_commitRotation {key : String} (known : store.Known key) :
    (store.commitRotation tokenHash userId revokedAt rawRefresh newHash
      expiresAt).Known key := by
  obtain ⟨token, found⟩ := known
  by_cases new : key = newHash
  · exact ⟨_, by rw [find_commitRotation, if_pos new]⟩
  · exact ⟨_, by rw [find_commitRotation, if_neg new, found]; rfl⟩

theorem revoked_commitRotation {key : String} (revoked : store.Revoked key)
    (other : key ≠ newHash) :
    (store.commitRotation tokenHash userId revokedAt rawRefresh newHash
      expiresAt).Revoked key := by
  obtain ⟨token, found, already⟩ := revoked
  refine ⟨_, by rw [find_commitRotation, if_neg other, found]; rfl, ?_⟩
  by_cases here : key = tokenHash ∧ revokedAt ≠ none
  · simp [here]
  · simpa [here] using already

/-- A commit revokes the token it was redeemed for, either itself or because
its `UPDATE` found it revoked. -/
theorem revoked_tokenHash_commitRotation (known : store.Known tokenHash)
    (other : tokenHash ≠ newHash)
    (already : revokedAt = none → store.Revoked tokenHash) :
    (store.commitRotation tokenHash userId revokedAt rawRefresh newHash
      expiresAt).Revoked tokenHash := by
  cases written : revokedAt with
  | none =>
      subst written
      exact revoked_commitRotation (already rfl) other
  | some at' =>
      obtain ⟨token, found⟩ := known
      refine ⟨_, by rw [find_commitRotation, if_neg other, found]; rfl, ?_⟩
      simp

theorem redeemedFor_commitRotation (key : String) :
    (store.commitRotation tokenHash userId revokedAt rawRefresh newHash
      expiresAt).redeemedFor key =
      if tokenHash = key then
        { tokenHash := tokenHash, userId := userId, rawRefresh := rawRefresh }
          :: store.redeemedFor key
      else store.redeemedFor key := by
  simp [redeemedFor, commitRotation, List.filter_cons]

end

end TokenStore

/-! ## The invariant -/

/-- The token a call found active and has not finished with. -/
def Rotation.redeems : Rotation → Option String
  | .find _ => none
  | .revoke tokenHash _ => some tokenHash
  | .issue tokenHash _ _ => some tokenHash
  | .commit tokenHash _ _ _ _ _ => some tokenHash

/-- The token a call has inserted and not yet committed. -/
def Rotation.inserts : Rotation → Option String
  | .find _ => none
  | .revoke _ _ => none
  | .issue _ _ _ => none
  | .commit _ _ _ _ newHash _ => some newHash

/-- The store knows the token and nobody has been given a pair for it. -/
def TokenStore.Unredeemed (store : TokenStore) (tokenHash : String) : Prop :=
  store.Known tokenHash ∧ store.redeemedFor tokenHash = []

/-- What holds while a call stands where it does. -/
def Rotation.Standing (store : TokenStore) : Rotation → Prop
  | .find _ => True
  | .revoke tokenHash _ => store.Unredeemed tokenHash
  | .issue tokenHash _ revokedAt =>
      store.Unredeemed tokenHash ∧
        (revokedAt = none → store.Revoked tokenHash)
  | .commit tokenHash _ revokedAt _ newHash _ =>
      store.Unredeemed tokenHash ∧
        (revokedAt = none → store.Revoked tokenHash) ∧
        store.refreshTokens.find newHash = none ∧ newHash ∈ store.held

def rotationInvariant : Process.Invariant TokenStore Rotation :=
  { shared := fun store =>
      (∀ tokenHash, store.redeemedFor tokenHash ≠ [] →
        store.Revoked tokenHash) ∧
      ∀ tokenHash, (store.redeemedFor tokenHash).length ≤ 1
    own := fun store process => process.Standing store
    pair := fun left right =>
      (∀ tokenHash, left.redeems = some tokenHash →
        right.redeems ≠ some tokenHash) ∧
      ∀ newHash, left.inserts = some newHash →
        right.inserts ≠ some newHash }

namespace Rotation

variable {store after : TokenStore} {process : Rotation}

theorem Standing.unredeemed {tokenHash : String}
    (standing : process.Standing store)
    (redeems : process.redeems = some tokenHash) :
    store.Unredeemed tokenHash := by
  cases process <;> simp [Rotation.redeems] at redeems
  case revoke => exact redeems ▸ standing
  case issue => exact redeems ▸ standing.1
  case commit => exact redeems ▸ standing.1

theorem Standing.inserted {newHash : String}
    (standing : process.Standing store)
    (inserts : process.inserts = some newHash) :
    store.refreshTokens.find newHash = none ∧ newHash ∈ store.held := by
  cases process <;> simp [Rotation.inserts] at inserts
  case commit => exact inserts ▸ standing.2.2

theorem Standing.carry (standing : process.Standing store)
    (unredeemed : ∀ tokenHash, process.redeems = some tokenHash →
      store.Unredeemed tokenHash → after.Unredeemed tokenHash)
    (revoked : ∀ tokenHash, store.Revoked tokenHash →
      after.Revoked tokenHash)
    (inserts : ∀ newHash, process.inserts = some newHash →
      newHash ∈ store.held → store.refreshTokens.find newHash = none →
      after.refreshTokens.find newHash = none ∧ newHash ∈ after.held) :
    process.Standing after := by
  cases process with
  | find => trivial
  | revoke tokenHash _ => exact unredeemed _ rfl standing
  | issue tokenHash _ revokedAt =>
      obtain ⟨before, wasRevoked⟩ := standing
      exact ⟨unredeemed _ rfl before, fun none => revoked _ (wasRevoked none)⟩
  | commit tokenHash _ revokedAt _ newHash _ =>
      obtain ⟨before, wasRevoked, absent, holding⟩ := standing
      exact ⟨unredeemed _ rfl before, fun none => revoked _ (wasRevoked none),
        inserts _ rfl holding absent⟩

theorem Standing.hold (standing : process.Standing store)
    (tokenHash : String) : process.Standing (store.hold tokenHash) := by
  apply standing.carry
  · exact fun _ _ before => before
  · exact fun _ before => before
  · exact fun newHash _ holding absent => ⟨absent, .tail _ holding⟩

theorem Standing.letGo {tokenHashes : List String}
    (standing : process.Standing store)
    (others : ∀ newHash, process.inserts = some newHash →
      newHash ∉ tokenHashes) :
    process.Standing (store.letGo tokenHashes) := by
  apply standing.carry
  · exact fun _ _ before => before
  · exact fun _ before => before
  · intro newHash inserts holding absent
    exact ⟨absent, TokenStore.mem_held_letGo holding (others _ inserts)⟩

theorem mem_heldBy {tokenHash key : String} {revokedAt : Option Time}
    (member : key ∈ heldBy tokenHash revokedAt) : key = tokenHash := by
  cases revokedAt <;> simp_all [heldBy]

/-- A token that is inserted is none of those another call has written. -/
theorem Standing.inserts_not_heldBy {other : Rotation}
    {tokenHash newHash : String} {revokedAt : Option Time}
    (standing : process.Standing store)
    (inserts : process.inserts = some newHash)
    (otherStanding : other.Standing store)
    (redeems : other.redeems = some tokenHash) :
    newHash ∉ heldBy tokenHash revokedAt := by
  intro member
  obtain ⟨token, found⟩ := (otherStanding.unredeemed redeems).1
  have same := mem_heldBy member
  have absent := (standing.inserted inserts).1
  rw [same, found] at absent
  simp at absent

end Rotation

/-! ## At most one pair for each token -/

section

variable {refreshTokenDays : Nat} {sha256 : String → String}

/-- A request that reads the token finds it active only while no other request
that found it active is still open. -/
def ReadsAlone (sha256 : String → String)
    (world : World TokenStore Rotation) :
    Label String RotationChoice → Prop
  | .resume pid (.now now) =>
      ∀ rawRefreshToken, world.Running pid (.find rawRefreshToken) →
        world.shared.findActiveRefreshToken (hashCode sha256 rawRefreshToken) now ≠
          none →
        ∀ other process, world.Running other process →
          process.redeems ≠ some (hashCode sha256 rawRefreshToken)
  | _ => True

theorem initial_rotationInvariant {store : TokenStore}
    (initial : (rotation refreshTokenDays sha256).initial store) :
    rotationInvariant.shared store := by
  have nothing : ∀ tokenHash, store.redeemedFor tokenHash = [] := by
    intro tokenHash
    simp [TokenStore.redeemedFor, initial.2]
  exact ⟨fun tokenHash some => absurd (nothing tokenHash) some,
    fun tokenHash => by simp [nothing tokenHash]⟩

/-- The commit of a call that stands where it should keeps the shared part. -/
theorem shared_commitRotation {store : TokenStore}
    {tokenHash userId : String} {revokedAt : Option Time}
    {rawRefresh newHash : String} {expiresAt : Time}
    (shared : rotationInvariant.shared store)
    (standing : (Rotation.commit tokenHash userId revokedAt rawRefresh newHash
      expiresAt).Standing store) :
    rotationInvariant.shared
      (store.commitRotation tokenHash userId revokedAt rawRefresh newHash
        expiresAt) := by
  obtain ⟨revoked, once⟩ := shared
  obtain ⟨⟨known, unredeemed⟩, already, absent, _⟩ := standing
  have knownOther : ∀ key, store.Known key → key ≠ newHash := by
    rintro key ⟨token, found⟩ rfl
    simp [absent] at found
  constructor
  · intro key some
    rw [TokenStore.redeemedFor_commitRotation] at some
    by_cases same : tokenHash = key
    · subst same
      exact TokenStore.revoked_tokenHash_commitRotation known
        (knownOther _ known) already
    · rw [if_neg same] at some
      obtain ⟨token, found, already⟩ := revoked key some
      exact TokenStore.revoked_commitRotation ⟨token, found, already⟩
        (knownOther key ⟨token, found⟩)
  · intro key
    rw [TokenStore.redeemedFor_commitRotation]
    by_cases same : tokenHash = key
    · subst same
      simp [unredeemed]
    · simpa [same] using once key

theorem undisturbed_commitRotation {world : World TokenStore Rotation}
    {pid : Nat} {tokenHash userId : String} {revokedAt : Option Time}
    {rawRefresh newHash : String} {expiresAt : Time}
    (holds : rotationInvariant.Holds world)
    (running : world.Running pid (.commit tokenHash userId revokedAt
      rawRefresh newHash expiresAt)) :
    rotationInvariant.Undisturbed world pid
      (world.shared.commitRotation tokenHash userId revokedAt rawRefresh
        newHash expiresAt) := by
  intro other process different found
  have standing := holds.2.1 pid _ running
  have otherStanding : process.Standing world.shared :=
    holds.2.1 other process found
  obtain ⟨apartRedeems, apartInserts⟩ :=
    holds.2.2 other pid process _ different found running
  obtain ⟨_, _, absent, _⟩ := standing
  apply otherStanding.carry
  · rintro key redeems ⟨known, unredeemed⟩
    have apart : tokenHash ≠ key := by
      rintro rfl
      exact apartRedeems _ redeems rfl
    refine ⟨TokenStore.known_commitRotation known, ?_⟩
    rw [TokenStore.redeemedFor_commitRotation, if_neg apart, unredeemed]
  · rintro key ⟨token, present, revoked⟩
    refine TokenStore.revoked_commitRotation ⟨token, present, revoked⟩ ?_
    rintro rfl
    simp [absent] at present
  · intro key inserts holding missing
    have notNew : key ≠ newHash := by
      rintro rfl
      exact apartInserts _ inserts rfl
    have notHeld : key ∉ heldBy tokenHash revokedAt :=
      otherStanding.inserts_not_heldBy inserts (holds.2.1 pid _ running) rfl
    constructor
    · rw [TokenStore.find_commitRotation, if_neg notNew, missing]
      rfl
    · exact TokenStore.mem_held_letGo holding (by simp [notNew, notHeld])

theorem arrives_of_apart {world : World TokenStore Rotation} {pid : Nat}
    {store : TokenStore} {process : Rotation}
    (standing : process.Standing store)
    (apart : ∀ other right, other ≠ pid → world.Running other right →
      (∀ tokenHash, process.redeems = some tokenHash →
        right.redeems ≠ some tokenHash) ∧
      ∀ newHash, process.inserts = some newHash →
        right.inserts ≠ some newHash) :
    rotationInvariant.Arrives world pid store process := by
  refine ⟨standing, ?_⟩
  intro other right different running
  obtain ⟨redeems, inserts⟩ := apart other right different running
  refine ⟨⟨redeems, inserts⟩, ?_, ?_⟩
  · intro tokenHash left right
    exact redeems tokenHash right left
  · intro newHash left right
    exact inserts newHash right left

/-- What is left to show of one step of a call. -/
def StepKeeps (world : World TokenStore Rotation) (pid : Nat)
    (store : TokenStore) (after : Option Rotation) : Prop :=
  rotationInvariant.shared store ∧
    rotationInvariant.Undisturbed world pid store ∧
    ∀ next, after = some next → rotationInvariant.Arrives world pid store next

section

variable {world : World TokenStore Rotation} {pid : Nat} {store : TokenStore}
  {after : Option Rotation}

/-- A step that has written nothing yet. -/
theorem stepKeeps_same (holds : rotationInvariant.Holds world)
    (arrives : ∀ next, after = some next →
      rotationInvariant.Arrives world pid world.shared next) :
    StepKeeps world pid world.shared after :=
  ⟨holds.1, fun other right _ found => holds.2.1 other right found, arrives⟩

/-- A call that goes on with the token it has found is apart from the others,
as it was before, until it has inserted a new one. -/
theorem arrives_of_redeems {process next : Rotation} {tokenHash : String}
    (holds : rotationInvariant.Holds world)
    (running : world.Running pid process)
    (redeems : process.redeems = some tokenHash)
    (standing : next.Standing store)
    (still : next.redeems = some tokenHash)
    (inserts : ∀ newHash, next.inserts = some newHash →
      ∀ other right, world.Running other right →
        right.inserts ≠ some newHash) :
    rotationInvariant.Arrives world pid store next := by
  apply arrives_of_apart standing
  intro other right different rightRunning
  obtain ⟨apart, _⟩ :=
    holds.2.2 pid other process right different.symm running rightRunning
  refine ⟨?_, fun newHash new => inserts newHash new other right rightRunning⟩
  intro key same
  rw [still] at same
  exact apart key (redeems.trans same)

theorem find_keeps {rawRefreshToken : String} {choice : RotationChoice}
    (holds : rotationInvariant.Holds world)
    (permitted : ReadsAlone sha256 world (.resume pid choice))
    (running : world.Running pid (.find rawRefreshToken))
    (resumed : (Rotation.find rawRefreshToken).resume refreshTokenDays sha256
      world.shared choice = some (store, after)) :
    StepKeeps world pid store after := by
  cases choice with
  | issue => simp [Rotation.resume] at resumed
  | now now =>
      cases active : world.shared.findActiveRefreshToken
          (hashCode sha256 rawRefreshToken) now with
      | none =>
          simp only [Rotation.resume, active, Option.some.injEq,
            Prod.mk.injEq] at resumed
          obtain ⟨rfl, rfl⟩ := resumed
          exact stepKeeps_same holds (by simp)
      | some token =>
          simp only [Rotation.resume, active, Option.some.injEq,
            Prod.mk.injEq] at resumed
          obtain ⟨rfl, rfl⟩ := resumed
          obtain ⟨found, unrevoked, _⟩ :=
            TokenStore.findActiveRefreshToken_eq_some active
          -- Every token that was redeemed is revoked.
          have unredeemed : world.shared.redeemedFor
              (hashCode sha256 rawRefreshToken) = [] := by
            by_contra some
            obtain ⟨row, rowFound, revoked⟩ := holds.1.1 _ some
            rw [found] at rowFound
            cases rowFound
            exact revoked unrevoked
          apply stepKeeps_same holds
          rintro next ⟨⟩
          apply arrives_of_apart
          · exact ⟨⟨token, found⟩, unredeemed⟩
          · intro other right different rightRunning
            refine ⟨?_, by simp [Rotation.inserts]⟩
            rintro tokenHash ⟨⟩
            exact permitted rawRefreshToken running (by simp [active])
              other right rightRunning

theorem revoke_keeps {tokenHash userId : String} {choice : RotationChoice}
    (holds : rotationInvariant.Holds world)
    (running : world.Running pid (.revoke tokenHash userId))
    (resumed : (Rotation.revoke tokenHash userId).resume refreshTokenDays
      sha256 world.shared choice = some (store, after)) :
    StepKeeps world pid store after := by
  obtain ⟨⟨token, found⟩, unredeemed⟩ := holds.2.1 pid _ running
  cases choice with
  | issue => simp [Rotation.resume] at resumed
  | now now =>
      by_cases waits : tokenHash ∈ world.shared.held
      · simp [Rotation.resume, waits] at resumed
      · by_cases unrevoked : token.revokedAt = none
        · simp only [Rotation.resume, waits, found, unrevoked, if_true,
            if_false, Option.some.injEq, Prod.mk.injEq] at resumed
          obtain ⟨rfl, rfl⟩ := resumed
          refine ⟨holds.1, ?_, ?_⟩
          · intro other right _ rightRunning
            have before : right.Standing world.shared :=
              holds.2.1 other right rightRunning
            exact before.hold tokenHash
          · rintro next ⟨⟩
            exact arrives_of_redeems holds running rfl
              ⟨⟨⟨token, found⟩, unredeemed⟩, by simp⟩ rfl
              (by simp [Rotation.inserts])
        · simp only [Rotation.resume, waits, found, unrevoked, if_false,
            Option.some.injEq, Prod.mk.injEq] at resumed
          obtain ⟨rfl, rfl⟩ := resumed
          apply stepKeeps_same holds
          rintro next ⟨⟩
          exact arrives_of_redeems holds running rfl
            ⟨⟨⟨token, found⟩, unredeemed⟩,
              fun _ => ⟨token, found, unrevoked⟩⟩ rfl
            (by simp [Rotation.inserts])

theorem issue_keeps {tokenHash userId : String} {revokedAt : Option Time}
    {choice : RotationChoice} (holds : rotationInvariant.Holds world)
    (running : world.Running pid (.issue tokenHash userId revokedAt))
    (resumed : (Rotation.issue tokenHash userId revokedAt).resume
      refreshTokenDays sha256 world.shared choice = some (store, after)) :
    StepKeeps world pid store after := by
  have standing : (Rotation.issue tokenHash userId revokedAt).Standing
      world.shared :=
    holds.2.1 pid _ running
  cases choice with
  | now => simp [Rotation.resume] at resumed
  | issue now rawRefresh =>
      by_cases waits : hashCode sha256 rawRefresh ∈ world.shared.held
      · simp [Rotation.resume, waits] at resumed
      · cases found : world.shared.refreshTokens.find
            (hashCode sha256 rawRefresh) with
        | some token =>
            simp only [Rotation.resume, waits, found, if_false,
              Option.some.injEq, Prod.mk.injEq] at resumed
            obtain ⟨rfl, rfl⟩ := resumed
            refine ⟨holds.1, ?_, by simp⟩
            intro other right different rightRunning
            have before : right.Standing world.shared :=
              holds.2.1 other right rightRunning
            apply before.letGo
            intro newHash inserts
            exact before.inserts_not_heldBy inserts standing rfl
        | none =>
            simp only [Rotation.resume, waits, found, if_false,
              Option.some.injEq, Prod.mk.injEq] at resumed
            obtain ⟨rfl, rfl⟩ := resumed
            refine ⟨holds.1, ?_, ?_⟩
            · intro other right _ rightRunning
              have before : right.Standing world.shared :=
                holds.2.1 other right rightRunning
              exact before.hold _
            · rintro next ⟨⟩
              obtain ⟨unredeemed, revoked⟩ := standing
              refine arrives_of_redeems holds running rfl
                ⟨unredeemed, revoked, found, .head _⟩ rfl ?_
              rintro newHash ⟨⟩ other right rightRunning inserts
              have before : right.Standing world.shared :=
                holds.2.1 other right rightRunning
              exact waits (before.inserted inserts).2

theorem commit_keeps {tokenHash userId : String} {revokedAt : Option Time}
    {rawRefresh newHash : String} {expiresAt : Time}
    {choice : RotationChoice} (holds : rotationInvariant.Holds world)
    (running : world.Running pid (.commit tokenHash userId revokedAt
      rawRefresh newHash expiresAt))
    (resumed : (Rotation.commit tokenHash userId revokedAt rawRefresh newHash
      expiresAt).resume refreshTokenDays sha256 world.shared choice =
        some (store, after)) :
    StepKeeps world pid store after := by
  cases choice with
  | issue => simp [Rotation.resume] at resumed
  | now now =>
      simp only [Rotation.resume, Option.some.injEq, Prod.mk.injEq] at resumed
      obtain ⟨rfl, rfl⟩ := resumed
      exact ⟨shared_commitRotation holds.1 (holds.2.1 pid _ running),
        undisturbed_commitRotation holds running, by simp⟩

/-- One step of a call that reads alone keeps the invariant. -/
theorem resumed_rotationInvariant {choice : RotationChoice}
    {process : Rotation} (holds : rotationInvariant.Holds world)
    (permitted : ReadsAlone sha256 world (.resume pid choice))
    (running : world.Running pid process)
    (resumed : process.resume refreshTokenDays sha256 world.shared choice =
      some (store, after)) : StepKeeps world pid store after := by
  cases process with
  | find => exact find_keeps holds permitted running resumed
  | revoke => exact revoke_keeps holds running resumed
  | issue => exact issue_keeps holds running resumed
  | commit => exact commit_keeps holds running resumed

end

theorem released_rotationInvariant {world : World TokenStore Rotation}
    {pid : Nat} {process : Rotation}
    (holds : rotationInvariant.Holds world)
    (running : world.Running pid process) :
    rotationInvariant.shared (process.release world.shared) ∧
      rotationInvariant.Undisturbed world pid
        (process.release world.shared) := by
  have standing : process.Standing world.shared :=
    holds.2.1 pid process running
  have before : ∀ other right, world.Running other right →
      right.Standing world.shared :=
    fun other right found => holds.2.1 other right found
  cases process with
  | find => exact ⟨holds.1, fun other right _ found => before other right found⟩
  | revoke =>
      exact ⟨holds.1, fun other right _ found => before other right found⟩
  | issue tokenHash userId revokedAt =>
      refine ⟨holds.1, ?_⟩
      intro other right different found
      apply (before other right found).letGo
      intro newHash inserts
      exact (before other right found).inserts_not_heldBy inserts standing rfl
  | commit tokenHash userId revokedAt rawRefresh newHash expiresAt =>
      refine ⟨holds.1, ?_⟩
      intro other right different found
      apply (before other right found).letGo
      intro key inserts
      have notNew : key ≠ newHash := by
        rintro rfl
        exact (holds.2.2 other pid right _ different found running).2 _
          inserts rfl
      have notHeld : key ∉ heldBy tokenHash revokedAt :=
        (before other right found).inserts_not_heldBy inserts standing rfl
      simp [notNew, notHeld]

/-- In every run in which a request finds the token active only while no other
request that did so is open, at most one request is given a pair for it. -/
theorem refreshToken_redeemed_once {world : World TokenStore Rotation}
    (reachable : (rotation refreshTokenDays sha256).system.ReachableWhen
      (ReadsAlone sha256) world) (tokenHash : String) :
    (world.shared.redeemedFor tokenHash).length ≤ 1 := by
  have holds : rotationInvariant.Holds world := by
    apply Process.Invariant.holds _ _ _ _ reachable
    · exact fun store initial => initial_rotationInvariant initial
    · intro world pid rawRefreshToken _ _ _
      exact arrives_of_apart trivial
        (by simp [rotation, Rotation.redeems, Rotation.inserts])
    · intro world pid choice process store after _ holds permitted running
        resumed
      exact resumed_rotationInvariant holds permitted running resumed
    · intro world pid process _ holds _ running
      exact released_rotationInvariant holds running
  exact holds.1.2 tokenHash

end

/-- A store with one active token of one user. -/
def oneToken : TokenStore :=
  { refreshTokens :=
      Table.empty.put "OLD"
        { userId := "user", expiresAt := 100, revokedAt := none }
    held := []
    redeemed := [] }

theorem initial_oneToken (refreshTokenDays : Nat)
    (sha256 : String → String) :
    (rotation refreshTokenDays sha256).system.initial
      (World.start oneToken) :=
  ⟨oneToken, ⟨rfl, rfl⟩, rfl⟩

/-- Of two requests for one token, the second reads it once the first has
committed, and is turned away. -/
theorem refreshToken_redeemed_once_alone :
    ∃ world : World TokenStore Rotation,
      world.shared.redeemed.length = 1 ∧
        (world.shared.redeemedFor "OLD").length ≤ 1 := by
  have run : ∃ final, (rotation 30 id).system.RunWhen (ReadsAlone id)
      (World.start oneToken)
      [.spawn 0 "old", .spawn 1 "old", .resume 0 (.now 1), .resume 0 (.now 2),
        .resume 0 (.issue 3 "new"), .resume 0 (.now 4), .resume 1 (.now 5)]
      final ∧
      final.shared.redeemed.length = 1 := by
    refine ⟨_, .cons trivial rfl (.cons trivial rfl (.cons ?_ rfl
      (.cons ?_ rfl (.cons trivial rfl (.cons ?_ rfl (.cons ?_ rfl
        (.nil _))))))), rfl⟩
    · rintro rawRefreshToken _ _ other process found redeems
      rcases World.running_put.mp found with ⟨_, same⟩ | ⟨_, earlier⟩
      · cases same
        simp [rotation, Rotation.redeems] at redeems
      · rcases World.running_put.mp earlier with ⟨_, same⟩ | ⟨_, absent⟩
        · cases same
          simp [rotation, Rotation.redeems] at redeems
        · simp [World.Running, World.start] at absent
    · intro rawRefreshToken running
      simp [World.Running, World.put] at running
    · intro rawRefreshToken running
      simp [World.Running, World.put] at running
    · intro rawRefreshToken running active
      rcases World.running_put.mp running with ⟨same, _⟩ | ⟨_, second⟩
      · cases same
      · obtain rfl : rawRefreshToken = "old" := by
          simpa [World.Running, World.put, rotation] using second.symm
        exact absurd (by decide) active
  obtain ⟨final, ran, one⟩ := run
  exact ⟨final, one, refreshToken_redeemed_once
    ⟨_, _, initial_oneToken 30 id, ran⟩ "OLD"⟩

/-- Two requests read the token before either commits, and each is given a
pair: the second one's `UPDATE` matches no row and it goes on. -/
theorem refreshToken_redeemed_twice :
    ¬ ∀ (refreshTokenDays : Nat) (sha256 : String → String)
      (world : World TokenStore Rotation),
      (rotation refreshTokenDays sha256).system.Reachable world →
        ∀ tokenHash, (world.shared.redeemedFor tokenHash).length ≤ 1 := by
  intro all
  have twice : ((rotation 30 id).system.run (World.start oneToken)
      [.spawn 0 "old", .spawn 1 "old", .resume 0 (.now 1), .resume 1 (.now 1),
        .resume 0 (.now 2), .resume 0 (.issue 3 "first"), .resume 0 (.now 4),
        .resume 1 (.now 5), .resume 1 (.issue 6 "second"),
        .resume 1 (.now 7)]).map
      (fun world => (world.shared.redeemedFor "OLD").length) = some 2 := by
    decide
  obtain ⟨final, reachable, two⟩ :=
    Transition.System.reachable_of_run_map (initial_oneToken 30 id) twice
  have once := all 30 id final reachable "OLD"
  omega

end JanSetu.Auth
