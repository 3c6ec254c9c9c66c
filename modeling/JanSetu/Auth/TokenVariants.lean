import JanSetu.Auth.Refresh
import JanSetu.Library.Transition

/-!
# Variants of a refresh token

`issue_tokens`, `rotate_refresh` and the logout as transactions of their own.
A token is stored as the hash of its stripped upper-case text, a form made for
codes that people type: the tokens themselves tell upper from lower case.
-/

namespace JanSetu.Auth

open Python (strip upper)

inductive RotationError where
  | invalidRefreshToken
  /-- The unique constraint on `token_hash`; the transaction is rolled back. -/
  | integrityError
deriving DecidableEq

namespace TokenStore

def createRefreshToken (store : TokenStore) (userId tokenHash : String)
    (expiresAt : Time) : Except RotationError TokenStore :=
  match store.refreshTokens.find tokenHash with
  | some _ => .error .integrityError
  | none =>
      .ok
        { store with
          refreshTokens := store.refreshTokens.put tokenHash
            { userId := userId, expiresAt := expiresAt, revokedAt := none } }

def revokeRefreshToken (store : TokenStore) (tokenHash : String)
    (now : Time) : TokenStore :=
  { store with
    refreshTokens := store.refreshTokens.updateWhere
      (fun key row => key = tokenHash && row.revokedAt.isNone)
      fun row => { row with revokedAt := some now } }

end TokenStore

section

variable (refreshTokenDays : Nat) (sha256 : String → String)

def issueTokens (store : TokenStore) (userId rawRefresh : String)
    (now : Time) : Except RotationError TokenStore :=
  store.createRefreshToken userId (hashCode sha256 rawRefresh)
    (now + days refreshTokenDays)

def rotateRefresh (store : TokenStore) (rawRefreshToken : String)
    (now : Time) (rawRefresh : String) : Except RotationError TokenStore :=
  let tokenHash := hashCode sha256 rawRefreshToken
  match store.findActiveRefreshToken tokenHash now with
  | none => .error .invalidRefreshToken
  | some token =>
      issueTokens refreshTokenDays sha256
        (store.revokeRefreshToken tokenHash now) token.userId rawRefresh now

end

/-- What `secrets.token_urlsafe` returns: letters of both cases, digits,
hyphens and underscores. -/
def UrlSafe (token : String) : Prop :=
  ∀ char ∈ token.toList, char.isAlphanum = true ∨ char = '-' ∨ char = '_'

instance (token : String) : Decidable (UrlSafe token) :=
  inferInstanceAs (Decidable (∀ char ∈ token.toList, _))

/-- `issued` are the raw tokens that browsers were given; it is kept for the
statements about runs and read by no step. -/
structure Issuer where
  store : TokenStore
  issued : List String
deriving DecidableEq

inductive IssuerStep where
  | login (userId rawRefresh : String) (now : Time)
  | refresh (rawRefreshToken : String) (now : Time) (rawRefresh : String)
  | logout (rawRefreshToken : String) (now : Time)
deriving DecidableEq

/-- The browser is given the new token once its row is committed. -/
def Issuer.handOut (issuer : Issuer) (rawRefresh : String) :
    Except RotationError TokenStore → Issuer
  | .ok store => { store := store, issued := rawRefresh :: issuer.issued }
  | .error _ => issuer

section

variable (refreshTokenDays : Nat) (sha256 : String → String)

def Issuer.step (issuer : Issuer) : IssuerStep → Option Issuer
  | .login userId rawRefresh now =>
      if UrlSafe rawRefresh then
        some
          (issuer.handOut rawRefresh
            (issueTokens refreshTokenDays sha256 issuer.store userId
              rawRefresh now))
      else none
  | .refresh rawRefreshToken now rawRefresh =>
      if UrlSafe rawRefresh then
        some
          (issuer.handOut rawRefresh
            (rotateRefresh refreshTokenDays sha256 issuer.store
              rawRefreshToken now rawRefresh))
      else none
  | .logout rawRefreshToken now =>
      some
        { issuer with
          store := issuer.store.revokeRefreshToken
            (hashCode sha256 rawRefreshToken) now }

/-- The runs in which tokens are issued, redeemed and revoked. -/
def tokenIssuer : Transition.System Issuer IssuerStep :=
  { initial := fun issuer =>
      issuer.store =
          { refreshTokens := Table.empty, held := [], redeemed := [] } ∧
        issuer.issued = []
    step := Issuer.step refreshTokenDays sha256 }

end

/-! ## What is stored of a token -/

/-- A token of a browser has no white space around it. -/
theorem UrlSafe.strip {token : String} (safe : UrlSafe token) :
    strip token = token := by
  apply Python.strip_eq_self
  intro char member
  rcases safe char member with alphanumeric | rfl | rfl
  · have bounds : char.val.toNat < 128 ∧ 48 ≤ char.val.toNat := by
      delta Char.isAlphanum Char.isAlpha Char.isUpper Char.isLower
        Char.isDigit at alphanumeric
      simp only [ge_iff_le, UInt32.le_iff_toNat_le, Bool.or_eq_true,
        Bool.and_eq_true, decide_eq_true_eq] at alphanumeric
      simp at alphanumeric
      have same : char.toNat = char.val.toNat := rfl
      omega
    have ascii : char.toNat < 128 := bounds.1
    have visible : 48 ≤ char.toNat := bounds.2
    simp [Python.isSpace, ascii]
    omega
  · decide
  · decide

theorem UrlSafe.hashCode {token : String} (safe : UrlSafe token)
    (sha256 : String → String) :
    hashCode sha256 token = sha256 (upper token) := by
  rw [Auth.hashCode, safe.strip]

section

variable {refreshTokenDays : Nat} {sha256 : String → String}
  {store after : TokenStore} {tokenHash userId rawRefresh raw token : String}
  {now expiresAt : Time} {issuer next : Issuer}

theorem createRefreshToken_eq_ok
    (created : store.createRefreshToken userId tokenHash expiresAt =
      .ok after) :
    store.refreshTokens.find tokenHash = none ∧
      ∀ key, after.refreshTokens.find key =
        if key = tokenHash then
          some { userId := userId, expiresAt := expiresAt, revokedAt := none }
        else store.refreshTokens.find key := by
  unfold TokenStore.createRefreshToken at created
  split at created
  case h_1 => cases created
  case h_2 absent =>
    cases created
    exact ⟨absent, fun key => Table.find_put _ _ key _⟩

/-- A revocation leaves a row for every hash that had one. -/
theorem revokeRefreshToken_find (key : String) :
    ((store.revokeRefreshToken tokenHash now).refreshTokens.find key).isSome =
      (store.refreshTokens.find key).isSome := by
  simp [TokenStore.revokeRefreshToken, Table.find_updateWhere]

theorem rotateRefresh_eq_ok
    (rotated : rotateRefresh refreshTokenDays sha256 store token now
      rawRefresh = .ok after) :
    ∃ row, store.findActiveRefreshToken (hashCode sha256 token) now =
        some row ∧
      issueTokens refreshTokenDays sha256
        (store.revokeRefreshToken (hashCode sha256 token) now) row.userId
        rawRefresh now = .ok after := by
  unfold rotateRefresh at rotated
  dsimp only at rotated
  split at rotated
  case h_1 => cases rotated
  case h_2 row found => exact ⟨row, found, rotated⟩

end

/-! ## Issued tokens and stored hashes -/

/-- The stored hashes are those of the issued tokens, each of another. -/
structure Issuer.Stored (sha256 : String → String) (issuer : Issuer) :
    Prop where
  safe : ∀ raw ∈ issuer.issued, UrlSafe raw
  rows : ∀ key, (issuer.store.refreshTokens.find key).isSome = true ↔
    key ∈ issuer.issued.map (hashCode sha256)
  unique : (issuer.issued.map (hashCode sha256)).Nodup

section

variable {refreshTokenDays : Nat} {sha256 : String → String}
  {store after : TokenStore} {tokenHash userId rawRefresh raw token : String}
  {now expiresAt : Time} {issuer next : Issuer}

theorem Issuer.Stored.revoke (stored : issuer.Stored sha256) :
    ({ issuer with
       store := issuer.store.revokeRefreshToken tokenHash now } :
      Issuer).Stored sha256 :=
  { safe := stored.safe
    rows := fun key => by
      rw [revokeRefreshToken_find]
      exact stored.rows key
    unique := stored.unique }

/-- A token whose row could be inserted has another hash than those before. -/
theorem Issuer.Stored.issue (stored : issuer.Stored sha256)
    (safe : UrlSafe rawRefresh)
    (issued : issueTokens refreshTokenDays sha256 issuer.store userId
      rawRefresh now = .ok after) :
    ({ store := after, issued := rawRefresh :: issuer.issued } :
      Issuer).Stored sha256 := by
  obtain ⟨absent, found⟩ := createRefreshToken_eq_ok issued
  have fresh : hashCode sha256 rawRefresh ∉
      issuer.issued.map (hashCode sha256) := by
    rw [← stored.rows, absent]
    exact Bool.false_ne_true
  constructor
  · exact List.forall_mem_cons.mpr ⟨safe, stored.safe⟩
  · intro key
    rw [found, List.map_cons, List.mem_cons]
    by_cases new : key = hashCode sha256 rawRefresh
    · simp [new]
    · rw [if_neg new, stored.rows]
      simp [new]
  · exact List.nodup_cons.mpr ⟨fresh, stored.unique⟩

theorem Issuer.Stored.step {step : IssuerStep}
    (stored : issuer.Stored sha256)
    (taken : issuer.step refreshTokenDays sha256 step = some next) :
    next.Stored sha256 := by
  cases step with
  | login userId rawRefresh now =>
      unfold Issuer.step at taken
      simp only at taken
      split at taken
      case isFalse => cases taken
      case isTrue safe =>
        cases taken
        cases issued : issueTokens refreshTokenDays sha256 issuer.store userId
            rawRefresh now with
        | error => exact stored
        | ok after => exact stored.issue safe issued
  | refresh rawRefreshToken now rawRefresh =>
      unfold Issuer.step at taken
      simp only at taken
      split at taken
      case isFalse => cases taken
      case isTrue safe =>
        cases taken
        cases rotated : rotateRefresh refreshTokenDays sha256 issuer.store
            rawRefreshToken now rawRefresh with
        | error => exact stored
        | ok after =>
            obtain ⟨row, _, issued⟩ := rotateRefresh_eq_ok rotated
            exact stored.revoke.issue safe issued
  | logout rawRefreshToken now =>
      cases taken
      exact stored.revoke

theorem issuer_stored
    (reachable : (tokenIssuer refreshTokenDays sha256).Reachable issuer) :
    issuer.Stored sha256 := by
  refine reachable.invariant ?_ ?_
  · rintro state ⟨empty, none⟩
    constructor
    · rw [none]
      exact fun _ member => absurd member List.not_mem_nil
    · intro key
      rw [empty, none]
      simp
    · rw [none]
      exact List.nodup_nil
  · intro state step next _ stored _ taken
    exact stored.step taken

end

/-! ## Tokens that are accepted -/

/-- The row of an issued token is there, not revoked and not expired. -/
def Issuer.Redeemable (sha256 : String → String) (issuer : Issuer)
    (raw : String) (now : Time) : Prop :=
  ∃ row, issuer.store.refreshTokens.find (hashCode sha256 raw) = some row ∧
    row.Active now

/-- `rotate_refresh` does not turn the token away. -/
def Issuer.Accepts (refreshTokenDays : Nat) (sha256 : String → String)
    (issuer : Issuer) (token : String) (now : Time) (rawRefresh : String) :
    Prop :=
  rotateRefresh refreshTokenDays sha256 issuer.store token now rawRefresh ≠
    .error .invalidRefreshToken

section

variable {refreshTokenDays : Nat} {sha256 : String → String}
  {rawRefresh token : String} {now : Time} {issuer : Issuer}

theorem accepts_iff :
    issuer.Accepts refreshTokenDays sha256 token now rawRefresh ↔
      issuer.Redeemable sha256 token now := by
  unfold Issuer.Accepts Issuer.Redeemable rotateRefresh
  dsimp only
  constructor
  · intro accepted
    split at accepted
    case h_1 => exact absurd rfl accepted
    case h_2 row found =>
      exact ⟨row, TokenStore.findActiveRefreshToken_eq_some found⟩
  · rintro ⟨row, found, active⟩
    have finds : issuer.store.findActiveRefreshToken (hashCode sha256 token)
        now = some row := by
      simp [TokenStore.findActiveRefreshToken, found, active]
    rw [finds]
    simp only
    unfold issueTokens TokenStore.createRefreshToken
    split
    · nofun
    · nofun

/-- A token is accepted exactly when it differs from a redeemable one in case
and in the white space around it, if at all. -/
theorem accepts_iff_variant (injective : Function.Injective sha256)
    (stored : issuer.Stored sha256) :
    issuer.Accepts refreshTokenDays sha256 token now rawRefresh ↔
      ∃ raw ∈ issuer.issued, upper (strip token) = upper raw ∧
        issuer.Redeemable sha256 raw now := by
  rw [accepts_iff]
  constructor
  · rintro ⟨row, found, active⟩
    have present : (issuer.store.refreshTokens.find
        (hashCode sha256 token)).isSome = true := by
      rw [found]
      rfl
    obtain ⟨raw, member, same⟩ :=
      List.mem_map.mp ((stored.rows _).mp present)
    have finds : issuer.store.refreshTokens.find (hashCode sha256 raw) =
        some row := by
      rw [same]
      exact found
    refine ⟨raw, member, ?_, row, finds, active⟩
    rw [(stored.safe raw member).hashCode] at same
    exact (injective same).symm
  · rintro ⟨raw, member, same, redeemable⟩
    have hashes : hashCode sha256 token = hashCode sha256 raw := by
      rw [(stored.safe raw member).hashCode sha256]
      exact congrArg sha256 same
    unfold Issuer.Redeemable at redeemable ⊢
    rwa [hashes]

/-- Only a token that was issued is accepted, and no two that were issued have
one hash. -/
def Issuer.Unforgeable (refreshTokenDays : Nat) (sha256 : String → String)
    (issuer : Issuer) (token : String) (now : Time) (rawRefresh : String) :
    Prop :=
  (issuer.Accepts refreshTokenDays sha256 token now rawRefresh →
    token ∈ issuer.issued) ∧
  ∀ first ∈ issuer.issued, ∀ second ∈ issuer.issued, first ≠ second →
    hashCode sha256 first ≠ hashCode sha256 second

/-- A token is forgeable exactly when it was not issued and is, up to case and
surrounding white space, one that was and can still be redeemed. -/
theorem tokens_unforgeable_iff (injective : Function.Injective sha256)
    (reachable : (tokenIssuer refreshTokenDays sha256).Reachable issuer)
    (token : String) (now : Time) (rawRefresh : String) :
    issuer.Unforgeable refreshTokenDays sha256 token now rawRefresh ↔
      (token ∈ issuer.issued ∨
        ∀ raw ∈ issuer.issued, issuer.Redeemable sha256 raw now →
          upper (strip token) ≠ upper raw) := by
  have stored := issuer_stored reachable
  have distinct : ∀ first ∈ issuer.issued, ∀ second ∈ issuer.issued,
      first ≠ second → hashCode sha256 first ≠ hashCode sha256 second :=
    fun first memberFirst second memberSecond different same =>
      different (List.inj_on_of_nodup_map stored.unique memberFirst
        memberSecond same)
  unfold Issuer.Unforgeable
  rw [and_iff_left distinct, accepts_iff_variant injective stored]
  constructor
  · intro only
    by_contra neither
    obtain ⟨forged, found⟩ := not_or.mp neither
    apply found
    intro raw member redeemable same
    exact forged (only ⟨raw, member, same, redeemable⟩)
  · rintro (issued | apart) ⟨raw, member, same, redeemable⟩
    · exact issued
    · exact absurd same (apart raw member redeemable)

end

/-! ## A token in capitals -/

/-- A citizen logs in and the browser is given one token. -/
def browserToken : String := "q7Yx-2Vd_kLmN0pRsTuWvXzAbCdEfGhIjK4lMnOpQrS"

def oneBrowser : Issuer :=
  { store :=
      { refreshTokens := Table.empty.put (upper browserToken)
          { userId := "asha", expiresAt := days 30, revokedAt := none }
        held := []
        redeemed := [] }
    issued := [browserToken] }

theorem browserToken_urlSafe : UrlSafe browserToken := by
  unfold UrlSafe browserToken
  simp

theorem oneBrowser_reachable :
    (tokenIssuer 30 id).Reachable oneBrowser := by
  let empty : Issuer :=
    { store := { refreshTokens := Table.empty, held := [], redeemed := [] }
      issued := [] }
  have begins : (tokenIssuer 30 id).Reachable empty :=
    Transition.System.ReachableWhen.start ⟨rfl, rfl⟩
  have logsIn : (tokenIssuer 30 id).step empty
      (.login "asha" browserToken 0) = some oneBrowser := by
    unfold tokenIssuer Issuer.step
    dsimp only
    rw [if_pos browserToken_urlSafe, issueTokens,
      browserToken_urlSafe.hashCode]
    rfl
  exact begins.next trivial logsIn

theorem tokens_unforgeable_iff_issued :
    oneBrowser.Unforgeable 30 id browserToken 5 "next" ↔
      (browserToken ∈ oneBrowser.issued ∨
        ∀ raw ∈ oneBrowser.issued, oneBrowser.Redeemable id raw 5 →
          upper (strip browserToken) ≠ upper raw) :=
  tokens_unforgeable_iff Function.injective_id oneBrowser_reachable
    browserToken 5 "next"

/-- The token is redeemed by its capitals, which no browser was given. -/
theorem tokens_forged_by_case :
    ¬ ∀ (refreshTokenDays : Nat) (sha256 : String → String),
      Function.Injective sha256 → ∀ issuer,
        (tokenIssuer refreshTokenDays sha256).Reachable issuer →
          ∀ token now rawRefresh,
            issuer.Unforgeable refreshTokenDays sha256 token now
              rawRefresh := by
  intro unforgeable
  have capitals := (unforgeable 30 id Function.injective_id oneBrowser
    oneBrowser_reachable (upper browserToken) 5 "next").1
  have accepted : oneBrowser.Accepts 30 id (upper browserToken) 5 "next" := by
    unfold Issuer.Accepts
    decide +kernel
  have given : upper browserToken ∉ oneBrowser.issued := by
    decide +kernel
  exact given (capitals accepted)

end JanSetu.Auth
