import JanSetu.Python.Text
import Mathlib.Data.Set.Function

/-!
# Codes, phone numbers and login-approval ids

The pure functions of `auth.py` and `is_verification_code` of
`conversation.py`.  `sha256` is a parameter: it stands for the hexadecimal
digest of the UTF-8 encoding of its argument.
-/

namespace JanSetu.Auth

open Python (isDigit strip upper split)

def loginApprovalYes : String := "login_yes"

def loginApprovalNo : String := "login_no"

def buildLoginApprovalId (decision challengeId verifier : String) : String :=
  decision ++ ":" ++ challengeId ++ ":" ++ verifier

/-- The decision, the challenge id and the verifier of a reply id. -/
def parseLoginApprovalId : Option String → Option (String × String × String)
  | none => none
  | some replyId =>
      if replyId = "" ∨ 256 < replyId.length then none
      else
        match split ':' replyId with
        | [decision, challengeId, verifier] =>
            if decision ≠ loginApprovalYes ∧ decision ≠ loginApprovalNo then
              none
            else if verifier.length < 16 ∨ challengeId.length ≠ 36 then none
            else some (decision, challengeId, verifier)
        | _ => none

section

variable (sha256 : String → String)

def hashCode (code : String) : String :=
  sha256 (upper (strip code))

end

def normalizePhone (phone : String) : String :=
  let digits := String.ofList (phone.toList.filter isDigit)
  if digits.length = 10 then
    "91" ++ digits
  else if digits.length = 12 ∧ Python.startsWith digits "91" then
    digits
  else
    digits

/-- `JS-[A-Z0-9]{6}` on the stripped upper-case text. -/
def isVerificationCode : Option String → Bool
  | none => false
  | some textBody =>
      match (upper (strip textBody)).toList with
      | 'J' :: 'S' :: '-' :: code =>
          code.length = 6 &&
            code.all fun char => char.isUpper || char.isDigit
      | _ => false

/-! ## WhatsApp ids -/

/-- A sender id as the webhook carries it: decimal digits and nothing else. -/
def IsWaId (waId : String) : Prop :=
  ∀ char ∈ waId.toList, char.isDigit = true

instance (waId : String) : Decidable (IsWaId waId) :=
  decidable_of_iff (waId.toList.all Char.isDigit = true) List.all_eq_true

theorem isDigit_of_ascii {char : Char} (digit : char.isDigit = true) :
    isDigit char = true := by
  have bounds : 48 ≤ char.toNat ∧ char.toNat ≤ 57 := by
    simpa [Char.isDigit, UInt32.le_iff_toNat_le] using digit
  have ascii : char.toNat < 128 := by omega
  simp [isDigit, ascii, bounds]

theorem digits_of_waId {waId : String} (valid : IsWaId waId) :
    String.ofList (waId.toList.filter isDigit) = waId := by
  have kept : waId.toList.filter isDigit = waId.toList := by
    apply List.filter_eq_self.mpr
    intro char member
    exact isDigit_of_ascii (valid char member)
  rw [kept, String.ofList_toList]

/-- On a WhatsApp id, `normalize_phone` prefixes the country code of India to
ten digits and changes nothing else. -/
theorem normalizePhone_waId {waId : String} (valid : IsWaId waId) :
    normalizePhone waId = if waId.length = 10 then "91" ++ waId else waId := by
  simp [normalizePhone, digits_of_waId valid]

theorem normalizePhone_eq_self_iff {waId : String} (valid : IsWaId waId) :
    normalizePhone waId = waId ↔ waId.length ≠ 10 := by
  rw [normalizePhone_waId valid]
  by_cases ten : waId.length = 10
  · have longer : ("91" ++ waId).length ≠ waId.length := by
      rw [String.length_append]
      have two : "91".length = 2 := rfl
      omega
    simp only [ten, if_true, ne_eq, not_true, iff_false]
    intro same
    exact longer (congrArg String.length same)
  · simp [ten]

/-- Two different WhatsApp ids normalise to one phone exactly when one of them
has ten digits and the other is the same digits behind 91. -/
theorem normalizePhone_eq_iff {left right : String} (validLeft : IsWaId left)
    (validRight : IsWaId right) (different : left ≠ right) :
    normalizePhone left = normalizePhone right ↔
      left.length = 10 ∧ "91" ++ left = right ∨
        right.length = 10 ∧ "91" ++ right = left := by
  rw [normalizePhone_waId validLeft, normalizePhone_waId validRight]
  have two : "91".length = 2 := rfl
  by_cases tenLeft : left.length = 10 <;>
    by_cases tenRight : right.length = 10
  · have apart : "91" ++ left ≠ right := by
      rintro rfl
      rw [String.length_append] at tenRight
      omega
    have apart' : "91" ++ right ≠ left := by
      rintro rfl
      rw [String.length_append] at tenLeft
      omega
    simp [tenLeft, tenRight, String.append_right_inj, different, apart, apart']
  · simp [tenLeft, tenRight]
  · simp [tenLeft, tenRight, eq_comm]
  · simp [tenLeft, tenRight, different]

/-- The sets of WhatsApp ids on which `normalize_phone` is injective. -/
theorem normalizePhone_injOn_iff {waIds : Set String}
    (valid : ∀ waId ∈ waIds, IsWaId waId) :
    Set.InjOn normalizePhone waIds ↔
      ∀ waId ∈ waIds, waId.length = 10 → "91" ++ waId ∉ waIds := by
  constructor
  · intro injective waId member ten prefixed
    have different : waId ≠ "91" ++ waId := by
      intro same
      have lengths := congrArg String.length same
      rw [String.length_append] at lengths
      have two : "91".length = 2 := rfl
      omega
    have collide :=
      (normalizePhone_eq_iff (valid _ member) (valid _ prefixed)
        different).mpr (.inl ⟨ten, rfl⟩)
    exact different (injective member prefixed collide)
  · intro apart left memberLeft right memberRight same
    by_contra different
    rcases (normalizePhone_eq_iff (valid _ memberLeft) (valid _ memberRight)
      different).mp same with ⟨ten, rfl⟩ | ⟨ten, rfl⟩
    · exact apart left memberLeft ten memberRight
    · exact apart right memberRight ten memberLeft

example : normalizePhone "+65 8123 4567" = normalizePhone "+91 65812 34567" := by
  decide

end JanSetu.Auth
