import JanSetu.Python.Json

/-!
# Requests over `httpx`

A request ends in a transport error, or in a response with any status and any
body.
-/

namespace Python

structure Response where
  status : Nat
  /-- What comes of decoding the body. -/
  body : Decoded
  content : List UInt8

inductive Outcome where
  | failed
  | answered (response : Response)

namespace Response

def isSuccess (response : Response) : Bool :=
  200 ≤ response.status && response.status ≤ 299

def raiseForStatus (response : Response) : Except Raised Unit :=
  if response.isSuccess then .ok ()
  else .error (.httpStatusError response.status)

def json (response : Response) : Except Raised Json :=
  response.body.result

end Response

namespace Outcome

/-- The response of a request to a URL of the settings. -/
def answer : Outcome → Except Raised Response
  | .failed => .error .httpError
  | .answered response => .ok response

/-- `response.raise_for_status()`, then `response.json()`. -/
def json (outcome : Outcome) : Except Raised Json := do
  let response ← outcome.answer
  response.raiseForStatus
  response.json

end Outcome

/-- `client.get(url)` for a URL made from data. -/
def Platform.get (platform : Platform) (url : Json) (outcome : Outcome) :
    Except Raised Response :=
  match url with
  | .string text =>
      if platform.validUrl text then outcome.answer else .error .invalidUrl
  | _ => .error .typeError

/-! ## What an outcome is good for -/

namespace Outcome

/-- The answer is a success with this body. -/
def Gives (outcome : Outcome) (json : Json) : Prop :=
  ∃ response, outcome = .answered response ∧ response.isSuccess = true ∧
    response.body = .value json

/-- The answer is a success whose body is not JSON, or holds an integer of too
many digits. -/
def Undecodable (outcome : Outcome) : Prop :=
  ∃ response, outcome = .answered response ∧ response.isSuccess = true ∧
    (response.body = .notJson ∨ response.body = .tooManyDigits)

/-- The answer is a success whose body is nested too deeply to be decoded. -/
def TooDeep (outcome : Outcome) : Prop :=
  ∃ response, outcome = .answered response ∧ response.isSuccess = true ∧
    response.body = .tooDeep

theorem json_answered (response : Response) :
    (Outcome.answered response).json =
      if response.isSuccess then response.body.result
      else .error (.httpStatusError response.status) := by
  simp only [json, answer, Response.raiseForStatus, Response.json]
  cases success : response.isSuccess <;>
    simp [success, Bind.bind, Except.bind]

theorem json_ok {outcome : Outcome} {found : Json} :
    outcome.json = .ok found ↔ outcome.Gives found := by
  cases outcome with
  | failed => simp [Gives, json, answer, Bind.bind, Except.bind]
  | answered response =>
      rw [json_answered]
      cases success : response.isSuccess with
      | false => simp [Gives, success]
      | true =>
          cases decoded : response.body <;>
            simp [Gives, success, decoded, Decoded.result]

theorem Gives.unique {outcome : Outcome} {left right : Json}
    (first : outcome.Gives left) (second : outcome.Gives right) :
    left = right := by
  have same : Except.ok left = (.ok right : Except Raised Json) :=
    (json_ok.mpr first).symm.trans (json_ok.mpr second)
  exact Except.ok.inj same

/-- Every way in which a request for JSON raises. -/
theorem json_error {outcome : Outcome} {raised : Raised}
    (failed : outcome.json = .error raised) :
    raised.isHttpError = true ∨
      (raised.isValueError = true ∧ outcome.Undecodable) ∨
      (raised = .recursionError ∧ outcome.TooDeep) := by
  cases outcome with
  | failed =>
      have same : Raised.httpError = raised := Except.error.inj failed
      exact .inl (same ▸ rfl)
  | answered response =>
      rw [json_answered] at failed
      cases success : response.isSuccess with
      | false =>
          rw [success] at failed
          have same := Except.error.inj failed
          exact .inl (same ▸ rfl)
      | true =>
          rw [success] at failed
          cases decoded : response.body with
          | value json => simp [decoded, Decoded.result] at failed
          | notJson =>
              have same : Raised.jsonDecodeError = raised := by
                simpa [decoded, Decoded.result] using failed
              exact .inr (.inl
                ⟨same ▸ rfl, response, rfl, success, .inl decoded⟩)
          | tooManyDigits =>
              have same : Raised.valueError = raised := by
                simpa [decoded, Decoded.result] using failed
              exact .inr (.inl
                ⟨same ▸ rfl, response, rfl, success, .inr decoded⟩)
          | tooDeep =>
              have same : Raised.recursionError = raised := by
                simpa [decoded, Decoded.result] using failed
              exact .inr (.inr ⟨same.symm, response, rfl, success, decoded⟩)

theorem json_undecodable {outcome : Outcome}
    (undecodable : outcome.Undecodable) :
    ∃ raised, outcome.json = .error raised ∧ raised.isHttpError = false ∧
      raised.isValueError = true := by
  obtain ⟨response, rfl, success, decoded | decoded⟩ := undecodable
  · exact ⟨.jsonDecodeError, by simp [json_answered, success, decoded,
      Decoded.result], rfl, rfl⟩
  · exact ⟨.valueError, by simp [json_answered, success, decoded,
      Decoded.result], rfl, rfl⟩

theorem json_tooDeep {outcome : Outcome} :
    outcome.TooDeep ↔ outcome.json = .error .recursionError := by
  constructor
  · rintro ⟨response, rfl, success, decoded⟩
    simp [json_answered, success, decoded, Decoded.result]
  · intro failed
    rcases json_error failed with caught | ⟨caught, _⟩ | ⟨_, deep⟩
    · cases caught
    · cases caught
    · exact deep

end Outcome

end Python
