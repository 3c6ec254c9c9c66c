import JanSetu.Python.Text
import Mathlib.Algebra.Group.Nat.Defs
import Mathlib.Algebra.Order.Ring.Unbundled.Rat

/-!
# Decoded JSON and the exceptions of its use

What `json.loads` returns is a value of any shape, and every operation on it
can raise.  The exceptions are kept apart as far as the `except` clauses of the
program keep them apart.
-/

namespace Python

inductive Raised where
  | httpStatusError (status : Nat)
  /-- Every other `httpx.HTTPError`, transport errors among them. -/
  | httpError
  | invalidUrl
  | osError
  | runtimeError
  | keyError
  | indexError
  | typeError
  | attributeError
  | jsonDecodeError
  /-- A `ValueError` that is no `JSONDecodeError`. -/
  | valueError
  | overflowError
  | recursionError
  | databaseError
deriving DecidableEq

def Raised.isHttpError : Raised → Bool
  | .httpStatusError _ => true
  | .httpError => true
  | _ => false

def Raised.isValueError : Raised → Bool
  | .jsonDecodeError => true
  | .valueError => true
  | _ => false

/-- A computation returns when it does not raise. -/
def Returns (result : Except Raised α) : Prop :=
  ∃ value, result = .ok value

section

variable {α β : Type} {result : Except Raised α} {next : α → Except Raised β}

theorem bind_ok {value : β} :
    (result >>= next) = .ok value ↔
      ∃ between, result = .ok between ∧ next between = .ok value := by
  cases result <;> simp [Bind.bind, Except.bind]

theorem pure_ok {value other : α} :
    (pure value : Except Raised α) = .ok other ↔ value = other := by
  simp [Pure.pure, Except.pure]

theorem returns_ok (value : α) : Returns (Except.ok value) :=
  ⟨value, rfl⟩

theorem returns_pure (value : α) :
    Returns (pure value : Except Raised α) :=
  ⟨value, rfl⟩

theorem not_returns_error (raised : Raised) :
    ¬ Returns (Except.error raised : Except Raised α) := by
  rintro ⟨value, same⟩
  cases same

theorem returns_bind :
    Returns (result >>= next) ↔
      ∃ between, result = .ok between ∧ Returns (next between) := by
  constructor
  · rintro ⟨value, same⟩
    obtain ⟨between, first, second⟩ := bind_ok.mp same
    exact ⟨between, first, value, second⟩
  · rintro ⟨between, first, value, second⟩
    exact ⟨value, bind_ok.mpr ⟨between, first, second⟩⟩

/-- Where the rest never raises, only the first part can. -/
theorem returns_bind_of (rest : ∀ between, Returns (next between)) :
    Returns (result >>= next) ↔ Returns result := by
  rw [returns_bind]
  constructor
  · rintro ⟨between, first, _⟩
    exact ⟨between, first⟩
  · rintro ⟨between, first⟩
    exact ⟨between, first, rest between⟩

/-- Where the rest raises or returns whatever the first part returns. -/
theorem returns_bind_and {rests : Prop}
    (rest : ∀ between, Returns (next between) ↔ rests) :
    Returns (result >>= next) ↔ Returns result ∧ rests := by
  rw [returns_bind]
  constructor
  · intro returns
    obtain ⟨between, first, second⟩ := returns
    exact ⟨⟨between, first⟩, (rest between).mp second⟩
  · intro both
    obtain ⟨⟨between, first⟩, second⟩ := both
    exact ⟨between, first, (rest between).mpr second⟩

/-- A comprehension returns when its body does on every item. -/
theorem returns_mapM {step : α → Except Raised β} {items : List α} :
    Returns (items.mapM step) ↔ ∀ item ∈ items, Returns (step item) := by
  induction items with
  | nil => simp [returns_pure]
  | cons item items induction =>
      rw [List.mapM_cons, returns_bind, List.forall_mem_cons, ← induction]
      constructor
      · rintro ⟨first, stepped, rest⟩
        rw [returns_bind_of (fun _ => returns_pure _)] at rest
        exact ⟨⟨first, stepped⟩, rest⟩
      · rintro ⟨⟨first, stepped⟩, rest⟩
        refine ⟨first, stepped, ?_⟩
        rwa [returns_bind_of (fun _ => returns_pure _)]

/-- What a comprehension returns comes from its items. -/
theorem exists_of_mem_mapM {step : α → Except Raised β} {items : List α}
    {results : List β} {found : β} (ran : items.mapM step = .ok results)
    (member : found ∈ results) : ∃ item ∈ items, step item = .ok found := by
  induction items generalizing results with
  | nil =>
      rw [List.mapM_nil, pure_ok] at ran
      subst ran
      cases member
  | cons item items induction =>
      rw [List.mapM_cons] at ran
      obtain ⟨first, stepped, after⟩ := bind_ok.mp ran
      obtain ⟨others, rest, last⟩ := bind_ok.mp after
      obtain rfl := pure_ok.mp last
      cases member with
      | head => exact ⟨item, List.mem_cons_self, stepped⟩
      | tail _ later =>
          obtain ⟨source, inside, same⟩ := induction rest later
          exact ⟨source, List.mem_cons_of_mem _ inside, same⟩

/-- A loop whose body raises on some items, whatever it has accumulated. -/
theorem foldlM_ok {step : β → α → Except Raised β} {borne : α → Prop}
    {effect : β → α → β}
    (returns : ∀ state item, borne item →
      step state item = .ok (effect state item))
    (raises : ∀ state item, ¬ borne item → ¬ Returns (step state item))
    {items : List α} {state final : β} :
    items.foldlM step state = .ok final ↔
      (∀ item ∈ items, borne item) ∧ items.foldl effect state = final := by
  induction items generalizing state with
  | nil => simp [pure_ok]
  | cons item items induction =>
      rw [List.foldlM_cons, List.foldl_cons, List.forall_mem_cons]
      by_cases bears : borne item
      · rw [returns state item bears]
        simp only [bears, true_and]
        exact induction
      · constructor
        · intro done
          obtain ⟨between, stepped, _⟩ := bind_ok.mp done
          exact absurd ⟨between, stepped⟩ (raises state item bears)
        · rintro ⟨⟨bears', _⟩, _⟩
          exact absurd bears' bears

end

/-! ## Values -/

/-- A `float`; the finite ones by their value. -/
inductive Float where
  | finite (value : ℚ)
  | infinity
  | negativeInfinity
  | nan

inductive Json where
  | null
  | bool (value : Bool)
  | int (value : ℤ)
  | float (value : Float)
  | string (text : String)
  | array (items : List Json)
  | object (members : List (String × Json))

namespace Json

def truthy : Json → Bool
  | .null => false
  | .bool value => value
  | .int value => value ≠ 0
  | .float (.finite value) => value ≠ 0
  | .float _ => true
  | .string text => text ≠ ""
  | .array items => !items.isEmpty
  | .object members => !members.isEmpty

/-- `left or right`. -/
def orElse (left right : Json) : Json :=
  if left.truthy then left else right

def hashable : Json → Bool
  | .array _ => false
  | .object _ => false
  | _ => true

def text : Json → Option String
  | .string text => some text
  | _ => none

/-- The member of a `dict`; no other value has members. -/
def member (name : String) : Json → Option Json
  | .object members => members.lookup name
  | _ => none

/-- `value.get(name, default)` on a `dict`. -/
def getD (value : Json) (name : String) (default : Json) : Json :=
  (value.member name).getD default

def get (value : Json) (name : String) : Json :=
  value.getD name .null

/-- `value[name]`. -/
def item (value : Json) (name : String) : Except Raised Json :=
  match value with
  | .object members =>
      match members.lookup name with
      | some found => .ok found
      | none => .error .keyError
  | _ => .error .typeError

/-- `value[0]`. -/
def first : Json → Except Raised Json
  | .array [] => .error .indexError
  | .array (item :: _) => .ok item
  | .string text =>
      match text.toList with
      | [] => .error .indexError
      | char :: _ => .ok (.string (String.ofList [char]))
  | .object _ => .error .keyError
  | _ => .error .typeError

def Iterable : Json → Prop
  | .array _ => True
  | .string _ => True
  | .object _ => True
  | _ => False

/-- The items of a list, the characters of a string, the keys of a `dict`. -/
def items : Json → List Json
  | .array items => items
  | .string text =>
      text.toList.map fun char => .string (String.ofList [char])
  | .object members => members.map fun entry => .string entry.1
  | _ => []

/-- What `for item in value` runs over. -/
def iterate : Json → Except Raised (List Json)
  | .array items => .ok items
  | .string text =>
      .ok (text.toList.map fun char => .string (String.ofList [char]))
  | .object members => .ok (members.map fun entry => .string entry.1)
  | _ => .error .typeError

theorem iterate_ok {value : Json} {found : List Json} :
    value.iterate = .ok found ↔ value.Iterable ∧ value.items = found := by
  cases value <;> simp [iterate, Iterable, items]

theorem returns_iterate {value : Json} :
    Returns value.iterate ↔ value.Iterable := by
  cases value <;> simp [iterate, Iterable, returns_ok, not_returns_error]

/-- Indexing and iterating fail with a `TypeError` on the same values. -/
theorem first_typeError {value : Json} :
    value.first = .error .typeError ↔ ¬ value.Iterable := by
  cases value with
  | array items => cases items <;> simp [first, Iterable]
  | string text =>
      cases characters : text.toList <;> simp [first, Iterable, characters]
  | _ => simp [first, Iterable]

theorem iterable_of_first {value chosen : Json}
    (indexed : value.first = .ok chosen) : value.Iterable := by
  by_contra unlike
  rw [first_typeError.mpr unlike] at indexed
  cases indexed

/-- `value[0]` fails with an `IndexError`, a `KeyError` or a `TypeError`. -/
theorem first_error {value : Json} {raised : Raised}
    (failed : value.first = .error raised) :
    raised = .indexError ∨ raised = .keyError ∨ raised = .typeError := by
  cases value with
  | array items => cases items <;> simp_all [first]
  | string text =>
      cases characters : text.toList <;> simp_all [first]
  | _ => simp_all [first]

def IsObject (value : Json) : Prop :=
  ∃ members, value = .object members

/-- `value[name]` fails with a `KeyError` or a `TypeError`. -/
theorem item_error {value : Json} {name : String} {raised : Raised}
    (failed : value.item name = .error raised) :
    (raised = .keyError ∧ value.IsObject) ∨
      (raised = .typeError ∧ ¬ value.IsObject) := by
  cases value with
  | object members =>
      simp only [item] at failed
      cases found : members.lookup name with
      | none =>
          rw [found] at failed
          exact .inl ⟨(Except.error.inj failed).symm, members, rfl⟩
      | some value =>
          rw [found] at failed
          cases failed
  | _ =>
      have same := Except.error.inj failed
      refine .inr ⟨same.symm, ?_⟩
      rintro ⟨members, equal⟩
      cases equal

theorem isObject_of_member {value found : Json} {name : String}
    (present : value.member name = some found) : value.IsObject := by
  cases value with
  | object members => exact ⟨members, rfl⟩
  | _ => cases present

/-- `len(value)`. -/
def length : Json → Except Raised Nat
  | .string text => .ok text.length
  | .array items => .ok items.length
  | .object members => .ok members.length
  | _ => .error .typeError

theorem returns_length {value : Json} :
    Returns value.length ↔ value.Iterable := by
  cases value <;> simp [length, Iterable, returns_ok, not_returns_error]

theorem text_eq {value : Json} {text : String} :
    value.text = some text ↔ value = .string text := by
  cases value <;> simp [Json.text]

theorem item_ok {value found : Json} {name : String} :
    value.item name = .ok found ↔ value.member name = some found := by
  cases value with
  | object members =>
      simp only [item, member]
      cases members.lookup name <;> simp
  | _ => simp [item, member]

end Json

/-- What comes of decoding a text: a value, or the way in which it raises.
Integers of too many digits raise a plain `ValueError`, values nested too
deeply a `RecursionError`. -/
inductive Decoded where
  | value (json : Json)
  | notJson
  | tooManyDigits
  | tooDeep

def Decoded.result : Decoded → Except Raised Json
  | .value json => .ok json
  | .notJson => .error .jsonDecodeError
  | .tooManyDigits => .error .valueError
  | .tooDeep => .error .recursionError

/-! ## Library functions left open -/

/-- The parts of the standard library and of `httpx` that the results hold for
whatever they compute. -/
structure Platform where
  loads : String → Decoded
  /-- `str(value)` of a value that is no string. -/
  repr : Json → String
  /-- `float(text)`, none where it raises. -/
  floatOfText : String → Option Float
  casefold : String → String
  /-- Whether `httpx` takes a text for a URL. -/
  validUrl : String → Bool

namespace Platform

variable (platform : Platform)

def str : Json → String
  | .string text => text
  | value => platform.repr value

/-- Integers that round to a double; an integer is kept unrounded, since the
program only bounds it to the unit interval. -/
def fitsDouble (value : ℤ) : Bool :=
  value.natAbs < 2 ^ 1024 - 2 ^ 970

/-- `float(value)`. -/
def float : Json → Except Raised Float
  | .bool value => .ok (.finite (if value then 1 else 0))
  | .int value =>
      if fitsDouble value then .ok (.finite value)
      else .error .overflowError
  | .float value => .ok value
  | .string text =>
      match platform.floatOfText text with
      | some value => .ok value
      | none => .error .valueError
  | _ => .error .typeError

end Platform

end Python
