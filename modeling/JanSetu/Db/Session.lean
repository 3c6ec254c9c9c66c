/-!
# Time

`utc_now()` in microseconds since the epoch, the `timedelta`s added to it and
its date.  A step takes the value its `utc_now()` calls return from its label;
no order between the clocks of two steps is assumed.
-/

namespace JanSetu

abbrev Time := Int

def seconds (count : Nat) : Time :=
  count * 1000000

def minutes (count : Nat) : Time :=
  seconds (count * 60)

def hours (count : Nat) : Time :=
  minutes (count * 60)

def days (count : Nat) : Time :=
  hours (count * 24)

/-- A number in decimal, filled up with zeros on the left. -/
def padded (width number : Nat) : String :=
  let digits := toString number
  String.ofList (List.replicate (width - digits.length) '0') ++ digits

theorem isDigit_of_mem_padded {width number : Nat} {char : Char}
    (member : char ∈ (padded width number).toList) : char.isDigit = true := by
  unfold padded at member
  rw [String.toList_append, String.toList_ofList] at member
  rcases List.mem_append.mp member with zero | digit
  · rw [(List.mem_replicate.mp zero).2]
    decide
  · have digits : (toString number).toList = Nat.toDigits 10 number := by
      show (String.ofList (Nat.toDigits 10 number)).toList = _
      rw [String.toList_ofList]
    rw [digits] at digit
    exact Nat.isDigit_of_mem_toDigits (by decide) (by decide) digit

/-- A number is read back from its decimals, however many zeros precede it. -/
theorem padded_inj {width first second : Nat}
    (same : padded width first = padded width second) : first = second := by
  have value : ∀ number,
      Nat.ofDigitChars 10 (padded width number).toList 0 = number := by
    intro number
    unfold padded
    rw [String.toList_append, String.toList_ofList, Nat.ofDigitChars_append,
      Nat.ofDigitChars_replicate_zero, Nat.mul_zero]
    show Nat.ofDigitChars 10 (String.ofList (Nat.toDigits 10 number)).toList 0 =
      number
    rw [String.toList_ofList]
    exact Nat.ofDigitChars_toDigits (by decide) (by decide)
  rw [← value first, same, value second]

/-- `{now:%Y%m%d}` in the proleptic Gregorian calendar, for the years that have
four digits.  The count of days starts at a first of March, so that the leap
day is the last day of its year. -/
def yyyymmdd (now : Time) : String :=
  let day := now / days 1 + 719468
  let era := day / 146097
  let ofEra := (day % 146097).toNat
  let yearOfEra :=
    (ofEra - ofEra / 1460 + ofEra / 36524 - ofEra / 146096) / 365
  let ofYear := ofEra - (365 * yearOfEra + yearOfEra / 4 - yearOfEra / 100)
  let shifted := (5 * ofYear + 2) / 153
  let month := if shifted < 10 then shifted + 3 else shifted - 9
  let year := era * 400 + yearOfEra + (if month ≤ 2 then 1 else 0)
  padded 4 year.toNat ++ padded 2 month ++
    padded 2 (ofYear - (153 * shifted + 2) / 5 + 1)

example : yyyymmdd (days 20629) = "20260625" := by decide

end JanSetu
