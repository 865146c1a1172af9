import FeatureFlags.Proofs.Number.PlainText
import FeatureFlags.Proofs.Table
import FeatureFlags.Proofs.Targeting.Agreement

namespace FeatureFlags

/-!
# Numbers in filters

Filters compare numbers in double precision. For integers the comparison never claims an
order that is not there, and misses none up to `2 ^ 53`: `run_comparedIntegers`. A number
and its plain text are one and the same to every filter: `run_numberAsText`.
-/

open FeatureFlags.Number (Binary64)

/-! ## Numbers and their texts -/

namespace Value

/-- The values that are numbers. -/
inductive IsNumber : Value → Prop where
  | integer
      (n : Int64) :
      IsNumber (.integer n)
  | float
      (number : Binary64) :
      IsNumber (.float number)

/-- An integer of 64 bits fits a word. -/
theorem natAbs_toInt_lt (n : Int64) : n.toInt.natAbs < 2 ^ 64 := by
  have low := n.le_toInt
  have high := n.toInt_lt
  omega

/-- The plain text of an integer is read as the integer is converted. -/
theorem ofText?_toText_integer (n : Int64) :
    Binary64.ofText? (Value.integer n).toText = some (.ofInt n.toInt) :=
  Binary64.ofText?_repr (natAbs_toInt_lt n)

theorem toNumber?_text_toText
    {value : Value}
    (isNumber : value.IsNumber) :
    (Value.text value.toText).toNumber? = value.toNumber? := by
  cases isNumber with
  | integer n => exact ofText?_toText_integer n
  | float number => exact Binary64.ofText?_toText number

/-- A number looks like its plain text. -/
theorem looksLike_text_toText
    {value : Value}
    (isNumber : value.IsNumber) :
    (Value.text value.toText).LooksLike value where
  toText_eq := rfl
  toNumber?_eq := toNumber?_text_toText isNumber
  toBool?_eq := by cases isNumber <;> rfl
  toMillis?_eq := by cases isNumber <;> rfl

end Value

namespace Targeting

/--
The plain text of a number stands for the same number, and a filter gives the same truth
value and reports the same issues whether a field holds the number or its plain text.
-/
theorem run_numberAsText
    {value : Value}
    (isNumber : value.IsNumber) :
    (∃ number,
        value.toNumber? = some number ∧ (Value.text value.toText).toNumber? = some number) ∧
      ∀ (filter : Filter) (name : String) (fields : Fields) (now : Time.Instant)
          (issues : List Issue),
        (Condition.ofFilter filter).run (fields.insert name (.text value.toText)) now issues =
          (Condition.ofFilter filter).run (fields.insert name value) now issues := by
  constructor
  · rw [Value.toNumber?_text_toText isNumber]
    cases isNumber with
    | integer n => exact ⟨_, rfl, rfl⟩
    | float number => exact ⟨_, rfl, rfl⟩
  · exact run_insert_congr (Value.looksLike_text_toText isNumber)

/--
The tenth power of a half is written without an exponent. As a number and as that text, it
is above `9e-4`, and three zeros in a row are found in it.
-/
theorem run_numberAsText_small :
    let small : Value := .float (.finite false (2 ^ 52) (-62) (by decide))
    let filter : Filter :=
      .group .conjunction
        [.context ⟨"score", .greaterThan, ["9e-4"]⟩, .context ⟨"score", .contains, ["000"]⟩]
    let run (score : Value) : Outcome :=
      (Condition.ofFilter filter).run (Table.empty.insert "score" score) ⟨0, 0⟩ []
    small.IsNumber ∧
      small.toText = "0.0009765625" ∧
      run small = (true, []) ∧
      run (.text small.toText) = (true, []) := by
  intro small filter run
  have isNumber : small.IsNumber := .float _
  have asNumber : run small = (true, []) := by decide +kernel
  have same : run (.text small.toText) = run small :=
    (run_numberAsText isNumber).2 filter "score" .empty ⟨0, 0⟩ []
  exact ⟨isNumber, by decide +kernel, asNumber, same.trans asNumber⟩

/-! ## Integers -/

/-- A number is compared with the number that the only comparison value spells. -/
theorem reads_comparedNumber
    {fields : Fields}
    {name text : String}
    {value : Value}
    {number bound : Binary64}
    (isPresent : fields.get? name = some value)
    (isNumber : value.toNumber? = some number)
    (spelled : Binary64.ofText? text = some bound)
    (now : Time.Instant) :
    Reads fields now (.context ⟨name, .greaterThan, [text]⟩) (bound.lt number) [] ∧
      Reads fields now (.context ⟨name, .lessThan, [text]⟩) (number.lt bound) [] := by
  have compared (test : Binary64 → Binary64 → Bool) :
      compareNumber? test value [text] = some (test number bound) := by
    simp [compareNumber?, firstText, isNumber, spelled]
  constructor
  · exact .compared ⟨text, bound, rfl, spelled⟩ isPresent (compared _)
  · exact .compared ⟨text, bound, rfl, spelled⟩ isPresent (compared _)

/-- What it means for an integer and a bound that a comparison says greater or less. -/
structure OrdersIntegers
    (n bound : Int64)
    (greater less : Bool) :
    Prop where
  /-- What is said to be greater is greater. -/
  greater_sound : greater = true → bound < n
  /-- What is said to be less is less. -/
  less_sound : less = true → n < bound
  /-- Up to `2 ^ 53` on both sides nothing goes unsaid. -/
  exact :
    n.toInt.natAbs ≤ 2 ^ 53 →
      bound.toInt.natAbs ≤ 2 ^ 53 →
      (greater = true ↔ bound < n) ∧ (less = true ↔ n < bound)

theorem ordersIntegers (n bound : Int64) :
    OrdersIntegers n bound (Binary64.lt (.ofInt bound.toInt) (.ofInt n.toInt))
      (Binary64.lt (.ofInt n.toInt) (.ofInt bound.toInt)) where
  greater_sound := by
    rw [Int64.lt_iff_toInt_lt]
    exact Binary64.lt_of_ofInt_lt (Value.natAbs_toInt_lt bound) (Value.natAbs_toInt_lt n)
  less_sound := by
    rw [Int64.lt_iff_toInt_lt]
    exact Binary64.lt_of_ofInt_lt (Value.natAbs_toInt_lt n) (Value.natAbs_toInt_lt bound)
  exact := by
    intro small boundSmall
    rw [Int64.lt_iff_toInt_lt, Int64.lt_iff_toInt_lt]
    exact ⟨Binary64.ofInt_lt_iff boundSmall small, Binary64.ofInt_lt_iff small boundSmall⟩

/--
An integer is compared with the text of an integer without an issue. If it is said to be
greater or less, it is, and up to `2 ^ 53` the converse holds.
-/
theorem run_comparedIntegers
    (n bound : Int64)
    {name : String}
    {fields : Fields}
    (isPresent : fields.get? name = some (.integer n))
    (now : Time.Instant)
    (issues : List Issue) :
    let run (operator : FieldOperator) : Outcome :=
      (Condition.ofFilter (.context ⟨name, operator, [(Value.integer bound).toText]⟩)).run fields now
        issues
    ∃ greater less,
      run .greaterThan = (greater, issues) ∧
        run .lessThan = (less, issues) ∧
        OrdersIntegers n bound greater less := by
  intro run
  obtain ⟨greaterReads, lessReads⟩ :=
    reads_comparedNumber isPresent rfl (Value.ofText?_toText_integer bound) now
  exact
    ⟨_, _, greaterReads.run_silent issues, lessReads.run_silent issues, ordersIntegers n bound⟩

/--
At `2 ^ 53` an integer is still told from the one before it. The one after it is not, so
that neither is said to be greater.
-/
theorem run_comparedIntegers_atLimit :
    let last : Int64 := 9007199254740992
    let run (n : Int64) (operator : FieldOperator) (bound : Int64) : Outcome :=
      (Condition.ofFilter (.context ⟨"visits", operator, [(Value.integer bound).toText]⟩)).run
        (Table.empty.insert "visits" (.integer n)) ⟨0, 0⟩ []
    last.toInt = 2 ^ 53 ∧
      run last .greaterThan (last - 1) = (true, []) ∧
      run last .lessThan (last - 1) = (false, []) ∧
      run (last + 1) .greaterThan last = (false, []) ∧
      run (last + 1) .lessThan last = (false, []) := by
  intro last run
  have isPresent :
      (Table.empty.insert "visits" (Value.integer last)).get? "visits" = some (.integer last) :=
    Table.get?_insert_self _ _ _
  obtain ⟨greater, less, runsGreater, runsLess, orders⟩ :=
    run_comparedIntegers last (last - 1) isPresent ⟨0, 0⟩ []
  obtain ⟨isGreater, isLess⟩ := orders.exact (by decide) (by decide)
  have greaterHolds : greater = true := isGreater.mpr (by decide)
  have lessFails : less = false := by
    rw [Bool.eq_false_iff, Ne, isLess]
    decide
  subst greaterHolds lessFails
  exact ⟨by decide, runsGreater, runsLess, by decide +kernel, by decide +kernel⟩

end Targeting

end FeatureFlags
