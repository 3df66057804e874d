import Mathlib.Data.String.Basic
import Mathlib.Logic.Relation
import Mathlib.Order.Compare
import SheetQuery.Proofs.Cell.Tokens

/-!
# The algebra of tests

A cell is smaller than an operand, equal to it or greater: as numbers if both stand for numbers, as
normalised texts otherwise. The choice is the same for all comparators and does not hang on which of
the two comes first. Each comparator admits some of the three outcomes, so what relates the
comparators to each other can be read off three cases.

* `Cell.standing`, `Cell.compares_eq_admits`: a comparison asks for the outcome and nothing else;
* `Cell.standing_swap`: the outcome the other way round;
* `Test.complement?`: the test that says the contrary, where the operators have one;
* `Filter.Complements`: such a test put in place of a negated one, somewhere in a filter;
* `tests_obey_their_algebra`: the laws, and that these replacements keep what a filter evaluates to.
-/

namespace SheetQuery

/-! ## Outcomes -/

namespace Comparator

/-- Does the relation admit an outcome? -/
def admits : Comparator → Ordering → Bool
  | gt, outcome => outcome == .gt
  | ge, outcome => outcome != .lt
  | lt, outcome => outcome == .lt
  | le, outcome => outcome != .gt
  | eq, outcome => outcome == .eq
  | ne, outcome => outcome != .eq

/-- The relation that holds where another does not. -/
def complement : Comparator → Comparator
  | gt => le
  | ge => lt
  | lt => ge
  | le => gt
  | eq => ne
  | ne => eq

/-- The relation with its sides exchanged. -/
def converse : Comparator → Comparator
  | gt => lt
  | ge => le
  | lt => gt
  | le => ge
  | eq => eq
  | ne => ne

theorem admits_complement (comparator : Comparator) (outcome : Ordering) :
    comparator.complement.admits outcome = !comparator.admits outcome := by
  cases comparator <;> cases outcome <;> rfl

theorem admits_converse (comparator : Comparator) (outcome : Ordering) :
    comparator.converse.admits outcome.swap = comparator.admits outcome := by
  cases comparator <;> cases outcome <;> rfl

/-- Of any order that does not contradict itself, a relation asks for the outcome only. -/
theorem holds_eq_admits {α : Type} [Preorder α] [DecidableLT α] (comparator : Comparator) (a b : α) :
    comparator.holds a b = comparator.admits (cmp a b) := by
  have hasymm : a < b → ¬ b < a := fun hab hba => lt_asymm hab hba
  unfold cmp cmpUsing
  by_cases hab : a < b
  · have hba := hasymm hab
    cases comparator <;> simp [holds, admits, hab, hba]
  · by_cases hba : b < a
    · cases comparator <;> simp [holds, admits, hab, hba]
    · cases comparator <;> simp [holds, admits, hab, hba]

/-- Numbers compare by their values. -/
theorem holds_number (comparator : Comparator) (a b : Number) :
    comparator.holds a b = comparator.holds a.signed b.signed := by
  cases comparator <;> rfl

end Comparator

namespace Cell

/-- How a cell stands to an operand: by their numbers if they have them, by their keys otherwise. -/
def standing (cell operand : Cell) : Ordering :=
  match cell.number?, operand.number? with
  | some a, some b => cmp a.signed b.signed
  | _, _ => cmp cell.key operand.key

/-- A comparison asks how the cell stands to the operand, and nothing else. -/
theorem compares_eq_admits (comparator : Comparator) (cell operand : Cell) :
    cell.compares comparator operand = comparator.admits (cell.standing operand) := by
  rcases hcell : cell.number? with _ | a
  · rw [compares_of_no_number comparator (.inl hcell), comparator.holds_eq_admits, standing, hcell]
  · rcases hoperand : operand.number? with _ | b
    · rw [compares_of_no_number comparator (.inr hoperand), comparator.holds_eq_admits, standing,
        hcell, hoperand]
    · rw [compares, standing, hcell, hoperand]
      exact (comparator.holds_number a b).trans (comparator.holds_eq_admits a.signed b.signed)

/-- Whether numbers or keys decide is the same the other way round. -/
theorem standing_swap (cell operand : Cell) :
    (cell.standing operand).swap = operand.standing cell := by
  rw [standing, standing]
  rcases cell.number? with _ | a
  · rcases operand.number? with _ | b <;> exact cmp_swap _ _
  · rcases operand.number? with _ | b <;> exact cmp_swap _ _

/-- Of the three outcomes there is exactly one. -/
theorem existsUnique_compares (cell operand : Cell) :
    ∃! comparator, comparator ∈ [Comparator.lt, .eq, .gt] ∧
      cell.compares comparator operand = true := by
  have hthree : ∀ outcome : Ordering, ∃! comparator, comparator ∈ [Comparator.lt, .eq, .gt] ∧
      comparator.admits outcome = true := by
    intro outcome
    cases outcome
    · exact ⟨.lt, by decide, fun other => by cases other <;> decide⟩
    · exact ⟨.eq, by decide, fun other => by cases other <;> decide⟩
    · exact ⟨.gt, by decide, fun other => by cases other <;> decide⟩
  simpa only [compares_eq_admits] using hthree (cell.standing operand)

/-- A cell includes a list of needles, none of them a list itself, if there are any and it includes
each. -/
theorem includes_list {cell : Cell} {needles : List Cell} (hne : needles ≠ [])
    (hsingle : ∀ needle ∈ needles, ∀ items, needle ≠ list items) :
    cell.includes (list needles) = needles.all fun needle => cell.includes needle := by
  have heach : ∀ needle ∈ needles,
      cell.includes needle = tokensContain cell.tokens needle.key := by
    intro needle hneedle
    cases needle with
    | list items => exact absurd rfl (hsingle _ hneedle items)
    | _ => rfl
  have hempty : needles.isEmpty = false := List.isEmpty_eq_false_iff.mpr hne
  rw [includes, hempty, Bool.not_false, Bool.true_and, Bool.eq_iff_iff, List.all_eq_true,
    List.all_eq_true]
  constructor
  · intro h needle hneedle
    rw [heach needle hneedle]
    exact h needle hneedle
  · intro h needle hneedle
    rw [← heach needle hneedle]
    exact h needle hneedle

end Cell

/-! ## Tests that say the contrary -/

namespace Test

/-- The test that holds where another does not, if the operators have one. -/
def complement? : Test → Option Test
  | compare comparator operand => some (compare comparator.complement operand)
  | member negated values => some (member (!negated) values)
  | presence negated => some (presence (!negated))
  | search _ _ => none
  | between _ _ => none

theorem holds_complement (test : Test) {other : Test} (h : test.complement? = some other)
    (cell : Cell) :
    other.holds cell = !test.holds cell := by
  cases test with
  | compare comparator operand =>
    obtain rfl := Option.some.inj h
    simp only [holds, Cell.compares_eq_admits, comparator.admits_complement]
  | member negated values =>
    obtain rfl := Option.some.inj h
    cases negated <;> simp [holds]
  | presence negated =>
    obtain rfl := Option.some.inj h
    cases negated <;> simp [holds]
  | search manner needle => cases h
  | between low high => cases h

theorem fault?_complement {test other : Test} (h : test.complement? = some other) (cell : Cell) :
    other.fault? cell = test.fault? cell := by
  cases test with
  | search manner needle => cases h
  | between low high => cases h
  | _ =>
    obtain rfl := Option.some.inj h
    rfl

end Test

/-! ## Filters -/

namespace Filter

/-- Is one filter the other with a negated leaf, in one place of the tree, replaced by the leaf that
says the contrary? -/
inductive Complements : Filter → Filter → Prop
  | leaf (column : String) {test other : Test} (h : test.complement? = some other) :
      Complements (.neg (.leaf ⟨column, test⟩)) (.leaf ⟨column, other⟩)
  | conj (before after : List Filter) {child other : Filter} (h : Complements child other) :
      Complements (.conj (before ++ child :: after)) (.conj (before ++ other :: after))
  | disj (before after : List Filter) {child other : Filter} (h : Complements child other) :
      Complements (.disj (before ++ child :: after)) (.disj (before ++ other :: after))
  | neg {child other : Filter} (h : Complements child other) :
      Complements (.neg child) (.neg other)

/-- Are two filters evaluated alike on a row, the fault they meet included? -/
structure AgreeOn (row : Row) (filter other : Filter) : Prop where
  holds_eq : filter.holds row = other.holds row
  fault?_eq : filter.fault? row = other.fault? row

variable {row : Row} {filter other : Filter}

/-- One child may be exchanged for another that is evaluated alike. -/
theorem AgreeOn.exchange (h : AgreeOn row filter other) (before after : List Filter) :
    allHold row (before ++ filter :: after) = allHold row (before ++ other :: after) ∧
      anyHolds row (before ++ filter :: after) = anyHolds row (before ++ other :: after) ∧
      ∀ going, faultWhile going row (before ++ filter :: after) =
        faultWhile going row (before ++ other :: after) := by
  -- the children before the exchanged one are evaluated as they were
  induction before with
  | nil => simp only [List.nil_append, allHold, anyHolds, faultWhile, h.holds_eq, h.fault?_eq,
      implies_true, and_self]
  | cons first before ih =>
    obtain ⟨hall, hany, hfault⟩ := ih
    simp only [List.cons_append, allHold, anyHolds, faultWhile, hall, hany, hfault, implies_true,
      and_self]

/-- A replacement changes nothing on any row. The induction follows the path down to the leaf. -/
theorem Complements.agreeOn (h : Complements filter other) (row : Row) :
    AgreeOn row filter other := by
  induction h with
  | leaf column h =>
    constructor
    · simp only [holds, Test.holds_complement _ h]
    · simp only [fault?, Test.fault?_complement h]
  | conj before after _ ih =>
    obtain ⟨hall, -, hfault⟩ := ih.exchange before after
    constructor
    · simp only [holds, hall]
    · simp only [fault?, hfault]
  | disj before after _ ih =>
    obtain ⟨-, hany, hfault⟩ := ih.exchange before after
    constructor
    · simp only [holds, hany]
    · simp only [fault?, hfault]
  | neg _ ih =>
    constructor
    · simp only [holds, ih.holds_eq]
    · simp only [fault?, ih.fault?_eq]

theorem apply_congr {rows : List Row} (h : ∀ row, AgreeOn row filter other) :
    filter.apply rows = other.apply rows := by
  have hholds : (fun row => filter.holds row) = fun row => other.holds row := by
    funext row
    exact (h row).holds_eq
  have hfault : (fun row => filter.fault? row) = fun row => other.fault? row := by
    funext row
    exact (h row).fault?_eq
  rw [apply, apply, hholds, hfault]

/-- Any number of replacements, in either direction, keeps what a filter evaluates to. -/
theorem apply_eq_of_eqvGen (h : Relation.EqvGen Complements filter other) (rows : List Row) :
    filter.apply rows = other.apply rows := by
  induction h with
  | rel filter other h => exact apply_congr h.agreeOn
  | refl filter => rfl
  | symm filter other _ ih => exact ih.symm
  | trans filter middle other _ _ ihfirst ihsecond => exact ihfirst.trans ihsecond

end Filter

/-- The laws of the tests, on every cell and operand: of "less", "equal" and "greater" exactly one
holds, and the other comparators are what their names say; a comparison may be read from either side;
a negated operator is the contrary of its counterpart; a list of needles asks for each of them. Hence
a negated comparison, membership or presence may be replaced by the leaf that says the contrary, in
any places of any filter. -/
theorem tests_obey_their_algebra (cell operand : Cell) :
    (∃! comparator, comparator ∈ [Comparator.lt, .eq, .gt] ∧
      (Test.compare comparator operand).holds cell = true) ∧
    (Test.compare .le operand).holds cell =
      ((Test.compare .lt operand).holds cell || (Test.compare .eq operand).holds cell) ∧
    (Test.compare .ge operand).holds cell =
      ((Test.compare .gt operand).holds cell || (Test.compare .eq operand).holds cell) ∧
    (Test.compare .ne operand).holds cell = !(Test.compare .eq operand).holds cell ∧
    (∀ comparator : Comparator, (Test.compare comparator operand).holds cell =
      (Test.compare comparator.converse cell).holds operand) ∧
    (∀ values, (Test.member true values).holds cell = !(Test.member false values).holds cell) ∧
    (Test.presence true).holds cell = !(Test.presence false).holds cell ∧
    (∀ needles ≠ [], (∀ needle ∈ needles, ∀ items, needle ≠ .list items) →
      (Test.search .includes (.list needles)).holds cell =
        needles.all fun needle => (Test.search .includes needle).holds cell) ∧
    ∀ filter other, Relation.EqvGen Filter.Complements filter other →
      ∀ rows, filter.apply rows = other.apply rows := by
  have hadmits : ∀ comparator, (Test.compare comparator operand).holds cell =
      comparator.admits (cell.standing operand) :=
    fun comparator => cell.compares_eq_admits comparator operand
  refine ⟨cell.existsUnique_compares operand, ?_, ?_, ?_, ?_, ?_, ?_, ?_, ?_⟩
  · simp only [hadmits]
    cases cell.standing operand <;> rfl
  · simp only [hadmits]
    cases cell.standing operand <;> rfl
  · exact (Test.compare .eq operand).holds_complement rfl cell
  · intro comparator
    rw [hadmits, Test.holds, Cell.compares_eq_admits, ← Cell.standing_swap cell operand,
      comparator.admits_converse]
  · intro values
    exact (Test.member false values).holds_complement rfl cell
  · exact (Test.presence false).holds_complement rfl cell
  · intro needles hne hsingle
    exact Cell.includes_list hne hsingle
  · intro filter other h rows
    exact Filter.apply_eq_of_eqvGen h rows

/-- Three tasks, one without a duration. -/
def timedTasks : List Row :=
  [[("Task", .text "T1"), ("Duration", .int 5)], [("Task", .text "T2"), ("Duration", .null)],
    [("Task", .text "T3"), ("Duration", .text " 7.0 ")]]

/-- Not shorter than three, and not the third task. -/
def longButNotThird : Filter :=
  .conj [.neg (.leaf ⟨"Duration", .compare .lt (.int 3)⟩),
    .neg (.disj [.neg (.leaf ⟨"Task", .member true [.text "t3"]⟩)])]

/-- The same without a negated leaf. -/
def atLeastThreeButNotThird : Filter :=
  .conj [.leaf ⟨"Duration", .compare .ge (.int 3)⟩,
    .neg (.disj [.leaf ⟨"Task", .member false [.text "t3"]⟩])]

/-- Both filters keep the first task. -/
theorem negated_leaves_are_replaced :
    Relation.EqvGen Filter.Complements longButNotThird atLeastThreeButNotThird ∧
      longButNotThird.apply timedTasks = atLeastThreeButNotThird.apply timedTasks ∧
      (atLeastThreeButNotThird.apply timedTasks).toOption.map List.length = some 1 ∧
      (Test.search .includes (.list [.text "py", .int 2])).holds (.text "Python; v2") = true := by
  have hduration : Filter.Complements longButNotThird
      (.conj [.leaf ⟨"Duration", .compare .ge (.int 3)⟩,
        .neg (.disj [.neg (.leaf ⟨"Task", .member true [.text "t3"]⟩)])]) :=
    .conj [] _ (.leaf "Duration" rfl)
  have htask : Filter.Complements
      (.conj [.leaf ⟨"Duration", .compare .ge (.int 3)⟩,
        .neg (.disj [.neg (.leaf ⟨"Task", .member true [.text "t3"]⟩)])]) atLeastThreeButNotThird :=
    .conj [_] [] (.neg (.disj [] [] (.leaf "Task" rfl)))
  have hboth : Relation.EqvGen Filter.Complements longButNotThird atLeastThreeButNotThird :=
    .trans _ _ _ (.rel _ _ hduration) (.rel _ _ htask)
  obtain ⟨-, -, -, -, -, -, -, hincludes, hreplaced⟩ :=
    tests_obey_their_algebra (.text "Python; v2") (.int 3)
  refine ⟨hboth, hreplaced _ _ hboth timedTasks, by decide +kernel, ?_⟩
  rw [hincludes [.text "py", .int 2] (by simp) (by simp)]
  decide +kernel

end SheetQuery
