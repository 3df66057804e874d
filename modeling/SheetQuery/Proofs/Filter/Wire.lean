import Mathlib.Data.List.Forall2
import SheetQuery.Filter.Wire

/-!
# Laws of the wire form of filters

* `decode_induction`: what holds of every filter that is read, from what holds of its children;
* `field_ne_empty_of_decode`: the leaves of a filter that is read name their columns;
* `decode_encode`, `Envelope.decode_encode`: a filter whose leaves name their columns, and an
  envelope with such a filter, are read back from their records.
-/

namespace SheetQuery

namespace Checked

@[simp] theorem under_eq_ok_iff {α : Type} {step : Step} {part : Checked α} {value : α} :
    part.under step = .ok value ↔ part = .ok value := by
  cases part <;> simp [under]

@[simp] theorem both_eq_ok_iff {α β : Type} {left : Checked α} {right : Checked β} {a : α} {b : β} :
    left.both right = .ok (a, b) ↔ left = .ok a ∧ right = .ok b := by
  cases left <;> cases right <;> simp [both]

end Checked

namespace Leaf

theorem checkField_eq_ok_iff {whole : Cell} {found : Option Cell} {name : String} :
    checkField whole found = .ok name ↔ found = some (.text name) ∧ name ≠ "" := by
  unfold checkField
  split
  · next s =>
    split
    · next hs =>
      rw [beq_iff_eq] at hs
      subst hs
      constructor
      · intro h
        cases h
      · rintro ⟨h, hne⟩
        cases h
        exact absurd rfl hne
    · next hs =>
      constructor
      · intro h
        cases h
        exact ⟨rfl, by simpa using hs⟩
      · rintro ⟨h, -⟩
        cases h
        rfl
  · next other hother =>
    constructor
    · intro h
      cases h
    · rintro ⟨h, -⟩
      exact absurd (Option.some.inj h) (hother name)
  · constructor
    · intro h
      cases h
    · rintro ⟨h, -⟩
      cases h

/-- A leaf that is read has a column name, and the test that its entries describe. -/
theorem check_eq_ok_iff {whole : Cell} {entries : Entries} {op : Operator} {leaf : Leaf} :
    check whole entries op = .ok leaf ↔
      Entries.get? entries "field" = some (.text leaf.field) ∧ leaf.field ≠ "" ∧
        checkTest entries op = .ok leaf.test := by
  have hname : checkField whole (Entries.get? entries "field") = .ok leaf.field ↔ _ :=
    checkField_eq_ok_iff
  rw [← and_assoc, ← hname]
  unfold check
  dsimp only
  constructor
  · intro h
    split at h
    · next field test hboth =>
      rw [← Except.ok.inj h]
      simpa using hboth
    · cases h
  · rintro ⟨hname, htest⟩
    simp [Checked.both_eq_ok_iff.mpr ⟨Checked.under_eq_ok_iff.mpr hname, htest⟩]

end Leaf

namespace Filter

/-! ## Reading -/

theorem within_eq_ok_iff {α : Type} {op : Operator} {make : α → Filter} {part : Checked α}
    {filter : Filter} : within op make part = .ok filter ↔ ∃ value, part = .ok value ∧
      make value = filter := by
  cases part <;> simp [within, Checked.under]

theorem childrenOf_eq (entries : Entries) : childrenOf entries =
    match Entries.get? entries "children" with
    | none => .absent
    | some cell => childrenIn cell := by
  induction entries with
  | nil => rfl
  | cons entry rest ih =>
    obtain ⟨name, cell⟩ := entry
    rw [childrenOf, Entries.get?, List.lookup_cons]
    by_cases hname : name = "children"
    · simp [hname]
    · rw [if_neg (by simpa using hname), beq_eq_false_iff_ne.mpr (Ne.symm hname)]
      exact ih

/-- Children are those of the entry `children`; without such an entry there are none. -/
theorem many_eq_ok_iff {entries : Entries} {children : List Filter} :
    (childrenOf entries).many = .ok children ↔
      (Entries.get? entries "children" = none ∧ children = []) ∨
        ∃ items, Entries.get? entries "children" = some (.list items) ∧
          decodeAll 0 items = .ok children := by
  rw [childrenOf_eq]
  cases Entries.get? entries "children" with
  | none => simp [Children.many, eq_comm]
  | some cell => cases cell <;> simp [childrenIn, Children.many, Checked.fail]

/-- The children of a list are read one by one. -/
theorem decodeAll_cons_eq_ok_iff {item : Cell} {items : List Cell} {index : Nat}
    {children : List Filter} : decodeAll index (item :: items) = .ok children ↔
      ∃ child rest, children = child :: rest ∧ decode item = .ok child ∧
        decodeAll (index + 1) items = .ok rest := by
  rw [decodeAll]
  constructor
  · intro h
    split at h
    · next child rest hboth =>
      rw [Checked.both_eq_ok_iff, Checked.under_eq_ok_iff] at hboth
      exact ⟨child, rest, (Except.ok.inj h).symm, hboth⟩
    · cases h
  · rintro ⟨child, rest, rfl, hchild, hrest⟩
    rw [Checked.both_eq_ok_iff.mpr ⟨Checked.under_eq_ok_iff.mpr hchild, hrest⟩]

theorem one_eq_ok_iff {entries : Entries} {whole : Cell} {child : Filter} :
    (childrenOf entries).one whole = .ok child ↔
      ∃ item, Entries.get? entries "children" = some (.list [item]) ∧
        decode item = .ok child := by
  rw [childrenOf_eq]
  cases Entries.get? entries "children" with
  | none => simp [Children.one, Checked.fail]
  | some cell =>
    cases cell with
    | list items =>
      simp only [childrenIn, Children.one, Option.some.injEq, Cell.list.injEq]
      constructor
      · intro h
        split at h
        · next filters hfilters =>
          -- each item gives one filter, so a single child comes from a single item
          match filters with
          | [only] =>
            rw [single, Except.ok.injEq] at h
            subst h
            match items with
            | [] => cases hfilters
            | item :: items =>
              obtain ⟨first, rest, heq, hfirst, hrest⟩ := decodeAll_cons_eq_ok_iff.mp hfilters
              cases heq
              match items with
              | [] => exact ⟨item, rfl, hfirst⟩
              | next :: items =>
                obtain ⟨_, _, heq, -⟩ := decodeAll_cons_eq_ok_iff.mp hrest
                cases heq
          | [] => cases h
          | _ :: _ :: _ => cases h
        · cases h
      · rintro ⟨item, rfl, hitem⟩
        have hall : decodeAll 0 [item] = .ok [child] :=
          decodeAll_cons_eq_ok_iff.mpr ⟨child, [], rfl, hitem, rfl⟩
        rw [hall]
        rfl
    | _ => simp [childrenIn, Children.one, Checked.fail]

/-- What is read from a record: a composition of what is read from its children, or a leaf. -/
theorem decode_record_cases {entries : Entries} {filter : Filter}
    (h : decode (.record entries) = .ok filter) :
    (∃ children, (childrenOf entries).many = .ok children ∧
        (filter = conj children ∨ filter = disj children)) ∨
      (∃ child, (childrenOf entries).one (.record entries) = .ok child ∧ filter = neg child) ∨
      ∃ op l, Leaf.check (.record entries) entries op = .ok l ∧ filter = leaf l := by
  rw [decode] at h
  split at h
  · cases h
  · obtain ⟨children, hchildren, rfl⟩ := within_eq_ok_iff.mp h
    exact .inl ⟨children, hchildren, .inl rfl⟩
  · obtain ⟨children, hchildren, rfl⟩ := within_eq_ok_iff.mp h
    exact .inl ⟨children, hchildren, .inr rfl⟩
  · obtain ⟨child, hchild, rfl⟩ := within_eq_ok_iff.mp h
    exact .inr (.inl ⟨child, hchild, rfl⟩)
  · split at h
    · next l hl =>
      exact .inr (.inr ⟨_, l, Checked.under_eq_ok_iff.mp hl, (Except.ok.inj h).symm⟩)
    · cases h

theorem sizeOf_lt_of_get? {entries : Entries} {name : String} {cell : Cell}
    (h : Entries.get? entries name = some cell) : sizeOf cell < sizeOf entries := by
  induction entries with
  | nil => cases h
  | cons entry rest ih =>
    obtain ⟨other, first⟩ := entry
    rw [Entries.get?, List.lookup_cons] at h
    split at h
    · rw [← Option.some.inj h]
      simp
      omega
    · have := ih h
      simp
      omega

section Induction

variable {motive : Cell → Filter → Prop}

/-- Do the children come from the entry `children`, each in the given relation to its cell? -/
def ChildrenFrom (motive : Cell → Filter → Prop) (entries : Entries) (children : List Filter) :
    Prop :=
  (Entries.get? entries "children" = none ∧ children = []) ∨
    ∃ items, Entries.get? entries "children" = some (.list items) ∧
      List.Forall₂ motive items children

mutual

/-- What is read from a record stands in every relation to it that passes from children to
compositions of them, and that leaves stand in. -/
theorem decode_induction
    (many : ∀ entries children, ChildrenFrom motive entries children →
      motive (.record entries) (conj children) ∧ motive (.record entries) (disj children))
    (one : ∀ entries item child, Entries.get? entries "children" = some (.list [item]) →
      motive item child → motive (.record entries) (neg child))
    (tested : ∀ entries op l, Leaf.check (.record entries) entries op = .ok l →
      motive (.record entries) (leaf l)) {cell : Cell} {filter : Filter}
    (h : decode cell = .ok filter) : motive cell filter := by
  match cell with
  | .record entries =>
    rcases decode_record_cases h with ⟨children, hchildren, hfilter⟩ | ⟨child, hchild, rfl⟩ |
      ⟨op, l, hl, rfl⟩
    · have hfrom : ChildrenFrom motive entries children := by
        rcases many_eq_ok_iff.mp hchildren with habsent | ⟨items, hitems, hall⟩
        · exact .inl habsent
        · -- the items are smaller than the record they stand in: the recursion ends by this
          have := sizeOf_lt_of_get? hitems
          exact .inr ⟨items, hitems, forall₂_of_decodeAll many one tested hall⟩
      rcases hfilter with rfl | rfl
      · exact (many entries children hfrom).1
      · exact (many entries children hfrom).2
    · obtain ⟨item, hitem, hdecode⟩ := one_eq_ok_iff.mp hchild
      have := sizeOf_lt_of_get? hitem
      exact one entries item child hitem (decode_induction many one tested hdecode)
    · exact tested entries op l hl
  | .null | .bool _ | .int _ | .float _ | .text _ | .list _ => cases h
termination_by sizeOf cell
decreasing_by all_goals simp_all; omega

theorem forall₂_of_decodeAll
    (many : ∀ entries children, ChildrenFrom motive entries children →
      motive (.record entries) (conj children) ∧ motive (.record entries) (disj children))
    (one : ∀ entries item child, Entries.get? entries "children" = some (.list [item]) →
      motive item child → motive (.record entries) (neg child))
    (tested : ∀ entries op l, Leaf.check (.record entries) entries op = .ok l →
      motive (.record entries) (leaf l)) {items : List Cell} {index : Nat}
    {children : List Filter} (h : decodeAll index items = .ok children) :
    List.Forall₂ motive items children := by
  match items with
  | [] =>
    cases h
    exact .nil
  | item :: items =>
    obtain ⟨child, rest, rfl, hchild, hrest⟩ := decodeAll_cons_eq_ok_iff.mp h
    exact .cons (decode_induction many one tested hchild)
      (forall₂_of_decodeAll many one tested hrest)
termination_by sizeOf items

end

end Induction

/-- The leaves of a filter that is read name their columns. -/
theorem field_ne_empty_of_decode {cell : Cell} {filter : Filter} (h : decode cell = .ok filter) :
    ∀ leaf ∈ filter.leaves, leaf.field ≠ "" := by
  have hall : ∀ {items : List Cell} {children : List Filter},
      List.Forall₂ (fun _ child => ∀ leaf ∈ child.leaves, leaf.field ≠ "") items children →
      ∀ leaf ∈ leavesAll children, leaf.field ≠ "" := by
    intro items children h
    induction h with
    | nil => simp [leavesAll]
    | cons hchild _ ih =>
      intro leaf hleaf
      rw [leavesAll, List.mem_append] at hleaf
      exact hleaf.elim (hchild leaf) (ih leaf)
  refine decode_induction (motive := fun _ filter => ∀ leaf ∈ filter.leaves, leaf.field ≠ "")
    ?_ ?_ ?_ h
  · rintro entries children (⟨-, rfl⟩ | ⟨items, -, hitems⟩)
    · simp [leaves, leavesAll]
    · exact ⟨hall hitems, hall hitems⟩
  · intro entries item child _ hchild
    rwa [leaves]
  · intro entries op l hl leaf hleaf
    rw [List.mem_singleton.mp hleaf]
    exact (Leaf.check_eq_ok_iff.mp hl).2.1

end Filter

/-! ## Reading back -/

namespace Test

/-- The operator of a test. -/
def operator : Test → Operator
  | compare .. => .compare
  | search manner _ => .search manner
  | member negated _ => .member negated
  | presence negated => .presence negated
  | between .. => .between

theorem name_operator (test : Test) : test.operator.name = test.op := by
  cases test with
  | member negated values => cases negated <;> rfl
  | presence negated => cases negated <;> rfl
  | _ => rfl

end Test

namespace Leaf

/-- An operand has an entry, unless it is null. -/
theorem operand_cases (name : String) (cell : Cell) :
    (cell = .null ∧ Test.operand name cell = []) ∨ Test.operand name cell = [(name, cell)] := by
  cases cell with
  | null => exact .inl ⟨rfl, rfl⟩
  | _ => exact .inr rfl

theorem checkComparator_symbol (comparator : Comparator) :
    checkComparator (some (.text comparator.symbol)) = .ok comparator := by
  cases comparator <;> rfl

/-- The test of a leaf is read back from the record of the leaf. -/
theorem checkTest_encode (field : String) (test : Test) :
    checkTest (("field", .text field) :: ("op", .text test.op) :: test.operands) test.operator =
      .ok test := by
  cases test with
  | compare comparator operand =>
    rw [Test.operands, Test.operator, checkTest]
    have hfound : Entries.get? (("field", .text field) :: ("op", .text "cmp") ::
      ("cmp", .text comparator.symbol) :: Test.operand "value" operand) "cmp" =
        some (.text comparator.symbol) := rfl
    simp only [Test.op, hfound, checkComparator_symbol, Checked.under]
    -- a null operand is left out of the record, and an absent entry is read as null
    rcases operand_cases "value" operand with ⟨rfl, hvalue⟩ | hvalue <;> rw [hvalue] <;> rfl
  | search manner needle =>
    rw [Test.operands, Test.operator, checkTest]
    rcases operand_cases "value" needle with ⟨rfl, hvalue⟩ | hvalue <;> rw [hvalue] <;> rfl
  | member negated values => rfl
  | presence negated => rfl
  | between low high =>
    rw [Test.operands, Test.operator, checkTest]
    rcases operand_cases "from" low with ⟨rfl, hlow⟩ | hlow <;>
      rcases operand_cases "to" high with ⟨rfl, hhigh⟩ | hhigh <;> rw [hlow, hhigh] <;> rfl

end Leaf

namespace Filter

theorem check_of_op {whole : Cell} {entries : Entries} (op : Operator)
    (h : Entries.get? entries "op" = some (.text op.name)) :
    Operator.check whole entries = .ok op := by
  have hname : Operator.ofName? op.name = some op := by
    rcases op with _ | _ | _ | _ | manner | negated | negated | _
    all_goals try cases manner
    all_goals try cases negated
    all_goals decide
  simp only [Operator.check, h, hname]

/-- A record with the operator of a test is read as a leaf. -/
theorem decode_record_leaf {entries : Entries} (test : Test) {l : Leaf}
    (hop : Operator.check (.record entries) entries = .ok test.operator)
    (hl : Leaf.check (.record entries) entries test.operator = .ok l) :
    decode (.record entries) = .ok (leaf l) := by
  cases test with
  | compare comparator operand | search manner needle | member negated values | presence negated
  | between low high =>
    rw [Test.operator] at hop hl
    rw [decode]
    simp only [hop, hl, Checked.under]

/-- A leaf is read back if it names its column. -/
theorem decode_encode_leaf {l : Leaf} (h : l.field ≠ "") : decode l.encode = .ok (leaf l) := by
  apply decode_record_leaf l.test
  · apply check_of_op l.test.operator
    rw [Test.name_operator]
    rfl
  · exact Leaf.check_eq_ok_iff.mpr ⟨rfl, h, Leaf.checkTest_encode l.field l.test⟩

mutual

/-- A filter whose leaves name their columns is read back from its record. -/
theorem decode_encode : ∀ {filter : Filter}, (∀ leaf ∈ filter.leaves, leaf.field ≠ "") →
    decode filter.encode = .ok filter
  | leaf l, h => decode_encode_leaf (h l List.mem_cons_self)
  | conj children, h => by
    rw [encode, decode, check_of_op .conj rfl]
    exact within_eq_ok_iff.mpr
      ⟨children, many_eq_ok_iff.mpr (.inr ⟨_, rfl, decodeAll_encodeAll h 0⟩), rfl⟩
  | disj children, h => by
    rw [encode, decode, check_of_op .disj rfl]
    exact within_eq_ok_iff.mpr
      ⟨children, many_eq_ok_iff.mpr (.inr ⟨_, rfl, decodeAll_encodeAll h 0⟩), rfl⟩
  | neg child, h => by
    rw [encode, decode, check_of_op .neg rfl]
    exact within_eq_ok_iff.mpr ⟨child, one_eq_ok_iff.mpr ⟨_, rfl, decode_encode h⟩, rfl⟩

theorem decodeAll_encodeAll : ∀ {children : List Filter},
    (∀ leaf ∈ leavesAll children, leaf.field ≠ "") →
    ∀ index, decodeAll index (encodeAll children) = .ok children
  | [], _, _ => rfl
  | child :: children, h, index => by
    simp only [leavesAll, List.mem_append] at h
    exact decodeAll_cons_eq_ok_iff.mpr ⟨child, children, rfl,
      decode_encode fun leaf hleaf => h leaf (.inl hleaf),
      decodeAll_encodeAll (fun leaf hleaf => h leaf (.inr hleaf)) (index + 1)⟩

end

end Filter

namespace Envelope

/-- What is read as an envelope is a record of the right kind, with an entity and a filter. -/
theorem decode_eq_ok_iff {cell : Cell} {envelope : Envelope} :
    decode cell = .ok envelope ↔ ∃ entries, cell = .record entries ∧
      Entries.get? entries "kind" = some (.text "filter") ∧
      Entries.get? entries "entity" = some (.text envelope.entity) ∧
      ∃ record, Entries.get? entries "filter" = some record ∧
        Filter.decode record = .ok envelope.filter := by
  cases cell with
  | record entries =>
    have hkind : checkKind (.record entries) (Entries.get? entries "kind") = .ok () ↔
        Entries.get? entries "kind" = some (.text "filter") := by
      unfold checkKind
      split <;> simp_all [Checked.fail]
    have hentity : checkEntity (.record entries) (Entries.get? entries "entity") =
        .ok envelope.entity ↔
        Entries.get? entries "entity" = some (.text envelope.entity) := by
      unfold checkEntity
      split <;> simp_all [Checked.fail]
    have hfilter : checkFilter (.record entries) (Entries.get? entries "filter") =
        .ok envelope.filter ↔ ∃ record, Entries.get? entries "filter" = some record ∧
          Filter.decode record = .ok envelope.filter := by
      cases Entries.get? entries "filter" <;> simp [checkFilter, Checked.fail]
    -- the three parts are checked side by side, so all of them have passed
    rw [decode]
    constructor
    · intro h
      split at h
      · next kind entity filter hboth =>
        rw [← Except.ok.inj h] at hentity hfilter ⊢
        simp only [Checked.both_eq_ok_iff, Checked.under_eq_ok_iff] at hboth
        obtain ⟨h₁, h₂, h₃⟩ := hboth
        exact ⟨entries, rfl, hkind.mp h₁, hentity.mp h₂, hfilter.mp h₃⟩
      · cases h
    · rintro ⟨again, heq, h₁, h₂, h₃⟩
      cases heq
      rw [hkind.mpr h₁, hentity.mpr h₂, hfilter.mpr h₃]
      rfl
  | _ => simp [decode, Checked.fail]

/-- An envelope whose leaves name their columns is read back from its record. -/
theorem decode_encode {envelope : Envelope}
    (h : ∀ leaf ∈ envelope.filter.leaves, leaf.field ≠ "") :
    decode envelope.encode = .ok envelope :=
  decode_eq_ok_iff.mpr ⟨_, rfl, rfl, rfl, _, rfl, Filter.decode_encode h⟩

end Envelope

end SheetQuery
