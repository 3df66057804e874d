import SheetQuery.Proofs.Filter.Wire

/-!
# The grammar of filter records

Which cells are read as filters, said without the reader, and which entries of them count.

* `decode_record_eq_ok_iff`: a record is read by its operator;
* `Derivable`: the grammar, one rule for each shape of record;
* `Alike`: the records that differ in nothing but entries that their operators do not read, at any
  depth;
* `grammar_of_filter_records`: exactly the derivable cells are read, and like records as one filter.
-/

namespace SheetQuery

namespace Operator

theorem ofName?_eq_some_iff {name : String} {op : Operator} :
    ofName? name = some op ↔ name = op.name := by
  constructor
  · intro h
    have hfound := List.find?_some h
    exact (beq_iff_eq.mp hfound).symm
  · rintro rfl
    rcases op with _ | _ | _ | _ | manner | negated | negated | _
    all_goals try cases manner
    all_goals try cases negated
    all_goals decide

theorem name_inj {op other : Operator} (h : op.name = other.name) : op = other := by
  have hop := ofName?_eq_some_iff.mpr (Eq.refl op.name)
  rw [h, ofName?_eq_some_iff.mpr (Eq.refl other.name)] at hop
  exact (Option.some.inj hop).symm

/-- A record has the operator that its entry `op` names. -/
theorem check_eq_ok_iff {whole : Cell} {entries : Entries} {op : Operator} :
    check whole entries = .ok op ↔ Entries.get? entries "op" = some (.text op.name) := by
  unfold check
  cases Entries.get? entries "op" with
  | none => simp [Checked.fail]
  | some tag =>
    cases tag with
    | text name =>
      rw [Option.some.injEq, Cell.text.injEq, ← ofName?_eq_some_iff]
      dsimp only
      cases ofName? name <;> simp [Checked.fail]
    | _ => simp [Checked.fail]

/-- The entries beside `op` that records of an operator are read from. The lower bound of a range has
two names. -/
def entryNames : Operator → List String
  | conj | disj | neg => ["children"]
  | compare => ["field", "cmp", "value"]
  | search _ => ["field", "value"]
  | member _ => ["field", "values"]
  | presence _ => ["field"]
  | between => ["field", "from", "from_", "to"]

/-- Does the operator put filters together? -/
def IsComposite (op : Operator) : Prop := op = conj ∨ op = disj ∨ op = neg

instance (op : Operator) : Decidable op.IsComposite :=
  inferInstanceAs (Decidable (op = conj ∨ op = disj ∨ op = neg))

end Operator

namespace Filter

/-! ## Reading by the operator -/

/-- What a record of an operator is read as: a composition of what its children are read as, or the
leaf that its entries describe. -/
inductive ReadsAs (entries : Entries) : Operator → Filter → Prop where
  | conj {children : List Filter} (h : (childrenOf entries).many = .ok children) :
      ReadsAs entries .conj (.conj children)
  | disj {children : List Filter} (h : (childrenOf entries).many = .ok children) :
      ReadsAs entries .disj (.disj children)
  | neg {child : Filter} (h : (childrenOf entries).one (.record entries) = .ok child) :
      ReadsAs entries .neg (.neg child)
  | leaf {op : Operator} {leaf : Leaf} (hop : ¬ op.IsComposite)
      (h : Leaf.check (.record entries) entries op = .ok leaf) : ReadsAs entries op (.leaf leaf)

section

variable {entries : Entries} {op : Operator} {filter : Filter}

theorem readsAs_conj_iff : ReadsAs entries .conj filter ↔
    ∃ children, (childrenOf entries).many = .ok children ∧ .conj children = filter := by
  constructor
  · intro h
    cases h with
    | conj hchildren => exact ⟨_, hchildren, rfl⟩
    | leaf hop => exact absurd (by decide) hop
  · rintro ⟨children, hchildren, rfl⟩
    exact .conj hchildren

theorem readsAs_disj_iff : ReadsAs entries .disj filter ↔
    ∃ children, (childrenOf entries).many = .ok children ∧ .disj children = filter := by
  constructor
  · intro h
    cases h with
    | disj hchildren => exact ⟨_, hchildren, rfl⟩
    | leaf hop => exact absurd (by decide) hop
  · rintro ⟨children, hchildren, rfl⟩
    exact .disj hchildren

theorem readsAs_neg_iff : ReadsAs entries .neg filter ↔
    ∃ child, (childrenOf entries).one (.record entries) = .ok child ∧ .neg child = filter := by
  constructor
  · intro h
    cases h with
    | neg hchild => exact ⟨_, hchild, rfl⟩
    | leaf hop => exact absurd (by decide) hop
  · rintro ⟨child, hchild, rfl⟩
    exact .neg hchild

theorem readsAs_leaf_iff (hop : ¬ op.IsComposite) : ReadsAs entries op filter ↔
    ∃ leaf, Leaf.check (.record entries) entries op = .ok leaf ∧ .leaf leaf = filter := by
  constructor
  · intro h
    cases h with
    | conj | disj | neg => exact absurd (by decide) hop
    | leaf _ h => exact ⟨_, h, rfl⟩
  · rintro ⟨leaf, h, rfl⟩
    exact .leaf hop h

theorem decode_of_check (h : Operator.check (.record entries) entries = .ok op) :
    decode (.record entries) = .ok filter ↔ ReadsAs entries op filter := by
  rw [decode]
  simp only [h]
  by_cases hcomposite : op.IsComposite
  · rcases hcomposite with rfl | rfl | rfl
    · rw [within_eq_ok_iff, readsAs_conj_iff]
    · rw [within_eq_ok_iff, readsAs_disj_iff]
    · rw [within_eq_ok_iff, readsAs_neg_iff]
  · rw [readsAs_leaf_iff hcomposite]
    cases op with
    | conj | disj | neg => exact absurd (by decide) hcomposite
    | _ =>
      dsimp only
      cases Leaf.check (.record entries) entries _ <;> simp [Checked.under]

end

/-- A record is read by the operator that its entry `op` names. -/
theorem decode_record_eq_ok_iff {entries : Entries} {filter : Filter} :
    decode (.record entries) = .ok filter ↔ ∃ op : Operator,
      Entries.get? entries "op" = some (.text op.name) ∧ ReadsAs entries op filter := by
  cases hcheck : Operator.check (.record entries) entries with
  | error issues =>
    rw [decode]
    simp only [hcheck]
    constructor
    · intro h
      cases h
    · rintro ⟨op, hop, -⟩
      rw [Operator.check_eq_ok_iff.mpr hop] at hcheck
      cases hcheck
  | ok op =>
    rw [decode_of_check hcheck]
    have hop := Operator.check_eq_ok_iff.mp hcheck
    constructor
    · exact fun h => ⟨op, hop, h⟩
    · -- two operators of one name are the same, so the operator that was found is the one claimed
      rintro ⟨other, hother, h⟩
      rw [hop] at hother
      rwa [Operator.name_inj (Cell.text.inj (Option.some.inj hother))]

theorem decodeAll_eq_ok_iff {items : List Cell} {index : Nat} {children : List Filter} :
    decodeAll index items = .ok children ↔
      List.Forall₂ (fun item child => decode item = .ok child) items children := by
  induction items generalizing index children with
  | nil => simp [decodeAll, eq_comm]
  | cons item items ih =>
    rw [decodeAll_cons_eq_ok_iff, List.forall₂_cons_left_iff]
    constructor
    · rintro ⟨child, rest, rfl, hchild, hrest⟩
      exact ⟨child, rest, hchild, ih.mp hrest, rfl⟩
    · rintro ⟨child, rest, hchild, hrest, rfl⟩
      exact ⟨child, rest, rfl, hchild, ih.mpr hrest⟩

/-- A list is read if all its items are. -/
theorem exists_decodeAll {items : List Cell} (index : Nat)
    (h : ∀ item ∈ items, ∃ child, decode item = .ok child) :
    ∃ children, decodeAll index items = .ok children := by
  induction items generalizing index with
  | nil => exact ⟨[], rfl⟩
  | cons item items ih =>
    obtain ⟨child, hchild⟩ := h item List.mem_cons_self
    obtain ⟨rest, hrest⟩ := ih (index + 1) fun other hother => h other (List.mem_cons_of_mem _ hother)
    exact ⟨child :: rest, decodeAll_cons_eq_ok_iff.mpr ⟨child, rest, rfl, hchild, hrest⟩⟩

theorem exists_decode_of_mem {items : List Cell} {children : List Filter}
    (h : List.Forall₂ (fun item child => decode item = .ok child) items children) {item : Cell}
    (hitem : item ∈ items) : ∃ child, decode item = .ok child := by
  induction h with
  | nil => cases hitem
  | cons hchild _ ih =>
    rcases List.mem_cons.mp hitem with rfl | hitem
    · exact ⟨_, hchild⟩
    · exact ih hitem

/-! ## The grammar -/

/-- Has the record a column name? -/
def NamesColumn (entries : Entries) : Prop :=
  ∃ field, Entries.get? entries "field" = some (.text field) ∧ field ≠ ""

/-- The comparator symbols that a record may carry. -/
def comparatorSymbols : List String := "=" :: [">", ">=", "<", "<=", "==", "!="]

/-- The records that are filters. -/
inductive Derivable : Cell → Prop where
  /-- A conjunction or disjunction without an entry for its children. -/
  | childless {entries : Entries} {name : String} (hname : name ∈ ["and", "or"])
      (hop : Entries.get? entries "op" = some (.text name))
      (hnone : Entries.get? entries "children" = none) : Derivable (.record entries)
  /-- A conjunction or disjunction of a list of filters. -/
  | composition {entries : Entries} {name : String} {items : List Cell} (hname : name ∈ ["and", "or"])
      (hop : Entries.get? entries "op" = some (.text name))
      (hitems : Entries.get? entries "children" = some (.list items))
      (h : ∀ item ∈ items, Derivable item) : Derivable (.record entries)
  /-- A negation of exactly one filter. -/
  | negation {entries : Entries} {item : Cell}
      (hop : Entries.get? entries "op" = some (.text "not"))
      (hitem : Entries.get? entries "children" = some (.list [item])) (h : Derivable item) :
      Derivable (.record entries)
  /-- A comparison, with a known symbol or none. -/
  | comparison {entries : Entries} (hop : Entries.get? entries "op" = some (.text "cmp"))
      (hfield : NamesColumn entries)
      (hcmp : ∀ cell, Entries.get? entries "cmp" = some cell →
        ∃ symbol ∈ comparatorSymbols, cell = .text symbol) : Derivable (.record entries)
  /-- A search, whatever it looks for. -/
  | search {entries : Entries} {name : String}
      (hname : name ∈ ["includes", "contains", "startsWith", "endsWith", "regex"])
      (hop : Entries.get? entries "op" = some (.text name)) (hfield : NamesColumn entries) :
      Derivable (.record entries)
  /-- A membership in a list of values or in none. -/
  | membership {entries : Entries} {name : String} (hname : name ∈ ["in", "nin"])
      (hop : Entries.get? entries "op" = some (.text name)) (hfield : NamesColumn entries)
      (hvalues : ∀ cell, Entries.get? entries "values" = some cell → ∃ items, cell = .list items) :
      Derivable (.record entries)
  /-- A test for presence. -/
  | presence {entries : Entries} {name : String} (hname : name ∈ ["exists", "notExists"])
      (hop : Entries.get? entries "op" = some (.text name)) (hfield : NamesColumn entries) :
      Derivable (.record entries)
  /-- A range, whatever its bounds. -/
  | range {entries : Entries} (hop : Entries.get? entries "op" = some (.text "between"))
      (hfield : NamesColumn entries) : Derivable (.record entries)

end Filter

namespace Leaf

theorem mem_comparatorSymbols {symbol : String} {comparator : Comparator}
    (h : checkComparator (some (.text symbol)) = .ok comparator) :
    symbol ∈ Filter.comparatorSymbols := by
  simp only [checkComparator] at h
  split at h
  · next found hfound =>
    split at hfound
    · next heq =>
      rw [beq_iff_eq.mp heq]
      exact List.mem_cons_self
    · have hsymbol := List.find?_some hfound
      rw [← beq_iff_eq.mp hsymbol]
      cases found <;> decide
  · cases h

theorem exists_checkComparator_of_mem : ∀ symbol ∈ Filter.comparatorSymbols,
    ∃ comparator, checkComparator (some (.text symbol)) = .ok comparator := by
  simp only [Filter.comparatorSymbols, List.forall_mem_cons]
  exact ⟨⟨.eq, rfl⟩, ⟨.gt, rfl⟩, ⟨.ge, rfl⟩, ⟨.lt, rfl⟩, ⟨.le, rfl⟩, ⟨.eq, rfl⟩, ⟨.ne, rfl⟩, nofun⟩

/-- A comparator is read from a known symbol or from none. -/
theorem exists_checkComparator_iff {found : Option Cell} :
    (∃ comparator, checkComparator found = .ok comparator) ↔
      ∀ cell, found = some cell → ∃ symbol ∈ Filter.comparatorSymbols, cell = .text symbol := by
  cases found with
  | none => exact iff_of_true ⟨.eq, rfl⟩ nofun
  | some cell =>
    cases cell with
    | text symbol =>
      constructor
      · rintro ⟨comparator, h⟩ cell hcell
        exact ⟨symbol, mem_comparatorSymbols h, (Option.some.inj hcell).symm⟩
      · intro h
        obtain ⟨again, hmem, heq⟩ := h _ rfl
        rw [Cell.text.inj heq]
        exact exists_checkComparator_of_mem again hmem
    | _ => simp [checkComparator, Checked.fail]

theorem exists_checkValues_iff {found : Option Cell} :
    (∃ values, checkValues found = .ok values) ↔
      ∀ cell, found = some cell → ∃ items, cell = .list items := by
  cases found with
  | none => exact iff_of_true ⟨[], rfl⟩ nofun
  | some cell => cases cell <;> simp [checkValues, Checked.fail]

/-- A record is a leaf of an operator if it names a column and its operands can be read. -/
theorem exists_check_iff {whole : Cell} {entries : Entries} {op : Operator} :
    (∃ leaf, check whole entries op = .ok leaf) ↔
      Filter.NamesColumn entries ∧ ∃ test, checkTest entries op = .ok test := by
  constructor
  · rintro ⟨leaf, h⟩
    obtain ⟨hfield, hne, htest⟩ := check_eq_ok_iff.mp h
    exact ⟨⟨_, hfield, hne⟩, _, htest⟩
  · rintro ⟨⟨field, hfield, hne⟩, test, htest⟩
    exact ⟨⟨field, test⟩, check_eq_ok_iff.mpr ⟨hfield, hne, htest⟩⟩

theorem exists_checkTest_compare_iff {entries : Entries} :
    (∃ test, checkTest entries .compare = .ok test) ↔
      ∃ comparator, checkComparator (Entries.get? entries "cmp") = .ok comparator := by
  rw [checkTest]
  cases checkComparator (Entries.get? entries "cmp") <;> simp [Checked.under]

theorem exists_checkTest_member_iff {entries : Entries} {negated : Bool} :
    (∃ test, checkTest entries (.member negated) = .ok test) ↔
      ∃ values, checkValues (Entries.get? entries "values") = .ok values := by
  rw [checkTest]
  cases checkValues (Entries.get? entries "values") <;> simp [Checked.under]

/-- The operands are read from the entries of the operator. -/
theorem checkTest_congr {entries other : Entries} {op : Operator}
    (h : ∀ name ∈ op.entryNames, Entries.get? entries name = Entries.get? other name) :
    checkTest entries op = checkTest other op := by
  cases op <;> simp_all [checkTest, operand, lowerBound, Operator.entryNames]

end Leaf

namespace Filter

theorem exists_manner_of_mem :
    ∀ name ∈ ["includes", "contains", "startsWith", "endsWith", "regex"],
      ∃ manner : Manner, name = manner.name := by
  simp only [List.forall_mem_cons]
  exact ⟨⟨.includes, rfl⟩, ⟨.contains, rfl⟩, ⟨.startsWith, rfl⟩, ⟨.endsWith, rfl⟩, ⟨.regex, rfl⟩,
    nofun⟩

/-- A leaf operator reads a record that names a column and has operands that it can read. -/
theorem exists_decode_leaf {entries : Entries} (op : Operator) (hleaf : ¬ op.IsComposite)
    (hop : Entries.get? entries "op" = some (.text op.name)) (hfield : NamesColumn entries)
    (htest : ∃ test, Leaf.checkTest entries op = .ok test) :
    ∃ filter, decode (.record entries) = .ok filter := by
  obtain ⟨leaf, h⟩ := Leaf.exists_check_iff.mpr ⟨hfield, htest⟩
  exact ⟨.leaf leaf, decode_record_eq_ok_iff.mpr ⟨op, hop, .leaf hleaf h⟩⟩

/-- What the grammar derives is read. -/
theorem Derivable.exists_decode {cell : Cell} (h : Derivable cell) :
    ∃ filter, decode cell = .ok filter := by
  -- one case for each rule of the grammar; only compositions and negations
  -- have premises about children; a leaf is read as soon as its test is
  induction h with
  | @childless entries name hname hop hnone =>
    have hmany : (childrenOf entries).many = .ok [] := many_eq_ok_iff.mpr (.inl ⟨hnone, rfl⟩)
    rcases List.mem_pair.mp hname with rfl | rfl
    · exact ⟨_, decode_record_eq_ok_iff.mpr ⟨.conj, hop, .conj hmany⟩⟩
    · exact ⟨_, decode_record_eq_ok_iff.mpr ⟨.disj, hop, .disj hmany⟩⟩
  | @composition entries name items hname hop hitems _ ih =>
    obtain ⟨children, hchildren⟩ := exists_decodeAll 0 ih
    have hmany : (childrenOf entries).many = .ok children :=
      many_eq_ok_iff.mpr (.inr ⟨items, hitems, hchildren⟩)
    rcases List.mem_pair.mp hname with rfl | rfl
    · exact ⟨_, decode_record_eq_ok_iff.mpr ⟨.conj, hop, .conj hmany⟩⟩
    · exact ⟨_, decode_record_eq_ok_iff.mpr ⟨.disj, hop, .disj hmany⟩⟩
  | negation hop hitem _ ih =>
    obtain ⟨child, hchild⟩ := ih
    exact ⟨.neg child, decode_record_eq_ok_iff.mpr
      ⟨.neg, hop, .neg (one_eq_ok_iff.mpr ⟨_, hitem, hchild⟩)⟩⟩
  | comparison hop hfield hcmp =>
    exact exists_decode_leaf .compare (by decide) hop hfield
      (Leaf.exists_checkTest_compare_iff.mpr (Leaf.exists_checkComparator_iff.mpr hcmp))
  | search hname hop hfield =>
    obtain ⟨manner, rfl⟩ := exists_manner_of_mem _ hname
    exact exists_decode_leaf (.search manner) (by simp [Operator.IsComposite]) hop hfield ⟨_, rfl⟩
  | membership hname hop hfield hvalues =>
    have htest : ∀ negated, ∃ test, Leaf.checkTest _ (.member negated) = .ok test := fun _ =>
      Leaf.exists_checkTest_member_iff.mpr (Leaf.exists_checkValues_iff.mpr hvalues)
    rcases List.mem_pair.mp hname with rfl | rfl
    · exact exists_decode_leaf (.member false) (by decide) hop hfield (htest false)
    · exact exists_decode_leaf (.member true) (by decide) hop hfield (htest true)
  | presence hname hop hfield =>
    rcases List.mem_pair.mp hname with rfl | rfl
    · exact exists_decode_leaf (.presence false) (by decide) hop hfield ⟨_, rfl⟩
    · exact exists_decode_leaf (.presence true) (by decide) hop hfield ⟨_, rfl⟩
  | range hop hfield => exact exists_decode_leaf .between (by decide) hop hfield ⟨_, rfl⟩

/-- What is read is derived by the grammar. -/
theorem derivable_of_decode {cell : Cell} {filter : Filter} (h : decode cell = .ok filter) :
    Derivable cell := by
  cases cell with
  | record entries =>
    obtain ⟨op, hop, hreads⟩ := decode_record_eq_ok_iff.mp h
    -- a list of children is made of smaller cells, each of them read
    have hmany : ∀ {name children}, name ∈ ["and", "or"] →
        Entries.get? entries "op" = some (.text name) →
        (childrenOf entries).many = .ok children → Derivable (.record entries) := by
      intro name children hname hop hchildren
      rcases many_eq_ok_iff.mp hchildren with ⟨hnone, -⟩ | ⟨items, hitems, hall⟩
      · exact .childless hname hop hnone
      · refine .composition hname hop hitems fun item hitem => ?_
        have := sizeOf_lt_of_get? hitems
        have := List.sizeOf_lt_of_mem hitem
        obtain ⟨child, hchild⟩ := exists_decode_of_mem (decodeAll_eq_ok_iff.mp hall) hitem
        exact derivable_of_decode hchild
    cases hreads with
    | conj hchildren => exact hmany (by decide) hop hchildren
    | disj hchildren => exact hmany (by decide) hop hchildren
    | neg hchild =>
      obtain ⟨item, hitem, hdecode⟩ := one_eq_ok_iff.mp hchild
      have := sizeOf_lt_of_get? hitem
      exact .negation hop hitem (derivable_of_decode hdecode)
    | leaf hleaf hcheck =>
      obtain ⟨hfield, htest⟩ := Leaf.exists_check_iff.mp ⟨_, hcheck⟩
      cases op with
      | conj | disj | neg => exact absurd (by decide) hleaf
      | compare =>
        exact .comparison hop hfield
          (Leaf.exists_checkComparator_iff.mp (Leaf.exists_checkTest_compare_iff.mp htest))
      | search manner => exact .search (by cases manner <;> decide) hop hfield
      | member negated =>
        exact .membership (by cases negated <;> decide) hop hfield
          (Leaf.exists_checkValues_iff.mp (Leaf.exists_checkTest_member_iff.mp htest))
      | presence negated => exact .presence (by cases negated <;> decide) hop hfield
      | between => exact .range hop hfield
  | _ => cases h
termination_by sizeOf cell
decreasing_by all_goals simp_all; omega

/-! ## Entries that are not read -/

/-- Do two cells differ in nothing but entries that their operators do not read, at any depth? -/
inductive Alike : Cell → Cell → Prop where
  | refl (cell : Cell) : Alike cell cell
  /-- Two records have the same entries as far as their operator reads them. -/
  | entries {entries other : Entries} (hop : Entries.get? entries "op" = Entries.get? other "op")
      (hread : ∀ op : Operator, Entries.get? entries "op" = some (.text op.name) →
        ∀ name ∈ op.entryNames, Entries.get? entries name = Entries.get? other name) :
      Alike (.record entries) (.record other)
  /-- Two records put like children together. -/
  | children {entries other : Entries} {op : Operator} {items others : List Cell}
      (hcomposite : op.IsComposite) (hop : Entries.get? entries "op" = some (.text op.name))
      (hother : Entries.get? other "op" = some (.text op.name))
      (hitems : Entries.get? entries "children" = some (.list items))
      (hothers : Entries.get? other "children" = some (.list others))
      (hlength : items.length = others.length)
      (h : ∀ pair ∈ items.zip others, Alike pair.1 pair.2) :
      Alike (.record entries) (.record other)

section

variable {entries other : Entries}

/-- Lists of which the items are read alike are read alike. -/
theorem decodeAll_congr : ∀ {items others : List Cell}, items.length = others.length →
    (∀ pair ∈ items.zip others, ∀ filter,
      decode pair.1 = .ok filter ↔ decode pair.2 = .ok filter) →
    ∀ index children, decodeAll index items = .ok children ↔ decodeAll index others = .ok children
  | [], [], _, _, _, _ => Iff.rfl
  | item :: items, another :: others, hlength, h, index, children => by
    have hitem := h (item, another) List.mem_cons_self
    have hitems := decodeAll_congr (Nat.succ.inj hlength)
      (fun pair hpair => h pair (List.mem_cons_of_mem _ hpair)) (index + 1)
    simp only [decodeAll_cons_eq_ok_iff, hitem, hitems]

/-- The children of a record are those of its list, and a negation has exactly one. -/
theorem children_of_items {items : List Cell}
    (hitems : Entries.get? entries "children" = some (.list items)) :
    (∀ children, (childrenOf entries).many = .ok children ↔ decodeAll 0 items = .ok children) ∧
      ∀ child, (childrenOf entries).one (.record entries) = .ok child ↔
        decodeAll 0 items = .ok [child] := by
  refine ⟨fun children => by simp [many_eq_ok_iff, hitems], fun child => ?_⟩
  rw [one_eq_ok_iff, hitems, decodeAll_eq_ok_iff, List.forall₂_cons_right_iff]
  simp [and_comm]

/-- A record is read as any other with the same entries under the names that its operator reads. -/
theorem ReadsAs.of_entryNames {op : Operator} {filter : Filter}
    (hread : ∀ name ∈ op.entryNames, Entries.get? entries name = Entries.get? other name)
    (h : ReadsAs entries op filter) : ReadsAs other op filter := by
  have hchildren : op.IsComposite →
      Entries.get? entries "children" = Entries.get? other "children" := by
    rintro (rfl | rfl | rfl) <;> exact hread _ List.mem_cons_self
  cases h with
  | conj h =>
    rw [many_eq_ok_iff, hchildren (by decide)] at h
    exact .conj (many_eq_ok_iff.mpr h)
  | disj h =>
    rw [many_eq_ok_iff, hchildren (by decide)] at h
    exact .disj (many_eq_ok_iff.mpr h)
  | neg h =>
    rw [one_eq_ok_iff, hchildren (by decide)] at h
    exact .neg (one_eq_ok_iff.mpr h)
  | leaf hleaf h =>
    have hfield : Entries.get? entries "field" = Entries.get? other "field" := by
      -- the name `field` is read by every operator but the three that compose
      apply hread
      cases op with
      | conj | disj | neg => exact absurd (by decide) hleaf
      | _ => exact List.mem_cons_self
    rw [Leaf.check_eq_ok_iff, hfield, Leaf.checkTest_congr hread] at h
    exact .leaf hleaf (Leaf.check_eq_ok_iff.mpr h)

/-- A composition is read as any other of a list that is read as its own. -/
theorem ReadsAs.of_items {op : Operator} {filter : Filter} {items others : List Cell}
    (hcomposite : op.IsComposite) (hitems : Entries.get? entries "children" = some (.list items))
    (hothers : Entries.get? other "children" = some (.list others))
    (hall : ∀ children, decodeAll 0 items = .ok children → decodeAll 0 others = .ok children)
    (h : ReadsAs entries op filter) : ReadsAs other op filter := by
  obtain ⟨hmany, hone⟩ := children_of_items hitems
  obtain ⟨hmany', hone'⟩ := children_of_items hothers
  cases h with
  | conj h => exact .conj ((hmany' _).mpr (hall _ ((hmany _).mp h)))
  | disj h => exact .disj ((hmany' _).mpr (hall _ ((hmany _).mp h)))
  | neg h => exact .neg ((hone' _).mpr (hall _ ((hone _).mp h)))
  | leaf hleaf => exact absurd hcomposite hleaf

/-- Records that are alike are read as the same filter, or neither is read. -/
theorem Alike.decode_iff {cell another : Cell} (h : Alike cell another) :
    ∀ filter, decode cell = .ok filter ↔ decode another = .ok filter := by
  induction h with
  | refl cell => exact fun filter => Iff.rfl
  | entries hop hread =>
    intro filter
    rw [decode_record_eq_ok_iff, decode_record_eq_ok_iff, ← hop]
    refine exists_congr fun op => and_congr_right fun hname => ?_
    have hsame := hread op hname
    exact ⟨.of_entryNames hsame, .of_entryNames fun name hmem => (hsame name hmem).symm⟩
  | children hcomposite hop hother hitems hothers hlength _ ih =>
    intro filter
    have hall := decodeAll_congr hlength ih 0
    rw [decode_of_check (Operator.check_eq_ok_iff.mpr hop),
      decode_of_check (Operator.check_eq_ok_iff.mpr hother)]
    exact ⟨.of_items hcomposite hitems hothers fun children => (hall children).mp,
      .of_items hcomposite hothers hitems fun children => (hall children).mpr⟩

end

/-- **The grammar of filter records.** A cell is read as a filter exactly if the grammar derives it.
Entries that an operator does not read, at any depth, decide neither whether a record is read nor what
it is read as. -/
theorem grammar_of_filter_records :
    (∀ cell, (∃ filter, decode cell = .ok filter) ↔ Derivable cell) ∧
      ∀ cell another, Alike cell another →
        (decode cell).toOption = (decode another).toOption := by
  refine ⟨fun cell => ⟨fun ⟨_, h⟩ => derivable_of_decode h, Derivable.exists_decode⟩, ?_⟩
  intro cell another halike
  have hiff := halike.decode_iff
  cases hcell : decode cell with
  | ok filter => rw [(hiff filter).mp hcell]
  | error issues =>
    cases hanother : decode another with
    | ok filter =>
      rw [(hiff filter).mpr hanother] at hcell
      cases hcell
    | error others => rfl

/-- Null operands of other operators, and a column name on a conjunction, are no matter. -/
theorem noise_is_not_read :
    let item := [("op", .text "includes"), ("field", .text "Skills"), ("value", .text "coding")]
    let noise := [("values", .null), ("children", .null), ("from", .null)]
    let plain := Cell.record [("op", .text "and"), ("children", .list [.record item])]
    let noisy := Cell.record
      [("field", .int 5), ("op", .text "and"), ("children", .list [.record (item ++ noise)])]
    Derivable noisy ∧ Alike noisy plain ∧ (decode noisy).toOption = (decode plain).toOption ∧
      (decode noisy).toOption.isSome = true := by
  intro item noise plain noisy
  have hitem : Alike (.record (item ++ noise)) (.record item) := by
    refine .entries rfl fun op hop name hname => ?_
    obtain rfl : op = .search .includes :=
      Operator.name_inj (Cell.text.inj (Option.some.inj hop)).symm
    rcases List.mem_pair.mp hname with rfl | rfl <;> rfl
  have halike : Alike noisy plain :=
    @Alike.children _ _ .conj _ _ (.inl rfl) rfl rfl rfl rfl rfl
      (List.forall_mem_singleton.mpr hitem)
  have hsame := grammar_of_filter_records.2 noisy plain halike
  have hread : (decode noisy).toOption.isSome = true := by decide
  refine ⟨(grammar_of_filter_records.1 noisy).mp ?_, halike, hsame, hread⟩
  cases hnoisy : decode noisy with
  | ok filter => exact ⟨filter, rfl⟩
  | error issues =>
    rw [hnoisy] at hread
    cases hread

end Filter

end SheetQuery
