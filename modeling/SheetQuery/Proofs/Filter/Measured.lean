import SheetQuery.Proofs.Cell.Measure
import SheetQuery.Proofs.Filter.Wire
import SheetQuery.Proofs.Text.Trim

/-!
# Measures of filters

Reading a filter or an envelope from a record leaves out what means nothing to it and adds only the
wire's own words. So by a measure that does not count these, the record of what has been read has no
more than the record it has been read from.

* `total_encode_le`, `Envelope.total_encode_le`: for filters and for envelopes.
-/

namespace SheetQuery

theorem Operator.mem_all (op : Operator) : op ∈ all := by
  rcases op with _ | _ | _ | _ | manner | negated | negated | _
  all_goals try cases manner
  all_goals try cases negated
  all_goals decide

namespace Measure

/-- The characters of the wire's own words and signs. -/
def wireChars : List Char :=
  "abcdefghijklmnopqrstuvwxyzEW<>=!".toList

/-- Does a measure count none of the wire's own words? -/
def IgnoresWire (m : Measure) : Prop := ∀ c ∈ wireChars, m.char c = 0

variable {m : Measure}

theorem IgnoresWire.ofText_eq_zero (h : m.IgnoresWire) {word : String}
    (hword : ∀ c ∈ word.toList, c ∈ wireChars) : m.ofText word = 0 := by
  have hsum : ∀ cs : List Char, (∀ c ∈ cs, c ∈ wireChars) → (cs.map m.char).sum = 0 := by
    intro cs hcs
    induction cs with
    | nil => rfl
    | cons c cs ih =>
      rw [List.map_cons, List.sum_cons, h c (hcs c List.mem_cons_self),
        ih fun d hd => hcs d (List.mem_cons_of_mem _ hd)]
  exact hsum word.toList hword

theorem IgnoresWire.ofText_op (h : m.IgnoresWire) (test : Test) : m.ofText test.op = 0 := by
  have hall : ∀ op ∈ Operator.all, ∀ c ∈ op.name.toList, c ∈ wireChars := by decide
  rw [← Test.name_operator]
  exact h.ofText_eq_zero (hall _ (Operator.mem_all _))

theorem IgnoresWire.ofText_symbol (h : m.IgnoresWire) (comparator : Comparator) :
    m.ofText comparator.symbol = 0 := by
  apply h.ofText_eq_zero
  cases comparator <;> decide

/-- An operand that is read has what stands under its name. -/
theorem total_operand (entries : Entries) (name : String) :
    m.total (Leaf.operand entries name) = m.under entries name := by
  rw [Leaf.operand, under]
  cases Entries.get? entries name <;> rfl

/-- An operand is written with its name, or not at all. -/
theorem IgnoresWire.entryTotal_operand (h : m.IgnoresWire) {name : String}
    (hname : ∀ c ∈ name.toList, c ∈ wireChars) (cell : Cell) :
    m.entryTotal (Test.operand name cell) = m.total cell := by
  rcases Leaf.operand_cases name cell with ⟨rfl, hnil⟩ | hone
  · rw [hnil]
    rfl
  · rw [hone]
    simp [h.ofText_eq_zero hname]

end Measure

namespace Filter

variable {m : Measure}

/-- A leaf's record has its column name and its operands. -/
theorem total_encode_leaf (h : m.IgnoresWire) (l : Leaf) :
    m.total l.encode = m.record + m.ofText l.field + m.entryTotal l.test.operands := by
  have hfield : m.ofText "field" = 0 := h.ofText_eq_zero (by decide)
  have hop : m.ofText "op" = 0 := h.ofText_eq_zero (by decide)
  simp [Leaf.encode, hfield, hop, h.ofText_op, Nat.add_assoc]

/-- What the operands of a test have stands under names of their own. -/
theorem exists_names_of_checkTest (h : m.IgnoresWire) {entries : Entries} {op : Operator}
    {test : Test} (htest : Leaf.checkTest entries op = .ok test) :
    ∃ names : List String, ("field" :: names).Nodup ∧
      m.entryTotal test.operands ≤ (names.map (m.under entries)).sum := by
  have hcmp : m.ofText "cmp" = 0 := h.ofText_eq_zero (by decide)
  have hvalues : m.ofText "values" = 0 := h.ofText_eq_zero (by decide)
  have hvalue : ∀ cell, m.entryTotal (Test.operand "value" cell) = m.total cell :=
    h.entryTotal_operand (by decide)
  have hfrom : ∀ cell, m.entryTotal (Test.operand "from" cell) = m.total cell :=
    h.entryTotal_operand (by decide)
  have hto : ∀ cell, m.entryTotal (Test.operand "to" cell) = m.total cell :=
    h.entryTotal_operand (by decide)
  rw [Leaf.checkTest.eq_def] at htest
  split at htest
  · split at htest
    · next comparator _ =>
      rw [← Except.ok.inj htest]
      refine ⟨["value"], by decide, ?_⟩
      simp [Test.operands, hcmp, h.ofText_symbol, hvalue, m.total_operand]
    · cases htest
  · rw [← Except.ok.inj htest]
    refine ⟨["value"], by decide, ?_⟩
    simp [Test.operands, hvalue, m.total_operand]
  · split at htest
    · next values hchecked =>
      rw [← Except.ok.inj htest]
      refine ⟨["values"], by decide, ?_⟩
      rw [Checked.under_eq_ok_iff] at hchecked
      have hlist : m.itemTotal values ≤ m.under entries "values" := by
        unfold Leaf.checkValues at hchecked
        split at hchecked
        · rw [← Except.ok.inj hchecked]
          exact Nat.zero_le _
        · next cells hcells =>
          rw [← Except.ok.inj hchecked, m.under_of_get? hcells]
          exact Nat.le_refl _
        · cases hchecked
      simpa [Test.operands, hvalues] using hlist
    · cases htest
  · rw [← Except.ok.inj htest]
    exact ⟨[], by decide, Nat.le_refl _⟩
  · rw [← Except.ok.inj htest]
    -- the lower bound stands under either of two names
    obtain ⟨name, hname, hlow⟩ : ∃ name, ["field", name, "to"].Nodup ∧
        m.total (Leaf.lowerBound entries) = m.under entries name := by
      rw [Leaf.lowerBound]
      cases hfound : Entries.get? entries "from" with
      | some cell => exact ⟨"from", by decide, (m.under_of_get? hfound).symm⟩
      | none => exact ⟨"from_", by decide, m.total_operand entries "from_"⟩
    refine ⟨[name, "to"], hname, ?_⟩
    simp [Test.operands, hfrom, hto, hlow, m.total_operand]
  · rw [← Except.ok.inj htest]
    exact ⟨[], by decide, Nat.le_refl _⟩

theorem total_encode_leaf_le (h : m.IgnoresWire) {whole : Cell} {entries : Entries} {op : Operator}
    {l : Leaf} (hl : Leaf.check whole entries op = .ok l) :
    m.total l.encode ≤ m.total (.record entries) := by
  obtain ⟨hfield, -, htest⟩ := Leaf.check_eq_ok_iff.mp hl
  have hname : m.ofText l.field = m.under entries "field" := (m.under_of_get? hfield).symm
  obtain ⟨names, hnames, hoperands⟩ := exists_names_of_checkTest h htest
  have hall := m.sum_under_le hnames entries
  rw [List.map_cons, List.sum_cons] at hall
  rw [total_encode_leaf h, hname, Measure.total_record]
  omega

/-- What stands under one name has no more than all entries. -/
theorem under_le (entries : Entries) (name : String) : m.under entries name ≤ m.entryTotal entries := by
  have hname : [name].Nodup := by simp
  simpa using m.sum_under_le hname entries

theorem itemTotal_encodeAll_le {items : List Cell} {children : List Filter}
    (h : List.Forall₂ (fun item child => m.total (encode child) ≤ m.total item) items children) :
    m.itemTotal (encodeAll children) ≤ m.itemTotal items := by
  induction h with
  | nil => exact Nat.le_refl _
  | cons hchild _ ih => exact Nat.add_le_add hchild ih

/-- The record of a filter has no more than what the filter is read from. -/
theorem total_encode_le (h : m.IgnoresWire) {cell : Cell} {filter : Filter}
    (hdecode : decode cell = .ok filter) : m.total filter.encode ≤ m.total cell := by
  have hop : m.ofText "op" = 0 := h.ofText_eq_zero (by decide)
  have hchildren : m.ofText "children" = 0 := h.ofText_eq_zero (by decide)
  have hconj : m.ofText "and" = 0 := h.ofText_eq_zero (by decide)
  have hdisj : m.ofText "or" = 0 := h.ofText_eq_zero (by decide)
  have hneg : m.ofText "not" = 0 := h.ofText_eq_zero (by decide)
  -- the words of the record itself weigh nothing, so
  -- each case compares what stands under `children`
  refine decode_induction (motive := fun cell filter => m.total filter.encode ≤ m.total cell)
    ?_ ?_ ?_ hdecode
  · intro entries children hfrom
    have hitems : m.itemTotal (encodeAll children) ≤ m.entryTotal entries := by
      rcases hfrom with ⟨-, rfl⟩ | ⟨items, hitems, hall⟩
      · exact Nat.zero_le _
      · have hunder := under_le (m := m) entries "children"
        rw [m.under_of_get? hitems, Measure.total_list] at hunder
        exact Nat.le_trans (itemTotal_encodeAll_le hall) hunder
    constructor
    · simpa [encode, hop, hchildren, hconj] using hitems
    · simpa [encode, hop, hchildren, hdisj] using hitems
  · intro entries item child hitem hchild
    have hunder := under_le (m := m) entries "children"
    rw [m.under_of_get? hitem, Measure.total_list, Measure.itemTotal_cons] at hunder
    have hrecord : m.total child.encode ≤ m.entryTotal entries := by
      simp only [Measure.itemTotal_nil] at hunder
      omega
    simpa [encode, hop, hchildren, hneg] using hrecord
  · intro entries op l hl
    exact total_encode_leaf_le h hl

end Filter

/-- The record of an envelope has no more than what the envelope is read from. -/
theorem Envelope.total_encode_le {m : Measure} (h : m.IgnoresWire) {cell : Cell}
    {envelope : Envelope} (hdecode : decode cell = .ok envelope) :
    m.total envelope.encode ≤ m.total cell := by
  have hkind : m.ofText "kind" = 0 := h.ofText_eq_zero (by decide)
  have hname : m.ofText "entity" = 0 := h.ofText_eq_zero (by decide)
  have hfilter : m.ofText "filter" = 0 := h.ofText_eq_zero (by decide)
  obtain ⟨entries, rfl, -, hentity, record, hrecord, hinner⟩ := decode_eq_ok_iff.mp hdecode
  have hnames : ["entity", "filter"].Nodup := by decide
  have hall : m.under entries "entity" + m.under entries "filter" ≤ m.entryTotal entries := by
    simpa using m.sum_under_le hnames entries
  rw [m.under_of_get? hentity, m.under_of_get? hrecord, Measure.total_text] at hall
  have := Filter.total_encode_le h hinner
  simp only [encode, Measure.total_record, Measure.entryTotal_cons, Measure.entryTotal_nil,
    Measure.total_text, hkind, hname, hfilter]
  omega

end SheetQuery
