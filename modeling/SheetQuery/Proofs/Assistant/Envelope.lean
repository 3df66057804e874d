import SheetQuery.Proofs.Assistant.Clean
import SheetQuery.Proofs.Assistant.Mending
import SheetQuery.Proofs.Filter.Measured

/-!
# Envelopes in replies

Which envelopes are read back from a reply that holds them as JSON. The braces and fences of a reply
are looked for in its characters, whether or not they stand in a quoted text, so a text of the envelope
can cut the object short or lose its back ticks.

* `reads_of_isIntact`: an object that is cut out as it stands is read, however it is written;
* `isIntact_of_reads`: a printed envelope is read from nothing less, since reading gains no weight;
* `envelope_is_read_back_iff`: both, and the texts that do no harm.
-/

namespace SheetQuery.Reply

open Json

/-- Is an envelope read from every reply that holds an object, with no opening brace before it? -/
def Reads (object : List Char) (envelope : Envelope) : Prop :=
  ∀ before after, '{' ∉ before →
    envelope? (.text (String.ofList (before ++ object ++ after))) = some envelope

/-- An envelope that can be sent as strict JSON: its leaves name their columns, its operands are
without binary64 numbers, and the names of each record differ. -/
structure IsWritable (envelope : Envelope) : Prop where
  named : ∀ leaf ∈ envelope.filter.leaves, leaf.field ≠ ""
  exact : ∀ part ∈ envelope.encode.parts, part.IsExact
  distinct : ∀ part ∈ envelope.encode.parts, part.HasDistinctNames

/-! ## Objects that are read -/

theorem envelope?_text (cs : List Char) :
    envelope? (.text (String.ofList cs)) = (ofText? cs).bind envelopeOf? := by
  have hread : read? (.text (String.ofList cs)) = ofText? (String.ofList cs).toList := rfl
  rw [envelope?, hread, String.toList_ofList]

theorem read?_eq_some_iff {cs : List Char} {cell : Cell} :
    Json.read? cs = some cell ↔ Json.read cs = .ok cell := by
  rw [Json.read?]
  cases Json.read cs <;> simp [Except.toOption]

/-- An intact object is read, however its cell is written. -/
theorem reads_of_isIntact {cell : Cell} {object : List Char} {envelope : Envelope}
    (hwritten : Writes cell object) (hdistinct : ∀ part ∈ cell.parts, part.HasDistinctNames)
    (hdecode : Envelope.decode cell = .ok envelope) (hshort : ∀ part ∈ cell.parts, part.IsShort)
    (hintact : IsIntact object) : Reads object envelope := by
  intro before after hbefore
  have hread : Json.read? object = some cell :=
    read?_eq_some_iff.mpr (read_of_writes hwritten hdistinct hshort)
  rw [envelope?_text, ofText?, firstObject?_unfenced hintact hbefore, Option.bind_some, hread,
    Option.some_or, Option.bind_some]
  exact envelopeOf?_eq_some_iff.mpr hdecode

/-! ## What a reply can give -/

/-- The wire's own words weigh nothing. -/
theorem ignoresWire_weight : weight.IgnoresWire := by
  have hall : ∀ c ∈ Measure.wireChars, heft (escapeChar c) = 0 := by decide
  exact hall

theorem ignoresWire_excess (bound : Nat) : (excess bound).IgnoresWire := fun _ _ => rfl

theorem heft_trim_le (cs : List Char) : heft (Text.trim cs) ≤ heft cs := by
  obtain ⟨pre, post, -, -, heq, -⟩ := Text.exists_trimWith Text.isBlank cs
  have hall := congrArg heft heq
  rw [heft_append, heft_append] at hall
  rw [Text.trim]
  omega

/-- An envelope that is read from a text is decoded from a cell that the cut object gives, as it
stands or mended. -/
theorem exists_cell_of_envelope? {cs : List Char} {envelope : Envelope}
    (h : envelope? (.text (String.ofList cs)) = some envelope) :
    ∃ object cell, firstObject? (Text.trim (unfenced cs)) = some object ∧
      (Json.read object = .ok cell ∨ Json.read (mended object) = .ok cell) ∧
      Envelope.decode cell = .ok envelope := by
  rw [envelope?_text] at h
  obtain ⟨cell, hcell, henvelope⟩ := Option.bind_eq_some_iff.mp h
  obtain ⟨object, hobject, hread⟩ := Option.bind_eq_some_iff.mp hcell
  refine ⟨object, cell, hobject, ?_, envelopeOf?_eq_some_iff.mp henvelope⟩
  rw [Option.or_eq_some_iff, read?_eq_some_iff, read?_eq_some_iff] at hread
  exact hread.imp_right And.right

/-- An envelope weighs no more than the object that it is read from, and its integers are short. -/
theorem weight_le_of_read {object : List Char} {cell : Cell} {envelope : Envelope}
    (hread : Json.read object = .ok cell ∨ Json.read (mended object) = .ok cell)
    (hdecode : Envelope.decode cell = .ok envelope) :
    weight.total envelope.encode ≤ heft object ∧
      ∀ part ∈ envelope.encode.parts, part.IsShort := by
  have hweight := Envelope.total_encode_le ignoresWire_weight hdecode
  have hcell : weight.total cell ≤ heft object ∧
      (excess (10 ^ Numeral.maxIntegerDigits)).total cell = 0 := by
    rcases hread with hread | hread
    · exact ⟨total_weight_le_of_read hread, total_excess_of_read hread⟩
    · -- the mended object is read instead, but mending adds no weight
      exact ⟨Nat.le_trans (total_weight_le_of_read hread) (heft_mended_le object),
        total_excess_of_read hread⟩
  have hexcess := Envelope.total_encode_le (ignoresWire_excess (10 ^ Numeral.maxIntegerDigits)) hdecode
  rw [hcell.2] at hexcess
  exact ⟨Nat.le_trans hweight hcell.1,
    isShort_of_total_excess (Nat.le_refl _) (Nat.le_zero.mp hexcess)⟩

/-- What is cut out of a text in braces is all of it if it weighs as much. -/
theorem eq_of_heft_le {inner before object after : List Char} (hbefore : '{' ∉ before)
    (h : '{' :: (inner ++ ['}']) = before ++ object ++ after)
    (hheft : heft ('{' :: (inner ++ ['}'])) ≤ heft object) : object = '{' :: (inner ++ ['}']) := by
  obtain rfl : before = [] := by
    cases before with
    | nil => rfl
    | cons b before =>
      obtain ⟨rfl, -⟩ := List.cons.inj h
      exact absurd List.mem_cons_self hbefore
  rcases List.eq_nil_or_concat after with rfl | ⟨rest, last, rfl⟩
  · simpa using h.symm
  · -- the closing brace would not be in the object, but it weighs something
    have hlast := congrArg List.getLast? h
    rw [List.concat_eq_append, ← List.append_assoc, List.getLast?_concat, ← List.cons_append,
      List.getLast?_concat] at hlast
    rw [h, List.concat_eq_append, ← Option.some.inj hlast] at hheft
    have hbrace : heft ['}'] = 1 := by decide
    simp only [heft_append, hbrace] at hheft
    omega

/-- If an envelope is read from its printed record, the record is intact and its integers are
short. -/
theorem isIntact_of_reads {envelope : Envelope} (hexact : ∀ part ∈ envelope.encode.parts, part.IsExact)
    (h : envelope? (.text (String.ofList (print envelope.encode))) = some envelope) :
    IsIntact (print envelope.encode) ∧ ∀ part ∈ envelope.encode.parts, part.IsShort := by
  obtain ⟨object, cell, hobject, hread, hdecode⟩ := exists_cell_of_envelope? h
  obtain ⟨hweight, hshort⟩ := weight_le_of_read hread hdecode
  rw [← heft_print hexact] at hweight
  obtain ⟨inner, hprint⟩ : ∃ inner, print envelope.encode = '{' :: (inner ++ ['}']) :=
    ⟨_, rfl⟩
  generalize print envelope.encode = text at *
  obtain ⟨hbalanced, before, after, htrimmed, hbefore⟩ := exists_of_firstObject? hobject
  have hcut : heft object ≤ heft (Text.trim (unfenced text)) := by
    rw [htrimmed, heft_append, heft_append]
    omega
  -- so no weight is lost on the way, and with it no fence and nothing after the object
  have hfence : ¬ "```".toList <:+: text := by
    intro hticks
    have hlost : heft (unfenced text) < heft text := countP_unfenced_lt (by decide) hticks
    have := heft_trim_le (unfenced text)
    omega
  have hkept : Text.trim (unfenced text) = text := by
    rw [unfenced_of_unticked hfence, hprint]
    exact Text.trimWith_of_isTrimmed (isTrimmed_of_braces inner)
  rw [hkept] at htrimmed hcut
  have hwhole : object = text := by
    rw [hprint] at htrimmed hweight ⊢
    exact eq_of_heft_le hbefore htrimmed hweight
  exact ⟨⟨hwhole ▸ hbalanced, hfence⟩, hshort⟩

/-! ## What is read back -/

/-- A writable envelope is read back from its printed record, in whatever reply, exactly if the record
is intact and its integers are short. An object that is written otherwise is read back too if it is
intact, and it is if its texts have no braces and no back ticks. -/
theorem envelope_is_read_back_iff {envelope : Envelope} (h : IsWritable envelope) :
    (Reads (print envelope.encode) envelope ↔
      IsIntact (print envelope.encode) ∧ ∀ part ∈ envelope.encode.parts, part.IsShort) ∧
    ∀ cell object, Writes cell object → Envelope.decode cell = .ok envelope →
      (∀ part ∈ cell.parts, part.HasDistinctNames ∧ part.IsShort) →
      (IsIntact object → Reads object envelope) ∧
      (Text.IsTrimmed isSpace object → marks.total cell = 0 → Reads object envelope) := by
  refine ⟨⟨fun hreads => ?_, fun ⟨hintact, hshort⟩ => ?_⟩, ?_⟩
  · -- a reply of nothing but the object is enough to tell
    have halone := hreads [] [] (by simp)
    rw [List.nil_append, List.append_nil] at halone
    exact isIntact_of_reads h.exact halone
  · exact reads_of_isIntact (writes_print h.exact) h.distinct (Envelope.decode_encode h.named)
      hshort hintact
  · intro cell object hwritten hdecode hparts
    have hintact : IsIntact object → Reads object envelope :=
      reads_of_isIntact hwritten (fun part hpart => (hparts part hpart).1) hdecode
        fun part hpart => (hparts part hpart).2
    refine ⟨hintact, fun htrimmed hmarks => hintact ?_⟩
    obtain ⟨entries, rfl, -⟩ := Envelope.decode_eq_ok_iff.mp hdecode
    exact isIntact_of_writes hwritten htrimmed hmarks

/-- An envelope that asks for equality with a text. -/
def asking (field text : String) : Envelope :=
  ⟨"tasks", .leaf ⟨field, .compare .eq (.text text)⟩⟩

theorem isWritable_asking {field : String} (h : field ≠ "") (text : String) :
    IsWritable (asking field text) := by
  constructor
  · simpa [asking, Filter.leaves] using h
  · simp [asking, Envelope.encode, Filter.encode, Leaf.encode, Test.operands, Test.operand,
      Cell.parts, Cell.entryParts, Cell.IsExact]
  · simp [asking, Envelope.encode, Filter.encode, Leaf.encode, Test.operands, Test.operand,
      Cell.parts, Cell.entryParts, Cell.HasDistinctNames]

theorem isShort_asking (field text : String) :
    ∀ part ∈ (asking field text).encode.parts, part.IsShort := by
  simp [asking, Envelope.encode, Filter.encode, Leaf.encode, Test.operands, Test.operand,
    Cell.parts, Cell.entryParts, Cell.IsShort]

/-- A time of day is read back; a closing brace is not, since the object is cut short at it. -/
theorem time_is_read_back_but_brace_is_not :
    Reads (print (asking "Start" "10:30").encode) (asking "Start" "10:30") ∧
      ¬ Reads (print (asking "Name" "\x7d").encode) (asking "Name" "\x7d") ∧
      envelope? (.text (String.ofList (print (asking "Name" "\x7d").encode))) = none := by
  have htime := isWritable_asking (show "Start" ≠ "" by decide) "10:30"
  have hbrace := isWritable_asking (show "Name" ≠ "" by decide) "\x7d"
  refine ⟨?_, fun hreads => ?_, by decide +kernel⟩
  · exact ((envelope_is_read_back_iff htime).2 _ _ (writes_print htime.exact)
      (Envelope.decode_encode htime.named)
      fun part hpart => ⟨htime.distinct part hpart, isShort_asking _ _ part hpart⟩).2
      ⟨by decide +kernel, by decide +kernel⟩ (by decide +kernel)
  · obtain ⟨tail, htail, hcloses⟩ := ((envelope_is_read_back_iff hbrace).1.mp hreads).1.balanced
    have hbalance := hcloses.balance
    rw [← (List.cons.inj htail).2] at hbalance
    revert hbalance
    decide +kernel

end SheetQuery.Reply
