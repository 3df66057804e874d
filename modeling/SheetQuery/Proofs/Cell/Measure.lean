import Mathlib.Algebra.GroupWithZero.Nat
import SheetQuery.Cell.Basic

/-!
# Measures of cells

An amount counted over all texts, integers and records of a cell. What a cell is taken from has at
least the amount that the cell has, so a measure tells what cannot be gained on the way.

* `Measure.total`: the amount of a cell;
* `entryTotal_put_le`: setting an entry adds no more than the entry has;
* `sum_under_le`: what stands under different names has no more than all entries together.
-/

namespace SheetQuery

/-- An amount for each character of a text, for each integer and for each record. -/
structure Measure where
  char : Char → Nat
  int : Int → Nat
  record : Nat

namespace Measure

variable (m : Measure)

def ofText (s : String) : Nat := (s.toList.map m.char).sum

mutual

/-- The amount of a cell. -/
def total : Cell → Nat
  | .int n => m.int n
  | .text s => m.ofText s
  | .list items => itemTotal items
  | .record entries => m.record + entryTotal entries
  | _ => 0

def itemTotal : List Cell → Nat
  | [] => 0
  | item :: items => total item + itemTotal items

def entryTotal : List (String × Cell) → Nat
  | [] => 0
  | (name, cell) :: entries => m.ofText name + total cell + entryTotal entries

end

@[simp] theorem total_null : m.total .null = 0 := rfl

@[simp] theorem total_text (s : String) : m.total (.text s) = m.ofText s := rfl

@[simp] theorem total_list (items : List Cell) : m.total (.list items) = m.itemTotal items := rfl

@[simp] theorem total_record (entries : Entries) :
    m.total (.record entries) = m.record + m.entryTotal entries := rfl

@[simp] theorem itemTotal_nil : m.itemTotal [] = 0 := rfl

@[simp] theorem itemTotal_cons (item : Cell) (items : List Cell) :
    m.itemTotal (item :: items) = m.total item + m.itemTotal items := rfl

@[simp] theorem entryTotal_nil : m.entryTotal [] = 0 := rfl

@[simp] theorem entryTotal_cons (name : String) (cell : Cell) (entries : Entries) :
    m.entryTotal ((name, cell) :: entries) = m.ofText name + m.total cell + m.entryTotal entries :=
  rfl

@[simp] theorem itemTotal_append (items others : List Cell) :
    m.itemTotal (items ++ others) = m.itemTotal items + m.itemTotal others := by
  induction items with
  | nil => simp
  | cons item items ih => simp [ih, Nat.add_assoc]

@[simp] theorem itemTotal_reverse (items : List Cell) :
    m.itemTotal items.reverse = m.itemTotal items := by
  induction items with
  | nil => rfl
  | cons item items ih => simp [ih, Nat.add_comm]

@[simp] theorem entryTotal_append (entries others : Entries) :
    m.entryTotal (entries ++ others) = m.entryTotal entries + m.entryTotal others := by
  induction entries with
  | nil => simp
  | cons entry entries ih =>
    obtain ⟨name, cell⟩ := entry
    simp [ih, Nat.add_assoc]

/-- Setting an entry adds its name and its cell at most. -/
theorem entryTotal_put_le (name : String) (cell : Cell) (entries : Entries) :
    m.entryTotal (Entries.put name cell entries) ≤
      m.entryTotal entries + m.ofText name + m.total cell := by
  induction entries with
  | nil => simp [Entries.put]
  | cons entry entries ih =>
    obtain ⟨other, old⟩ := entry
    rw [Entries.put]
    split
    · next heq =>
      simp only [entryTotal_cons]
      omega
    · simp only [entryTotal_cons]
      omega

/-! ## Entries by their names -/

/-- The amount of what stands under a name; none if nothing does. -/
def under (entries : Entries) (name : String) : Nat := ((Entries.get? entries name).map m.total).getD 0

theorem under_of_get? {entries : Entries} {name : String} {cell : Cell}
    (h : Entries.get? entries name = some cell) : m.under entries name = m.total cell := by
  rw [under, h]
  rfl

theorem under_cons (name other : String) (cell : Cell) (entries : Entries) :
    m.under ((other, cell) :: entries) name =
      if name = other then m.total cell else m.under entries name := by
  rw [under, Entries.get?, List.lookup_cons]
  split
  · next heq => rw [if_pos (by simpa using heq), Option.map_some, Option.getD_some]
  · next hne => rw [if_neg (by simpa using hne), under, Entries.get?]

/-- Of different names one at most is that of the first entry. -/
theorem sum_under_cons_le {names : List String} (h : names.Nodup) (other : String) (cell : Cell)
    (entries : Entries) : (names.map (m.under ((other, cell) :: entries))).sum ≤
      m.total cell + (names.map (m.under entries)).sum := by
  induction names with
  | nil => simp
  | cons name names ih =>
    obtain ⟨hname, hnames⟩ := List.nodup_cons.mp h
    rw [List.map_cons, List.map_cons, List.sum_cons, List.sum_cons, under_cons]
    split
    · next heq =>
      -- the first entry has this name, so it has none of the others
      have hrest : names.map (m.under ((other, cell) :: entries)) = names.map (m.under entries) := by
        apply List.map_congr_left
        intro another hanother
        rw [under_cons, if_neg]
        rintro rfl
        exact hname (heq ▸ hanother)
      rw [hrest]
      omega
    · have := ih hnames
      omega

/-- What stands under different names has no more than all entries together. -/
theorem sum_under_le {names : List String} (h : names.Nodup) (entries : Entries) :
    (names.map (m.under entries)).sum ≤ m.entryTotal entries := by
  induction entries with
  | nil =>
    have hnone : ∀ names : List String, (names.map (m.under [])).sum = 0 := by
      intro names
      induction names with
      | nil => rfl
      | cons name names ih =>
        rw [List.map_cons, List.sum_cons, ih]
        rfl
    rw [hnone]
    exact Nat.zero_le _
  | cons entry entries ih =>
    obtain ⟨other, cell⟩ := entry
    have := m.sum_under_cons_le h other cell entries
    rw [entryTotal_cons]
    omega

end Measure

end SheetQuery
