import SheetQuery.Cell.Display

/-!
# Entities

The three kinds of sheet that a query can be about.

* `ofName?_name`: every entity is found by its name;
* `update_self`, `update_of_ne`: replacing the value of one entity leaves those of the others.
-/

namespace SheetQuery

/-- A kind of sheet. -/
inductive Entity where
  | clients | workers | tasks
deriving DecidableEq, Repr

namespace Entity

def all : List Entity := [clients, workers, tasks]

def name : Entity → String
  | clients => "clients"
  | workers => "workers"
  | tasks => "tasks"

def ofName? (label : String) : Option Entity := all.find? fun entity => entity.name == label

/-- The entity that a cell names. -/
def ofCell? : Cell → Option Entity
  | .text label => ofName? label
  | _ => none

/-- What is said of a value that names no entity. -/
def refusal (cell : Cell) : String := String.ofList cell.display ++ " is not a valid Entity"

theorem ofName?_name (entity : Entity) : ofName? entity.name = some entity := by
  cases entity <;> rfl

/-! ## Families over the entities -/

/-- A family of values with the one of an entity replaced. -/
def update {α : Type} (family : Entity → α) (entity : Entity) (value : α) : Entity → α :=
  fun other => if other = entity then value else family other

@[simp] theorem update_self {α : Type} (family : Entity → α) (entity : Entity) (value : α) :
    update family entity value entity = value := by
  simp [update]

@[simp] theorem update_of_ne {α : Type} {entity other : Entity} (family : Entity → α) (value : α)
    (h : other ≠ entity) : update family entity value other = family other := by
  simp [update, h]

end Entity

end SheetQuery
