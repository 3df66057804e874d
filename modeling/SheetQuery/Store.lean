import SheetQuery.Entity

/-!
# The row store

The base rows of the three sheets, and for each sheet perhaps a filtered view, shown in place of the
base rows until it is cleared. Searches write views only; replacing the base rows of a sheet drops
its view.
-/

namespace SheetQuery

/-- Base rows and filtered views by entity. -/
structure Store where
  rows : Entity → List Row
  filtered : Entity → Option (List Row)

namespace Store

/-- The store of empty sheets. -/
def empty : Store := ⟨fun _ => [], fun _ => none⟩

/-- Replaces the base rows of an entity and drops its view. -/
def setRows (store : Store) (entity : Entity) (rows : List Row) : Store :=
  ⟨Entity.update store.rows entity rows, Entity.update store.filtered entity none⟩

/-- Sets the view of an entity, or clears it. -/
def setFiltered (store : Store) (entity : Entity) (view : Option (List Row)) : Store :=
  { store with filtered := Entity.update store.filtered entity view }

/-- What is shown of an entity: its view or, without one, its base rows. -/
def visible (store : Store) (entity : Entity) : List Row :=
  (store.filtered entity).getD (store.rows entity)

/-- The store of given sheets. -/
def ofSheets (sheets : List (Entity × List Row)) : Store :=
  sheets.foldl (fun store sheet => store.setRows sheet.1 sheet.2) empty

end Store

end SheetQuery
