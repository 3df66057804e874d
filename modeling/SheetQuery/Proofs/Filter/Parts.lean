import SheetQuery.Filter.Repair
import SheetQuery.Filter.Wire

/-!
# The parts of a filter

Every tree in a filter, itself included, with what stands directly under it.

* `encode_of_isComposite`: the record of a composition lists its children;
* `children_ne_nil_of_prune?`: no composition that pruning keeps is empty, however deep.
-/

namespace SheetQuery.Filter

/-- The trees directly under a filter. -/
def children : Filter → List Filter
  | leaf _ => []
  | conj children => children
  | disj children => children
  | neg child => [child]

mutual

/-- The trees in a filter, itself first. -/
def parts : Filter → List Filter
  | leaf l => [leaf l]
  | conj children => conj children :: partsAll children
  | disj children => disj children :: partsAll children
  | neg child => neg child :: parts child

def partsAll : List Filter → List Filter
  | [] => []
  | child :: children => parts child ++ partsAll children

end

theorem encodeAll_eq_map (children : List Filter) : encodeAll children = children.map encode := by
  induction children with
  | nil => rfl
  | cons child children ih => rw [encodeAll, ih, List.map_cons]

/-- The record of a composition lists its children. -/
theorem encode_of_isComposite {filter : Filter} (h : filter.isComposite = true) :
    ∃ op, filter.encode =
      .record [("op", .text op), ("children", .list (filter.children.map encode))] := by
  cases filter with
  | leaf l => cases h
  | conj children => exact ⟨"and", by rw [encode, encodeAll_eq_map, Filter.children]⟩
  | disj children => exact ⟨"or", by rw [encode, encodeAll_eq_map, Filter.children]⟩
  | neg child => exact ⟨"not", by rw [encode, Filter.children, List.map_singleton]⟩

/-! ## Pruning -/

variable {columns : List String}

mutual

/-- No composition that pruning keeps is empty. -/
theorem children_ne_nil_of_prune? : ∀ {filter kept : Filter},
    filter.prune? columns = some kept →
      ∀ part ∈ kept.parts, part.isComposite = true → part.children ≠ []
  | leaf l, kept, h => by
    rw [prune?] at h
    split at h
    · rw [← Option.some.inj h]
      intro part hpart hcomposite
      rw [List.mem_singleton.mp hpart] at hcomposite
      cases hcomposite
    · cases h
  | conj children, kept, h => by
    rw [prune?] at h
    split at h
    · cases h
    · next hne =>
      rw [← Option.some.inj h]
      rintro part (_ | ⟨_, hpart⟩) hcomposite
      · exact hne
      · exact children_ne_nil_of_mem_pruneAll part hpart hcomposite
  | disj children, kept, h => by
    rw [prune?] at h
    split at h
    · cases h
    · next hne =>
      rw [← Option.some.inj h]
      rintro part (_ | ⟨_, hpart⟩) hcomposite
      · exact hne
      · exact children_ne_nil_of_mem_pruneAll part hpart hcomposite
  | neg child, kept, h => by
    obtain ⟨inner, hinner, rfl⟩ := Option.map_eq_some_iff.mp h
    rintro part (_ | ⟨_, hpart⟩) hcomposite
    · exact List.cons_ne_nil _ _
    · exact children_ne_nil_of_prune? hinner part hpart hcomposite

theorem children_ne_nil_of_mem_pruneAll : ∀ {children : List Filter},
    ∀ part ∈ partsAll (pruneAll columns children), part.isComposite = true → part.children ≠ []
  | [], part, hpart, _ => by cases hpart
  | child :: children, part, hpart, hcomposite => by
    rw [pruneAll] at hpart
    split at hpart
    · next kept hkept =>
      rw [partsAll, List.mem_append] at hpart
      rcases hpart with hpart | hpart
      · exact children_ne_nil_of_prune? hkept part hpart hcomposite
      · exact children_ne_nil_of_mem_pruneAll part hpart hcomposite
    · exact children_ne_nil_of_mem_pruneAll part hpart hcomposite

end

end SheetQuery.Filter
