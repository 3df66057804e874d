import SheetQuery.Proofs.Assistant.Cutting

/-!
# The first balanced object of a text

The scan for an object counts the braces that are open, and stops where none is left. A text comes
apart in at most one way into a part without opening braces, an object whose first brace is closed by
its last character and no earlier one, and a rest. The scan finds that object, and finds none in a
text that does not come apart so.

* `IsFirstObject`: the ways in which a text comes apart;
* `isBalanced_iff`: the object, in terms of how many braces its parts have;
* `IsFirstObject.unique`: there is one way at most;
* `first_object_is_first_balanced`: what the scan finds.
-/

namespace SheetQuery.Reply

variable {text before object after : List Char}

/-- Does a text come apart into an object, with no opening brace before it, and a rest? The object
starts with a brace and has as many closing braces as opening ones, but each shorter part at its start
has fewer. -/
structure IsFirstObject (text before object after : List Char) : Prop where
  text_eq : text = before ++ object ++ after
  unopened : '{' ∉ before
  opens : object.head? = some '{'
  balance : object.count '{' = object.count '}'
  pending : ∀ start rest, object = start ++ rest → start ≠ [] → rest ≠ [] →
    start.count '}' < start.count '{'

theorem isBalanced_iff : IsBalanced object ↔
    object.head? = some '{' ∧ object.count '{' = object.count '}' ∧
      ∀ start rest, object = start ++ rest → start ≠ [] → rest ≠ [] →
        start.count '}' < start.count '{' := by
  -- the first brace is left out on one side, which counts it as open from the beginning
  have hopen : ∀ cs : List Char, ('{' :: cs).count '{' = cs.count '{' + 1 := fun cs => by simp
  have hclose : ∀ cs : List Char, ('{' :: cs).count '}' = cs.count '}' := fun cs => by simp
  constructor
  · rintro ⟨tail, rfl, hbalance, hearlier⟩
    refine ⟨rfl, by rw [hopen, hclose]; omega, fun start rest hsplit hstart hrest => ?_⟩
    cases start with
    | nil => exact absurd rfl hstart
    | cons c start =>
      obtain ⟨rfl, htail⟩ := List.cons.inj hsplit
      have := hearlier start rest htail hrest
      rw [hopen, hclose]
      omega
  · rintro ⟨hhead, hbalance, hpending⟩
    obtain ⟨tail, rfl⟩ := List.head?_eq_some_iff.mp hhead
    rw [hopen, hclose] at hbalance
    refine ⟨tail, rfl, by omega, fun start rest hsplit hrest => ?_⟩
    have := hpending ('{' :: start) rest (by rw [hsplit, List.cons_append]) (by simp) hrest
    rw [hopen, hclose] at this
    omega

theorem isFirstObject_iff : IsFirstObject text before object after ↔
    text = before ++ object ++ after ∧ '{' ∉ before ∧ IsBalanced object := by
  rw [isBalanced_iff]
  exact ⟨fun ⟨htext, hbefore, hopens, hbalance, hpending⟩ =>
      ⟨htext, hbefore, hopens, hbalance, hpending⟩,
    fun ⟨htext, hbefore, hopens, hbalance, hpending⟩ =>
      ⟨htext, hbefore, hopens, hbalance, hpending⟩⟩

/-- The scan is sound and complete. -/
theorem firstObject?_eq_some_iff :
    firstObject? text = some object ↔ ∃ before after, IsFirstObject text before object after := by
  constructor
  · intro h
    obtain ⟨hbalanced, before, after, htext, hbefore⟩ := exists_of_firstObject? h
    exact ⟨before, after, isFirstObject_iff.mpr ⟨htext, hbefore, hbalanced⟩⟩
  · rintro ⟨before, after, h⟩
    obtain ⟨rfl, hbefore, hbalanced⟩ := isFirstObject_iff.mp h
    exact firstObject?_append hbefore hbalanced

/-- What stands before the object is all that stands before the first opening brace. -/
theorem IsFirstObject.before_eq (h : IsFirstObject text before object after) :
    before = text.takeWhile (· ≠ '{') := by
  obtain ⟨tail, rfl⟩ := List.head?_eq_some_iff.mp h.opens
  have hbefore : ∀ c ∈ before, decide (c ≠ '{') = true := by
    intro c hc
    rw [decide_eq_true_iff]
    rintro rfl
    exact h.unopened hc
  rw [h.text_eq, List.append_assoc, List.takeWhile_append_of_pos hbefore]
  simp

/-- A text comes apart in one way at most. -/
theorem IsFirstObject.unique {before' object' after' : List Char}
    (h : IsFirstObject text before object after) (h' : IsFirstObject text before' object' after') :
    before = before' ∧ object = object' ∧ after = after' := by
  have hbefore : before = before' := h.before_eq.trans h'.before_eq.symm
  have hobject : object = object' := by
    apply Option.some.inj
    rw [← firstObject?_eq_some_iff.mpr ⟨before, after, h⟩,
      ← firstObject?_eq_some_iff.mpr ⟨before', after', h'⟩]
  subst hbefore hobject
  exact ⟨rfl, rfl, List.append_cancel_left (h.text_eq.symm.trans h'.text_eq)⟩

/-- **The scan finds the first balanced object.** It finds exactly the object that the text comes apart
into, there is one such object at most, and nothing is found exactly if there is none. -/
theorem first_object_is_first_balanced (text : List Char) :
    (∀ object, firstObject? text = some object ↔
      ∃ before after, IsFirstObject text before object after) ∧
    (∀ before object after before' object' after', IsFirstObject text before object after →
      IsFirstObject text before' object' after' →
        before = before' ∧ object = object' ∧ after = after') ∧
    (firstObject? text = none ↔ ¬ ∃ before object after, IsFirstObject text before object after) := by
  refine ⟨fun object => firstObject?_eq_some_iff, fun _ _ _ _ _ _ h h' => h.unique h', ?_⟩
  constructor
  · rintro hnone ⟨before, object, after, h⟩
    rw [firstObject?_eq_some_iff.mpr ⟨before, after, h⟩] at hnone
    cases hnone
  · intro hnot
    rw [Option.eq_none_iff_forall_ne_some]
    intro object hsome
    obtain ⟨before, after, h⟩ := firstObject?_eq_some_iff.mp hsome
    exact hnot ⟨before, object, after, h⟩

/-- An object with another one in it, between a stray closing brace and a second object. -/
theorem nested_object_is_first_balanced :
    let before := "noise\x7d ".toList
    let object := "\x7b\"a\": \x7b\"b\": 1\x7d\x7d".toList
    let after := " tail \x7b\"c\": 2\x7d".toList
    let text := before ++ object ++ after
    IsFirstObject text before object after ∧
      ∀ before' object' after', IsFirstObject text before' object' after' →
        object' = object ∧ firstObject? text = some object' := by
  intro before object after text
  obtain ⟨hfound, hunique, -⟩ := first_object_is_first_balanced text
  have hscan : firstObject? text = some object := by decide +kernel
  have hparts : IsFirstObject text before object after :=
    isFirstObject_iff.mpr ⟨rfl, by decide, (exists_of_firstObject? hscan).1⟩
  refine ⟨hparts, fun before' object' after' h => ?_⟩
  exact ⟨(hunique _ _ _ _ _ _ h hparts).2.1, (hfound object').mpr ⟨before', after', h⟩⟩

end SheetQuery.Reply
