import SheetQuery.Assistant.Reply
import SheetQuery.Proofs.Json.Weight

/-!
# What mending adds to an object

The keys that are quoted were there before, and so were the brackets that a trailing comma is dropped
from. So a mended object has no more of the characters that a text is weighed by.

* `exists_key?`, `exists_trailingComma?`: where the two mendings find what they keep;
* `heft_mended_le`: mending adds no weight.
-/

namespace SheetQuery

/-- If no piece has fewer characters of a kind than what replaces it, the text has no fewer. -/
theorem Text.countP_substituteAfter_le {p : Char → Bool}
    {recognise : Option Char → List Char → Option (Nat × List Char)}
    (h : ∀ before c cs more new, recognise before (c :: cs) = some (more, new) →
      new.countP p + (cs.drop more).countP p ≤ (c :: cs).countP p) (cs : List Char) :
    ∀ before skip, (substituteAfter recognise before skip cs).countP p ≤ (cs.drop skip).countP p := by
  induction cs with
  | nil => exact fun _ _ => Nat.zero_le _
  | cons c cs ih =>
    intro before skip
    cases skip with
    | succ skip => exact ih (some c) skip
    | zero =>
      -- a piece pays for what replaces it, and the scan goes on after the piece
      rw [substituteAfter, List.drop_zero]
      cases hpiece : recognise before (c :: cs) with
      | none =>
        have hrest := ih (some c) 0
        rw [List.drop_zero] at hrest
        simp only [List.countP_cons]
        omega
      | some found =>
        obtain ⟨more, new⟩ := found
        have hrest := ih (some c) more
        have hnew := h before c cs more new hpiece
        simp only [List.countP_append]
        omega

namespace Reply

open Json
open Text (isBlank isWordChar)

/-! ## Keys -/

theorem takeWord?_spec {cs word rest : List Char} (h : takeWord? cs = some (word, rest)) :
    cs = word ++ rest ∧ ∀ c ∈ word, isWordChar c = true := by
  unfold takeWord? at h
  rw [List.span_eq_takeWhile_dropWhile] at h
  split at h
  · cases h
  · obtain ⟨rfl, rfl⟩ := Prod.mk.inj (Option.some.inj h)
    exact ⟨List.takeWhile_append_dropWhile.symm, List.all_eq_true.mp List.all_takeWhile⟩

theorem afterColon?_spec {cs rest : List Char} (h : afterColon? cs = some rest) :
    ∃ blanks, cs = blanks ++ ':' :: rest ∧ ∀ c ∈ blanks, isBlank c = true := by
  unfold afterColon? at h
  split at h
  · next hdrop =>
    refine ⟨cs.takeWhile isBlank, ?_, List.all_eq_true.mp List.all_takeWhile⟩
    rw [← Option.some.inj h, ← hdrop, List.takeWhile_append_dropWhile]
  · cases h

/-- The text of a key up to the rest after its colon: a word between the same quotes, and blanks. -/
structure IsKeyText (cs quotes word blanks rest : List Char) : Prop where
  text : cs = quotes ++ word ++ quotes ++ blanks ++ ':' :: rest
  quote : ∀ c ∈ quotes, c = '"' ∨ c = '\''
  plain : ∀ c ∈ word, isWordChar c = true
  blank : ∀ c ∈ blanks, isBlank c = true

theorem exists_quotedKey? {mark : Char} (hmark : mark = '"' ∨ mark = '\'')
    {cs word rest : List Char} (h : quotedKey? mark cs = some (word, rest)) :
    ∃ quotes blanks, IsKeyText cs quotes word blanks rest := by
  unfold quotedKey? at h
  split at h
  · cases h
  · next c cs =>
    split at h
    · next hopen =>
      obtain ⟨⟨taken, left⟩, htaken, hleft⟩ := Option.bind_eq_some_iff.mp h
      dsimp only at hleft
      split at hleft
      · cases hleft
      · next d left =>
        split at hleft
        · next hclose =>
          obtain ⟨more, hcolon, heq⟩ := Option.map_eq_some_iff.mp hleft
          obtain ⟨rfl, rfl⟩ := Prod.mk.inj heq
          obtain ⟨rfl, hword⟩ := takeWord?_spec htaken
          obtain ⟨blanks, rfl, hblanks⟩ := afterColon?_spec hcolon
          exact ⟨[mark], blanks, by simp [hopen, hclose], List.forall_mem_singleton.mpr hmark, hword,
            hblanks⟩
        · cases hleft
    · cases h

theorem exists_bareKey? {before : Option Char} {cs word rest : List Char}
    (h : bareKey? before cs = some (word, rest)) :
    ∃ quotes blanks, IsKeyText cs quotes word blanks rest := by
  unfold bareKey? at h
  split at h
  · obtain ⟨⟨taken, left⟩, htaken, hleft⟩ := Option.bind_eq_some_iff.mp h
    obtain ⟨more, hcolon, heq⟩ := Option.map_eq_some_iff.mp hleft
    obtain ⟨rfl, rfl⟩ := Prod.mk.inj heq
    obtain ⟨rfl, hword⟩ := takeWord?_spec htaken
    obtain ⟨blanks, rfl, hblanks⟩ := afterColon?_spec hcolon
    exact ⟨[], blanks, by simp, nofun, hword, hblanks⟩
  · cases h

/-- A key and its colon stand at the start of the text, with the rest after them. -/
theorem exists_key? {before : Option Char} {cs word rest : List Char}
    (h : key? before cs = some (word, rest)) :
    ∃ quotes blanks, IsKeyText cs quotes word blanks rest := by
  unfold key? at h
  rw [Option.or_eq_some_iff, Option.or_eq_some_iff] at h
  rcases h with (h | ⟨-, h⟩) | ⟨-, h⟩
  · exact exists_quotedKey? (.inl rfl) h
  · exact exists_quotedKey? (.inr rfl) h
  · exact exists_bareKey? h

/-- Quoting keys adds no weight. -/
theorem heft_quoteKeys_le (cs : List Char) : heft (quoteKeys cs) ≤ heft cs := by
  refine Text.countP_substituteAfter_le (p := isHeavy) (fun before c cs more new h => ?_) cs none 0
  obtain ⟨⟨word, rest⟩, hkey, heq⟩ := Option.map_eq_some_iff.mp h
  obtain ⟨hmore, rfl⟩ := Prod.mk.inj heq
  obtain ⟨quotes, blanks, hcs, -⟩ := exists_key? hkey
  -- the piece that is replaced has at least its colon, so the rest is what is left of the text
  have hdrop : cs.drop more = rest := by
    have hlength := congrArg List.length hcs
    simp only [List.length_cons, List.length_append] at hlength hmore
    have hpiece : more + 1 = (quotes ++ word ++ quotes ++ blanks ++ [':']).length := by
      simp only [List.length_append, List.length_singleton]
      omega
    have hall : c :: cs = (quotes ++ word ++ quotes ++ blanks ++ [':']) ++ rest := by simp [hcs]
    rw [← List.drop_succ_cons, hall, hpiece, List.drop_left]
  have hmarks : isHeavy '"' = false ∧ isHeavy ':' = false := by decide
  rw [hcs, hdrop]
  simp [hmarks]
  omega

/-! ## Commas -/

/-- A trailing comma stands before blanks and a closing bracket. -/
theorem exists_trailingComma? {c : Char} {cs new : List Char} {more : Nat}
    (h : trailingComma? (c :: cs) = some (more, new)) :
    ∃ blanks d rest, cs = blanks ++ d :: rest ∧ more = blanks.length + 1 ∧ new = [d] := by
  unfold trailingComma? at h
  split at h
  · next cs' heq =>
    obtain ⟨-, rfl⟩ := List.cons.inj heq
    rw [List.span_eq_takeWhile_dropWhile] at h
    split at h
    · next blanks d rest hspan =>
      obtain ⟨hblanks, hrest⟩ := Prod.mk.inj hspan
      split at h
      · obtain ⟨hmore, hnew⟩ := Prod.mk.inj (Option.some.inj h)
        refine ⟨blanks, d, rest, ?_, hmore.symm, hnew.symm⟩
        rw [← hblanks, ← hrest, List.takeWhile_append_dropWhile]
      · cases h
    · cases h
  · cases h

/-- Dropping commas adds no weight. -/
theorem heft_dropTrailingCommas_le (cs : List Char) : heft (dropTrailingCommas cs) ≤ heft cs := by
  refine Text.countP_substituteAfter_le (p := isHeavy) (fun before c cs more new h => ?_) cs none 0
  obtain ⟨blanks, d, rest, rfl, rfl, rfl⟩ := exists_trailingComma? h
  have hdrop : (blanks ++ d :: rest).drop (blanks.length + 1) = rest := by simp
  rw [hdrop]
  simp only [List.countP_cons, List.countP_append, List.countP_nil]
  omega

/-- Mending adds no weight. -/
theorem heft_mended_le (cs : List Char) : heft (mended cs) ≤ heft cs :=
  Nat.le_trans (heft_dropTrailingCommas_le (quoteKeys cs)) (heft_quoteKeys_le cs)

end Reply

end SheetQuery
