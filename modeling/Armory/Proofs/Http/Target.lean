import Mathlib.Data.List.TakeWhile
import Armory.Http.Target

/-!
# Targets made of segments

A target that is written as segments, each after a slash, is cut into these segments again, if none of them holds a
character that ends a segment.
-/

namespace Armory

namespace Text

variable {sep : Char} {s : List Char}

theorem splitAt_of_not_mem (h : sep ∉ s) : splitAt sep s = [s] := by
  induction s with
  | nil => rfl
  | cons c s ih =>
    rw [List.mem_cons, not_or] at h
    rw [splitAt, if_neg (Ne.symm h.1), ih h.2]

theorem splitAt_append_cons (h : sep ∉ s) (rest : List Char) :
    splitAt sep (s ++ sep :: rest) = s :: splitAt sep rest := by
  induction s with
  | nil => simp [splitAt]
  | cons c s ih =>
    rw [List.mem_cons, not_or] at h
    rw [List.cons_append, splitAt, if_neg (Ne.symm h.1), ih h.2]

/-- Pieces with a separator before each but the first are split into these pieces. -/
theorem splitAt_flatMap {rest : List (List Char)} (h : ∀ piece ∈ s :: rest, sep ∉ piece) :
    splitAt sep (s ++ rest.flatMap fun piece => sep :: piece) = s :: rest := by
  induction rest generalizing s with
  | nil => simpa using splitAt_of_not_mem (h s List.mem_cons_self)
  | cons piece rest ih =>
    rw [List.flatMap_cons, List.cons_append, splitAt_append_cons (h s List.mem_cons_self),
      ih fun p hp => h p (List.mem_cons_of_mem _ hp)]

end Text

namespace Http.Target

/-- The characters of a segment: none of them ends it. -/
def IsSegment (s : List Char) : Prop := ∀ c ∈ s, c ≠ '/' ∧ c ≠ '?' ∧ c ≠ '#'

instance (s : List Char) : Decidable (IsSegment s) :=
  List.decidableBAll (fun c => c ≠ '/' ∧ c ≠ '?' ∧ c ≠ '#') s

/-- Segments, each after a slash. -/
def ofSegments (segments : List (List Char)) : String := String.ofList (segments.flatMap fun s => '/' :: s)

variable {segments : List (List Char)}

theorem path_ofSegments (h : ∀ s ∈ segments, IsSegment s) :
    path (ofSegments segments) = segments.flatMap fun s => '/' :: s := by
  have plain : ∀ c ∈ segments.flatMap fun s => '/' :: s, (c != '?' && c != '#') = true := by
    intro c hc
    obtain ⟨s, hs, hc⟩ := List.mem_flatMap.1 hc
    rcases List.mem_cons.1 hc with rfl | hc
    · decide
    · simpa using (h s hs c hc).2
  have relative : withoutAuthority (segments.flatMap fun s => '/' :: s) =
      segments.flatMap fun s => '/' :: s := by
    cases segments with
    | nil => rfl
    | cons s rest => simp [withoutAuthority, isSchemeChar, Text.afterStart?, Char.isAlphanum]
  rw [path, ofSegments, String.toList_ofList, relative, List.takeWhile_eq_self_iff]
  exact plain

/-- What is written as segments is cut into them. -/
theorem segments?_ofSegments {s : List Char} (h : ∀ piece ∈ s :: segments, IsSegment piece) :
    segments? (ofSegments (s :: segments)) = some (s :: segments) := by
  have apart : ∀ piece ∈ s :: segments, '/' ∉ piece := fun piece hp slash => (h piece hp '/' slash).1 rfl
  rw [segments?, path_ofSegments h, List.flatMap_cons, List.cons_append]
  exact congrArg some (Text.splitAt_flatMap apart)

end Http.Target
end Armory
