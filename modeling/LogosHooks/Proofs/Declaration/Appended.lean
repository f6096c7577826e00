import LogosHooks.Declaration.Argument
import LogosHooks.Proofs.Result
import LogosHooks.Proofs.Text.Words

/-!
Arguments one behind the other. Behind a text that has its segments, no segment lacks anything: at
most the name of the last one could still follow, and a word with a colon is no name. So such a word
begins a segment, as it does at the beginning of a text, and what was read is not read again.
-/
namespace LogosHooks

open Text

namespace SegmentStage

/-- Where the text may end, a word with a colon begins the next segment. -/
theorem next_of_finish {stage : SegmentStage} {last : List Text} (hlast : stage.finish = .ok last)
    {word : Text} (hcolon : ':' ∈ word) :
    stage.next word = (last ++ (start word).1, (start word).2) := by
  cases stage with
  | idle =>
    cases hlast
    rfl
  | keyword segment => cases hlast
  | unclosed segment => cases hlast
  | typed segment =>
    cases hlast
    have hcontains : word.contains ':' = true := List.contains_iff_mem.mpr hcolon
    rw [next, if_pos hcontains]
    rfl

/-- Behind words that are read, a word with a colon is read as at the beginning. -/
theorem run_append {stage : SegmentStage} {front : List Text} {out : List Text}
    (hfront : stage.run front = .ok out) {word : Text} (hcolon : ':' ∈ word) (rest : List Text) :
    stage.run (front ++ word :: rest) = (idle.run (word :: rest)).map (out ++ ·) := by
  induction front generalizing stage out with
  | nil =>
    have hstart : idle.next word = start word := rfl
    rw [List.nil_append, run, next_of_finish hfront hcolon, run, hstart, map_map]
    simp only [List.append_assoc]
  | cons first front ih =>
    obtain ⟨later, hlater, rfl⟩ := map_eq_ok_iff.mp hfront
    rw [List.cons_append, run, ih hlater, map_map]
    simp only [List.append_assoc]

end SegmentStage

open SegmentStage

/-- Reads a text behind other arguments, where no keyword may be missing. -/
def readLaterArguments (t : Text) : Except LineFault (List Argument) := do
  (← segments t).mapM (Argument.ofSegment false)

section

variable {a b : Text} {word : Text} {rest : List Text}

theorem segments_append (hb : words b = word :: rest) (hcolon : ':' ∈ word) {out : List Text}
    (ha : segments a = .ok out) : segments (a ++ ' ' :: b) = (segments b).map (out ++ ·) := by
  rw [segments, words_append_blank a b rfl, hb, run_append ha hcolon, segments, hb]

/-- Segments behind others are later segments, whether there are more of them or not. -/
theorem Argument.ofSegments_append {front : List Text} {args : List Argument}
    (hfront : Argument.ofSegments front = .ok args) (hne : args ≠ []) (later : List Text) :
    Argument.ofSegments (front ++ later) =
      (later.mapM (Argument.ofSegment false)).map (args ++ ·) := by
  cases front with
  | nil =>
    cases hfront
    exact absurd rfl hne
  | cons head tail =>
    obtain ⟨first, hfirst, hrest⟩ := bind_eq_ok_iff.mp hfront
    obtain ⟨others, hothers, heq⟩ := bind_eq_ok_iff.mp hrest
    cases heq
    rw [List.cons_append, Argument.ofSegments, hfirst, List.mapM_append, hothers]
    cases later.mapM (Argument.ofSegment false) <;> rfl

theorem readArguments_append (hb : words b = word :: rest) (hcolon : ':' ∈ word)
    {args : List Argument} (ha : readArguments a = .ok args) (hne : args ≠ []) :
    readArguments (a ++ ' ' :: b) = (readLaterArguments b).map (args ++ ·) := by
  obtain ⟨front, hfront, hargs⟩ := bind_eq_ok_iff.mp ha
  rw [readArguments, segments_append hb hcolon hfront, readLaterArguments]
  cases segments b with
  | error fault => rfl
  | ok later => exact Argument.ofSegments_append hargs hne later

end

/-- Behind a text that has its segments, a text whose first word has a colon is cut into the
segments it has by itself, or has the same fault. Behind arguments that were read, each of its
segments is read as a later one, and the arguments in front stay as they are. -/
theorem arguments_append {a b word : Text} {rest : List Text} (hb : words b = word :: rest)
    (hcolon : ':' ∈ word) :
    (∀ out, segments a = .ok out → segments (a ++ ' ' :: b) = (segments b).map (out ++ ·)) ∧
    ∀ args, readArguments a = .ok args → args ≠ [] →
      readArguments (a ++ ' ' :: b) = (readLaterArguments b).map (args ++ ·) :=
  ⟨fun _ ha => segments_append hb hcolon ha,
    fun _ ha hne => readArguments_append hb hcolon ha hne⟩

/-- The last name in front ends in a parenthesis, so the reading of its segment is still open where
the next one begins. -/
theorem arguments_append_block :
    let a := ":(void (^)(int)) block with:(id)f()".toList
    let b := "for: (int) n and :(id)m".toList
    let c := "for: (int) n and:(id) m".toList
    let front := [":(void (^)(int)) block".toList, "with:(id)f()".toList]
    let block : Argument := ⟨[], ⟨"void (^)(int)".toList, 0⟩, "block".toList⟩
    let f : Argument := ⟨"with".toList, ⟨"id".toList, 0⟩, "f()".toList⟩
    let n : Argument := ⟨"for".toList, ⟨"int".toList, 0⟩, "n".toList⟩
    let m : Argument := ⟨"and".toList, ⟨"id".toList, 0⟩, "m".toList⟩
    (words b = "for:".toList :: words "(int) n and :(id)m".toList ∧
      words c = "for:".toList :: words "(int) n and:(id) m".toList ∧ ':' ∈ "for:".toList ∧
      segments a = .ok front ∧ readArguments a = .ok [block, f]) ∧
    segments (a ++ ' ' :: c) = .ok (front ++ ["for: (int) n".toList, "and:(id) m".toList]) ∧
    readArguments (a ++ ' ' :: c) = .ok [block, f, n, m] ∧
    readArguments (a ++ ' ' :: b) = .error (.badArgument "and".toList) := by
  intro a b c front block f n m
  have hb : words b = "for:".toList :: words "(int) n and :(id)m".toList := by decide +kernel
  have hc : words c = "for:".toList :: words "(int) n and:(id) m".toList := by decide +kernel
  have hcolon : ':' ∈ "for:".toList := by decide
  have hfront : segments a = .ok front := by decide +kernel
  have hargs : readArguments a = .ok [block, f] := by decide +kernel
  have hsegments : segments c = .ok ["for: (int) n".toList, "and:(id) m".toList] := by
    decide +kernel
  have hlater : readLaterArguments c = .ok [n, m] := by decide +kernel
  have hfault : readLaterArguments b = .error (.badArgument "and".toList) := by decide +kernel
  obtain ⟨hsegs, hread⟩ := arguments_append (a := a) hc hcolon
  refine ⟨⟨hb, hc, hcolon, hfront, hargs⟩, ?_, ?_, ?_⟩
  · rw [hsegs front hfront, hsegments]
    rfl
  · rw [hread _ hargs (by decide), hlater]
    rfl
  · rw [(arguments_append hb hcolon).2 _ hargs (by decide), hfault]
    rfl

end LogosHooks
