import LogosHooks.Declaration.Line
import LogosHooks.Proofs.Text.Balance

/-!
What the reading of segments does to the words of a text. No word is lost: the segments have exactly
the words of the text, in their order. And a text `keyword:(type) name` is one segment, however it
is spaced, because the parentheses of its type hold it together.
-/
namespace LogosHooks

open Text

namespace SegmentStage

def advance : SegmentStage → List Text → List Text × SegmentStage
  | stage, [] => ([], stage)
  | stage, word :: rest =>
    ((stage.next word).1 ++ ((stage.next word).2.advance rest).1,
      ((stage.next word).2.advance rest).2)

theorem advance_append (stage : SegmentStage) (us vs : List Text) :
    stage.advance (us ++ vs) =
      ((stage.advance us).1 ++ ((stage.advance us).2.advance vs).1,
        ((stage.advance us).2.advance vs).2) := by
  induction us generalizing stage with
  | nil => rfl
  | cons u us ih => simp only [List.cons_append, advance, ih, List.append_assoc]

theorem advance_singleton (stage : SegmentStage) (word : Text) :
    stage.advance [word] = stage.next word := by
  simp [advance]

/-- A run reads all words and then finishes. -/
theorem run_eq_advance (stage : SegmentStage) (ws : List Text) :
    stage.run ws = (stage.advance ws).2.finish.map ((stage.advance ws).1 ++ ·) := by
  induction ws generalizing stage with
  | nil =>
    rw [run, advance]
    cases stage.finish <;> rfl
  | cons w ws ih =>
    rw [run, ih, advance]
    cases ((stage.next w).2.advance ws).2.finish with
    | error fault => rfl
    | ok last => simp [Except.map]

/-! ### No word is lost -/

def IsSegment (s : Text) : Prop := s ≠ [] ∧ unwords (words s) = s

theorem isSegment_of_isWord {w : Text} (hw : IsWord w) : IsSegment w :=
  ⟨hw.1, by rw [words_of_isWord hw, unwords_singleton]⟩

theorem IsSegment.words_ne_nil {s : Text} (hs : IsSegment s) : words s ≠ [] := by
  intro h
  have heq := hs.2
  rw [h] at heq
  exact hs.1 heq.symm

theorem words_extend (s : Text) {w : Text} (hw : IsWord w) :
    words (extend s w) = words s ++ [w] := by
  rw [extend, words_append_blank s w rfl, words_of_isWord hw]

theorem IsSegment.extend {s w : Text} (hs : IsSegment s) (hw : IsWord w) :
    IsSegment (SegmentStage.extend s w) := by
  refine ⟨by simp [SegmentStage.extend], ?_⟩
  rw [words_extend s hw, unwords_concat hs.words_ne_nil, hs.2]
  rfl

def held : SegmentStage → List Text
  | idle => []
  | keyword s | .unclosed s | typed s => words s

def Tidy : SegmentStage → Prop
  | idle => True
  | keyword s | .unclosed s | typed s => IsSegment s

/-- The complete segments and the one under way have the words `ws`. -/
structure Keeps (out : List Text × SegmentStage) (ws : List Text) : Prop where
  words_eq : out.1.flatMap words ++ out.2.held = ws
  complete : ∀ s ∈ out.1, IsSegment s
  tidy : out.2.Tidy

theorem settle_keeps {s : Text} (hs : IsSegment s) : Keeps (settle s) (words s) := by
  unfold settle
  split
  · exact ⟨rfl, by simp, hs⟩
  · split
    · exact ⟨rfl, by simp, hs⟩
    · exact ⟨by simp [held], by simpa using hs, trivial⟩

theorem start_keeps {w : Text} (hw : IsWord w) : Keeps (start w) [w] := by
  have hs := isSegment_of_isWord hw
  rw [← words_of_isWord hw]
  unfold start
  split
  · exact ⟨rfl, by simp, hs⟩
  · exact settle_keeps hs

/-- One word more, and no word is lost. -/
theorem next_keeps {stage : SegmentStage} (hstage : stage.Tidy) {w : Text} (hw : IsWord w) :
    Keeps (stage.next w) (stage.held ++ [w]) := by
  cases stage with
  | idle => exact start_keeps hw
  | keyword s =>
    change Keeps (settle (extend s w)) (words s ++ [w])
    rw [← words_extend s hw]
    exact settle_keeps (hstage.extend hw)
  | unclosed s =>
    change Keeps (settle (extend s w)) (words s ++ [w])
    rw [← words_extend s hw]
    exact settle_keeps (hstage.extend hw)
  | typed s =>
    change Keeps (if w.contains ':' then (s :: (start w).1, (start w).2)
      else ([extend s w], idle)) (words s ++ [w])
    have hstart := start_keeps hw
    split
    · refine ⟨?_, ?_, hstart.tidy⟩
      · rw [List.flatMap_cons, List.append_assoc, hstart.words_eq]
      · intro x hx
        rcases List.mem_cons.mp hx with rfl | hx
        · exact hstage
        · exact hstart.complete x hx
    · exact ⟨by simp [held, words_extend s hw], by simpa using hstage.extend hw, trivial⟩

theorem finish_keeps {stage : SegmentStage} (hstage : stage.Tidy) {last : List Text}
    (h : stage.finish = .ok last) : last.flatMap words = stage.held ∧ ∀ s ∈ last, IsSegment s := by
  cases stage with
  | idle =>
    cases h
    exact ⟨rfl, by simp⟩
  | keyword s => cases h
  | unclosed s => cases h
  | typed s =>
    cases h
    exact ⟨by simp [held], by simpa [Tidy] using hstage⟩

theorem run_keeps {stage : SegmentStage} (hstage : stage.Tidy) {ws : List Text}
    (hws : ∀ w ∈ ws, IsWord w) {out : List Text} (h : stage.run ws = .ok out) :
    out.flatMap words = stage.held ++ ws ∧ ∀ s ∈ out, IsSegment s := by
  induction ws generalizing stage out with
  | nil =>
    rw [List.append_nil]
    exact finish_keeps hstage h
  | cons w ws ih =>
    have hstep := next_keeps hstage (hws w List.mem_cons_self)
    rw [run] at h
    cases hrest : (stage.next w).2.run ws with
    | error fault =>
      rw [hrest] at h
      cases h
    | ok later =>
      rw [hrest] at h
      cases h
      obtain ⟨hwords, hsegs⟩ :=
        ih hstep.tidy (fun v hv => hws v (List.mem_cons_of_mem w hv)) hrest
      constructor
      · rw [List.flatMap_append, hwords, ← List.append_assoc, hstep.words_eq, List.append_assoc]
        rfl
      · intro s hs
        rcases List.mem_append.mp hs with hs | hs
        · exact hstep.complete s hs
        · exact hsegs s hs

end SegmentStage

open SegmentStage

/-- The segments have the words of the text, each of them at least one. -/
theorem words_of_segments {t : Text} {out : List Text} (h : segments t = .ok out) :
    out.flatMap words = words t ∧ ∀ s ∈ out, IsSegment s := by
  have htidy : Tidy idle := trivial
  exact run_keeps htidy (fun _ => isWord_of_mem_words) h

end LogosHooks
