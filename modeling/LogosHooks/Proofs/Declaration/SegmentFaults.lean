import LogosHooks.Proofs.Declaration.ArgumentText

/-!
Where the reading of segments fails. The segment under way is always made of the last words that
were read, from the word on with which it began. So a fault at the end of the text speaks of the
words from the beginning of some segment to the end: a keyword that stands there alone, or words
that open more parentheses than they close.
-/
namespace LogosHooks

open Text

namespace SegmentStage

/-- Behind the words `front`, a segment begins with `word`: no segment is under way there, or one
that has its type, and `word` is no name for it because of a colon. -/
def BeginsSegment (front : List Text) (word : Text) : Prop :=
  (idle.advance front).2 = idle ∨ (∃ s, (idle.advance front).2 = typed s) ∧ ':' ∈ word

def EndsInSegment (ws held : List Text) : Prop :=
  ∃ front word rest, ws = front ++ word :: rest ∧ held = word :: rest ∧ BeginsSegment front word

theorem BeginsSegment.endsInSegment {front : List Text} {word : Text}
    (h : BeginsSegment front word) : EndsInSegment (front ++ [word]) [word] :=
  ⟨front, word, [], rfl, rfl, h⟩

theorem EndsInSegment.concat {ws held : List Text} (h : EndsInSegment ws held) (w : Text) :
    EndsInSegment (ws ++ [w]) (held ++ [w]) := by
  obtain ⟨front, word, rest, rfl, rfl, hbegin⟩ := h
  exact ⟨front, word, rest ++ [w], by simp, rfl, hbegin⟩

def Underway (ws : List Text) : SegmentStage → Prop
  | idle => True
  | keyword s => endsIn ':' s = true ∧ IsWord s ∧ EndsInSegment ws [s]
  | .unclosed s => leavesOpen s = true ∧ IsSegment s ∧ EndsInSegment ws (words s)
  | typed s => IsSegment s ∧ EndsInSegment ws (words s)

theorem underway_settle {ws : List Text} {s : Text} (hs : IsSegment s)
    (h : EndsInSegment ws (words s)) : Underway ws (settle s).2 := by
  unfold settle
  split
  · next hopen => exact ⟨hopen, hs, h⟩
  · split
    · exact ⟨hs, h⟩
    · trivial

theorem underway_start {front : List Text} {w : Text} (hw : IsWord w)
    (h : BeginsSegment front w) : Underway (front ++ [w]) (start w).2 := by
  unfold start
  split
  · next hcolon => exact ⟨hcolon, hw, h.endsInSegment⟩
  · apply underway_settle (isSegment_of_isWord hw)
    rw [words_of_isWord hw]
    exact h.endsInSegment

/-- One word more continues the segment under way, or begins the next. -/
theorem Underway.next {ws : List Text} (h : Underway ws (idle.advance ws).2) {w : Text}
    (hw : IsWord w) : Underway (ws ++ [w]) ((idle.advance ws).2.next w).2 := by
  cases hstage : (idle.advance ws).2 with
  | idle => exact underway_start hw (Or.inl hstage)
  | keyword s =>
    rw [hstage] at h
    obtain ⟨-, hs, hends⟩ := h
    refine underway_settle ((isSegment_of_isWord hs).extend hw) ?_
    rw [words_extend s hw, words_of_isWord hs]
    exact hends.concat w
  | unclosed s =>
    rw [hstage] at h
    obtain ⟨-, hs, hends⟩ := h
    refine underway_settle (hs.extend hw) ?_
    rw [words_extend s hw]
    exact hends.concat w
  | typed s =>
    change Underway (ws ++ [w])
      (if w.contains ':' then (s :: (start w).1, (start w).2) else ([extend s w], idle)).2
    split
    · next hcolon => exact underway_start hw (Or.inr ⟨⟨s, hstage⟩, by simpa using hcolon⟩)
    · trivial

theorem underway_advance {ws : List Text} (hws : ∀ w ∈ ws, IsWord w) :
    Underway ws (idle.advance ws).2 := by
  induction ws using List.reverseRecOn with
  | nil => trivial
  | append_singleton ws w ih =>
    have hfront : ∀ v ∈ ws, IsWord v := fun v hv => hws v (List.mem_append_left [w] hv)
    rw [advance_append, advance_singleton]
    exact (ih hfront).next (hws w (by simp))

/-- A keyword that is the last word, and begins a segment, lacks its type. -/
theorem BeginsSegment.run_concat {front : List Text} {s : Text} (h : BeginsSegment front s)
    (hcolon : endsIn ':' s = true) : idle.run (front ++ [s]) = .error (.badArgument s) := by
  have hstart : start s = ([], keyword s) := if_pos hcolon
  have hlast : ((idle.advance front).2.next s).2 = keyword s := by
    rcases h with hidle | ⟨⟨x, htyped⟩, hmem⟩
    · rw [hidle]
      exact congrArg Prod.snd hstart
    · have hcontains : s.contains ':' = true := by simpa using hmem
      rw [htyped]
      simp only [SegmentStage.next, hcontains, if_true, hstart]
  rw [run_eq_advance, advance_append, advance_singleton, hlast]
  rfl

end SegmentStage

open SegmentStage

/-- The segments of a text have its words, in their order, and in each segment single spaces stand
between them. There are none exactly if the last word is a keyword with which a segment begins, and
besides that only if the words from the beginning of some segment to the end of the text open more
parentheses than they close. -/
theorem segments_keep_words (t : Text) :
    (match segments t with
      | .ok out => out.flatMap words = words t ∧ ∀ s ∈ out, s ≠ [] ∧ unwords (words s) = s
      | .error (.badArgument s) =>
        endsIn ':' s = true ∧ ∃ front, words t = front ++ [s] ∧ BeginsSegment front s
      | .error .openParenthesis =>
        ∃ front word rest, words t = front ++ word :: rest ∧ BeginsSegment front word ∧
          leavesOpen (word :: rest).flatten = true
      | .error (.badDeclaration _) => False) ∧
    ∀ front s, words t = front ++ [s] → endsIn ':' s = true → BeginsSegment front s →
      segments t = .error (.badArgument s) := by
  constructor
  · have hrun := run_eq_advance idle (words t)
    have hunderway := underway_advance fun w hw => isWord_of_mem_words (t := t) hw
    cases hstage : (idle.advance (words t)).2 with
    | idle =>
      have hok : segments t = .ok ((idle.advance (words t)).1 ++ []) := by
        rw [segments, hrun, hstage]
        rfl
      rw [hok]
      exact words_of_segments hok
    | typed s =>
      have hok : segments t = .ok ((idle.advance (words t)).1 ++ [s]) := by
        rw [segments, hrun, hstage]
        rfl
      rw [hok]
      exact words_of_segments hok
    | keyword s =>
      have herror : segments t = .error (.badArgument s) := by
        rw [segments, hrun, hstage]
        rfl
      rw [hstage] at hunderway
      obtain ⟨hcolon, -, front, word, rest, hwords, hs, hbegin⟩ := hunderway
      obtain ⟨rfl, rfl⟩ := List.cons.inj hs
      rw [herror]
      exact ⟨hcolon, front, hwords, hbegin⟩
    | unclosed s =>
      have herror : segments t = .error .openParenthesis := by
        rw [segments, hrun, hstage]
        rfl
      rw [hstage] at hunderway
      obtain ⟨hopen, hs, front, word, rest, hwords, hheld, hbegin⟩ := hunderway
      rw [herror]
      refine ⟨front, word, rest, hwords, hbegin, ?_⟩
      rw [← hs.2, leavesOpen_unwords, hheld] at hopen
      exact hopen
  · intro front s hwords hcolon hbegin
    rw [segments, hwords]
    exact hbegin.run_concat hcolon

example : segments ":(id)a with: (int) b c:".toList = .error (.badArgument "c:".toList) := by
  decide +kernel

end LogosHooks
