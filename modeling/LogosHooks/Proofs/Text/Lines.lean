import LogosHooks.Text.Line
import Mathlib.Data.List.Infix

/-!
Endings that are cut off, pieces with a mark between them, and texts that are written line by line.
Such a text has the lines that were written, without the carriage returns at their ends, and an
empty line behind the last line feed.
-/
namespace LogosHooks.Text

/-! ### Pieces with a mark between them -/

section Pieces

variable {mark : Char} {pieces : List Text}

theorem count_intercalate_of_ne {c : Char} (hc : c ≠ mark) (pieces : List Text) :
    ([mark].intercalate pieces).count c = pieces.flatten.count c := by
  induction pieces with
  | nil => rfl
  | cons piece pieces ih =>
    by_cases hlast : pieces = []
    · subst hlast
      simp
    · rw [List.intercalate_cons_of_ne_nil hlast, List.count_append, List.count_append, ih,
        List.count_singleton, List.flatten_cons, List.count_append, if_neg (by simpa using hc.symm)]
      omega

theorem exists_mem_of_mem_intercalate {c : Char} (hc : c ≠ mark)
    (h : c ∈ [mark].intercalate pieces) : ∃ piece ∈ pieces, c ∈ piece := by
  rw [← List.count_pos_iff, count_intercalate_of_ne hc, List.count_pos_iff, List.mem_flatten] at h
  exact h

/-- The mark stands between the pieces and nowhere else. -/
theorem count_intercalate (hne : pieces ≠ []) (h : ∀ piece ∈ pieces, mark ∉ piece) :
    ([mark].intercalate pieces).count mark + 1 = pieces.length := by
  induction pieces with
  | nil => exact absurd rfl hne
  | cons piece pieces ih =>
    have hpiece : piece.count mark = 0 := List.count_eq_zero.mpr (h piece List.mem_cons_self)
    by_cases hlast : pieces = []
    · subst hlast
      simp [hpiece]
    · have hrest := ih hlast fun p hp => h p (List.mem_cons_of_mem piece hp)
      rw [List.intercalate_cons_of_ne_nil hlast, List.count_append, List.count_append,
        List.count_singleton_self, hpiece, List.length_cons]
      omega

/-- No piece of a text that is split at a mark has the mark in it. -/
theorem not_mem_of_mem_splitOn {t piece : Text} (h : piece ∈ t.splitOn mark) :
    mark ∉ piece := by
  induction t generalizing piece with
  | nil =>
    rw [List.splitOn_nil, List.mem_singleton] at h
    simp [h]
  | cons c t ih =>
    rw [List.splitOn_cons_eq_if_modifyHead] at h
    split at h
    · rcases List.mem_cons.mp h with rfl | h
      · simp
      · exact ih h
    · next hc =>
      obtain ⟨first, rest, hsplit⟩ := List.exists_cons_of_ne_nil (List.splitOn_ne_nil mark t)
      rw [hsplit] at h ih
      rcases List.mem_cons.mp h with rfl | h
      · have hne : mark ≠ c := by
          rintro rfl
          simp at hc
        simp [hne, ih List.mem_cons_self]
      · exact ih (List.mem_cons_of_mem first h)

end Pieces

/-! ### Endings -/

theorem cutSuffix?_eq_some_iff {ending t front : Text} :
    cutSuffix? ending t = some front ↔ front ++ ending = t :=
  List.isSuffixOf?_eq_some_iff_append_eq

theorem cutSuffix?_append (front ending : Text) :
    cutSuffix? ending (front ++ ending) = some front :=
  cutSuffix?_eq_some_iff.mpr rfl

theorem cutSuffix?_eq_none_iff {ending t : Text} :
    cutSuffix? ending t = none ↔ ∀ front, front ++ ending ≠ t := by
  simp [Option.eq_none_iff_forall_ne_some, cutSuffix?_eq_some_iff]

/-- Either there is no carriage return at the end, or exactly one is cut off. -/
theorem dropReturn_cases (t : Text) : dropReturn t = t ∨ t = dropReturn t ++ ['\r'] := by
  unfold dropReturn
  cases h : cutSuffix? ['\r'] t with
  | none => exact Or.inl rfl
  | some front => exact Or.inr (cutSuffix?_eq_some_iff.mp h).symm

theorem dropReturn_of_getLast? {t : Text} (h : t.getLast? ≠ some '\r') : dropReturn t = t := by
  rcases dropReturn_cases t with heq | heq
  · exact heq
  · rw [heq, List.getLast?_concat] at h
    exact absurd rfl h

/-! ### Lines -/

theorem lines_intercalate {ls : List Text} (hne : ls ≠ []) (hls : ∀ l ∈ ls, '\n' ∉ l) :
    lines (['\n'].intercalate ls) = ls.map dropReturn := by
  rw [lines, List.splitOn_intercalate '\n' hls hne]

theorem splitOn_ofLines {ls : List Text} (hls : ∀ l ∈ ls, '\n' ∉ l) :
    (ofLines ls).splitOn '\n' = ls ++ [[]] := by
  induction ls with
  | nil => rfl
  | cons l ls ih =>
    have hl := hls l List.mem_cons_self
    have hsplit : ofLines (l :: ls) = l ++ '\n' :: ofLines ls := by simp [ofLines]
    rw [hsplit, List.splitOn_append_cons_self_of_not_mem hl,
      ih fun k hk => hls k (List.mem_cons_of_mem l hk), List.cons_append]

theorem lines_ofLines {ls : List Text} (hls : ∀ l ∈ ls, '\n' ∉ l) :
    lines (ofLines ls) = ls.map dropReturn ++ [[]] := by
  rw [lines, splitOn_ofLines hls, List.map_append]
  rfl

end LogosHooks.Text
