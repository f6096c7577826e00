import LogosHooks.Proofs.Declaration.Accepted

/-!
The whole selector of a method that was read. There is a colon in it for each argument and nowhere
else, so it can be cut into the selector and the keywords again.
-/
namespace LogosHooks.Method

open Text

variable {m : Method}

def selectorPieces (m : Method) : List Text :=
  m.selector ::
    match m.arguments with
    | [] => []
    | _ :: later => later.map Argument.keyword ++ [[]]

theorem flatMap_keyword_eq_intercalate (later : List Argument) :
    (later.flatMap fun a => a.keyword ++ [':']) =
      [':'].intercalate (later.map Argument.keyword ++ [[]]) := by
  induction later with
  | nil => simp
  | cons a later ih =>
    rw [List.flatMap_cons, ih, List.map_cons, List.cons_append,
      List.intercalate_cons_of_ne_nil (by simp), List.append_assoc]

theorem wholeSelector_eq_intercalate (m : Method) :
    m.wholeSelector = [':'].intercalate m.selectorPieces := by
  unfold wholeSelector selectorPieces
  cases m.arguments with
  | nil => simp
  | cons a later =>
    rw [List.intercalate_cons_of_ne_nil (by simp), ← flatMap_keyword_eq_intercalate]
    simp

theorem length_selectorPieces (m : Method) :
    m.selectorPieces.length = m.arguments.length + 1 := by
  unfold selectorPieces
  cases m.arguments with
  | nil => rfl
  | cons a later => simp

/-- Every piece is the selector, the keyword of a later argument, or empty. -/
theorem mem_selectorPieces {piece : Text} (h : piece ∈ m.selectorPieces) :
    piece = m.selector ∨ (∃ a ∈ m.arguments.tail, a.keyword = piece) ∨ piece = [] := by
  unfold selectorPieces at h
  cases hargs : m.arguments with
  | nil =>
    rw [hargs] at h
    exact Or.inl (List.mem_singleton.mp h)
  | cons a later => simpa [hargs] using h

namespace Accepted

theorem isIdentifier_keyword (h : m.Accepted) {a : Argument} (ha : a ∈ m.arguments.tail) :
    IsIdentifier a.keyword :=
  ⟨h.later_keyword a ha, (h.arguments a (List.mem_of_mem_tail ha)).keyword⟩

theorem colon_not_mem_selectorPieces (h : m.Accepted) :
    ∀ piece ∈ m.selectorPieces, ':' ∉ piece := by
  intro piece hpiece
  rcases mem_selectorPieces hpiece with rfl | ⟨a, ha, rfl⟩ | rfl
  · exact h.selector_colonless
  · exact (h.isIdentifier_keyword ha).2.not_mem isIdentifierChar_colon
  · simp

theorem splitOn_wholeSelector (h : m.Accepted) :
    m.wholeSelector.splitOn ':' = m.selectorPieces := by
  rw [wholeSelector_eq_intercalate]
  exact List.splitOn_intercalate ':' h.colon_not_mem_selectorPieces (by simp [selectorPieces])

theorem count_wholeSelector (h : m.Accepted) :
    m.wholeSelector.count ':' = m.arguments.length := by
  have hcount := count_intercalate (by simp [selectorPieces]) h.colon_not_mem_selectorPieces
  rw [← wholeSelector_eq_intercalate, length_selectorPieces] at hcount
  exact Nat.succ.inj hcount

theorem isWord_wholeSelector (h : m.Accepted) : IsWord m.wholeSelector := by
  refine ⟨by simp [wholeSelector, h.selector.1], fun c hc => ?_⟩
  rw [wholeSelector_eq_intercalate] at hc
  by_cases hcolon : c = ':'
  · rw [hcolon]
    rfl
  · obtain ⟨piece, hpiece, hc⟩ := exists_mem_of_mem_intercalate hcolon hc
    rcases mem_selectorPieces hpiece with rfl | ⟨a, ha, rfl⟩ | rfl
    · exact h.selector.2 c hc
    · exact (h.isIdentifier_keyword ha).2.isBlank c hc
    · simp at hc

end Accepted
end LogosHooks.Method
