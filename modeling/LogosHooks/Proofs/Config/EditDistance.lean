import LogosHooks.Config.EditDistance
import LogosHooks.Proofs.Text.ByteOrder
import Mathlib.Data.List.Basic
import Mathlib.Order.Bounds.Basic
import Mathlib.Order.MinMax

/-!
The edit distance is the least number of edits. An edit inserts, deletes or replaces one byte
anywhere; an alignment goes through two texts from the front and pays for each byte that is not
kept. Alignments can be cut at their first byte, which gives the recurrence of the rows, and an edit
changes the cost of an alignment by one at most, so that no way of editing is cheaper than the
cheapest alignment.
-/
namespace LogosHooks.EditDistance

/-! ### Edits and alignments -/

/-- One byte is inserted, deleted or replaced. -/
inductive Edit : Bytes → Bytes → Prop where
  | insert (b : UInt8) (t : Bytes) : Edit t (b :: t)
  | delete (b : UInt8) (t : Bytes) : Edit (b :: t) t
  | replace (b c : UInt8) (t : Bytes) : Edit (b :: t) (c :: t)
  | behind (b : UInt8) {s t : Bytes} : Edit s t → Edit (b :: s) (b :: t)

/-- So many edits, one after the other, make the second text of the first. -/
inductive Edits : Nat → Bytes → Bytes → Prop where
  | none (s : Bytes) : Edits 0 s s
  | snoc {n : Nat} {s t u : Bytes} : Edits n s t → Edit t u → Edits (n + 1) s u

/-- The texts byte beside byte, with the number of bytes that are replaced or stand alone. -/
inductive Aligned : Nat → Bytes → Bytes → Prop where
  | nil : Aligned 0 [] []
  | keep (b : UInt8) {n : Nat} {s t : Bytes} : Aligned n s t → Aligned n (b :: s) (b :: t)
  | replace (b c : UInt8) {n : Nat} {s t : Bytes} :
      Aligned n s t → Aligned (n + 1) (b :: s) (c :: t)
  | insert (c : UInt8) {n : Nat} {s t : Bytes} : Aligned n s t → Aligned (n + 1) s (c :: t)
  | delete (b : UInt8) {n : Nat} {s t : Bytes} : Aligned n s t → Aligned (n + 1) (b :: s) t

namespace Edits

variable {m n : Nat} {s t u : Bytes}

theorem trans (hst : Edits m s t) (htu : Edits n t u) : Edits (m + n) s u := by
  induction htu with
  | none => exact hst
  | snoc _ hedit ih => exact (ih hst).snoc hedit

theorem behind (b : UInt8) (h : Edits n s t) : Edits n (b :: s) (b :: t) := by
  induction h with
  | none s => exact .none (b :: s)
  | snoc _ hedit ih => exact ih.snoc (.behind b hedit)

theorem zero_iff : Edits 0 s t ↔ s = t := by
  constructor
  · intro h
    cases h
    rfl
  · rintro rfl
    exact .none s

end Edits

theorem Edit.symm {s t : Bytes} (h : Edit s t) : Edit t s := by
  induction h with
  | insert b t => exact .delete b t
  | delete b t => exact .insert b t
  | replace b c t => exact .replace c b t
  | behind b _ ih => exact .behind b ih

theorem Edits.symm {n : Nat} {s t : Bytes} (h : Edits n s t) : Edits n t s := by
  induction h with
  | none s => exact .none s
  | @snoc n s t u _ hedit ih =>
    have hback : Edits (0 + 1) u t := (Edits.none u).snoc hedit.symm
    have hall := hback.trans ih
    rwa [Nat.zero_add, Nat.add_comm] at hall

namespace Aligned

variable {m n : Nat} {s t u : Bytes}

theorem refl (s : Bytes) : Aligned 0 s s := by
  induction s with
  | nil => exact .nil
  | cons b s ih => exact ih.keep b

theorem append {s' t' : Bytes} (h : Aligned m s t) (h' : Aligned n s' t') :
    Aligned (m + n) (s ++ s') (t ++ t') := by
  induction h with
  | nil => rwa [Nat.zero_add]
  | keep b _ ih => exact ih.keep b
  | replace b c _ ih =>
    rw [Nat.add_right_comm]
    exact ih.replace b c
  | insert c _ ih =>
    rw [Nat.add_right_comm]
    exact ih.insert c
  | delete b _ ih =>
    rw [Nat.add_right_comm]
    exact ih.delete b

theorem reverse (h : Aligned n s t) : Aligned n s.reverse t.reverse := by
  induction h with
  | nil => exact .nil
  | keep b _ ih => simpa using ih.append (Aligned.nil.keep b)
  | replace b c _ ih => simpa using ih.append (Aligned.nil.replace b c)
  | insert c _ ih => simpa using ih.append (Aligned.nil.insert c)
  | delete b _ ih => simpa using ih.append (Aligned.nil.delete b)

/-- An alignment says how to edit. -/
theorem edits (h : Aligned n s t) : Edits n s t := by
  induction h with
  | nil => exact .none []
  | keep b _ ih => exact ih.behind b
  | @replace b c n s t _ ih => exact (ih.behind b).snoc (.replace b c t)
  | @insert c n s t _ ih => exact ih.snoc (.insert c t)
  | @delete b n s t _ ih => exact (ih.behind b).snoc (.delete b t)

/-- One more edit costs an alignment one more byte at most. -/
theorem edit (h : Aligned n s t) (hedit : Edit t u) : ∃ k ≤ n + 1, Aligned k s u := by
  induction h generalizing u with
  | nil =>
    cases hedit with
    | insert c => exact ⟨1, le_rfl, Aligned.nil.insert c⟩
  | @keep b n s t h ih =>
    cases hedit with
    | insert c => exact ⟨n + 1, le_rfl, (h.keep b).insert c⟩
    | delete => exact ⟨n + 1, le_rfl, h.delete b⟩
    | replace _ c => exact ⟨n + 1, le_rfl, h.replace b c⟩
    | behind _ hedit =>
      obtain ⟨k, hk, h'⟩ := ih hedit
      exact ⟨k, hk, h'.keep b⟩
  | @replace b c n s t h ih =>
    cases hedit with
    | insert d => exact ⟨n + 1 + 1, le_rfl, (h.replace b c).insert d⟩
    | delete => exact ⟨n + 1, by omega, h.delete b⟩
    | replace _ d => exact ⟨n + 1, by omega, h.replace b d⟩
    | behind _ hedit =>
      obtain ⟨k, hk, h'⟩ := ih hedit
      exact ⟨k + 1, by omega, h'.replace b c⟩
  | @insert c n s t h ih =>
    cases hedit with
    | insert d => exact ⟨n + 1 + 1, le_rfl, (h.insert c).insert d⟩
    | delete => exact ⟨n, by omega, h⟩
    | replace _ d => exact ⟨n + 1, by omega, h.insert d⟩
    | behind _ hedit =>
      obtain ⟨k, hk, h'⟩ := ih hedit
      exact ⟨k + 1, by omega, h'.insert c⟩
  | @delete b n s t h ih =>
    obtain ⟨k, hk, h'⟩ := ih hedit
    exact ⟨k + 1, by omega, h'.delete b⟩

/-- No way of editing is cheaper than all alignments. -/
theorem exists_of_edits (h : Edits n s t) : ∃ k ≤ n, Aligned k s t := by
  induction h with
  | none s => exact ⟨0, le_rfl, refl s⟩
  | snoc _ hedit ih =>
    obtain ⟨k, hk, h⟩ := ih
    obtain ⟨l, hl, h'⟩ := h.edit hedit
    exact ⟨l, by omega, h'⟩

theorem nil_left_iff : Aligned n [] t ↔ n = t.length := by
  constructor
  · intro h
    generalize hs : ([] : Bytes) = s at h
    induction h with
    | nil => rfl
    | insert c _ ih => rw [ih hs, List.length_cons]
    | keep | replace | delete => cases hs
  · rintro rfl
    induction t with
    | nil => exact .nil
    | cons c t ih => exact ih.insert c

end Aligned

/-! ### The cheapest alignment -/

def IsDistance (s t : Bytes) (d : Nat) : Prop := IsLeast {n | Aligned n s t} d

namespace IsDistance

variable {d above left diagonal : Nat} {a b : UInt8} {s t : Bytes}

theorem isLeast_edits (h : IsDistance s t d) : IsLeast {n | Edits n s t} d := by
  refine ⟨h.1.edits, fun n hn => ?_⟩
  obtain ⟨k, hk, hk'⟩ := Aligned.exists_of_edits hn
  exact (h.2 hk').trans hk

theorem of_reverse (h : IsDistance s.reverse t.reverse d) : IsDistance s t d := by
  refine ⟨?_, fun n hn => h.2 (Aligned.reverse hn)⟩
  have hback := Aligned.reverse h.1
  rwa [List.reverse_reverse, List.reverse_reverse] at hback

theorem nil_left (t : Bytes) : IsDistance [] t t.length :=
  ⟨Aligned.nil_left_iff.mpr rfl, fun _ hn => (Aligned.nil_left_iff.mp hn).ge⟩

/-- All bytes are deleted. -/
theorem cons_nil (h : IsDistance s [] d) : IsDistance (a :: s) [] (d + 1) := by
  refine ⟨h.1.delete a, fun n hn => ?_⟩
  cases hn with
  | delete _ hn => exact Nat.succ_le_succ (h.2 hn)

/-- The recurrence: the first byte of one text is deleted, that of the other is inserted, or the one
is made the other. -/
theorem cons_cons (habove : IsDistance s (b :: t) above) (hleft : IsDistance (a :: s) t left)
    (hdiagonal : IsDistance s t diagonal) :
    IsDistance (a :: s) (b :: t)
      (min (min (above + 1) (left + 1)) (diagonal + if a = b then 0 else 1)) := by
  constructor
  · have hreplaced : Aligned (diagonal + if a = b then 0 else 1) (a :: s) (b :: t) := by
      by_cases hab : a = b
      · rw [if_pos hab, hab]
        exact hdiagonal.1.keep b
      · rw [if_neg hab]
        exact hdiagonal.1.replace a b
    rcases min_choice (min (above + 1) (left + 1)) (diagonal + if a = b then 0 else 1) with h | h
    · rcases min_choice (above + 1) (left + 1) with h' | h'
      · rw [h, h']
        exact habove.1.delete a
      · rw [h, h']
        exact hleft.1.insert b
    · rw [h]
      exact hreplaced
  · intro n hn
    cases hn with
    | keep _ hn =>
      have hle := hdiagonal.2 hn
      simp only [if_true]
      omega
    | @replace _ _ n _ _ hn =>
      have hle := hdiagonal.2 hn
      split <;> omega
    | @insert _ n _ _ hn =>
      have hle := hleft.2 hn
      omega
    | @delete _ n _ _ hn =>
      have hle := habove.2 hn
      omega

end IsDistance

/-! ### Rows -/

/-- The entries of a row behind the one for `front`: the distances of `source` to the beginnings of
the target that go on from there. Both texts are read from the last byte on, because that is where
the recurrence cuts them. -/
inductive Row (source : Bytes) : Bytes → Bytes → List Nat → Prop where
  | nil {front : Bytes} : Row source front [] []
  | cons {front target : Bytes} {b : UInt8} {d : Nat} {row : List Nat} :
      IsDistance source (b :: front) d → Row source (b :: front) target row →
      Row source front (b :: target) (d :: row)

namespace Row

variable {source front target : Bytes} {row : List Nat} {first left diagonal : Nat}

/-- The step of the inner loop. -/
theorem continueRow (a : UInt8) (hrow : Row source front target row)
    (hleft : IsDistance (a :: source) front left) (hdiagonal : IsDistance source front diagonal) :
    Row (a :: source) front target (continueRow a left diagonal target row) := by
  induction hrow generalizing left diagonal with
  | nil => exact .nil
  | @cons front target b d row habove _ ih =>
    have hentry := habove.cons_cons hleft hdiagonal
    exact .cons hentry (ih hentry habove)

theorem firstRow (front target : Bytes) :
    Row [] front target (List.range' (front.length + 1) target.length) := by
  induction target generalizing front with
  | nil => exact .nil
  | cons b target ih => exact .cons (IsDistance.nil_left (b :: front)) (ih (b :: front))

theorem getLast? (hrow : Row source front target row) (hfirst : IsDistance source front first) :
    IsDistance source (target.reverse ++ front) (((first :: row).getLast?).getD 0) := by
  induction hrow generalizing first with
  | nil => exact hfirst
  | cons hentry _ ih =>
    rw [List.reverse_cons, List.append_assoc, List.getLast?_cons_cons]
    exact ih hentry

end Row

/-- A whole row: the distances of `source` to all beginnings of the target. -/
def IsRow (source target : Bytes) (row : List Nat) : Prop :=
  ∃ first rest, row = first :: rest ∧ IsDistance source [] first ∧ Row source [] target rest

theorem isRow_firstRow (target : Bytes) : IsRow [] target (firstRow target) := by
  refine ⟨0, List.range' 1 target.length, ?_, IsDistance.nil_left [], Row.firstRow [] target⟩
  rw [firstRow, List.range_eq_range', List.range'_succ]

/-- The step of the outer loop. -/
theorem IsRow.next {source target : Bytes} {row : List Nat} (h : IsRow source target row)
    (a : UInt8) : IsRow (a :: source) target (nextRow target row a) := by
  obtain ⟨first, rest, rfl, hfirst, hrest⟩ := h
  exact ⟨first + 1, _, rfl, hfirst.cons_nil, hrest.continueRow a hfirst.cons_nil hfirst⟩

theorem IsRow.foldl {source target : Bytes} {row : List Nat} (h : IsRow source target row)
    (more : Bytes) : IsRow (more.reverse ++ source) target (more.foldl (nextRow target) row) := by
  induction more generalizing source row with
  | nil => exact h
  | cons a more ih =>
    rw [List.reverse_cons, List.append_assoc]
    exact ih (h.next a)

/-- What the rows compute is the cost of the cheapest alignment. -/
theorem isDistance_distance (source target : Bytes) :
    IsDistance source target (distance source target) := by
  have hrow := (isRow_firstRow target).foldl source
  rw [List.append_nil] at hrow
  obtain ⟨first, rest, heq, hfirst, hrest⟩ := hrow
  have hlast := hrest.getLast? hfirst
  rw [List.append_nil, ← heq] at hlast
  exact hlast.of_reverse

end LogosHooks.EditDistance

namespace LogosHooks

open EditDistance (Edits isDistance_distance)

/-- The edit distance of two texts is the least number of bytes that have to be inserted, deleted or
replaced, one after the other, to make one of the other. So it is a metric. -/
theorem editDistance_isLeast (s t : Text) :
    IsLeast {n | Edits n (Utf8.encode s) (Utf8.encode t)} (editDistance s t) ∧
      (editDistance s t = 0 ↔ s = t) ∧ editDistance t s = editDistance s t ∧
      ∀ u, editDistance s u ≤ editDistance s t + editDistance t u := by
  have hleast : ∀ s t : Text,
      IsLeast {n | Edits n (Utf8.encode s) (Utf8.encode t)} (editDistance s t) :=
    fun s t => (isDistance_distance (Utf8.encode s) (Utf8.encode t)).isLeast_edits
  refine ⟨hleast s t, ⟨fun hzero => ?_, fun heq => ?_⟩, ?_, fun u => ?_⟩
  · have hnone := (hleast s t).1
    rw [hzero] at hnone
    exact Utf8.encode_injective (Edits.zero_iff.mp hnone)
  · have hle := (hleast s t).2 (Edits.zero_iff.mpr (congrArg Utf8.encode heq))
    exact Nat.le_zero.mp hle
  · exact le_antisymm ((hleast t s).2 (hleast s t).1.symm) ((hleast s t).2 (hleast t s).1.symm)
  · exact (hleast s u).2 ((hleast s t).1.trans (hleast t u).1)

example : editDistance "getter".toList "getters".toList = 1 := by decide +kernel

end LogosHooks
