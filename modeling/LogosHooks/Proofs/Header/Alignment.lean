import LogosHooks.Proofs.Declaration.LineEnds
import LogosHooks.Proofs.Header.Restriction

/-!
Two headers side by side. Each line of one stands beside a line of the other that is read alike, or
it declares nothing and stands alone. Headers that are aligned give the same interface, or the same
fault in lines that stand beside each other.
-/
namespace LogosHooks

/-- The lines of two headers, numbered from `i` and from `j` on. If there is a line beside a line,
`move` tells its number. -/
inductive Aligned (move : Nat → Option Nat) : Nat → Nat → List Text → List Text → Prop
  | nil {i j : Nat} : Aligned move i j [] []
  | both {i j : Nat} {line line' : Text} {ls ls' : List Text} (hmove : move i = some j)
      (hread : reading line = reading line') (hrest : Aligned move (i + 1) (j + 1) ls ls') :
      Aligned move i j (line :: ls) (line' :: ls')
  | left {i j : Nat} {line : Text} {ls ls' : List Text} (hmove : move i = none)
      (hline : IsFiller line) (hrest : Aligned move (i + 1) j ls ls') :
      Aligned move i j (line :: ls) ls'
  | right {i j : Nat} {line' : Text} {ls ls' : List Text} (hline : IsFiller line')
      (hrest : Aligned move i (j + 1) ls ls') : Aligned move i j ls (line' :: ls')

/-- The same result, or the same fault in lines that belong together. Lines are counted from 0 by
`move` and from 1 by faults. -/
inductive SameOutcome {α : Type} (move : Nat → Option Nat) : Except Fault α → Except Fault α → Prop
  | ok (value : α) : SameOutcome move (.ok value) (.ok value)
  | noClass : SameOutcome move (.error .noClass) (.error .noClass)
  | inLine {i j : Nat} {fault : LineFault} (hmove : move i = some j) :
      SameOutcome move (.error (.inLine (i + 1) fault)) (.error (.inLine (j + 1) fault))

namespace SameOutcome

variable {α β : Type} {move move' : Nat → Option Nat}

theorem bind {x y : Except Fault α} (h : SameOutcome move x y) {f g : α → Except Fault β}
    (hf : ∀ a, SameOutcome move (f a) (g a)) : SameOutcome move (x >>= f) (y >>= g) := by
  cases h with
  | ok value => exact hf value
  | noClass => exact .noClass
  | inLine hmove => exact .inLine hmove

theorem map {x y : Except Fault α} (h : SameOutcome move x y) (f : α → β) :
    SameOutcome move (x.map f) (y.map f) := by
  cases h with
  | ok value => exact .ok (f value)
  | noClass => exact .noClass
  | inLine hmove => exact .inLine hmove

theorem atLine {i j : Nat} (hmove : move i = some j) (x : Except LineFault α) :
    SameOutcome move (atLine (i + 1) x) (atLine (j + 1) x) := by
  cases x with
  | ok value => exact .ok value
  | error fault => exact .inLine hmove

theorem exists_inLine {i : Nat} {fault : LineFault} {y : Except Fault α}
    (h : SameOutcome move (.error (.inLine (i + 1) fault)) y) :
    ∃ j, move i = some j ∧ y = .error (.inLine (j + 1) fault) := by
  cases h with
  | inLine hmove => exact ⟨_, hmove, rfl⟩

/-- If lines are moved twice, the outcomes at both ends agree. -/
theorem trans {x y z : Except Fault α} (h : SameOutcome move x y) (h' : SameOutcome move' y z) :
    SameOutcome (fun i => (move i).bind move') x z := by
  cases h with
  | ok value =>
    cases h'
    exact .ok value
  | noClass =>
    cases h'
    exact .noClass
  | inLine hmove =>
    cases h' with
    | inLine hmove' =>
      apply inLine
      rw [hmove]
      exact hmove'

end SameOutcome

/-! ### Lines that are read alike -/

theorem ofLine_congr {a b : Text} (h : reading a = reading b) :
    Member.ofLine a = Member.ofLine b := by
  have hread : Line.read a = Line.read b := congrArg Prod.snd h
  rw [Member.ofLine, Member.ofLine, hread]

theorem isClassLine_congr {a b : Text} (h : reading a = reading b) :
    isClassLine a = isClassLine b := congrArg Prod.fst h

theorem readClassName_congr {a b : Text} (h : reading a = reading b)
    (hclass : isClassLine a = true) : readClassName a = readClassName b := by
  have hread : Line.read a = Line.read b := congrArg Prod.snd h
  rw [Line.read, if_pos hclass, Line.read, if_pos (isClassLine_congr h ▸ hclass)] at hread
  cases ha : readClassName a with
  | error fault =>
    cases hb : readClassName b with
    | error fault' => simpa [ha, hb, Functor.map, Except.map] using hread
    | ok name' => simp [ha, hb, Functor.map, Except.map] at hread
  | ok name =>
    cases hb : readClassName b with
    | error fault' => simp [ha, hb, Functor.map, Except.map] at hread
    | ok name' => simpa [ha, hb, Functor.map, Except.map] using hread

theorem IsFiller.ofLine_eq {line : Text} (h : IsFiller line) : Member.ofLine line = .ok none := by
  have hread : Line.read line = .ok .other := congrArg Prod.snd (isFiller_iff_reading.mp h)
  rw [Member.ofLine, hread]
  rfl

theorem IsFiller.firstClassName_cons {line : Text} (h : IsFiller line) (number : Nat)
    (rest : List Text) :
    firstClassName number (line :: rest) = firstClassName (number + 1) rest := by
  rw [firstClassName, h.1]
  rfl

theorem IsFiller.readMembers_cons {line : Text} (h : IsFiller line) (number : Nat)
    (rest : List Text) : readMembers number (line :: rest) = readMembers (number + 1) rest := by
  rw [readMembers, h.ofLine_eq]
  cases readMembers (number + 1) rest <;> rfl

/-! ### Aligned lines -/

namespace Aligned

variable {move : Nat → Option Nat} {i j : Nat} {ls ls' : List Text}

/-- Every line is read like the line beside it, or it stands alone and declares nothing. -/
theorem getElem?_eq_some (h : Aligned move i j ls ls') {k : Nat} {line : Text}
    (hline : ls[k]? = some line) :
    (move (i + k) = none ∧ IsFiller line) ∨
      ∃ m line', move (i + k) = some (j + m) ∧ ls'[m]? = some line' ∧
        reading line = reading line' := by
  induction h generalizing k with
  | nil => simp at hline
  | @both i j first first' ls ls' hmove hread hrest ih =>
    cases k with
    | zero =>
      cases hline
      exact Or.inr ⟨0, first', hmove, rfl, hread⟩
    | succ k =>
      rw [← Nat.add_assoc, Nat.add_right_comm]
      refine (ih hline).imp_right ?_
      rintro ⟨m, line', hm, hline', hread'⟩
      exact ⟨m + 1, line', by rw [hm, Nat.add_right_comm, Nat.add_assoc], hline', hread'⟩
  | left hmove hfirst hrest ih =>
    cases k with
    | zero =>
      cases hline
      exact Or.inl ⟨hmove, hfirst⟩
    | succ k =>
      rw [← Nat.add_assoc, Nat.add_right_comm]
      exact ih hline
  | right hfirst hrest ih =>
    refine (ih hline).imp_right ?_
    rintro ⟨m, line', hm, hline', hread'⟩
    exact ⟨m + 1, line', by rw [hm, Nat.add_right_comm, Nat.add_assoc], hline', hread'⟩

theorem sameClassName (h : Aligned move i j ls ls') :
    SameOutcome move (firstClassName (i + 1) ls) (firstClassName (j + 1) ls') := by
  induction h with
  | nil => exact .noClass
  | @both i j line line' ls ls' hmove hread hrest ih =>
    rw [firstClassName, firstClassName, ← isClassLine_congr hread]
    by_cases hclass : isClassLine line = true
    · rw [if_pos hclass, if_pos hclass, ← readClassName_congr hread hclass]
      exact .atLine hmove _
    · rw [if_neg hclass, if_neg hclass]
      exact ih
  | left hmove hline hrest ih => rwa [hline.firstClassName_cons]
  | right hline hrest ih => rwa [hline.firstClassName_cons]

theorem sameMembers (h : Aligned move i j ls ls') :
    SameOutcome move (readMembers (i + 1) ls) (readMembers (j + 1) ls') := by
  induction h with
  | nil => exact .ok []
  | both hmove hread hrest ih =>
    rw [readMembers, readMembers, ← ofLine_congr hread]
    exact (SameOutcome.atLine hmove _).bind fun here => ih.bind fun later => .ok _
  | left hmove hline hrest ih => rwa [hline.readMembers_cons]
  | right hline hrest ih => rwa [hline.readMembers_cons]

/-- The carriage returns at the ends of the lines do not matter. -/
theorem map_dropReturn (h : Aligned move i j ls ls') :
    Aligned move i j (ls.map Text.dropReturn) (ls'.map Text.dropReturn) := by
  have hfiller : ∀ {line : Text}, IsFiller line → IsFiller (Text.dropReturn line) := by
    intro line h
    rwa [isFiller_iff_reading, reading_dropReturn, ← isFiller_iff_reading]
  induction h with
  | nil => exact .nil
  | both hmove hread hrest ih =>
    refine .both hmove ?_ ih
    rw [reading_dropReturn, reading_dropReturn, hread]
  | left hmove hline hrest ih => exact .left hmove (hfiller hline) ih
  | right hline hrest ih => exact .right (hfiller hline) ih

end Aligned

/-- Aligned headers have the same outcome under every policy. -/
theorem sameOutcome_of_aligned {move : Nat → Option Nat} {source source' : Text}
    (h : Aligned move 0 0 (Text.lines source) (Text.lines source')) (policy : DropPolicy) :
    SameOutcome move (collect policy source) (collect policy source') := by
  rw [collect_eq_gather, collect_eq_gather]
  refine SameOutcome.map (h.sameClassName.bind fun name => ?_) _
  exact h.sameMembers.bind fun members => .ok _

end LogosHooks
