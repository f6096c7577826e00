import LogosHooks.Proofs.Header.Alignment

/-!
Edits of a header that change nothing that it declares. Lines that declare nothing come and go, a
line break has a carriage return or not, and blanks and comments are written behind members. Every
edit leaves the lines aligned. So after any number of edits there is the same interface, or the same
fault in the line that the faulty line has become.
-/
namespace LogosHooks

open Text

/-- An edit of the lines of a header. The places are counted from 0, and each line has the carriage
return at its end still. -/
inductive LineEdit where
  /-- The new line has this place, and those from there on stand one place further down. -/
  | insert (place : Nat) (line : Text)
  | delete (place : Nat)
  | addReturn (place : Nat)
  | cutReturn (place : Nat)
  | append (place : Nat) (gap comment : Text)
deriving DecidableEq, Repr

namespace LineEdit

def apply : LineEdit → List Text → List Text
  | insert place line, ls => ls.insertIdx place line
  | delete place, ls => ls.eraseIdx place
  | addReturn place, ls => ls.modify place (· ++ ['\r'])
  | cutReturn place, ls => ls.modify place dropReturn
  | append place gap comment, ls => ls.modify place (· ++ gap ++ comment)

def move : LineEdit → Nat → Option Nat
  | insert place _, i => if i < place then some i else some (i + 1)
  | delete place, i => if i < place then some i else if i = place then none else some (i - 1)
  | addReturn _, i | cutReturn _, i | append .., i => some i

/-- The edit can be made in these lines and changes nothing that they declare. -/
inductive Allowed (ls : List Text) : LineEdit → Prop
  | insert {place : Nat} {line : Text} (hplace : place ≤ ls.length) (hfiller : IsFiller line)
      (hline : '\n' ∉ line) : Allowed ls (.insert place line)
  | delete {place : Nat} {line : Text} (hline : ls[place]? = some line) (hfiller : IsFiller line)
      (hrest : 1 < ls.length) : Allowed ls (.delete place)
  | addReturn {place : Nat} (hplace : place < ls.length) : Allowed ls (.addReturn place)
  | cutReturn {place : Nat} (hplace : place < ls.length) : Allowed ls (.cutReturn place)
  | append {place : Nat} {line gap comment : Text} (hline : ls[place]? = some line)
      (hkind : isMethodLine line = true ∨ isPropertyLine line = true) (hgap : IsGap gap)
      (hcomment : comment = [] ∨
        "//".toList <+: comment ∧ (line ++ gap).getLast? ≠ some '/')
      (hfeed : '\n' ∉ gap ++ comment) : Allowed ls (.append place gap comment)

def edit (e : LineEdit) (source : Text) : Text :=
  ['\n'].intercalate (e.apply (source.splitOn '\n'))

end LineEdit

def editAll : List LineEdit → Text → Text
  | [], source => source
  | e :: es, source => editAll es (e.edit source)

def moveAll : List LineEdit → Nat → Option Nat
  | [], i => some i
  | e :: es, i => (e.move i).bind (moveAll es)

def AllowedAll : List LineEdit → Text → Prop
  | [], _ => True
  | e :: es, source => e.Allowed (source.splitOn '\n') ∧ AllowedAll es (e.edit source)

/-! ### One edit -/

theorem forall_mem_modify {p : Text → Prop} {f : Text → Text} {ls : List Text} {place : Nat}
    (hls : ∀ l ∈ ls, p l) (hf : ∀ l ∈ ls, p (f l)) : ∀ l ∈ ls.modify place f, p l := by
  intro l hl
  obtain ⟨k, hk⟩ := List.mem_iff_getElem?.mp hl
  rw [List.getElem?_modify] at hk
  obtain ⟨a, ha, rfl⟩ := Option.map_eq_some_iff.mp hk
  have hmem := List.mem_of_getElem? ha
  split
  · exact hf a hmem
  · exact hls a hmem

/-- The `n` lines from `i` on are moved to the places from `j` on. -/
def Shifts (move : Nat → Option Nat) (i j n : Nat) : Prop := ∀ k < n, move (i + k) = some (j + k)

section Aligned

variable {move : Nat → Option Nat} {i j n place : Nat} {ls ls' : List Text}

theorem Shifts.head (h : Shifts move i j (n + 1)) : move i = some j := h 0 (Nat.succ_pos n)

theorem Shifts.tail (h : Shifts move i j (n + 1)) : Shifts move (i + 1) (j + 1) n := by
  intro k hk
  rw [Nat.add_right_comm i, Nat.add_right_comm j]
  exact h (k + 1) (Nat.succ_lt_succ hk)

/-- Lines that all move alike stand beside themselves. -/
theorem aligned_self (hmove : Shifts move i j ls.length) : Aligned move i j ls ls := by
  induction ls generalizing i j with
  | nil => exact .nil
  | cons first rest ih => exact .both hmove.head rfl (ih hmove.tail)

theorem aligned_insertIdx {line : Text} (hline : IsFiller line) (hplace : place ≤ ls.length)
    (hfront : Shifts move i j place) (hback : ∀ n, Shifts move (i + place) (j + place + 1) n) :
    Aligned move i j ls (ls.insertIdx place line) := by
  induction place generalizing i j ls with
  | zero => exact .right hline (aligned_self (hback _))
  | succ place ih =>
    cases ls with
    | nil => simp at hplace
    | cons first rest =>
      refine .both hfront.head rfl (ih (Nat.le_of_succ_le_succ hplace) hfront.tail fun n => ?_)
      rw [Nat.add_right_comm i, Nat.add_right_comm j]
      exact hback n

theorem aligned_eraseIdx {line : Text} (hline : ls[place]? = some line) (hfiller : IsFiller line)
    (hfront : Shifts move i j place) (hgone : move (i + place) = none)
    (hback : ∀ n, Shifts move (i + place + 1) (j + place) n) :
    Aligned move i j ls (ls.eraseIdx place) := by
  induction place generalizing i j ls with
  | zero =>
    cases ls with
    | nil => simp at hline
    | cons first rest =>
      cases hline
      exact .left hgone hfiller (aligned_self (hback _))
  | succ place ih =>
    cases ls with
    | nil => simp at hline
    | cons first rest =>
      refine .both hfront.head rfl (ih hline hfront.tail ?_ fun n => ?_)
      · rwa [Nat.add_right_comm]
      · rw [Nat.add_right_comm i, Nat.add_right_comm j]
        exact hback n

theorem aligned_modify {f : Text → Text}
    (hread : ∀ line, ls[place]? = some line → reading line = reading (f line))
    (hmove : Shifts move i j ls.length) : Aligned move i j ls (ls.modify place f) := by
  induction ls generalizing i j place with
  | nil =>
    rw [List.modify_nil]
    exact .nil
  | cons first rest ih =>
    cases place with
    | zero => exact .both hmove.head (hread first rfl) (aligned_self hmove.tail)
    | succ place => exact .both hmove.head rfl (ih hread hmove.tail)

end Aligned

namespace LineEdit.Allowed

variable {e : LineEdit} {ls : List Text}

/-- An edit moves the lines as it says. -/
theorem aligned (h : e.Allowed ls) : Aligned e.move 0 0 ls (e.apply ls) := by
  have hreturn : IsGap ['\r'] := fun c hc => List.mem_singleton.mp hc ▸ rfl
  cases h with
  | @insert place line hplace hfiller hline =>
    refine aligned_insertIdx hfiller hplace (fun k hk => ?_) fun n k hk => ?_
    · simp [move, hk]
    · have hback : ¬ 0 + place + k < place := by omega
      rw [move, if_neg hback, Nat.add_right_comm]
  | @delete place line hline hfiller hrest =>
    refine aligned_eraseIdx hline hfiller (fun k hk => ?_) ?_ fun n k hk => ?_
    · simp [move, hk]
    · simp [move]
    · have hback : ¬ 0 + place + 1 + k < place := by omega
      have hne : 0 + place + 1 + k ≠ place := by omega
      rw [move, if_neg hback, if_neg hne, Nat.add_right_comm, Nat.add_sub_cancel]
  | addReturn hplace =>
    exact aligned_modify (fun line _ => (reading_append_gap hreturn line).symm) fun _ _ => rfl
  | cutReturn hplace =>
    exact aligned_modify (fun line _ => (reading_dropReturn line).symm) fun _ _ => rfl
  | @append place line gap comment hline hkind hgap hcomment hfeed =>
    refine aligned_modify (fun found hfound => ?_) fun _ _ => rfl
    obtain rfl : line = found := Option.some.inj (hline.symm.trans hfound)
    rw [← reading_append_gap hgap line]
    rcases hcomment with rfl | ⟨hslashes, hlast⟩
    · rw [List.append_nil]
    · refine (reading_append_comment ?_ hlast hslashes).symm
      rwa [isMethodLine_append_gap hgap, isPropertyLine_append_gap hgap]

theorem not_mem_apply (h : e.Allowed ls) (hls : ∀ l ∈ ls, '\n' ∉ l) :
    ∀ l ∈ e.apply ls, '\n' ∉ l := by
  cases h with
  | insert hplace hfiller hline =>
    intro l hl
    rcases (List.mem_insertIdx hplace).mp hl with rfl | hl
    · exact hline
    · exact hls l hl
  | delete hline hfiller hrest => exact fun l hl => hls l (List.mem_of_mem_eraseIdx hl)
  | addReturn hplace =>
    refine forall_mem_modify hls fun l hl => ?_
    simpa using hls l hl
  | cutReturn hplace =>
    refine forall_mem_modify hls fun l hl hmem => hls l hl ?_
    rcases dropReturn_cases l with heq | heq
    · rwa [heq] at hmem
    · rw [heq]
      exact List.mem_append_left _ hmem
  | append hline hkind hgap hcomment hfeed =>
    refine forall_mem_modify hls fun l hl hmem => ?_
    rw [List.append_assoc, List.mem_append] at hmem
    exact hmem.elim (hls l hl) hfeed

theorem apply_ne_nil (h : e.Allowed ls) (hls : ls ≠ []) : e.apply ls ≠ [] := by
  cases h with
  | insert hplace hfiller hline =>
    apply List.ne_nil_of_length_pos
    rw [apply, List.length_insertIdx_of_le_length hplace]
    exact Nat.succ_pos _
  | delete hline hfiller hrest =>
    intro hnil
    rcases List.eraseIdx_eq_nil_iff.mp hnil with hnil | ⟨hone, -⟩
    · exact hls hnil
    · omega
  | addReturn hplace => simpa [apply] using hls
  | cutReturn hplace => simpa [apply] using hls
  | append hline hkind hgap hcomment hfeed => simpa [apply] using hls

/-- The lines of the header that is edited. -/
theorem lines_edit {source : Text} (h : e.Allowed (source.splitOn '\n')) :
    lines (e.edit source) = (e.apply (source.splitOn '\n')).map dropReturn :=
  lines_intercalate (h.apply_ne_nil (List.splitOn_ne_nil _ _))
    (h.not_mem_apply fun _ => not_mem_of_mem_splitOn)

theorem aligned_edit {source : Text} (h : e.Allowed (source.splitOn '\n')) :
    Aligned e.move 0 0 (lines source) (lines (e.edit source)) := by
  rw [h.lines_edit]
  exact h.aligned.map_dropReturn

end LineEdit.Allowed

/-! ### All edits -/

theorem exists_line_editAll {es : List LineEdit} {source : Text} (h : AllowedAll es source)
    {i : Nat} {line : Text} (hline : (lines source)[i]? = some line) :
    (moveAll es i = none ∧ IsFiller line) ∨
      ∃ j line', moveAll es i = some j ∧ (lines (editAll es source))[j]? = some line' ∧
        reading line = reading line' := by
  induction es generalizing source i line with
  | nil => exact Or.inr ⟨i, line, rfl, hline, rfl⟩
  | cons e es ih =>
    obtain ⟨he, hes⟩ := h
    have hstep := he.aligned_edit.getElem?_eq_some hline
    simp only [Nat.zero_add] at hstep
    rcases hstep with ⟨hmove, hfiller⟩ | ⟨m, next, hmove, hnext, hread⟩
    · exact Or.inl ⟨by rw [moveAll, hmove]; rfl, hfiller⟩
    · have hall : moveAll (e :: es) i = moveAll es m := by
        rw [moveAll, hmove]
        rfl
      rw [hall, isFiller_iff_reading, hread, ← isFiller_iff_reading]
      exact ih hes hnext

theorem sameOutcome_editAll {es : List LineEdit} {source : Text} (h : AllowedAll es source)
    (policy : DropPolicy) :
    SameOutcome (moveAll es) (collect policy source) (collect policy (editAll es source)) := by
  induction es generalizing source with
  | nil =>
    refine sameOutcome_of_aligned (aligned_self fun k _ => ?_) policy
    rw [Nat.zero_add]
    rfl
  | cons e es ih =>
    obtain ⟨he, hes⟩ := h
    exact (sameOutcome_of_aligned he.aligned_edit policy).trans (ih hes)

/-- Edits change neither the interface nor the fault, and the fault is found in the line that the
faulty line has become. The lines that declare something are all still there. -/
theorem collect_editAll {es : List LineEdit} {source : Text} (h : AllowedAll es source)
    (policy : DropPolicy) :
    SameOutcome (moveAll es) (collect policy source) (collect policy (editAll es source)) ∧
    ∀ i line, (lines source)[i]? = some line →
      (moveAll es i = none ∧ IsFiller line) ∨
        ∃ j line', moveAll es i = some j ∧ (lines (editAll es source))[j]? = some line' ∧
          reading line = reading line' :=
  ⟨sameOutcome_editAll h policy, fun _ _ hline => exists_line_editAll h hline⟩

theorem collect_editAll_lamp :
    let source := "// lamp\n@interface Lamp\n- (void)on\n- (id)two words;".toList
    let es : List LineEdit :=
      [.insert 1 "#import".toList, .addReturn 2, .delete 0, .append 2 "\t".toList "// x".toList,
        .insert 0 [], .addReturn 4, .cutReturn 2]
    let fault : LineFault := .badDeclaration (.selectorSplit "two words".toList)
    AllowedAll es source ∧
      editAll es source =
        "\n#import\n@interface Lamp\n- (void)on\t// x\n- (id)two words;\r".toList ∧
      collect {} source = .error (.inLine 4 fault) ∧
      collect {} (editAll es source) = .error (.inLine 5 fault) := by
  intro source es fault
  have hallowed : AllowedAll es source :=
    ⟨.insert (by decide +kernel) (by decide +kernel) (by decide +kernel),
      .addReturn (by decide +kernel),
      @LineEdit.Allowed.delete _ 0 "// lamp".toList (by decide +kernel) (by decide +kernel)
        (by decide +kernel),
      @LineEdit.Allowed.append _ 2 "- (void)on".toList "\t".toList "// x".toList
        (by decide +kernel) (by decide +kernel) (by decide +kernel) (by decide +kernel)
        (by decide +kernel),
      .insert (by decide +kernel) (by decide +kernel) (by decide +kernel),
      .addReturn (by decide +kernel), .cutReturn (by decide +kernel), trivial⟩
  have hfault : collect {} source = .error (.inLine 4 fault) := by decide +kernel
  have hsame := (collect_editAll hallowed {}).1
  rw [hfault] at hsame
  obtain ⟨j, hmove, hmoved⟩ := hsame.exists_inLine
  cases hmove
  exact ⟨hallowed, by decide +kernel, hfault, hmoved⟩

end LogosHooks
