import LogosHooks.Pattern.NamePattern
import LogosHooks.Proofs.Pattern.ReadStates

/-!
A pattern text in parentheses behind `^`. What is read up to the parenthesis that closes the group
is what the text in front of it spells by itself. So either the group holds the pattern that the
given text spells, and matches begin at the front of a name, or the given text closes the group
before its end, and then it spells no pattern by itself.
-/
namespace LogosHooks.Pattern

namespace ReadState

variable {state next last : ReadState} {t rest ahead : Text} {c : Char} {n m : Nat}

theorem run?_of_skip_nil (h : state.flags.skip t = []) (n : Nat) :
    state.run? (n + 1) t = some state := by
  rw [run?, h]

theorem run?_of_skip_cons (h : state.flags.skip t = c :: rest) (n : Nat) :
    state.run? (n + 1) t =
      (state.step? c rest).bind fun found => found.1.run? n found.2 := by
  rw [run?, h]
  rfl

/-- More fuel does not change what is read. -/
theorem run?_mono (hle : n ≤ m) (h : state.run? n t = some last) : state.run? m t = some last := by
  induction n generalizing state t m with
  | zero => cases h
  | succ n ih =>
    obtain ⟨m, rfl⟩ := Nat.exists_eq_add_of_lt hle
    cases hskip : state.flags.skip t with
    | nil =>
      rw [run?_of_skip_nil hskip] at h ⊢
      exact h
    | cons c rest =>
      rw [run?_of_skip_cons hskip] at h ⊢
      obtain ⟨found, hstep, hrun⟩ := Option.bind_eq_some_iff.mp h
      exact Option.bind_eq_some_iff.mpr ⟨found, hstep, ih (by omega) hrun⟩

/-- The text `ahead` leads from one state to the next, whatever it stops in front of. -/
structure Reads (state : ReadState) (ahead : Text) (next : ReadState) : Prop where
  run : ∀ u, Stops u → ∀ m last, next.run? m u = some last →
    state.run? (ahead.length + m) (ahead ++ u) = some last
  rest : ∀ u, Stops u → ∀ m last, state.run? m (ahead ++ u) = some last →
    ∃ k, next.run? k u = some last

/-- Blanks and comments lead nowhere. -/
theorem reads_of_skip (h : ∀ u, Stops u → state.flags.skip (ahead ++ u) = u) :
    Reads state ahead state := by
  have hsame : ∀ u, Stops u → ∀ m, state.run? m (ahead ++ u) = state.run? m u := by
    intro u hu m
    cases m with
    | zero => rfl
    | succ m => rw [run?, run?, h u hu, skip_of_stops hu]
  constructor
  · intro u hu m last hrun
    rw [hsame u hu]
    exact run?_mono (Nat.le_add_left m _) hrun
  · intro u hu m last hrun
    exact ⟨m, (hsame u hu m).symm.trans hrun⟩

/-- One construct more in front, with the blanks before it. -/
theorem Reads.cons {taken behind : Text} {construct : Construct} {after : ReadState}
    (h : Reads after ahead next)
    (hskip : state.flags.skip t = c :: (taken ++ (ahead ++ ')' :: behind)))
    (htakes : Takes (fun t => construct? state.flags c t) construct taken ahead)
    (htake : state.take? construct = some after) :
    ∃ read, t = read ++ ')' :: behind ∧ Reads state read next := by
  have htext : state.flags.skip t = c :: (taken ++ ahead) ++ ')' :: behind := by simp [hskip]
  obtain ⟨gap, rfl, hgap⟩ := exists_gap_of_skip htext
  have hfirst : ∀ u, Stops u → ∀ m, state.run? (m + 1) (gap ++ c :: (taken ++ ahead) ++ u) =
      after.run? m (ahead ++ u) := by
    intro u hu m
    have hskip' : state.flags.skip (gap ++ c :: (taken ++ ahead) ++ u) =
        c :: (taken ++ (ahead ++ u)) := by
      simpa using hgap u hu
    rw [run?_of_skip_cons hskip', step?_eq_some_iff.mpr ⟨construct, htakes u hu, htake⟩]
    rfl
  refine ⟨gap ++ c :: (taken ++ ahead), by simp, fun u hu m last hrun => ?_,
    fun u hu m last hrun => ?_⟩
  · have hafter := h.run u hu m last hrun
    rw [← hfirst u hu] at hafter
    exact run?_mono (by simp; omega) hafter
  · cases m with
    | zero => cases hrun
    | succ m => exact h.rest u hu m last (hfirst u hu m ▸ hrun)

/-- Outside of all groups there is none to close. -/
theorem run?_close (houter : state.outer = []) (n : Nat) (rest : Text) :
    state.run? n (')' :: rest) = none := by
  have hstep : state.step? ')' rest = none := by
    simp [step?, construct?, take?, closeGroup?, houter]
  cases n with
  | zero => rfl
  | succ n => rw [run?_of_skip_cons (skip_of_stops (stops_close rest) _), hstep, Option.bind_none]

/-- A brace with nothing behind it is no repetition. -/
theorem not_reads_of_isOpenBorder (h : IsOpenBorder state.flags ahead) :
    ¬ Reads state ahead next := by
  intro hreads
  have hread := hreads.run [] stops_nil 1 next (run?_of_skip_nil (skip_nil _) 0)
  obtain ⟨rest, rfl, hrest⟩ := h
  rw [List.append_nil] at hread
  have hskip : state.flags.skip ('\x7b' :: rest) = '\x7b' :: rest :=
    skip_cons (by decide) (by decide) state.flags rest
  have hnone : construct? state.flags '\x7b' rest = none := by
    simp [construct?, counts?, hrest, decimal?, digitRun, count?]
  rw [run?_of_skip_cons hskip, step?, hnone] at hread
  cases hread

/-- What is read within a group up to the parenthesis that closes it. -/
theorem exists_close_of_run? {g : OpenGroup}
    (hrun : (state.within [g]).run? n t = some last) (hlast : last.outer = []) :
    ∃ inside ahead behind, t = ahead ++ ')' :: behind ∧ inside.outer = [] ∧
      Reads state ahead inside ∧ ∃ closed m,
        (inside.within [g]).closeGroup? = some closed ∧ closed.run? m behind = some last := by
  induction n generalizing state t with
  | zero => cases hrun
  | succ n ih =>
    cases hskip : state.flags.skip t with
    | nil =>
      have hskip' : (state.within [g]).flags.skip t = [] := hskip
      rw [run?_of_skip_nil hskip'] at hrun
      obtain rfl := Option.some.inj hrun
      exact absurd hlast (by simp [within])
    | cons c rest =>
      have hskip' : (state.within [g]).flags.skip t = c :: rest := hskip
      rw [run?_of_skip_cons hskip'] at hrun
      obtain ⟨⟨after', r⟩, hstep, hafter⟩ := Option.bind_eq_some_iff.mp hrun
      by_cases hclose : c = ')' ∧ state.outer = []
      · obtain ⟨rfl, houter⟩ := hclose
        have htext : state.flags.skip t = [] ++ ')' :: rest := hskip
        obtain ⟨gap, rfl, hgap⟩ := exists_gap_of_skip htext
        obtain ⟨construct, hconstruct, hclosed⟩ := step?_eq_some_iff.mp hstep
        obtain ⟨rfl, rfl⟩ := Prod.mk.inj (Option.some.inj hconstruct)
        exact ⟨state, gap, rest, rfl, houter, reads_of_skip hgap, after', n, hclosed, hafter⟩
      · have hframe : c ≠ ')' ∨ state.outer ≠ [] := by
          by_cases hc : c = ')'
          · exact Or.inr fun houter => hclose ⟨hc, houter⟩
          · exact Or.inl hc
        rw [step?_within hframe] at hstep
        obtain ⟨⟨after, r'⟩, hstep', hpair⟩ := Option.map_eq_some_iff.mp hstep
        obtain ⟨rfl, rfl⟩ := Prod.mk.inj hpair
        obtain ⟨inside, ahead, behind, rfl, houter, hreads, hclosed⟩ := ih hafter
        obtain ⟨construct, hconstruct, htake⟩ := step?_eq_some_iff.mp hstep'
        rcases localUnless_construct state.flags c hconstruct with hodd | ⟨taken, rfl, htakes⟩
        · obtain ⟨⟨part, rfl⟩, hborder⟩ := hodd
          obtain rfl := Option.some.inj htake
          have hflags : (state.push part).flags = state.flags := rfl
          exact absurd hreads (not_reads_of_isOpenBorder (hflags ▸ hborder))
        · obtain ⟨read, rfl, hread⟩ := hreads.cons hskip htakes htake
          exact ⟨inside, read, behind, rfl, houter, hread, hclosed⟩

end ReadState

/-! ### The pattern in the group -/

theorem parse?_eq_some_iff {t : Text} {p : Pattern} :
    parse? t = some p ↔ ∃ whole, spelled? t = some whole ∧ whole.depth ≤ maxDepth ∧
      whole.pattern.plan.fits = true ∧ whole.pattern = p := by
  unfold parse?
  change (spelled? t).bind _ = _ ↔ _
  rw [Option.bind_eq_some_iff]
  refine exists_congr fun whole => and_congr_right fun _ => ?_
  by_cases hdepth : whole.depth ≤ maxDepth
  · cases hfits : whole.pattern.plan.fits with
    | true => simp [guard, hdepth]
    | false => simp [guard]
  · simp [guard, hdepth]

def anchorGroup : OpenGroup := ⟨{}, ⟨[], [⟨.assertion .textStart, 0, false⟩]⟩, none⟩

theorem run?_anchored (n : Nat) (t : Text) :
    ({} : ReadState).run? (n + 2) ("^(?:".toList ++ t) =
      (({} : ReadState).within [anchorGroup]).run? n t := by
  rfl

theorem close_of_closeGroup? {inside closed : ReadState} (houter : inside.outer = [])
    (h : (inside.within [anchorGroup]).closeGroup? = some closed) :
    closed.level.close.depth = 2 + inside.level.close.depth ∧
      closed.level.close.pattern = .seq (.assertion .textStart)
        (.seq (.group none inside.level.close.pattern) .empty) := by
  have hgroups : (inside.within [anchorGroup]).outer = [anchorGroup] := by
    simp [ReadState.within, houter]
  unfold ReadState.closeGroup? at h
  rw [hgroups] at h
  obtain rfl := Option.some.inj h
  refine ⟨?_, rfl⟩
  change 1 + max (max 0 0) (1 + inside.level.close.depth) = _
  omega

/-- A pattern text in the group: the group ends behind the whole text, which spells a pattern, or it
ends before, and the text spells none. -/
theorem spelled?_anchored {source : Text} {whole : Part}
    (h : spelled? (NamePattern.anchored source) = some whole) :
    (∃ inside, spelled? source = some inside ∧ whole.depth = 2 + inside.depth ∧
      whole.pattern = .seq (.assertion .textStart) (.seq (.group none inside.pattern) .empty)) ∨
    (spelled? source = none ∧ ∃ front rest inside,
      source = front ++ ')' :: rest ∧ spelled? front = some inside) := by
  obtain ⟨last, hrun, hlast, rfl⟩ := spelled?_eq_some_iff.mp h
  have hgroup : (({} : ReadState).within [anchorGroup]).run? (source.length + 4)
      (source ++ [')']) = some last := by
    rw [← run?_anchored, ← List.append_assoc]
    simpa [NamePattern.anchored] using hrun
  obtain ⟨inside, front, behind, htext, houter, hreads, closed, m, hclosed, hbehind⟩ :=
    ReadState.exists_close_of_run? hgroup hlast
  have hfront : spelled? front = some inside.level.close := by
    have hread := hreads.run [] stops_nil 1 inside (ReadState.run?_of_skip_nil (skip_nil _) 0)
    rw [List.append_nil] at hread
    exact spelled?_eq_some_iff.mpr ⟨inside, hread, houter, rfl⟩
  rcases List.eq_nil_or_concat behind with rfl | ⟨rest, c, rfl⟩
  · obtain ⟨rfl, -⟩ := List.append_inj' htext rfl
    refine Or.inl ⟨inside.level.close, hfront, ?_⟩
    cases m with
    | zero => cases hbehind
    | succ m =>
      rw [ReadState.run?_of_skip_nil (skip_nil _)] at hbehind
      obtain rfl := Option.some.inj hbehind
      exact close_of_closeGroup? houter hclosed
  · obtain ⟨rfl, hc⟩ : source = front ++ ')' :: rest ∧ [')'] = [c] :=
      List.append_inj' (by simpa using htext) rfl
    refine Or.inr ⟨?_, front, rest, _, rfl, hfront⟩
    refine Option.eq_none_iff_forall_ne_some.mpr fun other hother => ?_
    obtain ⟨final, hread, -, -⟩ := spelled?_eq_some_iff.mp hother
    obtain ⟨k, hstuck⟩ := hreads.rest (')' :: rest) (stops_close rest) _ _ hread
    rw [ReadState.run?_close houter] at hstuck
    cases hstuck

/-! ### Names -/

/-- A match of a pattern behind `^` begins at the front of the text. -/
theorem begins_behind_textStart_iff (p : Pattern) (before t : Text) :
    (seq (.assertion .textStart) (.seq (.group none p) .empty)).Begins before t ↔
      before = [] ∧ p.Begins [] t := by
  constructor
  · rintro ⟨_, behind, rfl, _, _, rfl, ⟨rfl, hstart⟩, part, _, rfl, hmatch, rfl⟩
    obtain rfl : before = [] := List.getLast?_eq_none_iff.mp (Option.isNone_iff_eq_none.mp hstart)
    exact ⟨rfl, part, behind, by simp, by simpa [Matches] using hmatch⟩
  · rintro ⟨rfl, part, behind, rfl, hmatch⟩
    exact ⟨part, behind, rfl, [], part, rfl, ⟨rfl, rfl⟩, part, [], by simp,
      by simpa [Matches] using hmatch, rfl⟩

end LogosHooks.Pattern

namespace LogosHooks.NamePattern

open Pattern

variable {source : Text} {f : NamePattern}

theorem compile_eq_ok_iff :
    compile source = .ok f ↔
      ∃ expression, parse? (anchored source) = some expression ∧ f = ⟨source, expression⟩ := by
  unfold compile
  cases parse? (anchored source) with
  | none => simp
  | some expression => simp [eq_comm]

/-- A pattern text that compiles spells a pattern by itself, and a name is accepted exactly if a
match of that pattern begins at its front. Or else a parenthesis in the text closes the group that
the text is put into, and the text spells no pattern by itself. -/
theorem compile_anchors (h : compile source = .ok f) :
    (∃ whole, spelled? source = some whole ∧ whole.depth ≤ maxDepth ∧
      (whole.pattern.plan.fits → parse? source = some whole.pattern) ∧
      ∀ name, f.accepts name = true ↔ whole.pattern.Begins [] name) ∨
    (spelled? source = none ∧ ∃ front rest inside,
      source = front ++ ')' :: rest ∧ spelled? front = some inside) := by
  obtain ⟨expression, hparse, rfl⟩ := compile_eq_ok_iff.mp h
  obtain ⟨whole, hspelled, hdepth, -, rfl⟩ := parse?_eq_some_iff.mp hparse
  rcases spelled?_anchored hspelled with
    ⟨inside, hinside, hinsideDepth, hpattern⟩ | ⟨hnone, front, rest, inside, hsource, hfront⟩
  · refine Or.inl ⟨inside, hinside, by omega, fun hfits => ?_, fun name => ?_⟩
    · exact parse?_eq_some_iff.mpr ⟨inside, hinside, by omega, hfits, rfl⟩
    · rw [accepts, matchesSomewhere_iff (ordered_of_spelled? hspelled)]
      simp only [hpattern, begins_behind_textStart_iff]
      simp
  · exact Or.inr ⟨hnone, front, rest, inside, hsource, hfront⟩

theorem compile_anchors_alternatives : ∃ f : NamePattern,
    compile "foo|bar".toList = .ok f ∧
      (∃ whole, spelled? "foo|bar".toList = some whole ∧
        ∀ name, f.accepts name = true ↔ whole.pattern.Begins [] name) ∧
      f.accepts "barBaz".toList = true ∧ f.accepts "xbar".toList = false := by
  let word (a b c : Char) : Pattern :=
    .seq (.one (.single a)) (.seq (.one (.single b)) (.seq (.one (.single c)) .empty))
  let f : NamePattern := ⟨"foo|bar".toList, .seq (.assertion .textStart)
    (.seq (.group none (.alt (word 'f' 'o' 'o') (word 'b' 'a' 'r'))) .empty)⟩
  have hcompile : compile "foo|bar".toList = .ok f := by rfl
  refine ⟨f, hcompile, ?_, by decide +kernel, by decide +kernel⟩
  rcases compile_anchors hcompile with ⟨whole, hwhole, -, -, haccepts⟩ | ⟨hnone, -⟩
  · exact ⟨whole, hwhole, haccepts⟩
  · have hspelled : (spelled? "foo|bar".toList).isSome = true := by decide +kernel
    rw [hnone] at hspelled
    cases hspelled

/-- A text that spells no pattern compiles, and a name is accepted for what stands in its middle. -/
theorem compile_closes_early : spelled? "a)|(b".toList = none ∧ ∃ f : NamePattern,
    compile "a)|(b".toList = .ok f ∧ f.accepts "xb".toList = true ∧
      ¬ f.expression.Begins [] "xb".toList := by
  let f : NamePattern := ⟨"a)|(b".toList, .alt
    (.seq (.assertion .textStart) (.seq (.group none (.one (.single 'a'))) .empty))
    (.group (some 1) (.one (.single 'b')))⟩
  have hordered : f.expression.Ordered := ⟨⟨trivial, trivial, trivial⟩, trivial⟩
  refine ⟨by decide +kernel, f, by rfl, by decide +kernel, ?_⟩
  rw [← matchesFront_iff hordered]
  decide +kernel

end LogosHooks.NamePattern
