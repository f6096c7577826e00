import LogosHooks.Proofs.Pattern.ConstructLocality
import LogosHooks.Proofs.Pattern.Matching

/-!
The state in which a pattern is read, one construct at a time. No repetition that was read asks for
more rounds than it allows. Groups that are open further out have no bearing on what is read within
them, until one of them is closed.
-/
namespace LogosHooks.Pattern

/-! ### Counts in order -/

theorem Part.ordered_ofSequence {parts : List Part} (h : ∀ part ∈ parts, part.pattern.Ordered) :
    (Part.ofSequence parts).pattern.Ordered := by
  have hfoldr :
      (parts.foldr (fun part rest => .seq part.pattern rest) .empty : Pattern).Ordered := by
    induction parts with
    | nil => trivial
    | cons part parts ih =>
      exact ⟨h part List.mem_cons_self, ih fun p hp => h p (List.mem_cons_of_mem part hp)⟩
  match parts, h, hfoldr with
  | [], _, _ => trivial
  | [part], h, _ => exact h part List.mem_cons_self
  | _ :: _ :: _, _, hfoldr => exact hfoldr

theorem Part.ordered_ofBranches {branches : List Part}
    (h : ∀ part ∈ branches, part.pattern.Ordered) : (Part.ofBranches branches).pattern.Ordered := by
  have hfoldl : ∀ (rest : List Part) (first : Pattern), first.Ordered →
      (∀ part ∈ rest, part.pattern.Ordered) →
      (rest.foldl (fun left part => .alt left part.pattern) first).Ordered := by
    intro rest
    induction rest with
    | nil => exact fun first hfirst _ => hfirst
    | cons part rest ih =>
      intro first hfirst hrest
      exact ih _ ⟨hfirst, hrest part List.mem_cons_self⟩ fun p hp =>
        hrest p (List.mem_cons_of_mem part hp)
  match branches with
  | [] => trivial
  | [part] => exact h part List.mem_cons_self
  | first :: part :: rest =>
    exact hfoldl (part :: rest) first.pattern (h first List.mem_cons_self) fun p hp =>
      h p (List.mem_cons_of_mem first hp)

structure Level.Ordered (level : Level) : Prop where
  branches : ∀ part ∈ level.branches, part.pattern.Ordered
  parts : ∀ part ∈ level.parts, part.pattern.Ordered

namespace Level

variable {level : Level}

theorem Ordered.push (h : level.Ordered) {part : Part} (hpart : part.pattern.Ordered) :
    (level.push part).Ordered where
  branches := h.branches
  parts p hp := by
    rcases List.mem_cons.mp hp with rfl | hp
    · exact hpart
    · exact h.parts p hp

theorem Ordered.bar (h : level.Ordered) : level.bar.Ordered where
  branches p hp := by
    rcases List.mem_cons.mp hp with rfl | hp
    · exact Part.ordered_ofSequence fun part hpart => h.parts part (List.mem_reverse.mp hpart)
    · exact h.branches p hp
  parts p hp := by cases hp

theorem Ordered.close (h : level.Ordered) : level.close.pattern.Ordered :=
  Part.ordered_ofBranches fun part hpart => h.bar.branches part (List.mem_reverse.mp hpart)

end Level

def Construct.Ordered : Construct → Prop
  | .part p => p.pattern.Ordered
  | .repetition least most _ => ∀ m ∈ most, least ≤ m
  | .flags _ | .bar | .openGroup _ | .openNumbered _ | .closeGroup => True

structure ReadState.Ordered (state : ReadState) : Prop where
  level : state.level.Ordered
  outer : ∀ g ∈ state.outer, g.level.Ordered

section Constructs

variable {flags : Flags} {c : Char} {t rest : Text} {construct : Construct}

theorem eq_of_closing? {α : Type} {a b : α} (h : closing? flags a t = some (b, rest)) : b = a := by
  unfold closing? at h
  split at h
  · exact (Prod.mk.inj (Option.some.inj h)).1.symm
  · cases h

theorem ordered_of_mostCount? {least : Nat} {most : Option Nat}
    (h : mostCount? flags least t = some (most, rest)) : ∀ m ∈ most, least ≤ m := by
  unfold mostCount? at h
  split at h
  · obtain ⟨rfl, -⟩ := Prod.mk.inj (Option.some.inj h)
    intro m hm
    cases hm
  · obtain ⟨largest, -, hclosing⟩ := Option.bind_eq_some_iff.mp h
    split_ifs at hclosing with hle
    obtain rfl := eq_of_closing? hclosing
    rintro m ⟨⟩
    exact hle

theorem ordered_of_counts? {least : Nat} {most : Option Nat}
    (h : counts? flags t = some ((least, most), rest)) : ∀ m ∈ most, least ≤ m := by
  obtain ⟨n, -, hthen⟩ := Option.bind_eq_some_iff.mp h
  split at hthen
  · obtain ⟨⟨most', behind⟩, hmost, hpair⟩ := Option.map_eq_some_iff.mp hthen
    obtain ⟨hcounts, -⟩ := Prod.mk.inj hpair
    obtain ⟨rfl, rfl⟩ := Prod.mk.inj hcounts
    exact ordered_of_mostCount? hmost
  · obtain ⟨rfl, rfl⟩ := Prod.mk.inj (eq_of_closing? hthen)
    rintro m ⟨⟩
    exact Nat.le_refl _

theorem ordered_of_atomPart? {atom : Atom} {part : Part} (h : flags.atomPart? atom = some part) :
    part.pattern.Ordered := by
  cases atom with
  | literal c asByte =>
    obtain ⟨a, -, rfl⟩ := Option.map_eq_some_iff.mp h
    trivial
  | chars a =>
    obtain rfl := Option.some.inj h
    trivial
  | assertion condition =>
    obtain rfl := Option.some.inj h
    trivial

theorem ordered_of_charPart? {part : Part} (h : flags.charPart? c = some part) :
    part.pattern.Ordered := by
  unfold Flags.charPart? at h
  split at h
  · split_ifs at h
    exact ordered_of_atomPart? h
  · exact ordered_of_atomPart? h
  · exact ordered_of_atomPart? h
  · exact ordered_of_atomPart? h

/-- What a parenthesis that opens can say. -/
inductive Construct.IsOpening : Construct → Prop
  | openGroup (inside : Flags) : IsOpening (.openGroup inside)
  | openNumbered (name : Option Text) : IsOpening (.openNumbered name)
  | flags (inside : Flags) : IsOpening (.flags inside)

theorem isOpening_of_groupName? (h : groupName? t = some (construct, rest)) :
    construct.IsOpening := by
  simp only [groupName?] at h
  split at h
  · cases h
  · split_ifs at h
    obtain ⟨rfl, -⟩ := Prod.mk.inj (Option.some.inj h)
    exact .openNumbered _

theorem isOpening_of_groupFlags? (h : groupFlags? flags t = some (construct, rest)) :
    construct.IsOpening := by
  simp only [groupFlags?] at h
  split at h
  · cases h
  split at h
  · obtain ⟨rfl, -⟩ := Prod.mk.inj (Option.some.inj h)
    exact .openGroup _
  · split at h
    · cases h
    · obtain ⟨rfl, -⟩ := Prod.mk.inj (Option.some.inj h)
      exact .flags _
  · cases h

theorem isOpening_of_group? (h : group? flags t = some (construct, rest)) :
    construct.IsOpening := by
  unfold group? at h
  split at h
  · unfold specialGroup? at h
    split at h
    · exact isOpening_of_groupName? h
    · exact isOpening_of_groupName? h
    · exact isOpening_of_groupFlags? h
  · obtain ⟨rfl, -⟩ := Prod.mk.inj (Option.some.inj h)
    exact .openNumbered none

/-- A part, a repetition or a bar: what closes no group, with its counts in order. -/
def Construct.IsOrdinary (construct : Construct) : Prop :=
  construct.Ordered ∧ construct ≠ .closeGroup

theorem Construct.IsOpening.isOrdinary (h : construct.IsOpening) : construct.IsOrdinary := by
  cases h
  all_goals exact ⟨trivial, nofun⟩

theorem isOrdinary_of_repetition {least : Nat} {most : Option Nat} (hcounts : ∀ m ∈ most, least ≤ m)
    (h : repetition least most t = (construct, rest)) : construct.IsOrdinary := by
  obtain rfl := congrArg Prod.fst h
  exact ⟨hcounts, nofun⟩

/-- Only a closing parenthesis closes a group. -/
theorem construct?_cases (h : construct? flags c t = some (construct, rest)) :
    (c = ')' ∧ construct = .closeGroup ∧ rest = t) ∨ construct.IsOrdinary := by
  unfold construct? at h
  split at h
  case h_1 => exact Or.inr (isOpening_of_group? h).isOrdinary
  case h_2 =>
    obtain ⟨rfl, rfl⟩ := Prod.mk.inj (Option.some.inj h)
    exact Or.inl ⟨rfl, rfl, rfl⟩
  case h_3 =>
    obtain ⟨rfl, -⟩ := Prod.mk.inj (Option.some.inj h)
    exact Or.inr ⟨trivial, nofun⟩
  case h_4 =>
    obtain ⟨found, -, hpair⟩ := Option.map_eq_some_iff.mp h
    obtain ⟨rfl, -⟩ := Prod.mk.inj hpair
    exact Or.inr ⟨trivial, nofun⟩
  case h_5 => exact Or.inr (isOrdinary_of_repetition (by simp) (Option.some.inj h))
  case h_6 => exact Or.inr (isOrdinary_of_repetition (by simp) (Option.some.inj h))
  case h_7 => exact Or.inr (isOrdinary_of_repetition (by simp) (Option.some.inj h))
  case h_8 =>
    obtain ⟨⟨⟨least, most⟩, behind⟩, hcounts, hpair⟩ := Option.bind_eq_some_iff.mp h
    exact Or.inr (isOrdinary_of_repetition (ordered_of_counts? hcounts) (Option.some.inj hpair))
  case h_9 =>
    obtain ⟨⟨atom, behind⟩, -, hthen⟩ := Option.bind_eq_some_iff.mp h
    obtain ⟨part, hpart, hpair⟩ := Option.map_eq_some_iff.mp hthen
    obtain ⟨rfl, -⟩ := Prod.mk.inj hpair
    exact Or.inr ⟨ordered_of_atomPart? hpart, nofun⟩
  case h_10 =>
    obtain ⟨part, hpart, hpair⟩ := Option.map_eq_some_iff.mp h
    obtain ⟨rfl, -⟩ := Prod.mk.inj hpair
    exact Or.inr ⟨ordered_of_charPart? hpart, nofun⟩

theorem ordered_of_construct? (h : construct? flags c t = some (construct, rest)) :
    construct.Ordered := by
  rcases construct?_cases h with ⟨-, rfl, -⟩ | hordinary
  · trivial
  · exact hordinary.1

end Constructs

namespace ReadState

variable {state next : ReadState} {construct : Construct}

theorem Ordered.push (h : state.Ordered) {part : Part} (hpart : part.pattern.Ordered) :
    (state.push part).Ordered :=
  ⟨h.level.push hpart, h.outer⟩

theorem Ordered.openGroup (h : state.Ordered) (inside : Flags) (number : Option Nat) :
    (state.openGroup inside number).Ordered := by
  refine ⟨⟨nofun, nofun⟩, fun g hg => ?_⟩
  rcases List.mem_cons.mp hg with rfl | hg
  · exact h.level
  · exact h.outer g hg

theorem Ordered.repeatLast? (h : state.Ordered) {least : Nat} {most : Option Nat} {marked : Bool}
    (hcounts : ∀ m ∈ most, least ≤ m) (hnext : state.repeatLast? least most marked = some next) :
    next.Ordered := by
  unfold ReadState.repeatLast? at hnext
  split at hnext
  · next part before hparts =>
    split at hnext
    · cases hnext
    · obtain rfl := Option.some.inj hnext
      have hpart := h.level.parts part (hparts ▸ List.mem_cons_self)
      refine ⟨⟨h.level.branches, fun p hp => ?_⟩, h.outer⟩
      rcases List.mem_cons.mp hp with rfl | hp
      · exact ⟨hcounts, hpart⟩
      · exact h.level.parts p (hparts ▸ List.mem_cons_of_mem part hp)
  · cases hnext

theorem Ordered.closeGroup? (h : state.Ordered) (hnext : state.closeGroup? = some next) :
    next.Ordered := by
  unfold ReadState.closeGroup? at hnext
  split at hnext
  · cases hnext
  · next flags level number outer houter =>
    obtain rfl := Option.some.inj hnext
    have hlevel : level.Ordered := h.outer _ (houter ▸ List.mem_cons_self)
    exact ⟨hlevel.push h.level.close, fun g hg => h.outer g (houter ▸ List.mem_cons_of_mem _ hg)⟩

theorem Ordered.take? (h : state.Ordered) (hconstruct : construct.Ordered)
    (hnext : state.take? construct = some next) : next.Ordered := by
  cases construct with
  | part p =>
    obtain rfl := Option.some.inj hnext
    exact h.push hconstruct
  | flags inside =>
    obtain rfl := Option.some.inj hnext
    exact ⟨h.level.push trivial, h.outer⟩
  | repetition least most marked => exact h.repeatLast? hconstruct hnext
  | bar =>
    obtain rfl := Option.some.inj hnext
    exact ⟨h.level.bar, h.outer⟩
  | openGroup inside =>
    obtain rfl := Option.some.inj hnext
    exact h.openGroup inside none
  | openNumbered name =>
    have hopened := h.openGroup state.flags (some (state.numbered + 1))
    cases name with
    | none =>
      obtain rfl := Option.some.inj hnext
      exact ⟨hopened.level, hopened.outer⟩
    | some name =>
      simp only [ReadState.take?] at hnext
      split at hnext
      · cases hnext
      · obtain rfl := Option.some.inj hnext
        exact ⟨hopened.level, hopened.outer⟩
  | closeGroup => exact h.closeGroup? hnext

theorem step?_eq_some_iff {c : Char} {t rest : Text} :
    state.step? c t = some (next, rest) ↔ ∃ construct,
      construct? state.flags c t = some (construct, rest) ∧ state.take? construct = some next := by
  constructor
  · intro h
    obtain ⟨⟨construct, _⟩, hconstruct, hthen⟩ := Option.bind_eq_some_iff.mp h
    obtain ⟨_, htake, hpair⟩ := Option.bind_eq_some_iff.mp hthen
    obtain ⟨rfl, rfl⟩ := Prod.mk.inj (Option.some.inj hpair)
    exact ⟨construct, hconstruct, htake⟩
  · rintro ⟨construct, hconstruct, htake⟩
    exact Option.bind_eq_some_iff.mpr ⟨_, hconstruct,
      Option.bind_eq_some_iff.mpr ⟨next, htake, rfl⟩⟩

theorem Ordered.step? (h : state.Ordered) {c : Char} {t rest : Text}
    (hnext : state.step? c t = some (next, rest)) : next.Ordered := by
  obtain ⟨construct, hconstruct, htake⟩ := step?_eq_some_iff.mp hnext
  exact h.take? (ordered_of_construct? hconstruct) htake

theorem Ordered.run? (h : state.Ordered) {fuel : Nat} {t : Text}
    (hnext : state.run? fuel t = some next) : next.Ordered := by
  induction fuel generalizing state t with
  | zero => cases hnext
  | succ fuel ih =>
    rw [ReadState.run?] at hnext
    split at hnext
    · obtain rfl := Option.some.inj hnext
      exact h
    · obtain ⟨⟨after, rest⟩, hstep, hrun⟩ := Option.bind_eq_some_iff.mp hnext
      exact ih (h.step? hstep) hrun

theorem ordered_start : ({} : ReadState).Ordered := ⟨⟨nofun, nofun⟩, nofun⟩

/-! ### Groups further out -/

def within (state : ReadState) (base : List OpenGroup) : ReadState :=
  { state with outer := state.outer ++ base }

variable {base : List OpenGroup}

theorem take?_within (h : construct ≠ .closeGroup ∨ state.outer ≠ []) :
    (state.within base).take? construct = (state.take? construct).map (·.within base) := by
  cases construct with
  | part p => rfl
  | flags inside => rfl
  | repetition least most marked =>
    simp only [ReadState.take?, ReadState.repeatLast?, within]
    split
    · split <;> rfl
    · rfl
  | bar => rfl
  | openGroup inside => rfl
  | openNumbered name =>
    cases name with
    | none => rfl
    | some name =>
      change (if state.groupNames.contains name then none else _) = _
      simp only [ReadState.take?]
      split <;> rfl
  | closeGroup =>
    obtain ⟨g, outer, houter⟩ := List.exists_cons_of_ne_nil (h.resolve_left (· rfl))
    simp [ReadState.take?, ReadState.closeGroup?, within, houter]

theorem step?_within {c : Char} (h : c ≠ ')' ∨ state.outer ≠ []) (t : Text) :
    (state.within base).step? c t = (state.step? c t).map fun found =>
      (found.1.within base, found.2) := by
  unfold ReadState.step?
  change (construct? state.flags c t).bind _ = _
  cases hconstruct : construct? state.flags c t with
  | none => rfl
  | some found =>
    obtain ⟨construct, rest⟩ := found
    have hcloses : construct ≠ .closeGroup ∨ state.outer ≠ [] := by
      rcases construct?_cases hconstruct with ⟨rfl, -, -⟩ | hordinary
      · exact Or.inr (h.resolve_left (· rfl))
      · exact Or.inl hordinary.2
    change ((state.within base).take? construct).bind _ =
      Option.map _ ((state.take? construct).bind _)
    rw [take?_within hcloses]
    cases state.take? construct <;> rfl

end ReadState

theorem spelled?_eq_some_iff {t : Text} {whole : Part} :
    spelled? t = some whole ↔ ∃ last : ReadState,
      ({} : ReadState).run? (t.length + 1) t = some last ∧ last.outer = [] ∧
        last.level.close = whole := by
  unfold spelled?
  change (ReadState.run? (t.length + 1) {} t).bind _ = _ ↔ _
  rw [Option.bind_eq_some_iff]
  refine exists_congr fun last => and_congr_right fun _ => ?_
  cases houter : last.outer with
  | nil => simp [guard]
  | cons g outer => simp [guard]

theorem ordered_of_spelled? {t : Text} {whole : Part} (h : spelled? t = some whole) :
    whole.pattern.Ordered := by
  obtain ⟨last, hrun, -, rfl⟩ := spelled?_eq_some_iff.mp h
  exact (ReadState.ordered_start.run? hrun).level.close

end LogosHooks.Pattern
