import LogosHooks.Pattern.Basic
import Mathlib.Data.List.Basic

/-!
What it means that a pattern matches a part of a text, said without partial derivatives, and the
search for a match compared with it: what is left of a pattern behind a character matches what the
pattern matches behind it, so a search finds a match exactly where there is one.
-/
namespace LogosHooks.Pattern

/-- Some matches one behind the other, each of a part with the text before it and the text behind
it. -/
def rounds (found : Text → Text → Text → Prop) : Nat → Text → Text → Text → Prop
  | 0, _, part, _ => part = []
  | n + 1, before, part, behind =>
    ∃ first rest, part = first ++ rest ∧ found before first (rest ++ behind) ∧
      rounds found n (before ++ first) rest behind

def Matches : Pattern → Text → Text → Text → Prop
  | empty, _, part, _ => part = []
  | one chars, _, part, _ => ∃ c, part = [c] ∧ chars.contains c = true
  | assertion condition, before, part, behind =>
    part = [] ∧ condition.holdsBetween before.getLast? behind.head? = true
  | seq first second, before, part, behind =>
    ∃ front back, part = front ++ back ∧ first.Matches before front (back ++ behind) ∧
      second.Matches (before ++ front) back behind
  | alt left right, before, part, behind =>
    left.Matches before part behind ∨ right.Matches before part behind
  | repeated least most _ body, before, part, behind =>
    ∃ n, least ≤ n ∧ (∀ m ∈ most, n ≤ m) ∧ rounds body.Matches n before part behind
  | group _ body, before, part, behind => body.Matches before part behind

def Ordered : Pattern → Prop
  | empty | one _ | assertion _ => True
  | seq first second | alt first second => first.Ordered ∧ second.Ordered
  | repeated least most _ body => (∀ m ∈ most, least ≤ m) ∧ body.Ordered
  | group _ body => body.Ordered

def Begins (p : Pattern) (before t : Text) : Prop :=
  ∃ part behind, t = part ++ behind ∧ p.Matches before part behind

section Rounds

variable {found : Text → Text → Text → Prop} {before part behind : Text} {n : Nat} {c : Char}

theorem rounds_nil_iff : rounds found n before [] behind ↔ n = 0 ∨ found before [] behind := by
  induction n with
  | zero => simp [rounds]
  | succ n ih =>
    simp only [rounds, List.nil_eq_append_iff, Nat.succ_ne_zero, false_or]
    constructor
    · rintro ⟨_, _, ⟨rfl, rfl⟩, hfound, -⟩
      exact hfound
    · intro hfound
      refine ⟨[], [], ⟨rfl, rfl⟩, hfound, ?_⟩
      rw [List.append_nil]
      exact ih.mpr (Or.inr hfound)

/-- Empty rounds in front can be added. -/
theorem rounds_add (hempty : found before [] (part ++ behind)) (k : Nat)
    (h : rounds found n before part behind) : rounds found (k + n) before part behind := by
  induction k with
  | zero => rwa [Nat.zero_add]
  | succ k ih =>
    rw [Nat.succ_add, rounds]
    exact ⟨[], part, rfl, hempty, by rwa [List.append_nil]⟩

/-- The first round that is not empty. The rounds before it are empty. -/
theorem rounds_cons_iff :
    rounds found n before (c :: part) behind ↔
      ∃ skipped left first rest, n = skipped + (left + 1) ∧ part = first ++ rest ∧
        (skipped = 0 ∨ found before [] (c :: part ++ behind)) ∧
        found before (c :: first) (rest ++ behind) ∧
        rounds found left (before ++ c :: first) rest behind := by
  constructor
  · intro h
    induction n with
    | zero => cases h
    | succ n ih =>
      obtain ⟨first, rest, hpart, hfirst, hrest⟩ := h
      rcases List.cons_eq_append_iff.mp hpart with ⟨rfl, rfl⟩ | ⟨first', rfl, rfl⟩
      · rw [List.append_nil] at hrest
        obtain ⟨skipped, left, first, rest, rfl, hpart, -, hfirst', hrest'⟩ := ih hrest
        exact ⟨skipped + 1, left, first, rest, by omega, hpart, Or.inr hfirst, hfirst', hrest'⟩
      · exact ⟨0, n, first', rest, by omega, rfl, Or.inl rfl, hfirst, hrest⟩
  · rintro ⟨skipped, left, first, rest, rfl, rfl, hskipped, hfirst, hrest⟩
    have hround : rounds found (left + 1) before (c :: (first ++ rest)) behind :=
      ⟨c :: first, rest, rfl, hfirst, hrest⟩
    rcases hskipped with rfl | hempty
    · rwa [Nat.zero_add]
    · exact rounds_add hempty skipped hround

end Rounds

theorem matchesBetween_iff {p : Pattern} (hp : p.Ordered) (before behind : Text) :
    p.matchesBetween before.getLast? behind.head? = true ↔ p.Matches before [] behind := by
  induction p generalizing before behind with
  | empty => simp [matchesBetween, Matches]
  | one chars => simp [matchesBetween, Matches]
  | assertion condition => simp [matchesBetween, Matches]
  | seq first second ihfirst ihsecond =>
    rw [matchesBetween, Bool.and_eq_true, ihfirst hp.1, ihsecond hp.2, Matches]
    constructor
    · rintro ⟨hfirst, hsecond⟩
      exact ⟨[], [], rfl, hfirst, by rwa [List.append_nil]⟩
    · rintro ⟨front, back, hpart, hfirst, hsecond⟩
      obtain ⟨rfl, rfl⟩ := List.nil_eq_append_iff.mp hpart
      rw [List.append_nil] at hsecond
      exact ⟨hfirst, hsecond⟩
  | alt left right ihleft ihright =>
    rw [matchesBetween, Bool.or_eq_true, ihleft hp.1, ihright hp.2, Matches]
  | repeated least most reluctant body ih =>
    rw [matchesBetween, Bool.or_eq_true, beq_iff_eq, ih hp.2, Matches]
    simp only [rounds_nil_iff]
    constructor
    · intro h
      exact ⟨least, Nat.le_refl least, hp.1, h⟩
    · rintro ⟨n, hleast, -, rfl | hbody⟩
      · exact Or.inl (Nat.le_zero.mp hleast)
      · exact Or.inr hbody
  | group number body ih => rw [matchesBetween, ih hp, Matches]

theorem matches_andThen_iff (p q : Pattern) (before part behind : Text) :
    (p.andThen q).Matches before part behind ↔ (seq p q).Matches before part behind := by
  cases p with
  | empty => simp [andThen, Matches]
  | _ => rfl

theorem Ordered.andThen {p q : Pattern} (hp : p.Ordered) (hq : q.Ordered) :
    (p.andThen q).Ordered := by
  cases p with
  | empty => exact hq
  | _ => exact ⟨hp, hq⟩

theorem mem_derivatives_repeated {least : Nat} {most : Option Nat} {reluctant : Bool}
    {body d : Pattern} {before : Option Char} {c : Char} :
    d ∈ (repeated least most reluctant body).derivatives before c ↔
      most ≠ some 0 ∧ ∃ e ∈ body.derivatives before c,
        e.andThen (repeated (if body.matchesBetween before (some c) then 0 else least - 1)
          (most.map (· - 1)) reluctant body) = d := by
  rw [derivatives]
  by_cases hmost : most = some 0
  · simp [hmost]
  · rw [if_neg (by simpa using hmost)]
    simp only [List.mem_map, hmost, ne_eq, not_false_eq_true, true_and]

theorem Ordered.derivatives {p : Pattern} (hp : p.Ordered) (before : Option Char) (c : Char) :
    ∀ d ∈ p.derivatives before c, d.Ordered := by
  induction p with
  | empty => simp [Pattern.derivatives]
  | one chars =>
    intro d hd
    rw [Pattern.derivatives] at hd
    split at hd
    · rw [List.mem_singleton.mp hd]
      trivial
    · cases hd
  | assertion condition => simp [Pattern.derivatives]
  | seq first second ihfirst ihsecond =>
    intro d hd
    rw [Pattern.derivatives, List.mem_append, List.mem_map] at hd
    rcases hd with ⟨d, hd, rfl⟩ | hd
    · exact (ihfirst hp.1 d hd).andThen hp.2
    · split at hd
      · exact ihsecond hp.2 d hd
      · cases hd
  | alt left right ihleft ihright =>
    intro d hd
    rw [Pattern.derivatives, List.mem_append] at hd
    exact hd.elim (ihleft hp.1 d) (ihright hp.2 d)
  | repeated least most reluctant body ih =>
    intro d hd
    obtain ⟨-, e, he, rfl⟩ := mem_derivatives_repeated.mp hd
    refine (ih hp.2 e he).andThen ⟨fun m hm => ?_, hp.2⟩
    obtain ⟨m', hm', rfl⟩ := Option.map_eq_some_iff.mp hm
    have hle := hp.1 m' hm'
    split <;> omega
  | group number body ih => exact ih hp

/-- What is left of a pattern behind a character matches what the pattern matches behind it. -/
theorem matches_cons_iff {p : Pattern} (hp : p.Ordered) (before part behind : Text) (c : Char) :
    p.Matches before (c :: part) behind ↔
      ∃ d ∈ p.derivatives before.getLast? c, d.Matches (before ++ [c]) part behind := by
  induction p generalizing before part behind with
  | empty => simp [Matches, derivatives]
  | one chars =>
    by_cases hc : chars.contains c = true
    · simp [Matches, derivatives, hc]
    · simp [Matches, derivatives, hc]
  | assertion condition => simp [Matches, derivatives]
  | seq first second ihfirst ihsecond =>
    have hempty : first.matchesBetween before.getLast? (some c) = true ↔
        first.Matches before [] (c :: part ++ behind) :=
      matchesBetween_iff hp.1 before (c :: part ++ behind)
    simp only [derivatives, List.mem_append, List.mem_map]
    constructor
    · rintro ⟨front, back, hpart, hfirst, hsecond⟩
      rcases List.cons_eq_append_iff.mp hpart with ⟨rfl, rfl⟩ | ⟨front, rfl, rfl⟩
      · rw [List.append_nil] at hsecond
        obtain ⟨d, hd, hmatch⟩ := (ihsecond hp.2 before part behind).mp hsecond
        exact ⟨d, Or.inr (by rwa [if_pos (hempty.mpr hfirst)]), hmatch⟩
      · obtain ⟨d, hd, hmatch⟩ := (ihfirst hp.1 before front (back ++ behind)).mp hfirst
        refine ⟨d.andThen second, Or.inl ⟨d, hd, rfl⟩, ?_⟩
        rw [matches_andThen_iff]
        exact ⟨front, back, rfl, hmatch, by simpa using hsecond⟩
    · rintro ⟨e, ⟨d, hd, rfl⟩ | he, hmatch⟩
      · rw [matches_andThen_iff] at hmatch
        obtain ⟨front, back, rfl, hfirst, hsecond⟩ := hmatch
        exact ⟨c :: front, back, rfl, (ihfirst hp.1 before front _).mpr ⟨d, hd, hfirst⟩,
          by simpa using hsecond⟩
      · split at he
        · next hmatches =>
          refine ⟨[], c :: part, rfl, hempty.mp hmatches, ?_⟩
          rw [List.append_nil]
          exact (ihsecond hp.2 before part behind).mpr ⟨e, he, hmatch⟩
        · cases he
  | alt left right ihleft ihright =>
    rw [Matches, ihleft hp.1, ihright hp.2]
    simp only [derivatives, List.mem_append, or_and_right, exists_or]
  | repeated least most reluctant body ih =>
    have hempty : body.matchesBetween before.getLast? (some c) = true ↔
        body.Matches before [] (c :: part ++ behind) :=
      matchesBetween_iff hp.2 before (c :: part ++ behind)
    simp only [mem_derivatives_repeated]
    constructor
    · rintro ⟨n, hleast, hmost, hrounds⟩
      obtain ⟨skipped, left, first, rest, rfl, rfl, hskipped, hfirst, hrest⟩ :=
        rounds_cons_iff.mp hrounds
      obtain ⟨e, he, hmatch⟩ := (ih hp.2 before first (rest ++ behind)).mp hfirst
      refine ⟨_, ⟨?_, e, he, rfl⟩, ?_⟩
      · rintro rfl
        exact absurd (hmost 0 rfl) (by omega)
      · rw [matches_andThen_iff]
        refine ⟨first, rest, rfl, hmatch, left, ?_, fun m hm => ?_, by simpa using hrest⟩
        · split
          · exact Nat.zero_le left
          · next hno =>
            rcases hskipped with rfl | hskipped
            · omega
            · exact absurd (hempty.mpr hskipped) hno
        · obtain ⟨m', hm', rfl⟩ := Option.map_eq_some_iff.mp hm
          have hle := hmost m' hm'
          omega
    · rintro ⟨d, ⟨hzero, e, he, rfl⟩, hmatch⟩
      rw [matches_andThen_iff] at hmatch
      obtain ⟨first, rest, rfl, hfirst, left, hleast, hmost, hrest⟩ := hmatch
      -- Empty rounds in front make up for those that are missing.
      refine ⟨(least - (left + 1)) + (left + 1), by omega, fun m hm => ?_, ?_⟩
      · have hordered := hp.1 m hm
        have hle := hmost (m - 1) (Option.map_eq_some_iff.mpr ⟨m, hm, rfl⟩)
        have hpos : m ≠ 0 := by
          rintro rfl
          exact hzero hm
        omega
      · refine rounds_cons_iff.mpr ⟨_, left, first, rest, rfl, rfl, ?_,
          (ih hp.2 before first _).mpr ⟨e, he, hfirst⟩, by simpa using hrest⟩
        split at hleast
        · next hyes => exact Or.inr (hempty.mp hyes)
        · exact Or.inl (by omega)
  | group number body ih => exact ih hp before part behind

theorem begins_nil_iff {p : Pattern} (hp : p.Ordered) (before : Text) :
    p.Begins before [] ↔ p.matchesBetween before.getLast? none = true := by
  have hbetween := matchesBetween_iff hp before []
  rw [List.head?_nil] at hbetween
  rw [hbetween]
  constructor
  · rintro ⟨part, behind, htext, hmatch⟩
    obtain ⟨rfl, rfl⟩ := List.nil_eq_append_iff.mp htext
    exact hmatch
  · exact fun hmatch => ⟨[], [], rfl, hmatch⟩

theorem begins_cons_iff {p : Pattern} (hp : p.Ordered) (before rest : Text) (c : Char) :
    p.Begins before (c :: rest) ↔
      p.matchesBetween before.getLast? (some c) = true ∨
        ∃ d ∈ p.derivatives before.getLast? c, d.Begins (before ++ [c]) rest := by
  have hbetween := matchesBetween_iff hp before (c :: rest)
  rw [List.head?_cons] at hbetween
  rw [hbetween]
  constructor
  · rintro ⟨part, behind, htext, hmatch⟩
    rcases List.cons_eq_append_iff.mp htext with ⟨rfl, rfl⟩ | ⟨part, rfl, rfl⟩
    · exact Or.inl hmatch
    · obtain ⟨d, hd, hmatch⟩ := (matches_cons_iff hp before part behind c).mp hmatch
      exact Or.inr ⟨d, hd, part, behind, rfl, hmatch⟩
  · rintro (hmatch | ⟨d, hd, part, behind, rfl, hmatch⟩)
    · exact ⟨[], c :: rest, rfl, hmatch⟩
    · exact ⟨c :: part, behind, rfl, (matches_cons_iff hp before part behind c).mpr ⟨d, hd, hmatch⟩⟩

/-- A search finds the matches under way and those that begin further on. -/
theorem search_iff {fresh underWay : List Pattern} (hfresh : ∀ p ∈ fresh, p.Ordered)
    (hunderWay : ∀ p ∈ underWay, p.Ordered) (before t : Text) :
    search fresh before.getLast? underWay t = true ↔
      (∃ p ∈ underWay, p.Begins before t) ∨
        ∃ p ∈ fresh, ∃ c skipped rest, t = c :: skipped ++ rest ∧
          p.Begins (before ++ c :: skipped) rest := by
  induction t generalizing before underWay with
  | nil =>
    rw [search, List.any_eq_true]
    constructor
    · rintro ⟨p, hp, hmatch⟩
      exact Or.inl ⟨p, hp, (begins_nil_iff (hunderWay p hp) before).mpr hmatch⟩
    · rintro (⟨p, hp, hbegins⟩ | ⟨p, hp, c, skipped, rest, htext, -⟩)
      · exact ⟨p, hp, (begins_nil_iff (hunderWay p hp) before).mp hbegins⟩
      · cases htext
  | cons c t ih =>
    have hordered : ∀ d ∈ (underWay.flatMap (·.derivatives before.getLast? c) ++ fresh).eraseDups,
        d.Ordered := by
      intro d hd
      rw [List.mem_eraseDups, List.mem_append, List.mem_flatMap] at hd
      rcases hd with ⟨p, hp, hd⟩ | hd
      · exact (hunderWay p hp).derivatives _ c d hd
      · exact hfresh d hd
    have hrest := ih hordered (before ++ [c])
    rw [List.getLast?_concat] at hrest
    rw [search, Bool.or_eq_true, List.any_eq_true, hrest]
    simp only [List.mem_eraseDups, List.mem_append, List.mem_flatMap]
    constructor
    · rintro (⟨p, hp, hmatch⟩ | ⟨d, ⟨p, hp, hd⟩ | hd, hbegins⟩ |
        ⟨p, hp, c', skipped, rest, rfl, hbegins⟩)
      · exact Or.inl ⟨p, hp, (begins_cons_iff (hunderWay p hp) before t c).mpr (Or.inl hmatch)⟩
      · exact Or.inl ⟨p, hp,
          (begins_cons_iff (hunderWay p hp) before t c).mpr (Or.inr ⟨d, hd, hbegins⟩)⟩
      · exact Or.inr ⟨d, hd, c, [], t, rfl, hbegins⟩
      · exact Or.inr ⟨p, hp, c, c' :: skipped, rest, rfl, by simpa using hbegins⟩
    · rintro (⟨p, hp, hbegins⟩ | ⟨p, hp, c', skipped, rest, htext, hbegins⟩)
      · rcases (begins_cons_iff (hunderWay p hp) before t c).mp hbegins with
          hmatch | ⟨d, hd, hbegins⟩
        · exact Or.inl ⟨p, hp, hmatch⟩
        · exact Or.inr (Or.inl ⟨d, Or.inl ⟨p, hp, hd⟩, hbegins⟩)
      · obtain ⟨rfl, rfl⟩ := List.cons.inj htext
        cases skipped with
        | nil => exact Or.inr (Or.inl ⟨p, Or.inr hp, hbegins⟩)
        | cons c' skipped =>
          exact Or.inr (Or.inr ⟨p, hp, c', skipped, rest, rfl, by simpa using hbegins⟩)

/-- Some part of the text matches exactly if a match begins somewhere in it. -/
theorem matchesSomewhere_iff {p : Pattern} (hp : p.Ordered) (t : Text) :
    p.matchesSomewhere t = true ↔ ∃ skipped rest, t = skipped ++ rest ∧ p.Begins skipped rest := by
  have hall : ∀ q ∈ [p], q.Ordered := fun q hq => List.mem_singleton.mp hq ▸ hp
  rw [matchesSomewhere, ← List.getLast?_nil, search_iff hall hall [] t]
  simp only [List.mem_singleton, exists_eq_left, List.nil_append]
  constructor
  · rintro (hbegins | ⟨c, skipped, rest, rfl, hbegins⟩)
    · exact ⟨[], t, rfl, hbegins⟩
    · exact ⟨c :: skipped, rest, rfl, hbegins⟩
  · rintro ⟨skipped, rest, rfl, hbegins⟩
    cases skipped with
    | nil => exact Or.inl hbegins
    | cons c skipped => exact Or.inr ⟨c, skipped, rest, rfl, hbegins⟩

theorem matchesFront_iff {p : Pattern} (hp : p.Ordered) (t : Text) :
    p.matchesFront t = true ↔ p.Begins [] t := by
  have hall : ∀ q ∈ [p], q.Ordered := fun q hq => List.mem_singleton.mp hq ▸ hp
  rw [matchesFront, ← List.getLast?_nil, search_iff (by simp) hall [] t]
  simp

end LogosHooks.Pattern
