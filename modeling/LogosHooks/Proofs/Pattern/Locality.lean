import LogosHooks.Pattern.Escape
import Mathlib.Data.List.TakeWhile

/-!
How far the readers of a pattern look ahead. What they read in front of a closing parenthesis does
not depend on what stands behind that parenthesis, nor on whether it is there at all: a reader that
comes to a halt there takes the same text if the text ends in its place. One escape looks further,
and is left out with a condition that says where.
-/
namespace LogosHooks.Pattern

/-- The text is at its end or goes on with a closing parenthesis. -/
def Stops (u : Text) : Prop := ∀ c ∈ u.head?, c = ')'

theorem Stops.cases {u : Text} (h : Stops u) : u = [] ∨ ∃ rest, u = ')' :: rest := by
  cases u with
  | nil => exact Or.inl rfl
  | cons c rest => exact Or.inr ⟨rest, by rw [h c rfl]⟩

theorem stops_nil : Stops [] := by simp [Stops]

theorem stops_close (rest : Text) : Stops (')' :: rest) := by simp [Stops]

theorem Stops.head?_ne {u : Text} (h : Stops u) {c : Char} (hc : c ≠ ')') : u.head? ≠ some c :=
  fun hhead => hc (h c hhead)

section Readers

variable {α β : Type} {read : Text → Option (α × Text)} {next : α → Text → Option (β × Text)}

/-- The reader comes to a halt in front of `ahead` and something that stops, with the same result
whatever that is. -/
def Takes (read : Text → Option (α × Text)) (a : α) (taken ahead : Text) : Prop :=
  ∀ u, Stops u → read (taken ++ (ahead ++ u)) = some (a, ahead ++ u)

/-- What is read of this text in front of a closing parenthesis does not depend on the text from
there on. -/
def LocalAt (read : Text → Option (α × Text)) (t : Text) : Prop :=
  ∀ ⦃a : α⦄ ⦃ahead behind : Text⦄, read t = some (a, ahead ++ ')' :: behind) →
    ∃ taken, t = taken ++ (ahead ++ ')' :: behind) ∧ Takes read a taken ahead

def Local (read : Text → Option (α × Text)) : Prop := ∀ t, LocalAt read t

/-- The same with an exception, for some results in front of some texts. -/
def LocalUnless (odd : α → Text → Prop) (read : Text → Option (α × Text)) : Prop :=
  ∀ ⦃t : Text⦄ ⦃a : α⦄ ⦃ahead behind : Text⦄, read t = some (a, ahead ++ ')' :: behind) →
    odd a ahead ∨ ∃ taken, t = taken ++ (ahead ++ ')' :: behind) ∧ Takes read a taken ahead

theorem Local.unless (h : Local read) (odd : α → Text → Prop) : LocalUnless odd read :=
  fun t _ _ _ hread => Or.inr (h t hread)

theorem Local.congr {read' : Text → Option (α × Text)} (h : Local read)
    (heq : ∀ t, read' t = read t) : Local read' := by
  rwa [show read' = read from funext heq]

theorem localAt_nil (h : ∀ a rest, read [] = some (a, rest) → rest = []) : LocalAt read [] := by
  intro a ahead behind hread
  exact absurd (h a _ hread) (by simp)

/-- A first character that is always taken. -/
theorem LocalAt.cons {read' : Text → Option (α × Text)} {c : Char} {t : Text}
    (h : LocalAt read' t) (heq : ∀ rest, read (c :: rest) = read' rest) :
    LocalAt read (c :: t) := by
  intro a ahead behind hread
  rw [heq] at hread
  obtain ⟨taken, rfl, htakes⟩ := h hread
  exact ⟨c :: taken, rfl, fun u hu => (heq _).trans (htakes u hu)⟩

/-- Nothing is taken in front of a character, and nothing at a place that stops. -/
theorem localAt_here {a : α} {t : Text} (hread : read t = some (a, t))
    (hkeep : ∀ t', t'.head? = t.head? ∨ Stops t' → read t' = some (a, t')) : LocalAt read t := by
  intro b ahead behind hb
  obtain ⟨rfl, rfl⟩ := Prod.mk.inj (Option.some.inj (hread.symm.trans hb))
  refine ⟨[], rfl, fun u hu => hkeep _ ?_⟩
  cases ahead with
  | nil => exact Or.inr hu
  | cons c ahead => exact Or.inl rfl

/-- A reader that halts in front of a character, as it does where a text stops. -/
theorem localAt_of_kept {a : α} {c : Char} (hc : ∀ rest, read (c :: rest) = some (a, c :: rest))
    (hnil : read [] = some (a, [])) (hclose : ∀ rest, read (')' :: rest) = some (a, ')' :: rest))
    (t : Text) : LocalAt read (c :: t) := by
  refine localAt_here (hc t) ?_
  rintro t' (hhead | hstops)
  · obtain ⟨rest, rfl⟩ := List.head?_eq_some_iff.mp hhead
    exact hc rest
  · rcases hstops.cases with rfl | ⟨rest, rfl⟩
    · exact hnil
    · exact hclose rest

theorem local_none : Local fun _ : Text => (none : Option (α × Text)) := by
  intro t a ahead behind hread
  cases hread

theorem local_option (found : Option α) : Local fun t => found.map (·, t) := by
  intro t a ahead behind hread
  obtain ⟨_, rfl, hpair⟩ := Option.map_eq_some_iff.mp hread
  obtain ⟨rfl, rfl⟩ := Prod.mk.inj hpair
  exact ⟨[], rfl, fun u _ => rfl⟩

theorem local_pure (a : α) : Local fun t => some (a, t) := local_option (some a)

theorem LocalUnless.cons {odd : α → Text → Prop} {start : Char → Text → Option (α × Text)}
    (h : ∀ c, LocalUnless odd (start c)) (hnil : read [] = none)
    (hcons : ∀ c rest, read (c :: rest) = start c rest) : LocalUnless odd read := by
  intro t a ahead behind hread
  cases t with
  | nil =>
    rw [hnil] at hread
    cases hread
  | cons c t =>
    rw [hcons] at hread
    refine (h c hread).imp_right ?_
    rintro ⟨taken, rfl, htakes⟩
    exact ⟨c :: taken, rfl, fun u hu => (hcons c _).trans (htakes u hu)⟩

/-- Readers one behind the other. An exception of the first does not count if the second reader
fails there. -/
theorem LocalUnless.bind {odd : α → Text → Prop} (h : LocalUnless odd read)
    (hnext : ∀ a, Local (next a))
    (hodd : ∀ a ahead behind rest, odd a (rest ++ ahead) →
      ∀ b, next a (rest ++ (ahead ++ ')' :: behind)) ≠ some (b, ahead ++ ')' :: behind)) :
    Local fun t => (read t).bind fun found => next found.1 found.2 := by
  intro t b ahead behind hread
  obtain ⟨⟨a, middle⟩, hfirst, hsecond⟩ := Option.bind_eq_some_iff.mp hread
  obtain ⟨taken', rfl, htakes'⟩ := hnext a _ hsecond
  rw [← List.append_assoc] at hfirst
  rcases h hfirst with hfound | ⟨taken, rfl, htakes⟩
  · exact absurd hsecond (hodd a ahead behind taken' hfound b)
  · refine ⟨taken ++ taken', by simp, fun u hu => ?_⟩
    have hthen := htakes u hu
    rw [List.append_assoc] at hthen
    rw [List.append_assoc]
    change (read (taken ++ (taken' ++ (ahead ++ u)))).bind _ = _
    rw [hthen]
    exact htakes' u hu

theorem Local.bind (h : Local read) (hnext : ∀ a, Local (next a)) :
    Local fun t => (read t).bind fun found => next found.1 found.2 :=
  (h.unless fun _ _ => False).bind hnext fun _ _ _ _ hodd => hodd.elim

theorem Local.ofOption {γ : Type} {next : γ → Text → Option (β × Text)} (found : Option γ)
    (h : ∀ c, Local (next c)) : Local fun t => found.bind fun c => next c t := by
  cases found with
  | none => exact local_none
  | some c => exact h c

theorem Local.bindOption (h : Local read) (f : α → Option β) :
    Local fun t => (read t).bind fun found => (f found.1).map (·, found.2) :=
  h.bind fun a => local_option (f a)

theorem LocalAt.map {t : Text} (h : LocalAt read t) (f : α → β) :
    LocalAt (fun t => (read t).map fun found => (f found.1, found.2)) t := by
  intro b ahead behind hread
  obtain ⟨⟨a, rest⟩, hfirst, hpair⟩ := Option.map_eq_some_iff.mp hread
  obtain ⟨rfl, rfl⟩ := Prod.mk.inj hpair
  obtain ⟨taken, rfl, htakes⟩ := h hfirst
  exact ⟨taken, rfl, fun u hu => Option.map_eq_some_iff.mpr ⟨_, htakes u hu, rfl⟩⟩

theorem Local.map (h : Local read) (f : α → β) :
    Local fun t => (read t).map fun found => (f found.1, found.2) :=
  fun t => (h t).map f

/-- A reader that takes the first character and goes on from there. -/
theorem Local.cons {start : Char → Text → Option (α × Text)} (h : ∀ c, Local (start c))
    (hnil : read [] = none) (hcons : ∀ c rest, read (c :: rest) = start c rest) : Local read := by
  intro t
  cases t with
  | nil => exact localAt_nil fun a rest hread => by simp [hnil] at hread
  | cons c t => exact (h c t).cons (hcons c)

/-- A reader that goes on in one way behind a character, and in another way without it. -/
theorem Local.ifHead {first second : Text → Option (α × Text)} {c : Char} (hc : c ≠ ')')
    (hfirst : Local first) (hsecond : Local second)
    (hpos : ∀ rest, read (c :: rest) = first rest)
    (hneg : ∀ t, t.head? ≠ some c → read t = second t) : Local read := by
  intro t a ahead behind hread
  by_cases hhead : t.head? = some c
  · obtain ⟨rest, rfl⟩ := List.head?_eq_some_iff.mp hhead
    rw [hpos] at hread
    obtain ⟨taken, rfl, htakes⟩ := hfirst _ hread
    exact ⟨c :: taken, rfl, fun u hu => (hpos _).trans (htakes u hu)⟩
  · rw [hneg t hhead] at hread
    obtain ⟨taken, rfl, htakes⟩ := hsecond _ hread
    refine ⟨taken, rfl, fun u hu => (hneg _ ?_).trans (htakes u hu)⟩
    rw [← List.append_assoc] at hhead ⊢
    cases hfront : taken ++ ahead with
    | nil => exact hu.head?_ne hc
    | cons d front =>
      rw [hfront] at hhead
      exact hhead

end Readers

/-! ### Blanks, comments and marks -/

theorem local_dropWhile {p : Char → Bool} (hp : p ')' = false) :
    Local fun t => some ((), t.dropWhile p) := by
  intro t
  induction t with
  | nil => exact localAt_nil fun _ _ hread => (Prod.mk.inj (Option.some.inj hread)).2.symm
  | cons c t ih =>
    by_cases hc : p c = true
    · exact ih.cons fun rest => by rw [List.dropWhile_cons_of_pos hc]
    · exact localAt_of_kept (fun rest => by rw [List.dropWhile_cons_of_neg hc]) rfl
        (fun rest => by rw [List.dropWhile_cons_of_neg (by simp [hp])]) t

theorem isBlank_close : Text.isBlank ')' = false := by decide

theorem local_dropIgnored (inComment : Bool) :
    Local fun t => some ((), dropIgnored inComment t) := by
  intro t
  induction t generalizing inComment with
  | nil => exact localAt_nil fun _ _ hread => (Prod.mk.inj (Option.some.inj hread)).2.symm
  | cons c t ih =>
    cases inComment with
    | true => exact (ih (c != '\n')).cons fun rest => rfl
    | false =>
      by_cases hblank : Text.isBlank c = true
      · exact (ih false).cons fun rest => by simp [dropIgnored, hblank]
      by_cases hcomment : c = '#'
      · subst hcomment
        exact (ih true).cons fun rest => by simp [dropIgnored, hblank]
      exact localAt_of_kept (fun rest => by simp [dropIgnored, hblank, hcomment]) rfl
        (fun rest => by simp [dropIgnored, isBlank_close]) t

theorem local_skip (flags : Flags) : Local fun t => some ((), flags.skip t) := by
  cases hverbose : flags.verbose with
  | true => exact (local_dropIgnored false).congr fun t => by simp [Flags.skip, hverbose]
  | false => exact (local_pure ()).congr fun t => by simp [Flags.skip, hverbose]

/-- The same choice behind what does not count. -/
theorem Local.skipIfHead (flags : Flags) {α : Type} {read first second : Text → Option (α × Text)}
    {c : Char} (hc : c ≠ ')') (hfirst : Local first) (hsecond : Local second)
    (hpos : ∀ t rest, flags.skip t = c :: rest → read t = first rest)
    (hneg : ∀ t, (flags.skip t).head? ≠ some c → read t = second (flags.skip t)) : Local read := by
  have hchoice : Local fun t => if t.head? = some c then first t.tail else second t :=
    hfirst.ifHead hc hsecond (fun rest => if_pos rfl) fun t ht => if_neg ht
  refine ((local_skip flags).bind fun _ => hchoice).congr fun t => ?_
  change read t = if (flags.skip t).head? = some c then _ else _
  by_cases hhead : (flags.skip t).head? = some c
  · obtain ⟨rest, hrest⟩ := List.head?_eq_some_iff.mp hhead
    rw [if_pos hhead, hrest]
    exact hpos t rest hrest
  · rw [if_neg hhead]
    exact hneg t hhead

theorem exists_gap_of_skip {flags : Flags} {t ahead behind : Text}
    (h : flags.skip t = ahead ++ ')' :: behind) :
    ∃ gap, t = gap ++ (ahead ++ ')' :: behind) ∧
      ∀ u, Stops u → flags.skip (gap ++ (ahead ++ u)) = ahead ++ u := by
  obtain ⟨gap, ht, hgap⟩ := local_skip flags t (congrArg (fun rest => some ((), rest)) h)
  exact ⟨gap, ht, fun u hu => (Prod.mk.inj (Option.some.inj (hgap u hu))).2⟩

@[simp]
theorem skip_nil (flags : Flags) : flags.skip [] = [] := by
  unfold Flags.skip
  split <;> rfl

theorem skip_cons {c : Char} (hblank : Text.isBlank c = false) (hcomment : c ≠ '#')
    (flags : Flags) (t : Text) : flags.skip (c :: t) = c :: t := by
  unfold Flags.skip
  split
  · simp [dropIgnored, hblank, hcomment]
  · rfl

theorem skip_of_stops {u : Text} (hu : Stops u) (flags : Flags) : flags.skip u = u := by
  rcases hu.cases with rfl | ⟨rest, rfl⟩
  · exact skip_nil flags
  · exact skip_cons isBlank_close (by decide) flags rest

theorem length_dropIgnored_le (inComment : Bool) (t : Text) :
    (dropIgnored inComment t).length ≤ t.length := by
  induction t generalizing inComment with
  | nil => exact Nat.le_refl 0
  | cons c t ih =>
    simp only [dropIgnored]
    split_ifs
    · exact Nat.le_succ_of_le (ih _)
    · exact Nat.le_succ_of_le (ih _)
    · exact Nat.le_succ_of_le (ih _)
    · exact Nat.le_refl _

theorem length_skip_le (flags : Flags) (t : Text) : (flags.skip t).length ≤ t.length := by
  unfold Flags.skip
  split
  · exact length_dropIgnored_le false t
  · exact Nat.le_refl _

theorem dropIgnored_append {inComment : Bool} {t : Text} (h : dropIgnored inComment t ≠ [])
    (rest : Text) : dropIgnored inComment (t ++ rest) = dropIgnored inComment t ++ rest := by
  induction t generalizing inComment with
  | nil => exact absurd rfl h
  | cons c t ih =>
    rw [List.cons_append]
    simp only [dropIgnored] at h ⊢
    split_ifs at h ⊢
    · exact ih h
    · exact ih h
    · exact ih h
    · rfl

theorem skip_append {flags : Flags} {t : Text} (h : flags.skip t ≠ []) (rest : Text) :
    flags.skip (t ++ rest) = flags.skip t ++ rest := by
  unfold Flags.skip at h ⊢
  split_ifs at h ⊢
  · exact dropIgnored_append h rest
  · rfl

/-- What becomes of the first character does not depend on the others. -/
theorem upTo?_cons (verbose inComment : Bool) (mark c : Char) :
    (∀ t, upTo? verbose inComment mark (c :: t) = some ([], t)) ∨
      ∃ next, (∀ t, upTo? verbose inComment mark (c :: t) = upTo? verbose next mark t) ∨
        ∀ t, upTo? verbose inComment mark (c :: t) =
          (upTo? verbose next mark t).map fun (front, behind) => (c :: front, behind) := by
  cases inComment with
  | true => exact Or.inr ⟨c != '\n', Or.inl fun t => rfl⟩
  | false =>
    by_cases hmark : c = mark
    · exact Or.inl fun t => by simp [upTo?, hmark]
    by_cases hblank : (verbose && Text.isBlank c) = true
    · exact Or.inr ⟨false, Or.inl fun t => by simp [upTo?, hmark, hblank]⟩
    by_cases hcomment : (verbose && c = '#') = true
    · exact Or.inr ⟨true, Or.inl fun t => by simp [upTo?, hmark, hblank, hcomment]⟩
    · exact Or.inr ⟨false, Or.inr fun t => by simp [upTo?, hmark, hblank, hcomment]⟩

theorem local_upTo (verbose inComment : Bool) (mark : Char) :
    Local fun t => upTo? verbose inComment mark t := by
  intro t
  induction t generalizing inComment with
  | nil => exact localAt_nil fun _ _ hread => by simp [upTo?] at hread
  | cons c t ih =>
    rcases upTo?_cons verbose inComment mark c with hmark | ⟨next, hskip | htake⟩
    · exact (local_pure [] t).cons hmark
    · exact (ih next).cons hskip
    · exact ((ih next).map (c :: ·)).cons htake

theorem local_upTo_cons (verbose inComment : Bool) (mark c : Char) :
    Local fun t => upTo? verbose inComment mark (c :: t) := by
  rcases upTo?_cons verbose inComment mark c with hmark | ⟨next, hskip | htake⟩
  · exact (local_pure []).congr hmark
  · exact (local_upTo verbose next mark).congr hskip
  · exact ((local_upTo verbose next mark).map (c :: ·)).congr htake

theorem local_digitRun (verbose inComment : Bool) :
    Local fun t => some (digitRun verbose inComment t) := by
  intro t
  induction t generalizing inComment with
  | nil => exact localAt_nil fun _ _ hread => (Prod.mk.inj (Option.some.inj hread)).2.symm
  | cons c t ih =>
    cases inComment with
    | true => exact (ih (c != '\n')).cons fun rest => rfl
    | false =>
      by_cases hdigit : c.isDigit = true
      · exact ((ih false).map (c :: ·)).cons fun rest => by simp [digitRun, hdigit]
      by_cases hblank : (verbose && Text.isBlank c) = true
      · exact (ih false).cons fun rest => by simp [digitRun, hdigit, hblank]
      by_cases hcomment : (verbose && c = '#') = true
      · exact (ih true).cons fun rest => by simp [digitRun, hdigit, hblank, hcomment]
      exact localAt_of_kept (fun rest => by simp [digitRun, hdigit, hblank, hcomment]) rfl
        (fun rest => by simp [digitRun, isBlank_close]) t

/-! ### Escapes -/

theorem local_hexDigits (flags : Flags) (n : Nat) : Local fun t => hexDigits? flags n t := by
  induction n with
  | zero => exact local_pure []
  | succ n ih =>
    refine Local.cons (fun c => ?_) rfl fun c rest => rfl
    by_cases hc : isHexDigit c = true
    · exact (((local_skip flags).bind fun _ => ih).map (c :: ·)).congr fun t => if_pos hc
    · exact local_none.congr fun t => if_neg hc

theorem local_hexEscape (flags : Flags) (count : Nat) :
    Local fun t => hexEscape? flags count t := by
  refine Local.skipIfHead flags (c := '\x7b') (by decide)
    ((local_upTo flags.verbose false '\x7d').bind fun digits =>
      Local.ofOption (hexChar? digits) fun c =>
        (local_skip flags).map fun _ => Atom.literal c false)
    ((local_hexDigits flags count).bind fun digits =>
      Local.ofOption (hexChar? digits) fun c => local_pure (Atom.literal c (count == 2)))
    (fun t rest hrest => ?_) fun t ht => ?_
  · rw [hexEscape?, hrest]
    rfl
  · unfold hexEscape?
    split
    · next heq => exact absurd (congrArg List.head? heq) ht
    · rfl

def letterProperty? (flags : Flags) : Text → Option ((CharClass × Bool) × Text)
  | [] => none
  | c :: rest =>
    if c = '\\' then none
    else (CharClass.property? [c]).map fun a => ((a, false), flags.skip rest)

theorem local_letterProperty (flags : Flags) : Local fun t => letterProperty? flags t := by
  refine Local.cons (fun c => ?_) rfl fun c rest => rfl
  by_cases hc : c = '\\'
  · exact local_none.congr fun t => if_pos hc
  · refine (Local.ofOption (CharClass.property? [c]) fun a =>
      (local_skip flags).map fun _ => (a, false)).congr fun t => (if_neg hc).trans ?_
    cases CharClass.property? [c] <;> rfl

theorem local_propertyName (flags : Flags) : Local fun t => propertyName? flags t := by
  refine Local.ifHead (c := '\x7b') (by decide)
    ((local_upTo flags.verbose false '\x7d').bindOption bracedProperty?)
    (local_letterProperty flags)
    (fun rest => ?_) fun t ht => ?_
  · simp only [propertyName?]
    cases upTo? flags.verbose false '\x7d' rest with
    | none => rfl
    | some found => cases h : bracedProperty? found.1 <;> simp [h]
  · cases t with
    | nil => rfl
    | cons c t =>
      rw [propertyName?]
      · rfl
      · rintro rfl
        exact ht rfl

theorem local_propertyEscape (flags : Flags) (negated : Bool) :
    Local fun t => propertyEscape? flags negated t := by
  by_cases hunicode : (!flags.unicode) = true
  · exact local_none.congr fun t => if_pos hunicode
  · exact (((local_skip flags).bind fun _ => local_propertyName flags).map fun found =>
      Atom.chars (flags.finishClass (negated != found.2) found.1)).congr fun t => if_neg hunicode

/-- The one reader that looks further: behind `\\b`, a brace that does not hold letters belongs to a
repetition, and at the end of a text there is nothing that it could hold. -/
def IsOpenBorder (flags : Flags) (ahead : Text) : Prop :=
  ∃ rest, ahead = '\x7b' :: rest ∧ flags.skip rest = []

def namedBorder? (flags : Flags) : Text → Option (WordPlace × Text)
  | [] => none
  | c :: t => if c.isAlpha || c == '-' then borderName? flags (c :: t) else none

theorem local_namedBorder (flags : Flags) : Local fun t => namedBorder? flags t := by
  refine Local.cons (fun c => ?_) rfl fun c t => rfl
  by_cases hletter : (c.isAlpha || c == '-') = true
  · have hplace (name : Text) : Local fun behind =>
        (wordPlaces.find? (·.1.toList == name)).bind fun found => some (found.2, behind) :=
      Local.ofOption _ fun found => local_pure found.2
    exact ((local_upTo_cons flags.verbose false '\x7d' c).bind hplace).congr
      fun t => if_pos hletter
  · exact local_none.congr fun t => if_neg hletter

theorem wordBorder?_of_head? {flags : Flags} {t : Text} (h : t.head? ≠ some '\x7b') :
    wordBorder? flags t = some (.boundary, t) := by
  rw [wordBorder?]
  rintro rest rfl
  exact h rfl

theorem wordBorder?_of_named {flags : Flags} {t : Text} {found : WordPlace × Text}
    (h : namedBorder? flags (flags.skip t) = some found) :
    wordBorder? flags ('\x7b' :: t) = some found := by
  cases hskip : flags.skip t with
  | nil => simp [hskip, namedBorder?] at h
  | cons c name =>
    rw [hskip, namedBorder?] at h
    split_ifs at h with hletter
    simp only [wordBorder?, hskip, if_pos hletter, h]

theorem wordBorder?_of_not_letter {flags : Flags} {t name : Text} {c : Char}
    (h : flags.skip t = c :: name) (hletter : ¬ (c.isAlpha || c == '-') = true) :
    wordBorder? flags ('\x7b' :: t) = some (.boundary, '\x7b' :: t) := by
  simp only [wordBorder?, h, if_neg hletter]

theorem localUnless_wordBorder (flags : Flags) :
    LocalUnless (fun _ ahead => IsOpenBorder flags ahead) fun t => wordBorder? flags t := by
  intro t place ahead behind hread
  by_cases hhead : t.head? = some '\x7b'
  · obtain ⟨t, rfl⟩ := List.head?_eq_some_iff.mp hhead
    cases hskip : flags.skip t with
    | nil => simp [wordBorder?, hskip] at hread
    | cons c name =>
      by_cases hletter : (c.isAlpha || c == '-') = true
      · have hnamed : namedBorder? flags (flags.skip t) = some (place, ahead ++ ')' :: behind) := by
          rw [hskip, namedBorder?, if_pos hletter, ← hread]
          simp only [wordBorder?, hskip, if_pos hletter]
        have hlocal : Local fun t => namedBorder? flags (flags.skip t) :=
          (local_skip flags).bind fun _ => local_namedBorder flags
        obtain ⟨taken, rfl, htakes⟩ := hlocal t hnamed
        exact Or.inr ⟨'\x7b' :: taken, rfl, fun u hu => wordBorder?_of_named (htakes u hu)⟩
      · have hboundary := wordBorder?_of_not_letter hskip hletter
        obtain ⟨rfl, htext⟩ := Prod.mk.inj (Option.some.inj (hboundary.symm.trans hread))
        cases ahead with
        | nil => cases htext
        | cons d ahead =>
          obtain ⟨rfl, rfl⟩ := List.cons.inj htext
          by_cases hempty : flags.skip ahead = []
          · exact Or.inl ⟨ahead, rfl, hempty⟩
          · -- The first character that counts stands in front of the parenthesis.
            have happend := skip_append hempty (')' :: behind)
            obtain ⟨d, first, hfirst⟩ := List.exists_cons_of_ne_nil hempty
            rw [hfirst] at happend
            obtain ⟨rfl, -⟩ := List.cons.inj (hskip.symm.trans happend)
            refine Or.inr ⟨[], rfl, fun u hu => ?_⟩
            have hskip' : flags.skip (ahead ++ u) = c :: (first ++ u) := by
              rw [skip_append hempty, hfirst, List.cons_append]
            exact wordBorder?_of_not_letter hskip' hletter
  · refine Or.inr (localAt_here (wordBorder?_of_head? hhead) (fun t' ht' => ?_) hread)
    refine wordBorder?_of_head? ?_
    rcases ht' with hsame | hstops
    · rwa [hsame]
    · exact hstops.head?_ne (by decide)

def IsOddEscape (flags : Flags) (atom : Atom) (ahead : Text) : Prop :=
  (∃ condition, atom = .assertion condition) ∧ IsOpenBorder flags ahead

theorem localUnless_escape (flags : Flags) :
    LocalUnless (IsOddEscape flags) fun t => escape? flags t := by
  refine LocalUnless.cons (fun c => ?_) rfl fun c rest => rfl
  by_cases hb : c = 'b'
  · subst hb
    intro t atom ahead behind hread
    obtain ⟨⟨place, rest⟩, hborder, hpair⟩ := Option.map_eq_some_iff.mp hread
    obtain ⟨rfl, rfl⟩ := Prod.mk.inj hpair
    refine (localUnless_wordBorder flags hborder).imp (fun hopen => ⟨⟨_, rfl⟩, hopen⟩) ?_
    rintro ⟨taken, rfl, htakes⟩
    exact ⟨taken, rfl, fun u hu => Option.map_eq_some_iff.mpr ⟨_, htakes u hu, rfl⟩⟩
  · refine Local.unless ?_ _
    by_cases hx : c = 'x'
    · exact hx ▸ local_hexEscape flags 2
    by_cases hu : c = 'u'
    · exact hu ▸ local_hexEscape flags 4
    by_cases hU : c = 'U'
    · exact hU ▸ local_hexEscape flags 8
    by_cases hp : c = 'p'
    · exact hp ▸ local_propertyEscape flags false
    by_cases hP : c = 'P'
    · exact hP ▸ local_propertyEscape flags true
    · exact (local_option (escapedChar? flags c)).congr fun rest => by
        simp [escape?]

end LogosHooks.Pattern
