import LogosHooks.Pattern.Parser
import LogosHooks.Proofs.Pattern.BracketLocality

/-!
The constructs of a pattern are read without looking behind a closing parenthesis that is not part
of them, with the one exception that escapes have.
-/
namespace LogosHooks.Pattern

variable {flags : Flags}

/-! ### Repetitions -/

theorem local_decimal (flags : Flags) : Local fun t => some (decimal? flags t) :=
  ((local_dropWhile (by decide)).bind fun _ => local_digitRun flags.verbose false).bind
    fun digits => (local_dropWhile (by decide)).map fun _ => count? digits

theorem local_closing {α : Type} (flags : Flags) (a : α) : Local fun t => closing? flags a t := by
  refine Local.ifHead (c := '\x7d') (by decide) ((local_skip flags).map fun _ => a) local_none
    (fun rest => rfl) fun t ht => ?_
  rw [closing?]
  rintro rest rfl
  exact ht rfl

theorem local_mostCount (flags : Flags) (least : Nat) :
    Local fun t => mostCount? flags least t := by
  have hclosing : ∀ most : Nat, Local fun t =>
      if least ≤ most then closing? flags (some most) t else none := by
    intro most
    split
    · exact local_closing flags (some most)
    · exact local_none
  have hbounded : Local fun t => (decimal? flags t).1.bind fun most =>
      if least ≤ most then closing? flags (some most) (decimal? flags t).2 else none :=
    (local_decimal flags).bind fun most? => Local.ofOption most? hclosing
  refine Local.skipIfHead flags (c := '\x7d') (by decide) ((local_skip flags).map fun _ => none)
    hbounded (fun t rest hrest => ?_) fun t ht => ?_
  · rw [mostCount?, hrest]
    rfl
  · unfold mostCount?
    split
    · next heq => exact absurd (congrArg List.head? heq) ht
    · rfl

def countsRest? (flags : Flags) (least : Nat) : Text → Option ((Nat × Option Nat) × Text)
  | ',' :: rest => (mostCount? flags least rest).map fun (most, rest) => ((least, most), rest)
  | rest => closing? flags (least, some least) rest

theorem local_countsRest (flags : Flags) (least : Nat) :
    Local fun t => countsRest? flags least t := by
  refine Local.ifHead (c := ',') (by decide)
    ((local_mostCount flags least).map fun most => (least, most))
    (local_closing flags (least, some least)) (fun rest => rfl) fun t ht => ?_
  rw [countsRest?]
  rintro rest rfl
  exact ht rfl

theorem local_counts (flags : Flags) : Local fun t => counts? flags t :=
  ((local_skip flags).bind fun _ => local_decimal flags).bind fun least? =>
    Local.ofOption least? (local_countsRest flags)

theorem local_questionMark : Local fun t => some (questionMark t) := by
  refine Local.ifHead (c := '?') (by decide) (local_pure true) (local_pure false) (fun rest => rfl)
    fun t ht => ?_
  rw [questionMark]
  rintro rest rfl
  exact ht rfl

theorem local_repetition (least : Nat) (most : Option Nat) :
    Local fun t => some (repetition least most t) :=
  local_questionMark.map fun marked => Construct.repetition least most marked

/-! ### Groups -/

/-- A reader that goes by the text up to the first character of some kind, and by that character. -/
theorem local_span {α : Type} {read : Text → Option (α × Text)} (p : Char → Bool)
    (finish : Text → Char → Option α)
    (hfound : ∀ front c behind, (∀ d ∈ front, p d = true) → p c = false →
      read (front ++ c :: behind) = (finish front c).map (·, behind))
    (hnone : ∀ t, (∀ d ∈ t, p d = true) → read t = none) : Local read := by
  intro t a ahead behind hread
  have htext := List.takeWhile_append_dropWhile (p := p) (l := t)
  cases hdrop : t.dropWhile p with
  | nil =>
    rw [hnone t (List.dropWhile_eq_nil_iff.mp hdrop)] at hread
    cases hread
  | cons c rest =>
    have hfront : ∀ d ∈ t.takeWhile p, p d = true := fun d hd => List.mem_takeWhile_imp hd
    have hc : p c = false := by
      have hhead := List.head?_dropWhile_not p t
      rw [hdrop] at hhead
      exact hhead
    rw [hdrop] at htext
    rw [← htext, hfound _ c rest hfront hc] at hread
    obtain ⟨_, hfinish, hpair⟩ := Option.map_eq_some_iff.mp hread
    obtain ⟨rfl, rfl⟩ := Prod.mk.inj hpair
    refine ⟨t.takeWhile p ++ [c], by simpa using htext.symm, fun u hu => ?_⟩
    rw [List.append_assoc]
    change read (t.takeWhile p ++ c :: (ahead ++ u)) = _
    rw [hfound _ c _ hfront hc, hfinish]
    rfl

theorem takeWhile_append_cons {p : Char → Bool} {front : Text} {c : Char}
    (hfront : ∀ d ∈ front, p d = true) (hc : p c = false) (behind : Text) :
    (front ++ c :: behind).takeWhile p = front ∧
      (front ++ c :: behind).dropWhile p = c :: behind := by
  rw [List.takeWhile_append_of_pos hfront, List.dropWhile_append_of_pos hfront]
  simp [hc]

theorem local_groupName : Local groupName? := by
  refine local_span (· != '>') (fun name _ =>
    if isGroupName name then some (Construct.openNumbered (some name)) else none) ?_ ?_
  · intro name c behind hname hc
    obtain ⟨htake, hdrop⟩ := takeWhile_append_cons hname hc behind
    rw [groupName?, htake, hdrop]
    by_cases hvalid : isGroupName name = true <;> simp [hvalid]
  · intro t ht
    rw [groupName?, List.dropWhile_eq_nil_iff.mpr ht]

theorem local_groupFlags (flags : Flags) : Local fun t => groupFlags? flags t := by
  refine local_span (fun c => c != ':' && c != ')') (fun spec c =>
    if !Flags.isValidSpec spec then none
    else if c = ':' then some (Construct.openGroup (flags.apply spec))
    else if spec.isEmpty then none else some (Construct.flags (flags.apply spec))) ?_ ?_
  · intro spec c behind hspec hc
    obtain ⟨htake, hdrop⟩ := takeWhile_append_cons hspec hc behind
    have hmark : c = ':' ∨ c = ')' := by
      rcases Bool.and_eq_false_iff.mp hc with hcolon | hclose
      · exact Or.inl (by simpa using hcolon)
      · exact Or.inr (by simpa using hclose)
    rw [groupFlags?, htake, hdrop]
    by_cases hvalid : Flags.isValidSpec spec = true
    · rcases hmark with rfl | rfl
      · simp [hvalid]
      · by_cases hempty : spec.isEmpty = true <;> simp [hvalid, hempty]
    · simp [hvalid]
  · intro t ht
    rw [groupFlags?, List.dropWhile_eq_nil_iff.mpr ht]
    simp

/-- `P` is no flag. -/
theorem groupFlags?_upper (t : Text) : groupFlags? flags ('P' :: t) = none := by
  simp [groupFlags?, Flags.isValidSpec]

theorem local_specialGroup (flags : Flags) : Local fun t => specialGroup? flags t := by
  have hupper : Local fun t => specialGroup? flags ('P' :: t) := by
    refine Local.ifHead (c := '<') (by decide) local_groupName local_none (fun rest => rfl)
      fun t ht => ?_
    rw [specialGroup?]
    · exact groupFlags?_upper t
    · exact fun rest h => absurd (List.cons.inj h).1 (by decide)
    · exact fun rest h => ht (congrArg List.head? (List.cons.inj h).2)
  have hunnamed : Local fun t : Text =>
      if t.head? = some 'P' then specialGroup? flags ('P' :: t.tail) else groupFlags? flags t :=
    Local.ifHead (c := 'P') (by decide) hupper (local_groupFlags flags) (fun rest => if_pos rfl)
      fun t ht => if_neg ht
  refine Local.ifHead (c := '<') (by decide) local_groupName hunnamed (fun rest => rfl)
    fun t ht => ?_
  by_cases hhead : t.head? = some 'P'
  · obtain ⟨rest, rfl⟩ := List.head?_eq_some_iff.mp hhead
    exact (if_pos hhead).symm
  · rw [if_neg hhead, specialGroup?]
    · exact fun rest h => ht (congrArg List.head? h)
    · exact fun rest h => hhead (congrArg List.head? h)

theorem local_group (flags : Flags) : Local fun t => group? flags t := by
  refine Local.skipIfHead flags (c := '?') (by decide) (local_specialGroup flags)
    (local_pure (.openNumbered none)) (fun t rest hrest => ?_) fun t ht => ?_
  · rw [group?, hrest]
    rfl
  · unfold group?
    split
    · next heq => exact absurd (congrArg List.head? heq) ht
    · rfl

/-! ### Constructs -/

def IsOddConstruct (flags : Flags) (construct : Construct) (ahead : Text) : Prop :=
  (∃ part, construct = .part part) ∧ IsOpenBorder flags ahead

theorem localUnless_escapedPart (flags : Flags) :
    LocalUnless (IsOddConstruct flags) fun t => construct? flags '\\' t := by
  intro t construct ahead behind hread
  obtain ⟨⟨atom, rest⟩, hatom, hthen⟩ := Option.bind_eq_some_iff.mp hread
  obtain ⟨part, hpart, hpair⟩ := Option.map_eq_some_iff.mp hthen
  obtain ⟨rfl, rfl⟩ := Prod.mk.inj hpair
  refine (localUnless_escape flags hatom).imp (fun hodd => ⟨⟨part, rfl⟩, hodd.2⟩) ?_
  rintro ⟨taken, rfl, htakes⟩
  refine ⟨taken, rfl, fun u hu => ?_⟩
  refine Option.bind_eq_some_iff.mpr ⟨_, htakes u hu, ?_⟩
  exact Option.map_eq_some_iff.mpr ⟨part, hpart, rfl⟩

theorem localUnless_construct (flags : Flags) (c : Char) :
    LocalUnless (IsOddConstruct flags) fun t => construct? flags c t := by
  by_cases hescape : c = '\\'
  · exact hescape ▸ localUnless_escapedPart flags
  refine Local.unless ?_ _
  by_cases hopen : c = '('
  · exact hopen ▸ local_group flags
  by_cases hclose : c = ')'
  · exact hclose ▸ local_pure Construct.closeGroup
  by_cases hbar : c = '|'
  · exact hbar ▸ local_pure Construct.bar
  by_cases hbracket : c = '['
  · exact hbracket ▸ (local_brackets flags).map fun found =>
      Construct.part ⟨.one found.chars, found.depth, false⟩
  by_cases hmark : c = '?'
  · exact hmark ▸ local_repetition 0 (some 1)
  by_cases hstar : c = '*'
  · exact hstar ▸ local_repetition 0 none
  by_cases hplus : c = '+'
  · exact hplus ▸ local_repetition 1 none
  by_cases hbrace : c = '\x7b'
  · exact hbrace ▸ (local_counts flags).bind fun counts => local_repetition counts.1 counts.2
  refine (local_option ((flags.charPart? c).map Construct.part)).congr fun t => ?_
  rw [Option.map_map, construct?]
  · rfl
  all_goals assumption

end LogosHooks.Pattern
