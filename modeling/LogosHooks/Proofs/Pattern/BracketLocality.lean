import LogosHooks.Pattern.Brackets
import LogosHooks.Proofs.Pattern.Locality
import Mathlib.Data.Option.Basic

/-!
Classes in brackets are read without looking behind a closing parenthesis that is not part of them.
-/
namespace LogosHooks.Pattern

variable {flags : Flags} {x u u' : Text}

/-! ### What is tried first -/

/-- Whether the text can be read, and what is read, does not depend on what it stops in front of. -/
def Framed {α : Type} (read : Text → Option (α × Text)) : Prop :=
  ∀ x u, Stops u → read (x ++ u) = (read x).map fun found => (found.1, found.2 ++ u)

theorem Framed.congr_stops {α : Type} {read : Text → Option (α × Text)} (h : Framed read)
    (hu : Stops u) (hu' : Stops u') (hnone : read (x ++ u) = none) : read (x ++ u') = none := by
  rw [h x u hu, Option.map_eq_none_iff] at hnone
  rw [h x u' hu', hnone]
  rfl

theorem Framed.behind {α : Type} {read : Text → Option (α × Text)} (h : Framed read) (c : Char) :
    Framed fun t => read (c :: t) :=
  fun x u hu => h (c :: x) u hu

theorem Framed.map {α β : Type} {read : Text → Option (α × Text)} (h : Framed read) (f : α → β) :
    Framed fun t => (read t).map fun found => (f found.1, found.2) := by
  intro x u hu
  simp only [h x u hu, Option.map_map]
  rfl

theorem Framed.local {α : Type} {read : Text → Option (α × Text)} (h : Framed read)
    (hsuffix : ∀ t a rest, read t = some (a, rest) → ∃ taken, t = taken ++ rest) : Local read := by
  intro t a ahead behind hread
  obtain ⟨taken, rfl⟩ := hsuffix t a _ hread
  rw [← List.append_assoc, h _ _ (stops_close behind)] at hread
  obtain ⟨⟨a', rest⟩, hfront, hpair⟩ := Option.map_eq_some_iff.mp hread
  obtain ⟨rfl, hrest⟩ := Prod.mk.inj hpair
  obtain rfl := List.append_cancel_right hrest
  refine ⟨taken, rfl, fun u hu => ?_⟩
  rw [← List.append_assoc, h _ u hu, hfront]
  rfl

/-- A reader that is tried first. -/
theorem Local.orElse {α γ : Type} {peek : Text → Option (γ × Text)}
    {found : γ → Text → Option (α × Text)} {other : Text → Option (α × Text)}
    (hframed : Framed peek) (hpeek : Local peek) (hfound : ∀ a, Local (found a))
    (hother : Local other) :
    Local fun t => match peek t with
      | some (a, rest) => found a rest
      | none => other t := by
  have hthen := hpeek.bind hfound
  intro t a ahead behind hread
  cases ht : peek t with
  | some first =>
    have hread' : (peek t).bind (fun first => found first.1 first.2) =
        some (a, ahead ++ ')' :: behind) := by simpa [ht] using hread
    obtain ⟨taken, rfl, htakes⟩ := hthen t hread'
    refine ⟨taken, rfl, fun u hu => ?_⟩
    obtain ⟨first, hfirst, hsecond⟩ := Option.bind_eq_some_iff.mp (htakes u hu)
    simp only [hfirst, hsecond]
  | none =>
    have hread' : other t = some (a, ahead ++ ')' :: behind) := by simpa [ht] using hread
    obtain ⟨taken, rfl, htakes⟩ := hother t hread'
    refine ⟨taken, rfl, fun u hu => ?_⟩
    rw [← List.append_assoc] at ht
    have hnone := hframed.congr_stops (stops_close behind) hu ht
    rw [List.append_assoc] at hnone
    simp only [hnone, htakes u hu]

theorem setOp?_cons_of_stops (c : Char) (hu : Stops u) : setOp? (c :: u) = none := by
  unfold setOp?
  split
  · next heq => exact absurd (congrArg List.head? (List.cons.inj heq).2) (hu.head?_ne (by decide))
  · next heq => exact absurd (congrArg List.head? (List.cons.inj heq).2) (hu.head?_ne (by decide))
  · next heq => exact absurd (congrArg List.head? (List.cons.inj heq).2) (hu.head?_ne (by decide))
  · rfl

theorem setOp?_of_stops (hu : Stops u) : setOp? u = none := by
  rcases hu.cases with rfl | ⟨rest, rfl⟩
  · rfl
  · simp [setOp?]

theorem framed_setOp : Framed setOp? := by
  intro x u hu
  match x with
  | [] => exact setOp?_of_stops hu
  | [c] => rw [setOp?_cons_of_stops c stops_nil]; exact setOp?_cons_of_stops c hu
  | c :: d :: x =>
    simp only [List.cons_append, setOp?]
    split <;> simp_all

theorem not_mem_of_asciiNamed {name : Text} {a : CharClass}
    (h : CharClass.asciiNamed? name = some a) : ')' ∉ name := by
  unfold CharClass.asciiNamed? at h
  obtain ⟨entry, hentry, -⟩ := Option.map_eq_some_iff.mp h
  have hname := List.find?_some hentry
  have hmem := List.mem_of_find?_eq_some hentry
  simp only [beq_iff_eq] at hname
  subst hname
  simp only [List.mem_cons, List.not_mem_nil, or_false] at hmem
  rcases hmem with rfl | rfl | rfl | rfl | rfl | rfl | rfl | rfl | rfl | rfl | rfl | rfl | rfl | rfl
  all_goals decide

theorem bne_of_not_mem {name : Text} {mark : Char} (h : mark ∉ name) :
    ∀ c ∈ name, (c != mark) = true := by
  intro c hc
  rw [bne_iff_ne]
  rintro rfl
  exact h hc

theorem asciiName?_colon {name : Text} (hname : ':' ∉ name) (t : Text) :
    asciiName? (name ++ ':' :: t) =
      match t with
      | ']' :: behind => (CharClass.asciiNamed? name).map (·, behind)
      | _ => none := by
  have hne := bne_of_not_mem hname
  have htake : (name ++ ':' :: t).takeWhile (· != ':') = name := by
    rw [List.takeWhile_append_of_pos hne]
    simp
  rw [asciiName?, List.dropWhile_append_of_pos hne, htake]
  simp only [List.dropWhile_cons, bne_self_eq_false, Bool.false_eq_true, if_false]
  split <;> simp_all

theorem framed_asciiName : Framed asciiName? := by
  intro x u hu
  by_cases hcolon : ':' ∈ x
  · obtain ⟨name, t, rfl, hname⟩ := List.eq_append_cons_of_mem hcolon
    rw [List.append_assoc, List.cons_append, asciiName?_colon hname, asciiName?_colon hname]
    cases t with
    | nil =>
      rcases hu.cases with rfl | ⟨rest, rfl⟩
      · rfl
      · rfl
    | cons c t => by_cases hc : c = ']' <;> simp [hc, Function.comp_def]
  · have hne := bne_of_not_mem hcolon
    have hnone : asciiName? x = none := by
      rw [asciiName?, List.dropWhile_eq_nil_iff.mpr hne]
    rw [hnone]
    rcases hu.cases with rfl | ⟨rest, rfl⟩
    · rw [List.append_nil]
      exact hnone
    · -- A name that reaches over the parenthesis is the name of no class.
      have hmem : ')' ∈ (x ++ ')' :: rest).takeWhile (· != ':') := by
        rw [List.takeWhile_append_of_pos hne]
        simp
      have hunnamed : CharClass.asciiNamed? ((x ++ ')' :: rest).takeWhile (· != ':')) = none := by
        cases hfound : CharClass.asciiNamed? ((x ++ ')' :: rest).takeWhile (· != ':')) with
        | none => rfl
        | some a => exact absurd hmem (not_mem_of_asciiNamed hfound)
      rw [asciiName?, hunnamed]
      split <;> rfl

theorem asciiItem?_eq_none {t : Text} (h : ∀ rest, t ≠ '[' :: ':' :: rest) :
    asciiItem? flags t = none := by
  unfold asciiItem?
  split
  · exact absurd rfl (h _)
  · exact absurd rfl (h _)
  · rfl

theorem asciiItem?_of_head? {t : Text} (h : t.head? ≠ some '^') :
    asciiItem? flags ('[' :: ':' :: t) =
      (asciiName? t).map fun (a, behind) => (flags.finishClass false a, behind) := by
  rw [asciiItem?]
  rintro rest rfl
  exact h rfl

theorem framed_asciiItem (flags : Flags) : Framed (asciiItem? flags) := by
  intro x u hu
  by_cases hopen : ∃ t, x = '[' :: ':' :: t
  · obtain ⟨t, rfl⟩ := hopen
    by_cases hsign : t.head? = some '^'
    · obtain ⟨t, rfl⟩ := List.head?_eq_some_iff.mp hsign
      exact framed_asciiName.map _ t u hu
    · have hsign' : (t ++ u).head? ≠ some '^' := by
        cases t with
        | nil => exact hu.head?_ne (by decide)
        | cons c t => exact hsign
      rw [asciiItem?_of_head? hsign, List.cons_append, List.cons_append, asciiItem?_of_head? hsign']
      exact framed_asciiName.map _ t u hu
  · rw [asciiItem?_eq_none fun t h => hopen ⟨t, h⟩]
    refine asciiItem?_eq_none fun rest h => ?_
    match x with
    | [] => exact hu.head?_ne (c := '[') (by decide) (congrArg List.head? h)
    | [c] =>
      exact hu.head?_ne (c := ':') (by decide) (congrArg List.head? (List.cons.inj h).2)
    | c :: d :: x =>
      simp only [List.cons_append, List.cons.injEq] at h
      obtain ⟨rfl, rfl, -⟩ := h
      exact hopen ⟨x, rfl⟩

theorem dropWhile_isBlank_append (hu : Stops u) :
    (x ++ u).dropWhile Text.isBlank = x.dropWhile Text.isBlank ++ u := by
  rw [List.dropWhile_append]
  split
  · next hempty =>
    rw [List.isEmpty_iff.mp hempty, List.nil_append]
    rcases hu.cases with rfl | ⟨rest, rfl⟩
    · rfl
    · exact List.dropWhile_cons_of_neg (by decide)
  · rfl

theorem peek_append (hu : Stops u) : flags.peek (x ++ u) = (flags.peek x).or u.head? := by
  unfold Flags.peek
  split
  · rw [dropWhile_isBlank_append hu]
    by_cases hcomment : (x.dropWhile Text.isBlank).head? = some '#'
    · obtain ⟨rest, hrest⟩ := List.head?_eq_some_iff.mp hcomment
      simp [hrest, dropWhile_isBlank_append hu]
    · have hcomment' : (x.dropWhile Text.isBlank ++ u).head? ≠ some '#' := by
        rw [List.head?_append]
        cases hhead : (x.dropWhile Text.isBlank).head? with
        | none => exact hu.head?_ne (by decide)
        | some c => exact fun h => hcomment (hhead.trans h)
      rw [if_neg hcomment, if_neg hcomment', List.head?_append]
  · exact List.head?_append

theorem peek_ne (hu : Stops u) (hu' : Stops u') {c : Char} (hc : c ≠ ')')
    (h : flags.peek (x ++ u) ≠ some c) : flags.peek (x ++ u') ≠ some c := by
  rw [peek_append hu] at h
  rw [peek_append hu']
  cases hx : flags.peek x with
  | none => exact hu'.head?_ne hc
  | some d => rwa [hx] at h

theorem rangeFollows_append (hu : Stops u) (hu' : Stops u')
    (h : rangeFollows flags (x ++ u) = true) : rangeFollows flags (x ++ u') = true := by
  cases x with
  | nil =>
    rcases hu.cases with rfl | ⟨rest, rfl⟩
    · cases h
    · simp [rangeFollows] at h
  | cons c x =>
    by_cases hc : c = '-'
    · subst hc
      simp only [List.cons_append, rangeFollows, Bool.and_eq_true, bne_iff_ne] at h ⊢
      exact ⟨peek_ne hu hu' (by decide) h.1, peek_ne hu hu' (by decide) h.2⟩
    · simp [rangeFollows, hc] at h

/-! ### Items -/

/-- A reader that goes on in one of two ways, for which it looks no further than to a place that
stops. -/
theorem Local.ite {α : Type} {first second : Text → Option (α × Text)} {p : Text → Bool}
    (hfirst : Local first) (hsecond : Local second)
    (hp : ∀ x u u', Stops u → Stops u' → p (x ++ u) = true → p (x ++ u') = true) :
    Local fun t => if p t then first t else second t := by
  intro t a ahead behind hread
  change (if p t then first t else second t) = _ at hread
  split_ifs at hread with hpt
  · obtain ⟨taken, rfl, htakes⟩ := hfirst t hread
    refine ⟨taken, rfl, fun u hu => (if_pos ?_).trans (htakes u hu)⟩
    rw [← List.append_assoc] at hpt ⊢
    exact hp _ _ _ (stops_close behind) hu hpt
  · obtain ⟨taken, rfl, htakes⟩ := hsecond t hread
    refine ⟨taken, rfl, fun u hu => (if_neg fun hpu => hpt ?_).trans (htakes u hu)⟩
    rw [← List.append_assoc] at hpu ⊢
    exact hp _ _ _ hu (stops_close behind) hpu

theorem localUnless_bracketAtom_cons (c : Char) :
    LocalUnless (IsOddEscape flags) fun t => bracketAtom? flags (c :: t) := by
  by_cases hc : c = '\\'
  · exact hc ▸ localUnless_escape flags
  · refine ((local_pure (Atom.literal c false)).congr fun t => ?_).unless _
    simp [bracketAtom?]

theorem localUnless_bracketAtom : LocalUnless (IsOddEscape flags) fun t => bracketAtom? flags t :=
  LocalUnless.cons localUnless_bracketAtom_cons rfl fun _ _ => rfl

theorem rangeClass?_assertion (atom : Atom) (condition : Assertion) :
    rangeClass? flags atom (.assertion condition) = none := by
  cases h : endpoint? flags atom <;> simp [rangeClass?, endpoint?]

/-- No item begins with an assertion. -/
theorem itemFrom?_assertion (condition : Assertion) (t : Text) :
    itemFrom? flags (.assertion condition) t = none := by
  unfold itemFrom?
  split
  · cases h : bracketAtom? flags (flags.skip (t.drop 1)) <;> simp [rangeClass?, endpoint?]
  · rfl

theorem local_itemFrom (atom : Atom) : Local fun t => itemFrom? flags atom t := by
  have hlast : Local fun t => (bracketAtom? flags t).bind fun found =>
      (rangeClass? flags atom found.1).map (·, found.2) := by
    refine localUnless_bracketAtom.bind (fun last => local_option _) ?_
    rintro _ ahead behind rest ⟨⟨condition, rfl⟩, -⟩ b
    simp [rangeClass?_assertion]
  have hrange : Local fun t => (bracketAtom? flags (flags.skip (t.drop 1))).bind fun found =>
      (rangeClass? flags atom found.1).map (·, found.2) :=
    Local.cons (fun _ => (local_skip flags).bind fun _ => hlast) (by simp [bracketAtom?])
      fun _ _ => rfl
  refine (hrange.ite (local_option (atom.class? flags)) fun x u u' hu hu'
    (hpos : rangeFollows flags (x ++ u) = true) => rangeFollows_append hu hu' hpos).congr
    fun t => ?_
  unfold itemFrom?
  split
  · cases bracketAtom? flags (flags.skip (t.drop 1)) with
    | none => rfl
    | some found => cases h : rangeClass? flags atom found.1 <;> simp [h]
  · rfl

theorem local_bracketItem (c : Char) : Local fun t => bracketItem? flags (c :: t) := by
  refine (localUnless_bracketAtom_cons c).bind
    (fun atom => (local_skip flags).bind fun _ => local_itemFrom atom) ?_
  rintro _ ahead behind rest ⟨⟨condition, rfl⟩, -⟩ b
  simp [itemFrom?_assertion]

/-! ### The front of a class -/

theorem hyphens_of_head? {t : Text} (h : t.head? ≠ some '-') (n : Nat) (items : List Nested) :
    hyphens flags n items t = (items, t) := by
  cases n with
  | zero => rfl
  | succ n =>
    rw [hyphens]
    intro _ rest _ ht
    exact h (congrArg List.head? ht)

/-- With enough fuel for what is taken, no hyphen is left. -/
theorem hyphens_takes {n : Nat} {items found : List Nested} {t ahead behind : Text}
    (hn : t.length ≤ n) (h : hyphens flags n items t = (found, ahead ++ ')' :: behind)) :
    ∃ taken, t = taken ++ (ahead ++ ')' :: behind) ∧ ∀ m, taken.length ≤ m →
      Takes (fun t => some (hyphens flags m items t)) found taken ahead := by
  induction n generalizing items t with
  | zero =>
    obtain rfl := List.length_eq_zero_iff.mp (Nat.le_zero.mp hn)
    exact absurd (Prod.mk.inj h).2 (by simp)
  | succ n ih =>
    by_cases hhead : t.head? = some '-'
    · obtain ⟨t, rfl⟩ := List.head?_eq_some_iff.mp hhead
      have hle : (flags.skip t).length ≤ n :=
        Nat.le_trans (length_skip_le flags t) (Nat.le_of_succ_le_succ hn)
      obtain ⟨taken, hskip, htakes⟩ := ih hle h
      rw [← List.append_assoc] at hskip
      obtain ⟨gap, rfl, hgap⟩ := exists_gap_of_skip hskip
      refine ⟨'-' :: gap ++ taken, by simp, fun m hm u hu => ?_⟩
      cases m with
      | zero => simp at hm
      | succ m =>
        have hskip' : flags.skip (gap ++ (taken ++ ahead ++ u)) = taken ++ (ahead ++ u) := by
          rw [← List.append_assoc taken]
          exact hgap u hu
        have htext : '-' :: gap ++ taken ++ (ahead ++ u) =
            '-' :: (gap ++ (taken ++ ahead ++ u)) := by
          simp
        change some (hyphens flags (m + 1) items _) = _
        rw [htext, hyphens, hskip']
        exact htakes m (by simp at hm; omega) u hu
    · rw [hyphens_of_head? hhead] at h
      obtain ⟨rfl, rfl⟩ := Prod.mk.inj h
      refine ⟨[], rfl, fun m _ u hu => ?_⟩
      have hhead' : (ahead ++ u).head? ≠ some '-' := by
        cases ahead with
        | nil => exact hu.head?_ne (by decide)
        | cons c ahead => exact hhead
      exact congrArg some (hyphens_of_head? hhead' m items)

def leadingRest (flags : Flags) : List Nested × Text → List Nested × Text
  | ([], ']' :: rest) => ([⟨.single ']', 0⟩], flags.skip rest)
  | (items, rest) => (items, rest)

theorem local_leadingRest (flags : Flags) (items : List Nested) :
    Local fun t => some (leadingRest flags (items, t)) := by
  cases items with
  | nil =>
    refine Local.ifHead (c := ']') (by decide)
      ((local_skip flags).map fun _ => [⟨.single ']', 0⟩]) (local_pure []) (fun rest => rfl)
      fun t ht => ?_
    rw [leadingRest]
    rintro rest - rfl
    exact ht rfl
  | cons item items => exact local_pure (item :: items)

theorem local_leadingItems (flags : Flags) : Local fun t => some (leadingItems flags t) := by
  have hhyphens : Local fun t => some (hyphens flags t.length [] t) := by
    intro t found ahead behind hread
    obtain ⟨taken, rfl, htakes⟩ := hyphens_takes (Nat.le_refl _) (Option.some.inj hread)
    exact ⟨taken, rfl, fun u hu => htakes _ (by simp) u hu⟩
  exact hhyphens.bind (local_leadingRest flags)

def bracketSign (flags : Flags) : Text → Bool × Text
  | '^' :: rest => (true, flags.skip rest)
  | t => (false, t)

theorem local_bracketSign (flags : Flags) : Local fun t => some (bracketSign flags t) := by
  refine Local.ifHead (c := '^') (by decide) ((local_skip flags).map fun _ => true)
    (local_pure false) (fun rest => rfl) fun t ht => ?_
  rw [bracketSign]
  rintro rest rfl
  exact ht rfl

theorem local_openBracket (flags : Flags) : Local fun t => some (openBracket flags t) :=
  ((local_skip flags).bind fun _ => local_bracketSign flags).bind fun negated =>
    (local_leadingItems flags).map fun items => (negated, items)

/-! ### What stands within brackets -/

theorem asciiName?_suffix {t rest : Text} {a : CharClass} (h : asciiName? t = some (a, rest)) :
    ∃ taken, t = taken ++ rest := by
  unfold asciiName? at h
  split at h
  · next behind hdrop =>
    obtain ⟨_, -, hpair⟩ := Option.map_eq_some_iff.mp h
    obtain ⟨-, rfl⟩ := Prod.mk.inj hpair
    refine ⟨t.takeWhile (· != ':') ++ [':', ']'], ?_⟩
    rw [List.append_assoc]
    change t = t.takeWhile (· != ':') ++ ':' :: ']' :: behind
    rw [← hdrop, List.takeWhile_append_dropWhile]
  · cases h

theorem asciiItem?_suffix {t rest : Text} {a : CharClass}
    (h : asciiItem? flags ('[' :: t) = some (a, rest)) : ∃ taken, t = taken ++ rest := by
  unfold asciiItem? at h
  split at h
  · next heq =>
    obtain rfl := (List.cons.inj heq).2
    obtain ⟨_, hname, hpair⟩ := Option.map_eq_some_iff.mp h
    obtain ⟨-, rfl⟩ := Prod.mk.inj hpair
    obtain ⟨taken, rfl⟩ := asciiName?_suffix hname
    exact ⟨':' :: '^' :: taken, rfl⟩
  · next heq =>
    obtain rfl := (List.cons.inj heq).2
    obtain ⟨_, hname, hpair⟩ := Option.map_eq_some_iff.mp h
    obtain ⟨-, rfl⟩ := Prod.mk.inj hpair
    obtain ⟨taken, rfl⟩ := asciiName?_suffix hname
    exact ⟨':' :: taken, rfl⟩
  · cases h

theorem setOp?_suffix {c : Char} {t rest : Text} {op : SetOp}
    (h : setOp? (c :: t) = some (op, rest)) : ∃ taken, t = taken ++ rest := by
  have hsecond : ∃ d, t = d :: rest := by
    unfold setOp? at h
    split at h
    · next heq => exact ⟨'&', by rw [(List.cons.inj heq).2, (Prod.mk.inj (Option.some.inj h)).2]⟩
    · next heq => exact ⟨'-', by rw [(List.cons.inj heq).2, (Prod.mk.inj (Option.some.inj h)).2]⟩
    · next heq => exact ⟨'~', by rw [(List.cons.inj heq).2, (Prod.mk.inj (Option.some.inj h)).2]⟩
    · cases h
  obtain ⟨d, rfl⟩ := hsecond
  exact ⟨[d], rfl⟩

theorem local_bracketPiece (flags : Flags) (c : Char) :
    Local fun t => bracketPiece? flags (c :: t) := by
  by_cases hclose : c = ']'
  · exact (local_pure BracketPiece.closing).congr fun t => by simp [bracketPiece?, hclose]
  by_cases hopen : c = '['
  · subst hopen
    have hascii := (framed_asciiItem flags).behind '['
    have hfound : ∀ a : CharClass, Local fun rest =>
        if !flags.unicode && !a.isAscii then none else some (BracketPiece.item ⟨a, 0⟩, rest) := by
      intro a
      split
      · exact local_none
      · exact local_pure _
    refine (Local.orElse hascii (hascii.local fun t a rest h => asciiItem?_suffix h) hfound
      ((local_openBracket flags).map fun found => BracketPiece.opening found.1 found.2)).congr
      fun t => ?_
    rw [bracketPiece?]
    cases asciiItem? flags ('[' :: t) <;> rfl
  · have hop := framed_setOp.behind c
    have hitem : Local fun t => (bracketItem? flags (c :: t)).map fun found =>
        (BracketPiece.item ⟨found.1, 0⟩, found.2) :=
      (local_bracketItem c).map fun a => BracketPiece.item ⟨a, 0⟩
    refine (Local.orElse hop (hop.local fun t a rest h => setOp?_suffix h)
      (fun op => local_pure (BracketPiece.operation op)) hitem).congr fun t => ?_
    rw [bracketPiece?]
    · cases setOp? (c :: t) <;> rfl
    · exact (List.cons_ne_nil c t ·)
    · exact fun rest h => hclose (List.cons.inj h).1
    · exact fun rest h => hopen (List.cons.inj h).1

/-- A piece is never empty. -/
theorem bracketPiece?_takes {t ahead behind : Text} {piece : BracketPiece}
    (h : bracketPiece? flags (flags.skip t) = some (piece, ahead ++ ')' :: behind)) :
    ∃ taken, taken ≠ [] ∧ t = taken ++ (ahead ++ ')' :: behind) ∧
      Takes (fun t => bracketPiece? flags (flags.skip t)) piece taken ahead := by
  cases hskip : flags.skip t with
  | nil =>
    rw [hskip] at h
    cases h
  | cons c rest =>
    rw [hskip] at h
    obtain ⟨taken, rfl, htakes⟩ := local_bracketPiece flags c rest h
    have hahead : flags.skip t = (c :: taken ++ ahead) ++ ')' :: behind := by simp [hskip]
    obtain ⟨gap, rfl, hgap⟩ := exists_gap_of_skip hahead
    refine ⟨gap ++ c :: taken, by simp, by simp, fun u hu => ?_⟩
    have hskip' : flags.skip (gap ++ c :: taken ++ (ahead ++ u)) =
        c :: (taken ++ (ahead ++ u)) := by
      simpa using hgap u hu
    change bracketPiece? flags (flags.skip (gap ++ c :: taken ++ (ahead ++ u))) = _
    rw [hskip']
    exact htakes u hu

def bracketRest? (flags : Flags) (fuel : Nat) (pending : Option (SetOp × Nested))
    (items : List Nested) (piece : BracketPiece) (rest : Text) : Option (Nested × Text) :=
  match piece with
  | .item item => bracketBody? flags fuel pending (items ++ [item]) rest
  | .operation op => bracketBody? flags fuel (some (op, closeOperand flags pending items)) [] rest
  | .opening negated leading => do
    let (inside, rest) ← bracketBody? flags fuel none leading rest
    let item ← closeBracket? flags negated inside
    bracketBody? flags fuel pending (items ++ [item]) rest
  | .closing => some (closeOperand flags pending items, rest)

theorem bracketBody?_succ (fuel : Nat) (pending : Option (SetOp × Nested)) (items : List Nested)
    (t : Text) : bracketBody? flags (fuel + 1) pending items t =
      (bracketPiece? flags (flags.skip t)).bind fun found =>
        bracketRest? flags fuel pending items found.1 found.2 := by
  rw [bracketBody?]
  rfl

theorem bracketBody?_takes {n : Nat} {pending : Option (SetOp × Nested)} {items : List Nested}
    {t ahead behind : Text} {found : Nested}
    (h : bracketBody? flags n pending items t = some (found, ahead ++ ')' :: behind)) :
    ∃ taken, t = taken ++ (ahead ++ ')' :: behind) ∧ ∀ m, taken.length ≤ m →
      Takes (fun t => bracketBody? flags m pending items t) found taken ahead := by
  induction n generalizing pending items t ahead behind found with
  | zero => cases h
  | succ n ih =>
    rw [bracketBody?_succ] at h
    obtain ⟨⟨piece, rest⟩, hpiece, hrest⟩ := Option.bind_eq_some_iff.mp h
    have hthen : ∃ taken, rest = taken ++ (ahead ++ ')' :: behind) ∧ ∀ m, taken.length ≤ m →
        Takes (bracketRest? flags m pending items piece) found taken ahead := by
      cases piece with
      | item item => exact ih hrest
      | operation op => exact ih hrest
      | closing =>
        obtain ⟨rfl, rfl⟩ := Prod.mk.inj (Option.some.inj hrest)
        exact ⟨[], rfl, fun m _ u hu => rfl⟩
      | opening negated leading =>
        obtain ⟨⟨inside, middle⟩, hinside, hmiddle⟩ := Option.bind_eq_some_iff.mp hrest
        obtain ⟨item, hitem, hafter⟩ := Option.bind_eq_some_iff.mp hmiddle
        obtain ⟨last, rfl, hlast⟩ := ih hafter
        rw [← List.append_assoc] at hinside
        obtain ⟨first, rfl, hfirst⟩ := ih hinside
        refine ⟨first ++ last, by simp, fun m hm u hu => ?_⟩
        rw [List.length_append] at hm
        have hfirst' := hfirst m (by omega) u hu
        rw [List.append_assoc] at hfirst'
        rw [List.append_assoc]
        refine Option.bind_eq_some_iff.mpr ⟨_, hfirst', ?_⟩
        exact Option.bind_eq_some_iff.mpr ⟨item, hitem, hlast m (by omega) u hu⟩
    obtain ⟨taken', rfl, htakes'⟩ := hthen
    rw [← List.append_assoc] at hpiece
    obtain ⟨taken, hne, rfl, htakes⟩ := bracketPiece?_takes hpiece
    refine ⟨taken ++ taken', by simp, fun m hm u hu => ?_⟩
    have hpos : 0 < taken.length := List.length_pos_iff.mpr hne
    rw [List.length_append] at hm
    cases m with
    | zero => omega
    | succ m =>
      have hpiece' := htakes u hu
      rw [List.append_assoc] at hpiece'
      change bracketBody? flags (m + 1) pending items _ = _
      rw [List.append_assoc, bracketBody?_succ]
      exact Option.bind_eq_some_iff.mpr ⟨_, hpiece', htakes' m (by omega) u hu⟩

theorem local_brackets (flags : Flags) : Local fun t => brackets? flags t := by
  intro t found ahead behind hread
  obtain ⟨⟨⟨negated, leading⟩, inner⟩, hopen⟩ : ∃ opened, openBracket flags t = opened := ⟨_, rfl⟩
  simp only [brackets?, hopen] at hread
  obtain ⟨⟨inside, rest⟩, hbody, hclose⟩ := Option.bind_eq_some_iff.mp hread
  obtain ⟨item, hitem, hpair⟩ := Option.bind_eq_some_iff.mp hclose
  obtain ⟨rfl, rfl⟩ := Prod.mk.inj (Option.some.inj hpair)
  obtain ⟨last, rfl, hlast⟩ := bracketBody?_takes hbody
  rw [← List.append_assoc] at hopen
  obtain ⟨first, rfl, hfirst⟩ := local_openBracket flags t (congrArg some hopen)
  refine ⟨first ++ last, by simp, fun u hu => ?_⟩
  have hopen' := Option.some.inj (hfirst u hu)
  rw [List.append_assoc last] at hopen'
  rw [List.append_assoc first]
  simp only [brackets?, hopen']
  have hbody' := hlast ((first ++ (last ++ (ahead ++ u))).length + 1) (by simp; omega) u hu
  refine Option.bind_eq_some_iff.mpr ⟨_, hbody', ?_⟩
  exact Option.bind_eq_some_iff.mpr ⟨item, hitem, rfl⟩

end LogosHooks.Pattern
