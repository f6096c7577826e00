import LogosHooks.Proofs.Text.Balance

/-!
Colons outside all parentheses. They are counted piece by piece: a balanced piece contributes its
own outer colons whatever follows it, a piece in parentheses contributes none, and blanks have no
bearing on the count.
-/
namespace LogosHooks.Text

/-- The colons outside all parentheses, `depth` of them being open in front. A parenthesis that
closes nothing is passed over. -/
def outerColonsFrom (depth : Nat) : Text → Nat
  | [] => 0
  | c :: rest =>
    if c = '(' then outerColonsFrom (depth + 1) rest
    else if c = ')' then outerColonsFrom (depth - 1) rest
    else (if c = ':' ∧ depth = 0 then 1 else 0) + outerColonsFrom depth rest

def outerColons (t : Text) : Nat := outerColonsFrom 0 t

theorem outerColonsFrom_open (depth : Nat) (t : Text) :
    outerColonsFrom depth ('(' :: t) = outerColonsFrom (depth + 1) t := rfl

theorem outerColonsFrom_close (depth : Nat) (t : Text) :
    outerColonsFrom depth (')' :: t) = outerColonsFrom (depth - 1) t := rfl

theorem outerColonsFrom_of_ne (depth : Nat) {c : Char} (hopen : c ≠ '(') (hclose : c ≠ ')')
    (t : Text) : outerColonsFrom depth (c :: t) =
      (if c = ':' ∧ depth = 0 then 1 else 0) + outerColonsFrom depth t := by
  rw [outerColonsFrom, if_neg hopen, if_neg hclose]

theorem ne_of_isBlank {c d : Char} (hc : isBlank c = true) (hd : isBlank d = false) : c ≠ d := by
  rintro rfl
  rw [hc] at hd
  cases hd

theorem outerColonsFrom_filter (depth : Nat) (t : Text) :
    outerColonsFrom depth (t.filter (!isBlank ·)) = outerColonsFrom depth t := by
  induction t generalizing depth with
  | nil => rfl
  | cons c t ih =>
    by_cases hc : isBlank c = true
    · have hcolon : ¬ (c = ':' ∧ depth = 0) := fun h => ne_of_isBlank hc rfl h.1
      rw [List.filter_cons_of_neg (by simp [hc]), ih,
        outerColonsFrom_of_ne depth (ne_of_isBlank hc rfl) (ne_of_isBlank hc rfl), if_neg hcolon,
        Nat.zero_add]
    · rw [List.filter_cons_of_pos (by simp [hc])]
      simp only [outerColonsFrom, ih]

/-- What closes the open parentheses can be counted on its own. -/
theorem outerColonsFrom_append {depth : Nat} {s : Text} (hs : Closes depth s) (outer : Nat)
    (t : Text) : outerColonsFrom (outer + depth) (s ++ t) =
      outerColonsFrom (outer + depth) s + outerColonsFrom outer t := by
  induction s generalizing depth with
  | nil =>
    rw [closes_nil_iff.mp hs, List.nil_append, Nat.add_zero, outerColonsFrom, Nat.zero_add]
  | cons c s ih =>
    rw [List.cons_append]
    by_cases hclose : c = ')'
    · subst hclose
      obtain ⟨inner, rfl, hinner⟩ := closes_cons_close_iff.mp hs
      exact ih hinner
    · by_cases hopen : c = '('
      · subst hopen
        exact ih (closes_cons_open_iff.mp hs)
      · have hrest := ih ((closes_cons_of_ne_iff hopen hclose).mp hs)
        rw [outerColonsFrom_of_ne _ hopen hclose, outerColonsFrom_of_ne _ hopen hclose, hrest,
          Nat.add_assoc]

/-- Within parentheses there is no outer colon. -/
theorem outerColonsFrom_inside {depth : Nat} {s : Text} (hs : Closes depth s) (outer : Nat) :
    outerColonsFrom (outer + 1 + depth) s = 0 := by
  induction s generalizing depth with
  | nil => rfl
  | cons c s ih =>
    by_cases hclose : c = ')'
    · subst hclose
      obtain ⟨inner, rfl, hinner⟩ := closes_cons_close_iff.mp hs
      exact ih hinner
    · by_cases hopen : c = '('
      · subst hopen
        exact ih (closes_cons_open_iff.mp hs)
      · rw [outerColonsFrom_of_ne _ hopen hclose, if_neg (by omega),
          ih ((closes_cons_of_ne_iff hopen hclose).mp hs)]

theorem outerColonsFrom_eq_zero (depth : Nat) {t : Text} (ht : ':' ∉ t) :
    outerColonsFrom depth t = 0 := by
  induction t generalizing depth with
  | nil => rfl
  | cons c t ih =>
    rw [List.mem_cons, not_or] at ht
    obtain ⟨hc, hrest⟩ := ht
    simp only [outerColonsFrom, ih _ hrest, Ne.symm hc, false_and, if_false, Nat.add_zero, ite_self]

/-! ### Pieces -/

/-- The piece has `count` outer colons, and it leaves no parenthesis open for what follows. -/
def Contributes (piece : Text) (count : Nat) : Prop :=
  ∀ t, outerColons (piece ++ t) = count + outerColons t

theorem Contributes.outerColons_eq {piece : Text} {count : Nat} (h : Contributes piece count) :
    outerColons piece = count := by
  have hall := h []
  rwa [List.append_nil] at hall

theorem contributes_nil : Contributes [] 0 := fun t => by simp

theorem Contributes.append {s t : Text} {m n : Nat} (hs : Contributes s m) (ht : Contributes t n) :
    Contributes (s ++ t) (m + n) := by
  intro u
  rw [List.append_assoc, hs, ht, Nat.add_assoc]

theorem contributes_of_balanced {s : Text} (hs : Balanced s) : Contributes s (outerColons s) :=
  outerColonsFrom_append hs 0

theorem contributes_parenthesized {inside : Text} (h : Balanced inside) :
    Contributes ('(' :: inside ++ [')']) 0 := by
  intro t
  have happend := outerColonsFrom_append h 1 (')' :: t)
  have hinside := outerColonsFrom_inside h 0
  rw [List.append_assoc, List.cons_append, outerColons, outerColonsFrom_open]
  change outerColonsFrom 1 (inside ++ ')' :: t) = _
  rw [happend, hinside, outerColonsFrom_close]
  rfl

theorem contributes_singleton {c : Char} (hopen : c ≠ '(') (hclose : c ≠ ')') :
    Contributes [c] (if c = ':' then 1 else 0) := by
  intro t
  rw [List.singleton_append, outerColons, outerColonsFrom_of_ne 0 hopen hclose]
  simp [outerColons]

/-- A text without colons and parentheses contributes nothing. -/
theorem contributes_plain {s : Text} (h : ∀ c ∈ s, c ≠ '(' ∧ c ≠ ')' ∧ c ≠ ':') :
    Contributes s 0 := by
  induction s with
  | nil => exact contributes_nil
  | cons c s ih =>
    obtain ⟨hopen, hclose, hcolon⟩ := h c List.mem_cons_self
    have hc := contributes_singleton hopen hclose
    rw [if_neg hcolon] at hc
    exact hc.append (ih fun d hd => h d (List.mem_cons_of_mem c hd))

/-- Only the words of a piece matter. -/
theorem contributes_flatten_words_iff {s : Text} {n : Nat} :
    Contributes (words s).flatten n ↔ Contributes s n := by
  have hsame : ∀ t, outerColons ((words s).flatten ++ t) = outerColons (s ++ t) := by
    intro t
    rw [outerColons, ← outerColonsFrom_filter, flatten_words, List.filter_append,
      List.filter_filter]
    simp only [Bool.and_self]
    rw [← List.filter_append, outerColonsFrom_filter, ← outerColons]
  unfold Contributes
  simp only [hsame]

theorem contributes_congr {s t : Text} {n : Nat} (h : words s = words t) :
    Contributes s n ↔ Contributes t n := by
  rw [← contributes_flatten_words_iff, h, contributes_flatten_words_iff]

theorem contributes_gap {gap : Text} (hgap : IsGap gap) : Contributes gap 0 :=
  contributes_plain fun c hc =>
    ⟨ne_of_isBlank (hgap c hc) rfl, ne_of_isBlank (hgap c hc) rfl, ne_of_isBlank (hgap c hc) rfl⟩

theorem contributes_trim_iff {s : Text} {n : Nat} : Contributes (trim s) n ↔ Contributes s n :=
  contributes_congr (words_trim s)

end LogosHooks.Text
