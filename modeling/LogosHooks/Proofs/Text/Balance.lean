import LogosHooks.Text.Paren
import LogosHooks.Proofs.Text.Spacing

/-!
Balanced texts are those that `cutClosing?` can cut out of a pair of parentheses. Being balanced
does not depend on the blanks of a text, so texts with the same words are balanced alike.
-/
namespace LogosHooks.Text

/-- No prefix closes more parentheses than it opens, `depth` of them being open in front, and the
whole text closes exactly those. -/
def Closes (depth : Nat) (t : Text) : Prop :=
  (∀ p, p <+: t → p.count ')' ≤ p.count '(' + depth) ∧ t.count ')' = t.count '(' + depth

def Balanced (t : Text) : Prop := Closes 0 t

theorem closes_nil_iff {depth : Nat} : Closes depth [] ↔ depth = 0 := by
  constructor
  · intro h
    have := h.2
    simp only [List.count_nil] at this
    omega
  · rintro rfl
    refine ⟨fun p hp => ?_, rfl⟩
    rw [List.prefix_nil.mp hp]
    simp

theorem closes_cons_iff {depth : Nat} {c : Char} {t : Text} :
    Closes depth (c :: t) ↔
      (∀ p, p <+: t → (c :: p).count ')' ≤ (c :: p).count '(' + depth) ∧
        (c :: t).count ')' = (c :: t).count '(' + depth := by
  constructor
  · intro h
    exact ⟨fun p hp => h.1 (c :: p) ((List.prefix_cons_inj c).mpr hp), h.2⟩
  · intro h
    refine ⟨fun p hp => ?_, h.2⟩
    rcases List.prefix_cons_iff.mp hp with rfl | ⟨q, rfl, hq⟩
    · simp
    · exact h.1 q hq

theorem closes_cons_close_iff {depth : Nat} {t : Text} :
    Closes depth (')' :: t) ↔ ∃ outer, depth = outer + 1 ∧ Closes outer t := by
  rw [closes_cons_iff]
  have hopen : ∀ p : Text, (')' :: p).count '(' = p.count '(' := fun p =>
    List.count_cons_of_ne (by decide)
  simp only [List.count_cons_self, hopen]
  constructor
  · rintro ⟨hpre, hall⟩
    have hpos := hpre [] List.nil_prefix
    simp only [List.count_nil] at hpos
    refine ⟨depth - 1, by omega, fun p hp => ?_, by omega⟩
    have := hpre p hp
    omega
  · rintro ⟨outer, rfl, hpre, hall⟩
    refine ⟨fun p hp => ?_, by omega⟩
    have := hpre p hp
    omega

theorem closes_cons_open_iff {depth : Nat} {t : Text} :
    Closes depth ('(' :: t) ↔ Closes (depth + 1) t := by
  rw [closes_cons_iff]
  have hclose : ∀ p : Text, ('(' :: p).count ')' = p.count ')' := fun p =>
    List.count_cons_of_ne (by decide)
  simp only [List.count_cons_self, hclose, Closes]
  constructor
  · rintro ⟨hpre, hall⟩
    refine ⟨fun p hp => ?_, by omega⟩
    have := hpre p hp
    omega
  · rintro ⟨hpre, hall⟩
    refine ⟨fun p hp => ?_, by omega⟩
    have := hpre p hp
    omega

theorem closes_cons_of_ne_iff {depth : Nat} {c : Char} {t : Text} (hopen : c ≠ '(')
    (hclose : c ≠ ')') : Closes depth (c :: t) ↔ Closes depth t := by
  rw [closes_cons_iff]
  simp only [List.count_cons_of_ne hopen, List.count_cons_of_ne hclose, Closes]

theorem closes_of_cutClosing? {depth : Nat} {t inside behind : Text}
    (h : cutClosing? depth t = some (inside, behind)) : Closes depth inside := by
  induction t generalizing depth inside with
  | nil => simp [cutClosing?] at h
  | cons c rest ih =>
    unfold cutClosing? at h
    split at h
    · next hc =>
      subst hc
      cases depth with
      | zero =>
        simp only [Option.some.injEq, Prod.mk.injEq] at h
        obtain ⟨rfl, rfl⟩ := h
        exact closes_nil_iff.mpr rfl
      | succ outer =>
        obtain ⟨⟨a, b⟩, hab, hcons⟩ := Option.map_eq_some_iff.mp h
        simp only [Prod.mk.injEq] at hcons
        obtain ⟨rfl, rfl⟩ := hcons
        exact closes_cons_close_iff.mpr ⟨outer, rfl, ih hab⟩
    · next hc =>
      obtain ⟨⟨a, b⟩, hab, hcons⟩ := Option.map_eq_some_iff.mp h
      simp only [Prod.mk.injEq] at hcons
      obtain ⟨rfl, rfl⟩ := hcons
      split at hab
      · next ho =>
        subst ho
        exact closes_cons_open_iff.mpr (ih hab)
      · next ho => exact (closes_cons_of_ne_iff ho hc).mpr (ih hab)

theorem cutClosing?_append {depth : Nat} {inside : Text} (h : Closes depth inside)
    (behind : Text) : cutClosing? depth (inside ++ ')' :: behind) = some (inside, behind) := by
  induction inside generalizing depth with
  | nil =>
    rw [closes_nil_iff.mp h]
    rfl
  | cons c inside ih =>
    rw [List.cons_append]
    unfold cutClosing?
    by_cases hc : c = ')'
    · subst hc
      obtain ⟨outer, rfl, houter⟩ := closes_cons_close_iff.mp h
      simp [ih houter]
    · by_cases ho : c = '('
      · subst ho
        simp [ih (closes_cons_open_iff.mp h)]
      · simp [hc, ho, ih ((closes_cons_of_ne_iff ho hc).mp h)]

/-- The closing parenthesis is the first one that a text can be cut at so that the front closes what
was open. -/
theorem cutClosing?_eq_some_iff {depth : Nat} {t inside behind : Text} :
    cutClosing? depth t = some (inside, behind) ↔
      t = inside ++ ')' :: behind ∧ Closes depth inside := by
  constructor
  · intro h
    exact ⟨(append_of_cutClosing? h).symm, closes_of_cutClosing? h⟩
  · rintro ⟨rfl, h⟩
    exact cutClosing?_append h behind

theorem parenthesized?_eq_some_iff {t inside behind : Text} :
    parenthesized? t = some (inside, behind) ↔
      t = '(' :: inside ++ ')' :: behind ∧ Balanced inside := by
  unfold parenthesized?
  split
  · next rest =>
    rw [cutClosing?_eq_some_iff]
    simp [Balanced]
  · next hne =>
    constructor
    · intro h
      simp at h
    · rintro ⟨rfl, -⟩
      exact absurd rfl (hne _)

instance (t : Text) : Decidable (Balanced t) :=
  decidable_of_iff (cutClosing? 0 (t ++ [')']) = some (t, [])) <| by
    rw [cutClosing?_eq_some_iff]
    exact and_iff_right rfl

/-! ### Parentheses that stay open -/

def StaysOpen (t : Text) : Prop := ∀ p, p <+: t → p.count ')' ≤ p.count '('

theorem Balanced.staysOpen {t : Text} (h : Balanced t) : StaysOpen t := h.1

/-- Nothing is cut out of the parentheses exactly if the outer one stays open. -/
theorem cutClosing?_eq_none_iff {t : Text} : cutClosing? 0 t = none ↔ StaysOpen t := by
  constructor
  · intro hnone p hp
    by_contra hlt
    obtain ⟨rest, rfl⟩ := hp
    have hclosed : (cutClosing? 0 p).isSome := cutClosing?_isSome (by omega)
    obtain ⟨⟨inside, behind⟩, hcut⟩ := Option.isSome_iff_exists.mp hclosed
    obtain ⟨rfl, hinside⟩ := cutClosing?_eq_some_iff.mp hcut
    rw [List.append_assoc, List.cons_append, cutClosing?_append hinside] at hnone
    cases hnone
  · intro hopen
    rw [Option.eq_none_iff_forall_ne_some]
    rintro ⟨inside, behind⟩ hcut
    obtain ⟨rfl, hinside⟩ := cutClosing?_eq_some_iff.mp hcut
    have hle := hopen (inside ++ [')']) ⟨behind, by simp⟩
    have heq : inside.count ')' = inside.count '(' := hinside.2
    rw [List.count_append, List.count_append, List.count_singleton_self,
      List.count_eq_zero.mpr (show '(' ∉ [')'] by decide), heq] at hle
    omega

theorem staysOpen_filter {t : Text} (h : StaysOpen t) : StaysOpen (t.filter (!isBlank ·)) := by
  intro p hp
  obtain ⟨q, hq, rfl⟩ := List.prefix_filter_iff.mp hp
  rw [List.count_filter (by decide), List.count_filter (by decide)]
  exact h q hq

/-! ### Balance and blanks -/

theorem balanced_filter_iff (t : Text) : Balanced (t.filter (!isBlank ·)) ↔ Balanced t := by
  have hcount : ∀ p : Text, (p.filter (!isBlank ·)).count '(' = p.count '(' ∧
      (p.filter (!isBlank ·)).count ')' = p.count ')' := fun p =>
    ⟨List.count_filter (by decide), List.count_filter (by decide)⟩
  constructor
  · rintro ⟨hpre, hall⟩
    refine ⟨fun p hp => ?_, ?_⟩
    · have h := hpre _ (hp.filter (!isBlank ·))
      rwa [(hcount p).1, (hcount p).2] at h
    · rwa [(hcount t).1, (hcount t).2] at hall
  · rintro ⟨hpre, hall⟩
    refine ⟨fun p hp => ?_, ?_⟩
    · obtain ⟨q, hq, rfl⟩ := List.prefix_filter_iff.mp hp
      rw [(hcount q).1, (hcount q).2]
      exact hpre q hq
    · rwa [(hcount t).1, (hcount t).2]

theorem balanced_congr {s t : Text} (h : words s = words t) : Balanced s ↔ Balanced t := by
  rw [← balanced_filter_iff s, ← balanced_filter_iff t, ← flatten_words, ← flatten_words, h]

theorem balanced_append_iff {s t : Text} (hopen : '(' ∉ t) (hclose : ')' ∉ t) :
    Balanced (s ++ t) ↔ Balanced s := by
  have hcount : ∀ p : Text, p <+: t → p.count '(' = 0 ∧ p.count ')' = 0 := fun p hp =>
    ⟨List.count_eq_zero.mpr fun hm => hopen (hp.subset hm),
      List.count_eq_zero.mpr fun hm => hclose (hp.subset hm)⟩
  obtain ⟨hto, htc⟩ := hcount t (List.prefix_refl t)
  constructor
  · rintro ⟨hpre, hall⟩
    refine ⟨fun p hp => hpre p (hp.trans (List.prefix_append s t)), ?_⟩
    simpa [hto, htc] using hall
  · rintro ⟨hpre, hall⟩
    refine ⟨fun p hp => ?_, by simpa [hto, htc] using hall⟩
    obtain ⟨r, hr⟩ := hp
    rcases List.append_eq_append_iff.mp hr with ⟨q, rfl, -⟩ | ⟨q, rfl, rfl⟩
    · exact hpre p (List.prefix_append p q)
    · obtain ⟨hqo, hqc⟩ := hcount q (List.prefix_append q r)
      simp only [List.count_append, hqo, hqc]
      omega

theorem Balanced.count_eq {t : Text} (h : Balanced t) : t.count ')' = t.count '(' := h.2

end LogosHooks.Text
