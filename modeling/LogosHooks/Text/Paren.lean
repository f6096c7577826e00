import LogosHooks.Text.Blank

/-!
Parentheses in a text: which one closes the open ones, and whether some stay open.
-/
namespace LogosHooks.Text

/-- With `depth + 1` parentheses open in front of the text, the text up to the one that closes them
all and the text behind it; nothing if one of them is never closed. -/
def cutClosing? (depth : Nat) : Text → Option (Text × Text)
  | [] => none
  | c :: rest =>
    if c = ')' then
      match depth with
      | 0 => some ([], rest)
      | outer + 1 => (cutClosing? outer rest).map fun (inside, behind) => (c :: inside, behind)
    else
      (cutClosing? (if c = '(' then depth + 1 else depth) rest).map
        fun (inside, behind) => (c :: inside, behind)

def parenthesized? : Text → Option (Text × Text)
  | '(' :: rest => cutClosing? 0 rest
  | _ => none

def leavesOpen (t : Text) : Bool := t.count ')' < t.count '('

/-- The two pieces and the parenthesis between them are the whole text. -/
theorem append_of_cutClosing? {depth : Nat} {t inside behind : Text}
    (h : cutClosing? depth t = some (inside, behind)) : inside ++ ')' :: behind = t := by
  induction t generalizing depth inside with
  | nil => simp [cutClosing?] at h
  | cons c rest ih =>
    unfold cutClosing? at h
    split at h
    · next hc =>
      cases depth with
      | zero =>
        simp only [Option.some.injEq, Prod.mk.injEq] at h
        obtain ⟨rfl, rfl⟩ := h
        simp [hc]
      | succ outer =>
        obtain ⟨⟨a, b⟩, hab, hcons⟩ := Option.map_eq_some_iff.mp h
        simp only [Prod.mk.injEq] at hcons
        obtain ⟨rfl, rfl⟩ := hcons
        simp [ih hab]
    · obtain ⟨⟨a, b⟩, hab, hcons⟩ := Option.map_eq_some_iff.mp h
      simp only [Prod.mk.injEq] at hcons
      obtain ⟨rfl, rfl⟩ := hcons
      simp [ih hab]

/-- Behind an opening parenthesis, a text that closes as many as it opens and one more has the
closing one. -/
theorem cutClosing?_isSome {depth : Nat} {t : Text} (h : t.count '(' + depth < t.count ')') :
    (cutClosing? depth t).isSome := by
  induction t generalizing depth with
  | nil => simp at h
  | cons c rest ih =>
    unfold cutClosing?
    split
    · next hc =>
      subst hc
      cases depth with
      | zero => rfl
      | succ outer =>
        simp only [Option.isSome_map]
        apply ih
        rw [List.count_cons_of_ne (by decide), List.count_cons_self] at h
        omega
    · next hc =>
      simp only [Option.isSome_map]
      apply ih
      rw [List.count_cons_of_ne hc] at h
      split
      · next ho =>
        subst ho
        rw [List.count_cons_self] at h
        omega
      · next ho =>
        rw [List.count_cons_of_ne ho] at h
        exact h

end LogosHooks.Text
