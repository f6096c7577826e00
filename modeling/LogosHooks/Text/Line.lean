import LogosHooks.Text.Blank

/-!
The lines of a text, and the marks that end a piece of one. A line ends at a line feed, and a
carriage return right before the line feed (or at the end of the text) belongs to the line break.
-/
namespace LogosHooks.Text

def cutSuffix? (suffix t : Text) : Option Text := List.isSuffixOf? suffix t

def dropReturn (t : Text) : Text := (cutSuffix? ['\r'] t).getD t

def lines (t : Text) : List Text := (t.splitOn '\n').map dropReturn

/-- The text before the first place where `mark` stands: all of it if `mark` stands nowhere. -/
def before (mark : Text) : Text → Text
  | [] => []
  | c :: rest => if mark.isPrefixOf (c :: rest) then [] else c :: before mark rest

def cutOnce? (mark : Char) : Text → Option (Text × Text)
  | [] => none
  | c :: rest =>
    if c = mark then some ([], rest)
    else (cutOnce? mark rest).map fun (front, behind) => (c :: front, behind)

def ofLines (ls : List Text) : Text := ls.flatMap (· ++ ['\n'])

theorem before_isPrefix (mark t : Text) : before mark t <+: t := by
  induction t with
  | nil => simp [before]
  | cons c rest ih =>
    unfold before
    split
    · exact List.nil_prefix
    · exact (List.prefix_cons_inj c).mpr ih

theorem append_of_cutOnce? {mark : Char} {t front behind : Text}
    (h : cutOnce? mark t = some (front, behind)) : front ++ mark :: behind = t := by
  induction t generalizing front with
  | nil => simp [cutOnce?] at h
  | cons c rest ih =>
    unfold cutOnce? at h
    split at h
    · next hc =>
      simp only [Option.some.injEq, Prod.mk.injEq] at h
      obtain ⟨rfl, rfl⟩ := h
      simp [hc]
    · obtain ⟨⟨a, b⟩, hab, hcons⟩ := Option.map_eq_some_iff.mp h
      simp only [Prod.mk.injEq] at hcons
      obtain ⟨rfl, rfl⟩ := hcons
      simp [ih hab]

theorem cutOnce?_eq_none_iff {mark : Char} {t : Text} : cutOnce? mark t = none ↔ mark ∉ t := by
  induction t with
  | nil => simp [cutOnce?]
  | cons c rest ih =>
    unfold cutOnce?
    by_cases hc : c = mark
    · simp [hc]
    · simp [hc, ih, Ne.symm hc]

end LogosHooks.Text
