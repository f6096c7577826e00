import LogosHooks.Proofs.Declaration.ReadMethod

/-!
The lines that spell a method. Blanks may stand between all pieces of a declaration, and the words
and the stars of a type may be spaced at will. The keyword of a later argument has a blank in front
of it, and all else may be written without any. A semicolon and a comment may follow.
-/
namespace LogosHooks

open Text

namespace Text

def IsIdentifier (t : Text) : Prop := t ≠ [] ∧ IsKeyword t

instance (t : Text) : Decidable (IsIdentifier t) :=
  decidable_of_iff (t ≠ [] ∧ t.all isIdentifierChar = true) (and_congr_right' List.all_eq_true)

/-- No blanks, and no marks that could end a selector or the code of a line. -/
def IsPlain (t : Text) : Prop := ∀ c ∈ t, isBlank c = false ∧ c ≠ ':' ∧ c ≠ ';' ∧ c ≠ '/'

instance (t : Text) : Decidable (IsPlain t) :=
  decidable_of_iff (t.all fun c => !isBlank c && c != ':' && c != ';' && c != '/') <| by
    simp [IsPlain, and_assoc]

/-- The words with gaps between them, none of them empty. -/
inductive SpellsWords : List Text → Text → Prop
  | nil : SpellsWords [] []
  | last (w : Text) : SpellsWords [w] w
  | cons {w gap v rest : Text} {ws : List Text} (hgap : IsGap gap) (hne : gap ≠ [])
      (hrest : SpellsWords (v :: ws) rest) : SpellsWords (w :: v :: ws) (w ++ gap ++ rest)

end Text

namespace DeclaredType

/-- Words joined by single spaces, with balanced parentheses and nothing that begins a comment. -/
structure WellFormed (ty : DeclaredType) : Prop where
  normal : ty.IsNormal
  balanced : Balanced ty.name
  uncommented : Uncommented ty.name

instance (ty : DeclaredType) : Decidable ty.WellFormed :=
  decidable_of_iff (ty.IsNormal ∧ Balanced ty.name ∧ Uncommented ty.name)
    ⟨fun ⟨h₁, h₂, h₃⟩ => ⟨h₁, h₂, h₃⟩, fun ⟨h₁, h₂, h₃⟩ => ⟨h₁, h₂, h₃⟩⟩

/-- So many stars, each with a gap in front of it. -/
inductive SpellsStars : Nat → Text → Prop
  | nil : SpellsStars 0 []
  | cons {gap rest : Text} {n : Nat} (hgap : IsGap gap) (hrest : SpellsStars n rest) :
      SpellsStars (n + 1) (gap ++ '*' :: rest)

def Spells (ty : DeclaredType) (t : Text) : Prop :=
  ∃ front name stars back, IsGap front ∧ SpellsWords (words ty.name) name ∧
    SpellsStars ty.stars.val stars ∧ IsGap back ∧ t = front ++ name ++ stars ++ back

end DeclaredType

namespace Argument

structure WellFormed (a : Argument) : Prop where
  type : a.type.WellFormed
  type_named : a.type.name ≠ []
  name : IsIdentifier a.name

instance (a : Argument) : Decidable a.WellFormed :=
  decidable_of_iff (a.type.WellFormed ∧ a.type.name ≠ [] ∧ IsIdentifier a.name)
    ⟨fun ⟨h₁, h₂, h₃⟩ => ⟨h₁, h₂, h₃⟩, fun ⟨h₁, h₂, h₃⟩ => ⟨h₁, h₂, h₃⟩⟩

def Spells (a : Argument) (t : Text) : Prop :=
  ∃ gap type gap', IsGap gap ∧ a.type.Spells type ∧ IsGap gap' ∧
    t = a.keyword ++ ':' :: (gap ++ '(' :: (type ++ ')' :: (gap' ++ a.name)))

/-- Arguments behind others, each with a gap in front of it that is not empty. -/
inductive SpellsLater : List Argument → Text → Prop
  | nil : SpellsLater [] []
  | cons {gap text rest : Text} {a : Argument} {as : List Argument} (hgap : IsGap gap)
      (hne : gap ≠ []) (ha : a.Spells text) (has : SpellsLater as rest) :
      SpellsLater (a :: as) (gap ++ text ++ rest)

/-- All arguments of a method. -/
inductive SpellsAll : List Argument → Text → Prop
  | nil : SpellsAll [] []
  | cons {gap text rest : Text} {a : Argument} {as : List Argument} (hgap : IsGap gap)
      (ha : a.Spells text) (has : SpellsLater as rest) : SpellsAll (a :: as) (gap ++ text ++ rest)

end Argument

/-- The comma and the dots of a variadic method. -/
inductive SpellsEllipsis : Bool → Text → Prop
  | none : SpellsEllipsis false []
  | dots {gap gap' : Text} (hgap : IsGap gap) (hgap' : IsGap gap') :
      SpellsEllipsis true (gap ++ ',' :: (gap' ++ "...".toList))

namespace Method

structure WellFormed (m : Method) : Prop where
  selector_ne_nil : m.selector ≠ []
  selector_plain : IsPlain m.selector
  returnType : m.returnType.WellFormed
  returnType_shown : m.returnType.name ≠ [] ∨ m.returnType.isPointer = true
  arguments : ∀ a ∈ m.arguments, a.WellFormed
  first_keyword : ∀ a ∈ m.arguments.head?, a.keyword = []
  later_keyword : ∀ a ∈ m.arguments.tail, IsIdentifier a.keyword
  variadic : m.isVariadic = true → m.arguments ≠ []

instance (m : Method) : Decidable m.WellFormed :=
  decidable_of_iff
    (m.selector ≠ [] ∧ IsPlain m.selector ∧ m.returnType.WellFormed ∧
      (m.returnType.name ≠ [] ∨ m.returnType.isPointer = true) ∧
      (∀ a ∈ m.arguments, a.WellFormed) ∧ (∀ a ∈ m.arguments.head?, a.keyword = []) ∧
      (∀ a ∈ m.arguments.tail, IsIdentifier a.keyword) ∧
      (m.isVariadic = true → m.arguments ≠ []))
    ⟨fun ⟨h₁, h₂, h₃, h₄, h₅, h₆, h₇, h₈⟩ => ⟨h₁, h₂, h₃, h₄, h₅, h₆, h₇, h₈⟩,
      fun ⟨h₁, h₂, h₃, h₄, h₅, h₆, h₇, h₈⟩ => ⟨h₁, h₂, h₃, h₄, h₅, h₆, h₇, h₈⟩⟩

/-- The sign, the return type in parentheses, the selector, the arguments and the dots. -/
def SpellsCode (m : Method) (code : Text) : Prop :=
  ∃ gap type gap' arguments ellipsis, IsGap gap ∧ m.returnType.Spells type ∧ IsGap gap' ∧
    Argument.SpellsAll m.arguments arguments ∧ SpellsEllipsis m.isVariadic ellipsis ∧
    code = m.sign :: (gap ++ '(' :: (type ++ ')' :: (gap' ++ m.selector ++ arguments ++ ellipsis)))

def Spells (m : Method) (line : Text) : Prop :=
  ∃ code tail, m.SpellsCode code ∧ IsLineEnd tail ∧ line = code ++ tail

end Method

/-! ### Spelled types -/

theorem Text.SpellsWords.words_eq {ws : List Text} {t : Text} (h : SpellsWords ws t)
    (hws : ∀ w ∈ ws, IsWord w) : words t = ws := by
  induction h with
  | nil => exact words_nil
  | last w => exact words_of_isWord (hws w (by simp))
  | @cons w gap v rest ws hgap hne hrest ih =>
    rw [words_append_gap_append hgap hne, words_of_isWord (hws w List.mem_cons_self),
      ih fun u hu => hws u (List.mem_cons_of_mem w hu)]
    rfl

theorem Text.SpellsWords.uncommented {ws : List Text} {t : Text} (h : SpellsWords ws t)
    (hws : ∀ w ∈ ws, Uncommented w) : Uncommented t := by
  induction h with
  | nil => exact uncommented_of_not_mem (by simp)
  | last w => exact hws w (by simp)
  | @cons w gap v rest ws hgap hne hrest ih =>
    have hw := hws w List.mem_cons_self
    have hrest := ih fun u hu => hws u (List.mem_cons_of_mem w hu)
    have hslash : '/' ∉ gap := hgap.not_mem rfl
    cases gap with
    | nil => exact absurd rfl hne
    | cons c gap =>
      rw [List.mem_cons, not_or] at hslash
      rw [List.append_assoc, List.cons_append, uncommented_append_cons_iff (Ne.symm hslash.1),
        uncommented_append_iff_right hslash.2]
      exact ⟨hw, hrest⟩

namespace DeclaredType

theorem SpellsStars.isStarTail {n : Nat} {t : Text} (h : SpellsStars n t) :
    IsStarTail t ∧ t.count '*' = n := by
  induction h with
  | nil => exact ⟨by simp [IsStarTail], rfl⟩
  | @cons gap rest n hgap hrest ih =>
    constructor
    · intro c hc
      rcases List.mem_append.mp hc with h | h
      · exact Or.inr (hgap c h)
      · rcases List.mem_cons.mp h with rfl | h
        · exact Or.inl rfl
        · exact ih.1 c h
    · rw [List.count_append, List.count_cons_self, ih.2, List.count_eq_zero.mpr (hgap.not_mem rfl)]
      omega

variable {ty : DeclaredType} {t : Text}

/-- A spelling is a text with the words of the name, and a tail with all the stars. -/
theorem Spells.exists_body (h : ty.Spells t) :
    ∃ body tail, t = body ++ tail ∧ words body = words ty.name ∧ IsStarTail tail ∧
      tail.count '*' = ty.stars.val := by
  obtain ⟨front, name, stars, back, hfront, hname, hstars, hback, rfl⟩ := h
  obtain ⟨htail, hcount⟩ := hstars.isStarTail
  refine ⟨front ++ name, stars ++ back, by simp only [List.append_assoc], ?_, ?_, ?_⟩
  · rw [words_gap_append hfront, hname.words_eq fun w => isWord_of_mem_words]
  · intro c hc
    rcases List.mem_append.mp hc with h | h
    · exact htail c h
    · exact Or.inr (hback c h)
  · rw [List.count_append, hcount, List.count_eq_zero.mpr (hback.not_mem rfl), Nat.add_zero]

/-- A type in normal form is read from all its spellings. -/
theorem ofText_of_spells (hty : ty.IsNormal) (h : ty.Spells t) : ofText t = ty := by
  obtain ⟨body, tail, rfl, hbody, htail, hcount⟩ := h.exists_body
  have hlast : (unwords (words body)).getLast? ≠ some '*' := by
    rw [hbody, hty.1]
    exact hty.2
  rw [ofText_append htail hlast, hbody, hty.1, hcount, addStars_zero_val]

theorem Spells.balanced (h : ty.Spells t) (hty : Balanced ty.name) : Balanced t := by
  obtain ⟨body, tail, rfl, hbody, htail, -⟩ := h.exists_body
  exact (balanced_append_starTail_iff htail).mpr ((balanced_congr hbody).mpr hty)

theorem Spells.uncommented (h : ty.Spells t) (hty : Uncommented ty.name) : Uncommented t := by
  obtain ⟨front, name, stars, back, hfront, hname, hstars, hback, rfl⟩ := h
  have hwords : Uncommented name :=
    hname.uncommented fun w hw => hty.mono (infix_of_mem_words hw)
  have hslash : '/' ∉ stars := hstars.isStarTail.1.not_mem (by decide) rfl
  rw [uncommented_append_iff_left (hback.not_mem rfl), uncommented_append_iff_left hslash,
    uncommented_append_iff_right (hfront.not_mem rfl)]
  exact hwords

theorem Spells.trim_ne_nil (h : ty.Spells t) (hty : ty.name ≠ [] ∨ ty.isPointer = true)
    (hnormal : ty.IsNormal) : trim t ≠ [] := by
  rw [trim_ne_nil_iff, ofText_of_spells hnormal h]
  exact hty

end DeclaredType
end LogosHooks
