import LogosHooks.Text.Line
import LogosHooks.Text.Paren
import LogosHooks.Text.Utf8

/-!
Texts that are cut at byte offsets. An offset is good for a cut only if it lies within the text and
not within a character. The offsets come out of searches, for a mark or for a closing parenthesis,
and each search gives an offset at which the text can be cut, into the same pieces that are found
character by character.
-/
namespace LogosHooks.Text

def byteLength (t : Text) : Nat := (Utf8.encode t).length

@[simp] theorem byteLength_nil : byteLength [] = 0 := rfl

@[simp] theorem byteLength_cons (c : Char) (t : Text) :
    byteLength (c :: t) = c.utf8Size + byteLength t := by
  simp [byteLength, Utf8.encode, String.length_utf8EncodeChar]

@[simp] theorem byteLength_append (s t : Text) :
    byteLength (s ++ t) = byteLength s + byteLength t := by
  simp [byteLength, Utf8.encode]

/-- Cuts the text at a byte offset. Nothing comes out if the offset lies behind the end of the text
or within a character. -/
def cutAt? : Nat → Text → Option (Text × Text)
  | 0, t => some ([], t)
  | _ + 1, [] => none
  | offset + 1, c :: rest =>
    if c.utf8Size ≤ offset + 1 then
      (cutAt? (offset + 1 - c.utf8Size) rest).map fun (front, behind) => (c :: front, behind)
    else none

theorem cutAt?_zero (t : Text) : cutAt? 0 t = some ([], t) := by
  cases t <;> rfl

/-- A cut behind the first character. -/
theorem cutAt?_cons (offset : Nat) (c : Char) (rest : Text) :
    cutAt? (c.utf8Size + offset) (c :: rest) =
      (cutAt? offset rest).map fun (front, behind) => (c :: front, behind) := by
  have hpos := c.utf8Size_pos
  obtain ⟨n, hn⟩ : ∃ n, c.utf8Size + offset = n + 1 := ⟨c.utf8Size + offset - 1, by omega⟩
  have hle : c.utf8Size ≤ n + 1 := by omega
  have hsub : n + 1 - c.utf8Size = offset := by omega
  rw [hn, cutAt?, if_pos hle, hsub]

theorem cutAt?_append (front behind : Text) :
    cutAt? (byteLength front) (front ++ behind) = some (front, behind) := by
  induction front with
  | nil => exact cutAt?_zero behind
  | cons c front ih =>
    rw [byteLength_cons, List.cons_append, cutAt?_cons, ih]
    rfl

/-- The text can be cut at the offsets where one of its characters ends, at 0, and nowhere else. -/
theorem cutAt?_eq_some_iff {offset : Nat} {t front behind : Text} :
    cutAt? offset t = some (front, behind) ↔ front ++ behind = t ∧ byteLength front = offset := by
  constructor
  · intro h
    induction t generalizing offset front with
    | nil =>
      cases offset with
      | zero =>
        cases h
        exact ⟨rfl, rfl⟩
      | succ offset => cases h
    | cons c rest ih =>
      cases offset with
      | zero =>
        cases h
        exact ⟨rfl, rfl⟩
      | succ offset =>
        rw [cutAt?] at h
        split at h
        · next hle =>
          obtain ⟨⟨inner, behind'⟩, hinner, heq⟩ := Option.map_eq_some_iff.mp h
          cases heq
          obtain ⟨happend, hlength⟩ := ih hinner
          refine ⟨by rw [List.cons_append, happend], ?_⟩
          rw [byteLength_cons, hlength]
          omega
        · cases h
  · rintro ⟨rfl, rfl⟩
    exact cutAt?_append front behind

theorem cutAt?_eq_none_iff {offset : Nat} {t : Text} :
    cutAt? offset t = none ↔ ∀ front behind, front ++ behind = t → byteLength front ≠ offset := by
  simp only [Option.eq_none_iff_forall_ne_some, ne_eq, Prod.forall, cutAt?_eq_some_iff, not_and]

example : cutAt? 1 "ß".toList = none ∧ cutAt? 3 "ß".toList = none := by decide

def frontAt? (offset : Nat) (t : Text) : Option Text := (cutAt? offset t).map Prod.fst

def behindAt? (offset : Nat) (t : Text) : Option Text := (cutAt? offset t).map Prod.snd

def between? (first last : Nat) (t : Text) : Option Text := do behindAt? first (← frontAt? last t)

section Pieces

variable {t : Text} {first last : Nat} (front inside behind : Text)

theorem frontAt?_eq (ht : t = front ++ behind) (hlast : byteLength front = last) :
    frontAt? last t = some front := by
  rw [frontAt?, ht, ← hlast, cutAt?_append]
  rfl

theorem behindAt?_eq (ht : t = front ++ behind) (hfirst : byteLength front = first) :
    behindAt? first t = some behind := by
  rw [behindAt?, ht, ← hfirst, cutAt?_append]
  rfl

theorem between?_eq (ht : t = front ++ inside ++ behind) (hfirst : byteLength front = first)
    (hlast : byteLength (front ++ inside) = last) : between? first last t = some inside := by
  rw [between?, frontAt?_eq (front ++ inside) behind ht hlast]
  exact behindAt?_eq front inside rfl hfirst

end Pieces

/-! ### Marks -/

def firstOffset? (wanted : Text → Bool) : Text → Option Nat
  | [] => none
  | c :: rest =>
    if wanted (c :: rest) then some 0 else (firstOffset? wanted rest).map (c.utf8Size + ·)

def cutWhere? (wanted : Text → Bool) (t : Text) : Option (Text × Text) :=
  match firstOffset? wanted t with
  | some offset => cutAt? offset t
  | none => some (t, [])

theorem cutWhere?_cons (wanted : Text → Bool) (c : Char) (rest : Text) :
    cutWhere? wanted (c :: rest) =
      if wanted (c :: rest) then some ([], c :: rest)
      else (cutWhere? wanted rest).map fun (front, behind) => (c :: front, behind) := by
  by_cases h : wanted (c :: rest) = true
  · rw [cutWhere?, firstOffset?, if_pos h, if_pos h]
    exact cutAt?_zero (c :: rest)
  · rw [cutWhere?, firstOffset?, if_neg h, if_neg h, cutWhere?]
    cases firstOffset? wanted rest with
    | none => rfl
    | some offset => exact cutAt?_cons offset c rest

def beforeAt? (mark t : Text) : Option Text := (cutWhere? mark.isPrefixOf t).map Prod.fst

theorem beforeAt?_eq (mark t : Text) : beforeAt? mark t = some (before mark t) := by
  induction t with
  | nil => rfl
  | cons c rest ih =>
    rw [beforeAt?, cutWhere?_cons, before]
    split
    · rfl
    · obtain ⟨pieces, hpieces, hfront⟩ := Option.map_eq_some_iff.mp ih
      rw [hpieces, ← hfront]
      rfl

def spanAt? (keep : Char → Bool) (t : Text) : Option (Text × Text) :=
  cutWhere? (fun rest => rest.head?.any (!keep ·)) t

theorem spanAt?_eq (keep : Char → Bool) (t : Text) :
    spanAt? keep t = some (t.takeWhile keep, t.dropWhile keep) := by
  induction t with
  | nil => rfl
  | cons c rest ih =>
    rw [spanAt?] at ih
    rw [spanAt?, cutWhere?_cons, ih]
    cases hkeep : keep c <;> simp [hkeep]

def cutOnceAt? (mark : Char) (t : Text) : Option (Option (Text × Text)) := do
  let (front, rest) ← spanAt? (· != mark) t
  if rest.isEmpty then return none
  return some (front, ← behindAt? mark.utf8Size rest)

theorem cutOnce?_eq_span (mark : Char) (t : Text) :
    cutOnce? mark t =
      match t.dropWhile (· != mark) with
      | [] => none
      | _ :: behind => some (t.takeWhile (· != mark), behind) := by
  induction t with
  | nil => rfl
  | cons c rest ih =>
    by_cases hc : c = mark
    · simp [cutOnce?, hc]
    · rw [cutOnce?, if_neg hc, ih, List.dropWhile_cons_of_pos (by simpa using hc),
        List.takeWhile_cons_of_pos (by simpa using hc)]
      cases rest.dropWhile (· != mark) <;> rfl

theorem cutOnceAt?_eq (mark : Char) (t : Text) : cutOnceAt? mark t = some (cutOnce? mark t) := by
  have hmark := List.head?_dropWhile_not (· != mark) t
  rw [cutOnceAt?, spanAt?_eq, cutOnce?_eq_span]
  cases hrest : t.dropWhile (· != mark) with
  | nil => simp
  | cons c behind =>
    rw [hrest] at hmark
    obtain rfl : c = mark := by simpa using hmark
    have hbehind : behindAt? c.utf8Size (c :: behind) = some behind :=
      behindAt?_eq [c] behind rfl (by simp)
    simp [hbehind]

/-! ### Parentheses -/

/-- Each character with the offset at which it begins, counted from `offset` on. -/
def charOffsets (offset : Nat) : Text → List (Nat × Char)
  | [] => []
  | c :: rest => (offset, c) :: charOffsets (offset + c.utf8Size) rest

/-- What the search for a closing parenthesis comes to. -/
inductive ClosingSearch where
  | found (offset : Nat)
  | unclosed
  /-- A parenthesis is closed although none is open. -/
  | belowZero
deriving DecidableEq, Repr

def ClosingSearch.run (depth : Nat) : List (Nat × Char) → ClosingSearch
  | [] => .unclosed
  | (offset, c) :: rest =>
    if c = '(' then run (depth + 1) rest
    else if c = ')' then
      match depth with
      | 0 => .belowZero
      | 1 => .found offset
      | outer + 2 => run (outer + 1) rest
    else run depth rest

def closingSearch? (opening : Nat) (t : Text) : Option ClosingSearch := do
  return .run 0 (charOffsets opening (← behindAt? opening t))

/-- With parentheses open in front, the search finds the end of what `cutClosing?` cuts off. -/
theorem ClosingSearch.run_eq (depth offset : Nat) (t : Text) :
    run (depth + 1) (charOffsets offset t) =
      (cutClosing? depth t).elim unclosed fun pieces => found (offset + byteLength pieces.1) := by
  induction t generalizing depth offset with
  | nil => rfl
  | cons c rest ih =>
    unfold cutClosing?
    by_cases hclose : c = ')'
    · subst hclose
      cases depth with
      | zero => simp [charOffsets, run]
      | succ outer =>
        have hrun : run (outer + 1 + 1) (charOffsets offset (')' :: rest)) =
            run (outer + 1) (charOffsets (offset + ')'.utf8Size) rest) := rfl
        rw [hrun, ih]
        cases hcut : cutClosing? outer rest <;> simp [hcut, Nat.add_assoc]
    · by_cases hopen : c = '('
      · subst hopen
        have hrun : run (depth + 1) (charOffsets offset ('(' :: rest)) =
            run (depth + 1 + 1) (charOffsets (offset + '('.utf8Size) rest) := rfl
        rw [hrun, ih]
        cases hcut : cutClosing? (depth + 1) rest <;> simp [hcut, Nat.add_assoc]
      · have hrun : run (depth + 1) (charOffsets offset (c :: rest)) =
            run (depth + 1) (charOffsets (offset + c.utf8Size) rest) := by
          simp [charOffsets, run, hopen, hclose]
        rw [hrun, ih]
        cases hcut : cutClosing? depth rest <;> simp [hcut, hopen, hclose, Nat.add_assoc]

/-- On an opening parenthesis, the search never comes to close more than is open. -/
theorem closingSearch?_eq {opening : Nat} {t rest : Text}
    (h : behindAt? opening t = some ('(' :: rest)) :
    closingSearch? opening t =
      some ((cutClosing? 0 rest).elim .unclosed fun pieces =>
        .found (opening + 1 + byteLength pieces.1)) := by
  have hrun := ClosingSearch.run_eq 0 (opening + 1) rest
  rw [closingSearch?, h, ← hrun]
  rfl

def parenthesizedAt? (t : Text) : Option (Option (Text × Text)) := do
  unless t.head? == some '(' do return none
  let .found closing ← closingSearch? 0 t | return none
  return some (← between? 1 closing t, ← behindAt? (closing + 1) t)

theorem parenthesizedAt?_eq (t : Text) : parenthesizedAt? t = some (parenthesized? t) := by
  cases t with
  | nil => rfl
  | cons c rest =>
    by_cases hc : c = '('
    · subst hc
      have hopening : behindAt? 0 ('(' :: rest) = some ('(' :: rest) := rfl
      rw [parenthesizedAt?, closingSearch?_eq hopening, parenthesized?]
      cases hcut : cutClosing? 0 rest with
      | none => rfl
      | some pieces =>
        obtain ⟨inside, behind⟩ := pieces
        have hrest := append_of_cutClosing? hcut
        have hopen : '('.utf8Size = 1 := rfl
        have hclose : ')'.utf8Size = 1 := rfl
        have hbetween : between? 1 (1 + byteLength inside) ('(' :: rest) = some inside :=
          between?_eq ['('] inside (')' :: behind) (by simp [← hrest]) rfl (by simp [hopen])
        have hbehind : behindAt? (1 + byteLength inside + 1) ('(' :: rest) = some behind :=
          behindAt?_eq ('(' :: inside ++ [')']) behind (by simp [← hrest])
            (by simp [hopen, hclose, Nat.add_assoc])
        simp [hbetween, hbehind]
    · rw [parenthesizedAt?]
      simp [parenthesized?, hc]

theorem charOffsets_append (offset : Nat) (s t : Text) :
    charOffsets offset (s ++ t) =
      charOffsets offset s ++ charOffsets (offset + byteLength s) t := by
  induction s generalizing offset with
  | nil => rfl
  | cons c s ih => simp [charOffsets, ih, Nat.add_assoc]

theorem map_snd_charOffsets (offset : Nat) (t : Text) :
    (charOffsets offset t).map Prod.snd = t := by
  induction t generalizing offset with
  | nil => rfl
  | cons c t ih => simp [charOffsets, ih]

end LogosHooks.Text
