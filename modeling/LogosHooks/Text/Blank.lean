/-!
Text is a list of characters. Blanks are the characters with the Unicode property `White_Space`;
they separate words, and they are cut off the ends of a text by `trim`.
-/
namespace LogosHooks

abbrev Text := List Char

namespace Text

/-- All characters with the property `White_Space`. -/
def blanks : List Char :=
  ['\t', '\n', '\x0b', '\x0c', '\r', ' ', '\u0085', '\u00a0', '\u1680', '\u2000', '\u2001',
    '\u2002', '\u2003', '\u2004', '\u2005', '\u2006', '\u2007', '\u2008', '\u2009', '\u200a',
    '\u2028', '\u2029', '\u202f', '\u205f', '\u3000']

def isBlank (c : Char) : Bool := blanks.contains c

def trimLeft (t : Text) : Text := t.dropWhile isBlank

def trimRight (t : Text) : Text := (t.reverse.dropWhile isBlank).reverse

def trim (t : Text) : Text := trimRight (trimLeft t)

def words (t : Text) : List Text := (t.splitOnP isBlank).filter (!·.isEmpty)

def unwords (ws : List Text) : Text := [' '].intercalate ws

def hasBlank (t : Text) : Bool := t.any isBlank

theorem words_nil : words [] = [] := by simp [words]

theorem words_of_forall_not_blank {t : Text} (hne : t ≠ []) (h : ∀ c ∈ t, isBlank c = false) :
    words t = [t] := by
  simp [words, List.splitOnP_eq_singleton h, hne]

theorem words_append_blank (s t : Text) {c : Char} (hc : isBlank c = true) :
    words (s ++ c :: t) = words s ++ words t := by
  simp [words, List.splitOnP_append_cons s t hc]

end Text
end LogosHooks
