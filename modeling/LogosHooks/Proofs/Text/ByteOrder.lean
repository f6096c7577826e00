import LogosHooks.Proofs.Text.Decoding
import Mathlib.Order.Basic

/-!
Texts as bytes, compared. Different texts have different bytes, so the order of the bytes is an
order of the texts.
-/
namespace LogosHooks.Utf8

/-- No two texts have the same bytes. -/
theorem encode_injective : Function.Injective encode := by
  intro s t h
  have hread : decode? (encode s) = decode? (encode t) := congrArg decode? h
  simpa only [decode?_encode, Option.some.injEq] using hread

theorem bytesLE_iff (s t : Text) : bytesLE s t = true ↔ encode s ≤ encode t := by
  rw [bytesLE, Bool.not_eq_true', decide_eq_false_iff_not]
  exact Iff.rfl

theorem bytesLE_trans (s t u : Text) (hst : bytesLE s t = true) (htu : bytesLE t u = true) :
    bytesLE s u = true := by
  rw [bytesLE_iff] at hst htu ⊢
  exact List.le_trans hst htu

theorem bytesLE_antisymm {s t : Text} (hst : bytesLE s t = true) (hts : bytesLE t s = true) :
    s = t := by
  rw [bytesLE_iff] at hst hts
  exact encode_injective (List.le_antisymm hst hts)

theorem bytesLE_total (s t : Text) : (bytesLE s t || bytesLE t s) = true := by
  rw [Bool.or_eq_true, bytesLE_iff, bytesLE_iff]
  exact List.le_total _ _

end LogosHooks.Utf8
