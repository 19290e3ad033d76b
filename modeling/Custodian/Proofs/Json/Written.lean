import Custodian.Appliance.Payload
import Custodian.Proofs.Json.Scalar

/-!
# Texts of JSON values

Every value is written as some text, so the identifier that a value names is never empty.
-/

namespace Custodian

namespace Json

lemma Number.write_ne_nil (n : Number) : n.write ≠ [] := by
  obtain ⟨c, t, hn, -⟩ := n.exists_write_eq_cons
  simp [hn]

lemma write_ne_nil (layout : Layout) (depth : Nat) (v : Value) : write layout depth v ≠ [] := by
  cases v with
  | null => simp [write]
  | bool b => cases b <;> simp [write]
  | number n => simpa [write] using n.write_ne_nil
  | string t => simp [write, quote]
  | array items => cases items <;> simp [write]
  | object members => cases members <;> simp [write]

end Json

namespace Appliance

lemma idText?_ne_nil {v : Json.Value} {id : Text} (h : idText? v = some id) : id ≠ [] := by
  unfold idText? at h
  split at h
  · cases h
  · cases h
  · next t ht =>
    cases h
    exact fun h0 => ht (by rw [h0])
  · cases h
    exact Json.write_ne_nil _ _ _

end Appliance

end Custodian
