import Custodian.Url.Quote
import Custodian.Proofs.Text.Utf8

/-!
# Quoted paths

Quoting a path leaves its slashes where they are. It leaves the whole path as it is exactly if it leaves every
character as it is (`quote_eq_self_iff`).
-/

namespace Custodian.Url

/-- Nothing but a slash is quoted as something that begins with one. -/
lemma head?_quoteChar {c : Char} (hc : c ≠ '/') : ∃ first rest, quoteChar c = first :: rest ∧ first ≠ '/' := by
  unfold quoteChar
  rw [if_neg hc]
  split_ifs
  · exact ⟨'+', [], rfl, by decide⟩
  · exact ⟨c, [], rfl, hc⟩
  · obtain ⟨b, bytes, hbytes⟩ := List.exists_cons_of_ne_nil (Utf8.encodeChar_ne_nil c)
    rw [hbytes]
    exact ⟨'%', _, rfl, by decide⟩

/-- It is all the same whether leading slashes are dropped before quoting or after it. -/
lemma trimStart_quote {p : Char → Bool} (slash : ∀ c, p c = true ↔ c = '/') (path : Text) :
    Text.trimStart p (quote path) = quote (Text.trimStart p path) := by
  unfold Text.trimStart
  induction path with
  | nil => rfl
  | cons c path ih =>
    by_cases hc : c = '/'
    · have hquote : quote (c :: path) = '/' :: quote path := by
        rw [quote, List.flatMap_cons, hc]
        rfl
      rw [hquote, List.dropWhile_cons_of_pos ((slash _).2 rfl), ih,
        List.dropWhile_cons_of_pos ((slash c).2 hc)]
    · obtain ⟨first, rest, hquote, hfirst⟩ := head?_quoteChar hc
      rw [List.dropWhile_cons_of_neg (mt (slash c).1 hc), quote, List.flatMap_cons, hquote,
        List.cons_append, List.dropWhile_cons_of_neg (mt (slash first).1 hfirst)]

/-! ### Paths that stay as they are -/

/-- Whether a character is quoted as itself. -/
def isKept (c : Char) : Bool :=
  c = '/' || isUnreserved c

lemma isKept_space : isKept ' ' = false := by
  decide

lemma three_le_length_escape (c : Char) : 3 ≤ ((Utf8.encodeChar c).flatMap escapeByte).length := by
  obtain ⟨b, bytes, hbytes⟩ := List.exists_cons_of_ne_nil (Utf8.encodeChar_ne_nil c)
  rw [hbytes, List.flatMap_cons, List.length_append]
  exact Nat.le_add_right 3 _

lemma quoteChar_eq_self_iff {c : Char} : quoteChar c = [c] ↔ isKept c = true := by
  unfold quoteChar
  split_ifs with slash space unreserved
  · simp [slash, isKept]
  · simp [space, isKept_space]
  · simp [unreserved, isKept]
  · have hlong := three_le_length_escape c
    have hkept : isKept c = false := by simp [isKept, slash, unreserved]
    rw [hkept]
    refine iff_of_false ?_ Bool.false_ne_true
    intro h
    rw [h, List.length_singleton] at hlong
    exact absurd hlong (by decide)

lemma one_le_length_quoteChar (c : Char) : 1 ≤ (quoteChar c).length := by
  unfold quoteChar
  have hlong := three_le_length_escape c
  split_ifs <;> first | exact Nat.le_refl 1 | omega

lemma length_le_length_quote (t : Text) : t.length ≤ (quote t).length := by
  induction t with
  | nil => exact Nat.le_refl 0
  | cons c t ih =>
    have hc := one_le_length_quoteChar c
    have hquote : quote (c :: t) = quoteChar c ++ quote t := List.flatMap_cons
    rw [hquote, List.length_append, List.length_cons]
    omega

/-- A path stays as it is exactly if all of its characters do: nothing makes up for one that is quoted
otherwise, since no quoted form is shorter. -/
theorem quote_eq_self_iff {t : Text} : quote t = t ↔ ∀ c ∈ t, isKept c = true := by
  induction t with
  | nil => simp [quote]
  | cons c t ih =>
    have hquote : quote (c :: t) = quoteChar c ++ quote t := List.flatMap_cons
    rw [hquote, List.forall_mem_cons, ← ih, ← quoteChar_eq_self_iff]
    refine ⟨?_, ?_⟩
    · intro h
      have hlength := congrArg List.length h
      have hc := one_le_length_quoteChar c
      have hrest := length_le_length_quote t
      rw [List.length_append, List.length_cons] at hlength
      have hone : (quoteChar c).length = 1 := by omega
      exact List.append_inj (show quoteChar c ++ quote t = [c] ++ t from h) hone
    · rintro ⟨hc, ht⟩
      rw [hc, ht]
      rfl

end Custodian.Url
