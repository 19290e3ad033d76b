import Custodian.Json.Raw
import Custodian.Proofs.Json.Scalar
import Custodian.Proofs.Table

/-!
# Plain values

A plain value is nested so deep at most, has the names of its objects in order, and holds no numbers but
integers of 64 bits and doubles that are read back. Whatever is read is plain, as long as its doubles are
read back (`isPlain_of_value?`); so it is if its numbers are integers.
-/

namespace Custodian

/-- Whether a double is read back from its own text. A double is written with as few digits as name it, but
read by steps that are rounded one by one, so it need not be. -/
def Binary64.ReadsBack (x : Binary64) : Prop :=
  Json.Value.read? (Json.Value.number (.double x)).compact = some (.number (.double x))

namespace Json

namespace Value

mutual

/-- Whether all numbers in a value are integers. -/
def hasIntegers : Value → Bool
  | .number (.double _) => false
  | .array items => haveIntegers items
  | .object members => membersHaveIntegers members
  | _ => true

/-- Whether all numbers in some values are integers. -/
def haveIntegers : List Value → Bool
  | [] => true
  | v :: vs => hasIntegers v && haveIntegers vs

/-- Whether all numbers in some members are integers. -/
def membersHaveIntegers : List (Text × Value) → Bool
  | [] => true
  | (_, v) :: members => hasIntegers v && membersHaveIntegers members

end

mutual

/-- The doubles in a value. -/
def doubles : Value → List Binary64
  | .number (.double x) => [x]
  | .array items => itemDoubles items
  | .object members => memberDoubles members
  | _ => []

/-- The doubles in some values. -/
def itemDoubles : List Value → List Binary64
  | [] => []
  | v :: vs => doubles v ++ itemDoubles vs

/-- The doubles in some members. -/
def memberDoubles : List (Text × Value) → List Binary64
  | [] => []
  | (_, v) :: members => doubles v ++ memberDoubles members

end

mutual

/-- A value that is read back as it is written. -/
def IsPlain (depth : Nat) : Value → Prop
  | .number (.integer n) => IsInteger64 n
  | .number (.double x) => x.ReadsBack
  | .array items => 0 < depth ∧ ArePlain (depth - 1) items
  | .object members => 0 < depth ∧ Table.IsAscending members ∧ MembersArePlain (depth - 1) members
  | _ => True

/-- Values that are read back as they are written. -/
def ArePlain (depth : Nat) : List Value → Prop
  | [] => True
  | v :: vs => IsPlain depth v ∧ ArePlain depth vs

/-- Members whose values are read back as they are written. -/
def MembersArePlain (depth : Nat) : List (Text × Value) → Prop
  | [] => True
  | (_, v) :: members => IsPlain depth v ∧ MembersArePlain depth members

end

mutual

lemma doubles_eq_nil : ∀ {v : Value}, v.hasIntegers = true → v.doubles = []
  | .null, _ => rfl
  | .bool _, _ => rfl
  | .string _, _ => rfl
  | .number (.integer _), _ => rfl
  | .array _, h => itemDoubles_eq_nil h
  | .object _, h => memberDoubles_eq_nil h

lemma itemDoubles_eq_nil : ∀ {vs : List Value}, haveIntegers vs = true → itemDoubles vs = []
  | [], _ => rfl
  | v :: vs, h => by
    obtain ⟨hv, hvs⟩ := Bool.and_eq_true_iff.1 h
    rw [itemDoubles, doubles_eq_nil hv, itemDoubles_eq_nil hvs, List.append_nil]

lemma memberDoubles_eq_nil :
    ∀ {members : Members}, membersHaveIntegers members = true → memberDoubles members = []
  | [], _ => rfl
  | (_, v) :: members, h => by
    obtain ⟨hv, hmembers⟩ := Bool.and_eq_true_iff.1 h
    rw [memberDoubles, doubles_eq_nil hv, memberDoubles_eq_nil hmembers, List.append_nil]

end

lemma membersHaveIntegers_iff {members : Members} :
    membersHaveIntegers members = true ↔ ∀ m ∈ members, m.2.hasIntegers = true := by
  induction members with
  | nil => simp [membersHaveIntegers]
  | cons m members ih => simp [membersHaveIntegers, ih]

lemma mem_itemDoubles {vs : List Value} {x : Binary64} :
    x ∈ itemDoubles vs ↔ ∃ v ∈ vs, x ∈ v.doubles := by
  induction vs with
  | nil => simp [itemDoubles]
  | cons v vs ih => simp [itemDoubles, ih]

lemma mem_memberDoubles {members : Members} {x : Binary64} :
    x ∈ memberDoubles members ↔ ∃ m ∈ members, x ∈ m.2.doubles := by
  induction members with
  | nil => simp [memberDoubles]
  | cons m members ih => simp [memberDoubles, ih]

lemma arePlain_iff {depth : Nat} {vs : List Value} :
    ArePlain depth vs ↔ ∀ v ∈ vs, v.IsPlain depth := by
  induction vs with
  | nil => simp [ArePlain]
  | cons v vs ih => simp [ArePlain, ih]

lemma membersArePlain_iff {depth : Nat} {members : Members} :
    MembersArePlain depth members ↔ ∀ m ∈ members, m.2.IsPlain depth := by
  induction members with
  | nil => simp [MembersArePlain]
  | cons m members ih => simp [MembersArePlain, ih]

/-- An object stays plain with a member that is. -/
lemma IsPlain.insert {depth : Nat} {members : Members} {v : Value}
    (h : (Value.object members).IsPlain depth) (name : Text) (hv : v.IsPlain (depth - 1)) :
    (Value.object (Table.insert name v members)).IsPlain depth := by
  obtain ⟨hdepth, hascending, hmembers⟩ := h
  refine ⟨hdepth, hascending.insert name v, membersArePlain_iff.2 ?_⟩
  intro m hm
  rcases Table.mem_insert hm with rfl | hm
  · exact hv
  · exact membersArePlain_iff.1 hmembers m hm

/-- An object stays plain without one of its members. -/
lemma IsPlain.erase {depth : Nat} {members : Members} (h : (Value.object members).IsPlain depth)
    (name : Text) : (Value.object (Table.erase name members)).IsPlain depth := by
  obtain ⟨hdepth, hascending, hmembers⟩ := h
  refine ⟨hdepth, hascending.filter _, membersArePlain_iff.2 ?_⟩
  intro m hm
  exact membersArePlain_iff.1 hmembers m (List.mem_filter.1 hm).1

end Value

/-! ### What is read -/

lemma Number.isInteger64_of_ofNumeral? {numeral : Numeral} {n : Int}
    (h : ofNumeral? numeral = some (.integer n)) : IsInteger64 n := by
  have hinteger : numeral.toInteger? = some n := by
    unfold ofNumeral? at h
    split at h
    · next m hm =>
      cases h
      exact hm
    · cases hd : numeral.toDouble? <;> simp [hd] at h
  unfold Numeral.toInteger? at hinteger
  split at hinteger
  · cases hinteger
  dsimp only at hinteger
  split at hinteger
  · split at hinteger
    · next hrange =>
      have hpow : Nat.pow 2 63 = 2 ^ 63 := rfl
      cases hinteger
      constructor <;> omega
    · cases hinteger
  · split at hinteger
    · next hrange =>
      have hlimit : Numeral.limit = 2 ^ 64 := rfl
      cases hinteger
      constructor <;> omega
    · cases hinteger

namespace Raw

open Value

mutual

/-- **What is read is plain**, if its doubles are read back. -/
theorem isPlain_of_value? {depth : Nat} {v : Value} :
    ∀ {r : Raw}, r.value? depth = some v → (∀ x ∈ v.doubles, x.ReadsBack) → v.IsPlain depth
  | .null, h, _ => by
    cases h
    exact trivial
  | .bool _, h, _ => by
    cases h
    exact trivial
  | .string t, h, _ => by
    cases t <;> cases h
    exact trivial
  | .numeral _, h, hv => by
    obtain ⟨n, hn, rfl⟩ := Option.map_eq_some_iff.1 h
    cases n with
    | integer n => exact Number.isInteger64_of_ofNumeral? hn
    | double x => exact hv x (List.mem_singleton_self x)
  | .array items, h, hv => by
    unfold value? at h
    split at h
    · cases h
    · next hdepth =>
      obtain ⟨vs, hvs, rfl⟩ := Option.map_eq_some_iff.1 h
      refine ⟨Nat.pos_of_ne_zero hdepth, arePlain_iff.2 ?_⟩
      intro w hw
      exact isPlain_of_values? hvs w hw fun x hx => hv x (mem_itemDoubles.2 ⟨w, hw, hx⟩)
  | .object members, h, hv => by
    unfold value? at h
    split at h
    · cases h
    · next hdepth =>
      obtain ⟨ms, hms, rfl⟩ := Option.map_eq_some_iff.1 h
      refine ⟨Nat.pos_of_ne_zero hdepth, Table.isAscending_ofList ms, membersArePlain_iff.2 ?_⟩
      intro m hm
      exact isPlain_of_namedValues? hms m (Table.mem_ofList ms hm) fun x hx =>
        hv x (mem_memberDoubles.2 ⟨m, hm, hx⟩)

theorem isPlain_of_values? {depth : Nat} {vs : List Value} :
    ∀ {rs : List Raw}, values? depth rs = some vs →
      ∀ v ∈ vs, (∀ x ∈ v.doubles, x.ReadsBack) → v.IsPlain depth
  | [], h, v, hv, _ => by
    cases h
    cases hv
  | r :: rs, h, v, hv, hdoubles => by
    unfold values? at h
    split at h
    · next w ws hw hws =>
      cases h
      rcases List.mem_cons.1 hv with rfl | hv
      · exact isPlain_of_value? hw hdoubles
      · exact isPlain_of_values? hws v hv hdoubles
    · cases h

theorem isPlain_of_namedValues? {depth : Nat} {ms : Members} :
    ∀ {rs : List (Option Text × Raw)}, namedValues? depth rs = some ms →
      ∀ m ∈ ms, (∀ x ∈ m.2.doubles, x.ReadsBack) → m.2.IsPlain depth
  | [], h, m, hm, _ => by
    cases h
    cases hm
  | (name, r) :: rs, h, m, hm, hdoubles => by
    unfold namedValues? at h
    split at h
    · next n w ws hw hws =>
      cases h
      rcases List.mem_cons.1 hm with rfl | hm
      · exact isPlain_of_value? hw hdoubles
      · exact isPlain_of_namedValues? hws m hm hdoubles
    · cases h

end

end Raw

end Json

end Custodian
