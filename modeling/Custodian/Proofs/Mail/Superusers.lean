import Custodian.Mail
import Mathlib.Data.List.Induction
import Mathlib.Logic.Relation
import Mathlib.Tactic.Common

/-!
# Active superusers

Users are told by mail if they are active superusers. The same address may stand in several entries, under
different flags. An entry at the end of others adds its address if and only if it is an active superuser whose
address is not there yet (`addresses_concat`). Everything else follows from this step by induction on the
entries.

* `MailConfig.activeSuperusers_inOrder`: who is told, each once and in order of the first entries that count,
  and which changes of the entries make no difference to it.
-/

namespace Custodian

/-! ### Texts without repetition -/

lemma mem_distinct {t : Text} {ts : List Text} : t ∈ distinct ts ↔ t ∈ ts := by
  induction ts with
  | nil => rfl
  | cons u ts ih => by_cases h : t = u <;> simp [distinct, ih, h]

/-- A text at the end is kept, unless it was there before. -/
lemma distinct_concat (ts : List Text) (t : Text) :
    distinct (ts ++ [t]) = if t ∈ ts then distinct ts else distinct ts ++ [t] := by
  induction ts with
  | nil => rfl
  | cons u ts ih =>
    rw [List.cons_append, distinct, ih]
    by_cases hu : t = u
    · subst hu
      by_cases ht : t ∈ ts <;> simp [distinct, ht]
    · by_cases ht : t ∈ ts <;> simp [distinct, hu, ht]

/-! ### Entries that count -/

namespace User

/-- Whether a user is told by mail. -/
def isTold (u : User) : Bool :=
  u.isSuperuser && u.isActive

/-- The entry of an active superuser. -/
def told (email : Text) : User :=
  ⟨email, true, true⟩

lemma eq_told {u : User} (h : u.isTold = true) : u = told u.email := by
  obtain ⟨email, isSuperuser, isActive⟩ := u
  obtain ⟨rfl, rfl⟩ : isSuperuser = true ∧ isActive = true := Bool.and_eq_true_iff.1 h
  rfl

/-- The addresses of those among some users who are told. -/
def addresses (users : List User) : List Text :=
  distinct ((users.filter (·.isTold)).map (·.email))

section Addresses

variable {users : List User} {u : User} {email : Text}

lemma mem_addresses : email ∈ addresses users ↔ ∃ u ∈ users, u.email = email ∧ u.isTold = true := by
  rw [addresses, mem_distinct, List.mem_map]
  constructor
  · rintro ⟨u, hu, hemail⟩
    obtain ⟨hmem, htold⟩ := List.mem_filter.1 hu
    exact ⟨u, hmem, hemail, htold⟩
  · rintro ⟨u, hmem, hemail, htold⟩
    exact ⟨u, List.mem_filter.2 ⟨hmem, htold⟩, hemail⟩

/-- What an entry adds behind others: its address, if it counts and the address is not there yet. -/
def added (users : List User) (u : User) : List Text :=
  if u.isTold = true ∧ u.email ∉ addresses users then [u.email] else []

/-- **An entry at the end** adds to the addresses of those before it. -/
theorem addresses_concat (users : List User) (u : User) :
    addresses (users ++ [u]) = addresses users ++ added users u := by
  unfold added
  by_cases htold : u.isTold = true
  · have hmap : ((users ++ [u]).filter (·.isTold)).map (·.email) =
        (users.filter (·.isTold)).map (·.email) ++ [u.email] := by simp [htold]
    by_cases hold : u.email ∈ addresses users
    · rw [if_neg fun h => h.2 hold, List.append_nil]
      rw [addresses, mem_distinct] at hold
      rw [addresses, hmap, distinct_concat, if_pos hold, addresses]
    · rw [if_pos ⟨htold, hold⟩]
      rw [addresses, mem_distinct] at hold
      rw [addresses, hmap, distinct_concat, if_neg hold, addresses]
  · have hfilter : (users ++ [u]).filter (·.isTold) = users.filter (·.isTold) := by simp [htold]
    rw [if_neg fun h => htold h.1, addresses, hfilter, List.append_nil, addresses]

/-! ### The order of the addresses -/

/-- The position of the first entry that counts for an address. -/
def firstEntry (users : List User) (email : Text) : Nat :=
  users.findIdx fun u => u.isTold && u.email = email

lemma firstEntry_lt (h : email ∈ addresses users) : firstEntry users email < users.length := by
  obtain ⟨u, hmem, hemail, htold⟩ := mem_addresses.1 h
  exact List.findIdx_lt_length_of_exists ⟨u, hmem, by simp [hemail, htold]⟩

/-- What is appended does not come first. -/
lemma firstEntry_concat (h : email ∈ addresses users) (u : User) :
    firstEntry (users ++ [u]) email = firstEntry users email := by
  have hlt := firstEntry_lt h
  unfold firstEntry at *
  rw [List.findIdx_append, if_pos hlt]

lemma le_firstEntry_concat (h : email ∉ addresses users) (u : User) :
    users.length ≤ firstEntry (users ++ [u]) email := by
  have hnone : users.findIdx (fun u => u.isTold && u.email = email) = users.length := by
    rw [List.findIdx_eq_length]
    intro v hv
    rw [mem_addresses] at h
    grind
  unfold firstEntry
  rw [List.findIdx_append, hnone, if_neg (Nat.lt_irrefl _)]
  exact Nat.le_add_left _ _

/-- **The addresses** stand in order of the first entries that count for them. -/
theorem pairwise_addresses (users : List User) :
    (addresses users).Pairwise fun a b => firstEntry users a < firstEntry users b := by
  induction users using List.reverseRecOn with
  | nil => exact List.Pairwise.nil
  | append_singleton users u ih =>
    have hkept : (addresses users).Pairwise fun a b =>
        firstEntry (users ++ [u]) a < firstEntry (users ++ [u]) b := by
      refine ih.imp_of_mem ?_
      intro a b ha hb hlt
      rwa [firstEntry_concat ha, firstEntry_concat hb]
    rw [addresses_concat, added]
    split
    · next h =>
      refine List.pairwise_append.2 ⟨hkept, List.pairwise_singleton _ _, ?_⟩
      intro a ha b hb
      obtain rfl : b = u.email := List.mem_singleton.1 hb
      rw [firstEntry_concat ha]
      exact Nat.lt_of_lt_of_le (firstEntry_lt ha) (le_firstEntry_concat h.2 u)
    · rwa [List.append_nil]

end Addresses

/-! ### Entries that make no difference -/

/-- An entry is removed that is not an active superuser, or whose address is that of an active superuser
before it. -/
inductive Drops : List User → List User → Prop
  | idle (before after : List User) {u : User} (uncounted : u.isTold = false) :
    Drops (before ++ u :: after) (before ++ after)
  | repeated (before after : List User) {u first : User} (earlier : first ∈ before)
    (counted : first.isTold = true) (same : u.email = first.email) :
    Drops (before ++ u :: after) (before ++ after)

/-- Whether users come of others by removing and inserting such entries. -/
def SameButDropped : List User → List User → Prop :=
  Relation.EqvGen Drops

section Drops

variable {users users' before : List User} {u : User}

/-- An entry that adds nothing where it stands makes no difference to what follows. -/
lemma addresses_of_added_eq_nil (h : added before u = []) (after : List User) :
    addresses (before ++ u :: after) = addresses (before ++ after) := by
  induction after using List.reverseRecOn with
  | nil => rw [addresses_concat, h, List.append_nil, List.append_nil]
  | append_singleton after v ih =>
    rw [← List.cons_append, ← List.append_assoc, ← List.append_assoc, addresses_concat, addresses_concat,
      added, added, ih]

lemma Drops.addresses_eq (h : Drops users users') : addresses users = addresses users' := by
  cases h with
  | idle before after uncounted =>
    refine addresses_of_added_eq_nil (if_neg ?_) after
    rintro ⟨htold, -⟩
    rw [uncounted] at htold
    cases htold
  | repeated before after earlier counted same =>
    refine addresses_of_added_eq_nil (if_neg ?_) after
    rintro ⟨-, hnew⟩
    exact hnew (mem_addresses.2 ⟨_, earlier, same.symm, counted⟩)

lemma SameButDropped.addresses_eq (h : SameButDropped users users') : addresses users = addresses users' := by
  induction h with
  | rel users users' h => exact h.addresses_eq
  | refl users => rfl
  | symm users users' _ ih => exact ih.symm
  | trans users middle users' _ _ ih ih' => exact ih.trans ih'

lemma Drops.concat (h : Drops users users') (u : User) : Drops (users ++ [u]) (users' ++ [u]) := by
  cases h with
  | idle before after uncounted => simpa using Drops.idle before (after ++ [u]) uncounted
  | repeated before after earlier counted same =>
    simpa using Drops.repeated before (after ++ [u]) earlier counted same

lemma SameButDropped.concat (h : SameButDropped users users') (u : User) :
    SameButDropped (users ++ [u]) (users' ++ [u]) := by
  induction h with
  | rel users users' h => exact .rel _ _ (h.concat u)
  | refl users => exact .refl _
  | symm users users' _ ih => exact .symm _ _ ih
  | trans users middle users' _ _ ih ih' => exact .trans _ _ _ ih ih'

/-- An entry that adds nothing is dropped behind one entry for each address. -/
lemma drops_told (h : ¬(u.isTold = true ∧ u.email ∉ addresses users)) :
    Drops ((addresses users).map told ++ [u]) ((addresses users).map told) := by
  have hdrops : Drops ((addresses users).map told ++ u :: []) ((addresses users).map told ++ []) := by
    by_cases htold : u.isTold = true
    · have hold : u.email ∈ addresses users := by
        by_contra hnew
        exact h ⟨htold, hnew⟩
      exact .repeated _ [] (List.mem_map_of_mem hold) rfl rfl
    · exact .idle _ [] (by simpa using htold)
  rwa [List.append_nil] at hdrops

/-- Whatever the users, it comes to one entry for each address. -/
theorem sameButDropped_told (users : List User) :
    SameButDropped users ((addresses users).map told) := by
  induction users using List.reverseRecOn with
  | nil => exact .refl _
  | append_singleton users u ih =>
    rw [addresses_concat, added]
    split
    · next h =>
      rw [List.map_append, List.map_singleton, ← eq_told h.1]
      exact ih.concat u
    · next h =>
      rw [List.append_nil]
      exact .trans _ _ _ (ih.concat u) (.rel _ _ (drops_told h))

end Drops

end User

open User

/-- **Active superusers** are told without loss or repetition. No address is told twice. An address is told if
and only if some entry with it is both superuser and active, whatever its other entries say. The addresses stand
in order of the first of these entries. Two configurations tell the same if and only if the users of one come of
those of the other by inserting and removing entries that are not active superusers and later entries of
addresses that are told. -/
theorem MailConfig.activeSuperusers_inOrder (c : MailConfig) :
    c.activeSuperusers.Nodup ∧
      (∀ email, email ∈ c.activeSuperusers ↔
        ∃ u ∈ c.users, u.email = email ∧ u.isSuperuser = true ∧ u.isActive = true) ∧
      (c.activeSuperusers.Pairwise fun a b => firstEntry c.users a < firstEntry c.users b) ∧
      ∀ c' : MailConfig, c.activeSuperusers = c'.activeSuperusers ↔ SameButDropped c.users c'.users := by
  have hc : ∀ c : MailConfig, c.activeSuperusers = addresses c.users := fun _ => rfl
  have hordered := pairwise_addresses c.users
  refine ⟨?_, ?_, hordered, ?_⟩
  · refine hordered.imp ?_
    rintro a b hlt rfl
    exact Nat.lt_irrefl _ hlt
  · intro email
    simp only [hc, mem_addresses, User.isTold, Bool.and_eq_true]
  · intro c'
    rw [hc, hc]
    constructor
    · intro heq
      have htold := sameButDropped_told c.users
      rw [heq] at htold
      exact htold.trans _ _ _ (.symm _ _ (sameButDropped_told c'.users))
    · exact SameButDropped.addresses_eq

/-- An address counts although one of its entries is retired. -/
example : MailConfig.activeSuperusers ⟨"storage@example.com", "sendmail",
    [⟨"ops@example.com", true, false⟩, ⟨"admin@example.com", true, true⟩,
      ⟨"archivist@example.com", false, true⟩, ⟨"ops@example.com", true, true⟩,
      ⟨"admin@example.com", true, true⟩]⟩ =
    [("admin@example.com" : Text), "ops@example.com"] := by
  decide

end Custodian
