import Custodian.Proofs.Agent.Perform

/-!
# The life of a package

Only two things ever change in a package: an identifier is set where there was none, and the status
becomes uploaded. The identifier comes first, since the status is asked for by the identifier. So the
package that is held now and the one at the start determine all that was saved between them
(`Course.saved_eq_changes`).

* `package_lifecycle`: what an operation changes, when it does, and what it saves, in any run.
-/

namespace Custodian.Agent

variable {σ : Type} {s : Surroundings σ} {scope : Scope} {a b c : Scene σ Package}

/-! ### What stays -/

/-- Two packages agree but for their status and their identifier. -/
structure SameBeside (p q : Package) : Prop where
  uuid : q.uuid = p.uuid
  currentPath : q.currentPath = p.currentPath
  location : q.location = p.location
  shape : q.shape = p.shape
  attributes : ∀ name, name ≠ Package.identifierName →
    Table.get? name q.attributes = Table.get? name p.attributes

lemma SameBeside.refl (p : Package) : SameBeside p p :=
  ⟨rfl, rfl, rfl, rfl, fun _ _ => rfl⟩

lemma SameBeside.trans {p q r : Package} (h : SameBeside p q) (h' : SameBeside q r) :
    SameBeside p r where
  uuid := h'.uuid.trans h.uuid
  currentPath := h'.currentPath.trans h.currentPath
  location := h'.location.trans h.location
  shape := h'.shape.trans h.shape
  attributes name hname := (h'.attributes name hname).trans (h.attributes name hname)

lemma sameBeside_setIdentifier (p : Package) (id : Text) : SameBeside p (p.setIdentifier id) :=
  ⟨rfl, rfl, rfl, rfl, fun _ hname => Table.get?_insert_of_ne hname _ _⟩

lemma sameBeside_status (p : Package) (status : Status) : SameBeside p { p with status } :=
  ⟨rfl, rfl, rfl, rfl, fun _ _ => rfl⟩

lemma Step.sameBeside (h : Step s scope a b) : SameBeside a.held b.held := by
  cases h with
  | registered request id => exact sameBeside_setIdentifier _ _
  | marked => exact sameBeside_status _ _
  | requested => exact .refl _
  | refused => exact .refl _
  | told => exact .refl _
  | transferred => exact .refl _

lemma Course.sameBeside (h : Course s scope a b) : SameBeside a.held b.held := by
  induction h with
  | refl => exact .refl _
  | tail _ step ih => exact ih.trans step.sameBeside

/-! ### The status -/

/-- A step keeps the status, or marks the package as uploaded. -/
lemma Step.status (h : Step s scope a b) :
    b.held.status = a.held.status ∨
      scope.marks ∧ a.held.status ≠ .uploaded ∧ b.held.status = .uploaded := by
  cases h with
  | marked allowed id present fresh => exact .inr ⟨allowed, fresh, rfl⟩
  | registered => exact .inl rfl
  | requested => exact .inl rfl
  | refused => exact .inl rfl
  | told => exact .inl rfl
  | transferred => exact .inl rfl

lemma Course.status (h : Course s scope a b) :
    b.held.status = a.held.status ∨
      scope.marks ∧ a.held.status ≠ .uploaded ∧ b.held.status = .uploaded := by
  induction h with
  | refl => exact .inl rfl
  | tail _ step ih =>
    rcases ih with hb | ⟨allowed, fresh, hb⟩ <;> rcases step.status with hc | ⟨allowed', fresh', hc⟩
    · exact .inl (hc.trans hb)
    · exact .inr ⟨allowed', hb ▸ fresh', hc⟩
    · exact .inr ⟨allowed, fresh, hc.trans hb⟩
    · exact absurd hb fresh'

lemma Course.uploaded_kept (h : Course s scope a b) (uploaded : a.held.status = .uploaded) :
    b.held.status = .uploaded := by
  rcases h.status with hb | ⟨-, fresh, -⟩
  · exact hb.trans uploaded
  · exact absurd uploaded fresh

lemma Course.status_of_fresh (h : Course s scope a b) (fresh : b.held.status ≠ .uploaded) :
    b.held.status = a.held.status := by
  rcases h.status with hb | ⟨-, -, hb⟩
  · exact hb
  · exact absurd hb fresh

/-! ### What is saved -/

/-- The packages that lie between two, each as it is right after a change: the one that has just got its
identifier, and the one that has just become what it is now. -/
def changes (p q : Package) : List Package :=
  (match p.identifier?, q.identifier? with
    | none, some id => [p.setIdentifier id]
    | _, _ => []) ++
  if q.status = p.status then [] else [q]

@[simp]
lemma changes_self (p : Package) : changes p p = [] := by
  rcases h : p.identifier? with _ | id <;> simp [changes, h]

lemma changes_setIdentifier {p : Package} (absent : p.identifier? = none) (id : Text) :
    changes p (p.setIdentifier id) = [p.setIdentifier id] := by
  simp [changes, absent, Package.setIdentifier]
  simp [Package.identifier?]

/-- Nothing changes before the package has an identifier. -/
lemma Course.held_of_absent (h : Course s scope a b) (absent : b.held.identifier? = none) :
    b.held = a.held := by
  induction h with
  | refl => rfl
  | @tail b c _ step ih =>
    cases step with
    | registered request id => simp at absent
    | marked allowed id present => exact absurd (present.symm.trans absent) (by simp)
    | requested => exact ih absent
    | refused => exact ih absent
    | told => exact ih absent
    | transferred => exact ih absent

/-- **What is saved in a course** is the package after each change, once, and nothing else. -/
theorem Course.saved_eq_changes (h : Course s scope a b) :
    (a.since b).filterMap Event.saved? = changes a.held b.held := by
  induction h with
  | refl => simp
  | @tail b c course step ih =>
    rw [Course.since_tail course step, List.filterMap_append, ih]
    cases step with
    | registered request id absent =>
      -- the package is still the one of the start
      have hheld := Course.held_of_absent course absent
      rw [hheld] at absent
      rw [Scene.since_after_keep, Scene.keep_held, hheld, changes_self, changes_setIdentifier absent]
      rfl
    | marked allowed id present fresh =>
      have hstatus := Course.status_of_fresh course fresh
      rw [Scene.since_keep, Scene.keep_held]
      have hid : ({ b.held with status := .uploaded } : Package).identifier? = b.held.identifier? :=
        rfl
      simp [changes, hid, hstatus, hstatus ▸ fresh.symm, Event.saved?]
    | requested => simp [Event.saved?]
    | refused => simp [Event.saved?]
    | told => simp [Event.saved?]
    | transferred allowed call event transfer =>
      have hsaved : (event (call b.world).1).saved? = none := by
        have := transfer (call b.world).1
        revert this
        cases event (call b.world).1 <;> simp [Event.isTransfer, Event.saved?]
      simp [hsaved]

/-- Nothing changes any more in a package that has an identifier and is uploaded. -/
lemma Course.held_of_settled (h : Course s scope a b) {id : Text}
    (present : a.held.identifier? = some id) (uploaded : a.held.status = .uploaded) :
    b.held = a.held := by
  induction h with
  | refl => rfl
  | @tail b c _ step ih =>
    cases step with
    | registered request id absent => simp [ih, present] at absent
    | marked allowed id present fresh => exact absurd (ih ▸ uploaded) fresh
    | requested => exact ih
    | refused => exact ih
    | told => exact ih
    | transferred => exact ih

/-! ### Runs -/

/-- **The life of a package.** In any run of operations, whatever the surroundings answer, a further
operation leaves all of the package as at the start but for its status and its identifier; it changes
the status only to uploaded, only if it is a question for the status, and only if the appliance has
reported the package green in this very operation; and it saves the package right after each change of
identifier or status, once, and never otherwise. -/
theorem package_lifecycle (s : Surroundings σ) (ops : List Operation) (op : Operation)
    (start : Scene σ Package) :
    let before := (performAll s ops start).2
    let after := (op.perform s before).2
    SameBeside start.held after.held ∧
    (before.held.status = .uploaded → after.held.status = .uploaded) ∧
    (after.held.status ≠ before.held.status →
      op = .updateStatus ∧ after.held.status = .uploaded ∧ Greened s before after) ∧
    (before.since after).filterMap Event.saved? = changes before.held after.held ∧
    (start.since after).filterMap Event.saved? = changes start.held after.held ∧
    (before.held.identifier? ≠ none → before.held.status = .uploaded →
      after.held = before.held ∧ (before.since after).filterMap Event.saved? = []) := by
  intro before after
  have run : Course s .all start before := performAll_course ops
  have call : Course s ⟨op = .updateStatus ∧ Greened s before after, True⟩ before after :=
    perform_course op
  have whole : Course s .all start after :=
    run.trans (call.mono (fun _ => trivial) fun _ => trivial)
  refine ⟨whole.sameBeside, call.uploaded_kept, ?_, call.saved_eq_changes, whole.saved_eq_changes, ?_⟩
  · intro changed
    rcases call.status with same | ⟨⟨hop, greened⟩, -, uploaded⟩
    · exact absurd same changed
    · exact ⟨hop, uploaded, greened⟩
  · intro present uploaded
    obtain ⟨id, present⟩ := Option.ne_none_iff_exists'.1 present
    have settled := call.held_of_settled present uploaded
    exact ⟨settled, by rw [call.saved_eq_changes, settled, changes_self]⟩

end Custodian.Agent
