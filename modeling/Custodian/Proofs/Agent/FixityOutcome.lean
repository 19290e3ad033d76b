import Custodian.Proofs.Agent.Persistence
import Custodian.Proofs.Agent.Requests
import Custodian.Proofs.Appliance.Payload

/-!
# What a report on the last fixity check says

A report depends on what the appliance has told about the bag, and on nothing else. If this is no state of
a bag, the report says why. If it is one, then the first that applies decides: the bag is sound, a check is
under way, or failures are listed. A state of which nothing applies is an error again.

* `fixityReport_cases`: the report on a state, in this order.
* `fixity_outcome`: each verdict, with exactly the states that it stands for.
-/

namespace Custodian.Agent

open Appliance
open Json (Value)

variable {σ : Type} {s : Surroundings σ} {scene : Scene σ Package}

/-! ### States -/

/-- The check is completed, and the bag is replicated. -/
def IsSound (m : Manifest) : Prop :=
  m.status = some "Completed" ∧ m.replication = some "green"

/-- The check or the replication is still on its way. -/
def IsUnderWay (m : Manifest) : Prop :=
  m.status = some "Scheduled" ∨ m.replication = some "amber"

instance (m : Manifest) : Decidable (IsSound m) :=
  inferInstanceAs (Decidable (_ ∧ _))

instance (m : Manifest) : Decidable (IsUnderWay m) :=
  inferInstanceAs (Decidable (_ ∨ _))

/-- Why a bag that is neither sound nor under way has failed. -/
def failureMessage (m : Manifest) : Text :=
  match m.failures.getD [] with
  | [] => "Arkivum reported fixity status " ++ m.status.getD "(none)" ++ " without any failures"
  | [failure] => failure.reason
  | _ :: _ :: _ => "invalid bag"

/-- The state stands for a verdict: a bag that has failed lists its failures. -/
def HasVerdict (m : Manifest) : Prop :=
  IsSound m ∨ IsUnderWay m ∨ m.failures.getD [] ≠ []

/-- The value that was told, if there was one, is the state of a bag. -/
def IsTold (m : Manifest) (told : Option Value) : Prop :=
  ∃ state, told = some state ∧ m.WrittenAs state

section IsTold

variable {told : Option Value} {state : Value} {m m' : Manifest}

lemma isTold_of_read (htold : told = some state) (read : Manifest.ofJson? state = some m) : IsTold m told :=
  ⟨state, htold, Manifest.ofJson?_eq_some_iff.1 read⟩

/-- One state is told, if any. -/
lemma IsTold.unique (h : IsTold m told) (h' : IsTold m' told) : m = m' := by
  obtain ⟨state, rfl, written⟩ := h
  obtain ⟨_, ⟨⟩, written'⟩ := h'
  exact Option.some.inj
    ((Manifest.ofJson?_eq_some_iff.2 written).symm.trans (Manifest.ofJson?_eq_some_iff.2 written'))

lemma not_isTold_none (m : Manifest) : ¬IsTold m none := by
  rintro ⟨_, ⟨⟩, -⟩

lemma not_isTold_of_unread (unread : Manifest.ofJson? state = none) (m : Manifest) : ¬IsTold m (some state) := by
  rintro ⟨_, ⟨⟩, written⟩
  rw [Manifest.ofJson?_eq_some_iff.2 written] at unread
  cases unread

end IsTold

/-! ### Reports -/

/-- The answer to a fixity check: the report, or one that tells the error. -/
def softly : Except Error FixityReport → FixityReport
  | .ok report => report
  | .error e => .failed e.message

/-- What the report of a check says about a bag, given the value that was told about it, if any. -/
structure ReportsOn (told : Option Value) (checked : Except Error FixityReport) (report : FixityReport) :
    Prop where
  sound : report.success = some true ↔ ∃ m, IsTold m told ∧ IsSound m
  silent : report.success = some true → report.message = []
  underWay : report.success = none ↔ ∃ m, IsTold m told ∧ ¬IsSound m ∧ IsUnderWay m
  failed : ∀ m, IsTold m told → report.success = some false → report.message = failureMessage m
  /-- A verdict comes with the failures that are listed, and with the time of the check. -/
  details : ∀ m, IsTold m told → HasVerdict m →
    report.errors = m.failures.getD [] ∧
      report.timestamp = m.fixityLastChecked.bind Timestamp.normalize?
  /-- Without a verdict there is nothing but the text of an error. -/
  bare : (∀ m, IsTold m told → ¬HasVerdict m) →
    ∃ e, checked = .error e ∧ report = .failed e.message
  /-- A value that is no state of a bag is an error of its own. -/
  unread : ∀ state, told = some state → (∀ m : Manifest, ¬m.WrittenAs state) →
    report = .failed "JSON could not be parsed from package info"

/-- The report with a verdict on a state. -/
def detailed (m : Manifest) (success : Option Bool) (message : Text) : FixityReport :=
  ⟨success, m.failures.getD [], message, m.fixityLastChecked.bind Timestamp.normalize?⟩

section ReportsOn

variable {told : Option Value} {checked : Except Error FixityReport} {report : FixityReport} {m : Manifest}

/-- The report on a sound bag. -/
lemma ReportsOn.eq_of_sound (h : ReportsOn told checked report) (state : IsTold m told) (sound : IsSound m) :
    report = detailed m (some true) [] := by
  have hsuccess := h.sound.2 ⟨m, state, sound⟩
  have hmessage := h.silent hsuccess
  obtain ⟨herrors, htimestamp⟩ := h.details m state (.inl sound)
  cases report
  simp_all only [detailed]

/-- The report on a bag that has failed. -/
lemma ReportsOn.eq_of_listed (h : ReportsOn told checked report) (state : IsTold m told) (sound : ¬IsSound m)
    (underWay : ¬IsUnderWay m) (listed : m.failures.getD [] ≠ []) :
    report = detailed m (some false) (failureMessage m) := by
  have hsuccess : report.success = some false := by
    rcases hs : report.success with _ | _ | _
    · obtain ⟨m', state', -, underWay'⟩ := h.underWay.1 hs
      exact absurd (state.unique state' ▸ underWay') underWay
    · rfl
    · obtain ⟨m', state', sound'⟩ := h.sound.1 hs
      exact absurd (state.unique state' ▸ sound') sound
  have hmessage := h.failed m state hsuccess
  obtain ⟨herrors, htimestamp⟩ := h.details m state (.inr (.inr listed))
  cases report
  simp_all only [detailed]

end ReportsOn

/-- **The report on a state**: the first that applies decides. -/
theorem fixityReport_cases (m : Manifest) :
    IsSound m ∧ fixityReport m = .ok (detailed m (some true) []) ∨
      ¬IsSound m ∧ IsUnderWay m ∧
        fixityReport m = .ok (detailed m none "Arkivum fixity check in progress") ∨
      ¬IsSound m ∧ ¬IsUnderWay m ∧ (m.failures.getD [] ≠ [] ∧
          fixityReport m = .ok (detailed m (some false) (failureMessage m)) ∨
        m.failures.getD [] = [] ∧ fixityReport m = .error (.noFailures m.status)) := by
  by_cases sound : IsSound m
  · have hverdict : verdict m = .ok (some true, []) := if_pos sound
    refine .inl ⟨sound, ?_⟩
    rw [fixityReport, hverdict]
    rfl
  by_cases underWay : IsUnderWay m
  · have hverdict : verdict m = .ok (none, "Arkivum fixity check in progress") :=
      (if_neg sound).trans (if_pos underWay)
    refine .inr (.inl ⟨sound, underWay, ?_⟩)
    rw [fixityReport, hverdict]
    rfl
  refine .inr (.inr ⟨sound, underWay, ?_⟩)
  have hverdict := (if_neg sound).trans (if_neg underWay) (a := verdict m)
  rw [fixityReport, hverdict, detailed, failureMessage]
  rcases m.failures.getD [] with _ | ⟨first, _ | ⟨second, rest⟩⟩
  · exact .inr ⟨rfl, rfl⟩
  · exact .inl ⟨List.cons_ne_nil _ _, rfl⟩
  · exact .inl ⟨List.cons_ne_nil _ _, rfl⟩

/-- A state that is told is reported on as it should be. -/
lemma reportsOn_state {state : Value} {m : Manifest} (read : Manifest.ofJson? state = some m) :
    ReportsOn (some state) (fixityReport m) (softly (fixityReport m)) := by
  have htold : ∀ m', IsTold m' (some state) ↔ m' = m := by
    have told : IsTold m (some state) := isTold_of_read rfl read
    exact fun m' => ⟨fun h => h.unique told, fun h => h ▸ told⟩
  have written : ¬∀ m : Manifest, ¬m.WrittenAs state :=
    fun none => none m (Manifest.ofJson?_eq_some_iff.1 read)
  have hnoFailures : (Error.noFailures m.status).message =
      "Arkivum reported fixity status " ++ m.status.getD "(none)" ++ " without any failures" := rfl
  rcases fixityReport_cases m with
    ⟨sound, h⟩ | ⟨sound, underWay, h⟩ | ⟨sound, underWay, ⟨listed, h⟩ | ⟨listed, h⟩⟩ <;>
    rw [h] <;> constructor <;>
    simp_all [softly, detailed, HasVerdict, failureMessage, FixityReport.failed]

/-- Where nothing is told, the report is the text of an error. -/
lemma reportsOn_none (e : Error) : ReportsOn none (.error e) (.failed e.message) := by
  constructor <;> simp [FixityReport.failed, not_isTold_none]

/-- A value that is no state of a bag is reported as an error. -/
lemma reportsOn_unread {state : Value} (unread : Manifest.ofJson? state = none) :
    ReportsOn (some state) (.error (.format .package)) (.failed (Error.format .package).message) := by
  have hmessage : (Error.format .package).message = "JSON could not be parsed from package info" := by
    decide
  constructor <;> simp [FixityReport.failed, not_isTold_of_unread unread, hmessage]

/-! ### Runs -/

/-- The check of a bag, from what the question for its state comes to. -/
lemma fixity_run (bag : scene.held.isCompressed = false) : fixity s scene =
    (((fetchStatus s scene).1.bind (decode Manifest.ofJson? .package)).bind fixityReport,
      (fetchStatus s scene).2) := by
  unfold fixity Package.isCompressed at *
  rw [Job.held_bind_run]
  rcases hshape : scene.held.shape with pointerFile | _ <;> rw [hshape] at bag
  · cases bag
  dsimp only
  rcases hr : (fetchStatus s scene).1 with e | payload
  · rw [Job.bind_run_error hr]
    rfl
  · rw [Job.bind_run_ok hr, Job.ofExcept_bind_run]
    dsimp only [Except.bind]
    rcases decode Manifest.ofJson? .package payload with e | m <;> rfl

lemma answeredValue_ne_unsupported (request : Request) (subject : Subject) (exchange : Exchange) :
    answeredValue request subject exchange ≠ .error .unsupported := by
  rcases exchange with _ | _ | status | ⟨status, body⟩
  · nofun
  · nofun
  · nofun
  · unfold answeredValue
    dsimp only
    split
    · split <;> nofun
    · nofun

lemma fetchStatus_ne_unsupported : (fetchStatus s scene).1 ≠ .error .unsupported := by
  rw [fetchStatus_eq]
  rcases (ensureRegistered s scene).2.held.identifier? with _ | id
  · nofun
  · exact answeredValue_ne_unsupported _ _ _

/-- A check of a bag makes sense. -/
lemma fixity_ne_unsupported (bag : scene.held.isCompressed = false) :
    (fixity s scene).1 ≠ .error .unsupported := by
  rw [fixity_run bag]
  rcases hr : (fetchStatus s scene).1 with e | payload
  · intro h
    have hunsupported : e = .unsupported := Except.error.inj h
    exact fetchStatus_ne_unsupported (hr.trans (congrArg _ hunsupported))
  · dsimp only [Except.bind, decode]
    rcases Manifest.ofJson? payload with _ | m
    · nofun
    · rcases fixityReport_cases m with
        ⟨-, h⟩ | ⟨-, -, h⟩ | ⟨-, -, ⟨-, h⟩ | ⟨-, h⟩⟩ <;> simp [h]

/-- The answer to a check of a bag is a report. -/
lemma checkFixity_eq (bag : scene.held.isCompressed = false) :
    checkFixity s scene = (.ok (softly (fixity s scene).1), (fixity s scene).2) := by
  have hne := fixity_ne_unsupported (s := s) bag
  unfold checkFixity
  split
  · next h => rw [h]; rfl
  · next h => exact absurd (congrArg Prod.fst h) hne
  · next h => rw [h]; rfl

/-- A check of a compressed package makes no sense. -/
lemma checkFixity_compressed (compressed : scene.held.isCompressed = true) :
    checkFixity s scene = (.error Error.unsupported.message, scene) := by
  unfold Package.isCompressed at compressed
  rcases hshape : scene.held.shape with pointerFile | _ <;> rw [hshape] at compressed
  · have hfixity : fixity s scene = (.error .unsupported, scene) := by
      unfold fixity
      rw [Job.held_bind_run, hshape]
      rfl
    rw [checkFixity, hfixity]
  · cases compressed

/-- **The outcome of a fixity check**, whatever the appliance answers. A check of a compressed package
makes no sense: it is an error, nothing is asked for or saved, and nothing changes. The answer to a check of
a bag is a report on the state that was told about it, if there was one:

* a success, without a message, exactly if the state says `Completed` and `green`;
* no verdict yet exactly if it is no success and the state says `Scheduled` or `amber`;
* otherwise a failure, which names the one failure that the state lists, or that there are several, or the
  error that the check ended in.

A verdict has the failures that the state lists, and the time of the check. -/
theorem fixity_outcome (s : Surroundings σ) (scene : Scene σ Package) :
    let run := checkFixity s scene
    (scene.held.isCompressed = true → run = (.error Error.unsupported.message, scene)) ∧
    (scene.held.isCompressed = false → ∃ report, run.1 = .ok report ∧
      ReportsOn (stateTold? s scene.held (scene.since run.2)) (fixity s scene).1 report) := by
  intro run
  refine ⟨checkFixity_compressed, ?_⟩
  intro bag
  have hrun : run = _ := checkFixity_eq bag
  refine ⟨softly (fixity s scene).1, by rw [hrun], ?_⟩
  have htold : stateTold? s scene.held (scene.since run.2) = (fetchStatus s scene).1.toOption := by
    rw [hrun, fixity_run bag, stateTold?_fetchStatus]
  rw [htold, fixity_run bag]
  rcases (fetchStatus s scene).1 with e | state
  · exact reportsOn_none e
  · dsimp only [Except.toOption, Except.bind, decode]
    rcases hread : Manifest.ofJson? state with _ | m
    · exact reportsOn_unread hread
    · exact reportsOn_state hread

/-- An appliance that says the same about everything. -/
def statingAppliance (state : Value) : Surroundings Nat :=
  { greenAppliance with
    exchange := fun _ failures => (.answered 200 (Utf8.encode state.compact), failures) }

/-- The state of a sound bag, with a failure that is over. -/
def soundState : Value :=
  .object [
    ("failures", .array [.object [("filepath", .string "data/a"), ("reason", .string "bad checksum")]]),
    ("fixityLastChecked", .string "2024-05-06T07:08:09Z"), ("local", .null),
    ("replicationState", .string "green"), ("status", .string "Completed")]

/-- The state of a damaged bag, as an array. -/
def damagedState : Value :=
  .array [.ofNat 17, .string "GREEN", .bool true, .string "Completed", .array [.array [.string "file missing"]]]

theorem fixity_outcome_stated :
    let start : Scene Nat Package := ⟨0, stagedBag, []⟩
    (checkFixity (statingAppliance soundState) start).1 =
        .ok ⟨some true, [⟨"bad checksum", some "data/a"⟩], [], some "2024-05-06T07:08:09+00:00"⟩ ∧
      (checkFixity (statingAppliance damagedState) start).1 =
        .ok ⟨some false, [⟨"file missing", none⟩], "file missing", none⟩ := by
  intro start
  refine ⟨?_, ?_⟩
  · obtain ⟨report, hrun, reports⟩ := (fixity_outcome (statingAppliance soundState) start).2 rfl
    have htold : stateTold? (statingAppliance soundState) stagedBag
        (start.since (checkFixity (statingAppliance soundState) start).2) = some soundState := by decide +kernel
    have told := isTold_of_read htold rfl
    rw [hrun, reports.eq_of_sound told (by decide +kernel)]
    decide +kernel
  · obtain ⟨report, hrun, reports⟩ := (fixity_outcome (statingAppliance damagedState) start).2 rfl
    have htold : stateTold? (statingAppliance damagedState) stagedBag
        (start.since (checkFixity (statingAppliance damagedState) start).2) = some damagedState := by
      decide +kernel
    have told := isTold_of_read htold rfl
    rw [hrun, reports.eq_of_listed told (by decide +kernel) (by decide +kernel) (by decide +kernel)]
    decide +kernel

end Custodian.Agent
