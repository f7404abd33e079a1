import OperationCatalog.Command.Run
import OperationCatalog.Proofs.GraphQL.Files

/-!
# Runs taken apart

A run reads its line, opens its log file, does its task, records and writes. What becomes of it is
said once (`OperationCatalog.Command.run_cases`), and whatever is proved of runs goes through that:

* the line is refused (`OperationCatalog.Command.Refused`) before there is a task, or
* it asks for a task (`OperationCatalog.Command.Asks`), which stops without a product, or
* the task has a product (`OperationCatalog.Command.Makes`), and the run ends as it is written or
  shown.

In each of the cases the log file was emptied when it was opened and holds the records at the end,
and the task was done with the files in between (`OperationCatalog.Command.openedBy`).
-/

namespace OperationCatalog.Command

/-! ### What a line asks for -/

/-- The place of the log file that a line opens. -/
def logOf (w : Workspace) (arguments : List String) : Option (List String) :=
  match readGroup outerForm groups w arguments with
  | .ok (given, _, _) => (logPlace w (.ofGiven given)).toOption.join
  | .error _ => none

/-- **The files with which a task is done**: the log file is there, and it is empty. -/
def openedBy (w : Workspace) (arguments : List String) : Workspace :=
  withLog w (logOf w arguments) ""

/-- The files when the records of a run were written. -/
def recordedBy (stamp : String) (w : Workspace) (arguments : List String)
    (records : List Record) : Workspace :=
  withLog w (logOf w arguments) (logText stamp records)

/-- **A line asks for a task** with some settings. -/
inductive Asks (w : Workspace) (arguments : List String) : Task → Given → Prop
  /-- It names the group and the task, its log file can be written, and its settings are in order. -/
  | intro {outer inner given : Given} {tasks : List (String × Task)} {words rest : List String}
      {place : Option (List String)} {task : Task} :
      readGroup outerForm groups w arguments = .ok (outer, tasks, words) →
      logPlace w (.ofGiven outer) = .ok place →
      readGroup innerForm tasks (openedBy w arguments) words = .ok (inner, task, rest) →
      readTask task.form (openedBy w arguments) rest = .ok given →
      Asks w arguments task given

/-- **A line is refused**: it asks for no task. -/
inductive Refused (w : Workspace) (arguments : List String) : Stop → Prop
  /-- It names no group. -/
  | group {stop : Stop} :
      readGroup outerForm groups w arguments = .error stop → Refused w arguments stop
  /-- Its log file cannot be written. -/
  | log {outer : Given} {tasks : List (String × Task)} {words : List String} {fault : FileFault} :
      readGroup outerForm groups w arguments = .ok (outer, tasks, words) →
      logPlace w (.ofGiven outer) = .error fault →
      Refused w arguments (.failed (.passedOn (.file fault)))
  /-- It names no task. -/
  | task {outer : Given} {tasks : List (String × Task)} {words : List String} {stop : Stop} :
      readGroup outerForm groups w arguments = .ok (outer, tasks, words) →
      readGroup innerForm tasks (openedBy w arguments) words = .error stop →
      Refused w arguments stop
  /-- The settings of the task are not in order. -/
  | settings {outer inner : Given} {tasks : List (String × Task)} {words rest : List String}
      {task : Task} {stop : Stop} :
      readGroup outerForm groups w arguments = .ok (outer, tasks, words) →
      readGroup innerForm tasks (openedBy w arguments) words = .ok (inner, task, rest) →
      readTask task.form (openedBy w arguments) rest = .error stop →
      Refused w arguments stop

/-! ### What a task makes -/

/-- **Where the types of a task are looked for**: the patterns of its metadata files, and the
directory that these are relative to. -/
inductive Searches (w : Workspace) (given : Given) : Task → Option Path → List String → Prop
  /-- The configuration of a module says so. -/
  | generate {config : Config} {root : Option Path} :
      (Config.resolve w ((given.last? .config).map Path.ofString) (overrides given)
        (given.values .metadata)).outcome = .ok (config, root) →
      Searches w given .generate root config.metadata
  /-- For a summary, the line says so. -/
  | count : Searches w given .count none (given.values .metadata)

variable {stamp : String} {w : Workspace} {arguments : List String}

/-- Of two texts of a log file, the second one stays. -/
theorem withLog_withLog (w : Workspace) (place : Option (List String)) (text text' : String) :
    withLog (withLog w place text) place text' = withLog w place text' := by
  cases place with
  | none => rfl
  | some place =>
    simp only [withLog, Workspace.putFile, FileTree.put_put]

/-! ### What becomes of a run -/

/-- How a run ends, by what its task comes to. -/
def ending (w : Workspace) (records : List Record) : Except Stop Product → Outcome
  | .error stop => stop.outcome w records
  | .ok product => conclude w records product

/-- What becomes of the rest of a line after the name of a group: the name of a task and its
settings are read, and the task is done. -/
theorem runGroup_outcome (w : Workspace) (tasks : List (String × Task)) (words : List String) :
    (runGroup w tasks words).outcome = readGroup innerForm tasks w words >>= fun found =>
      readTask found.2.1.form w found.2.2 >>= fun given => (found.2.1.run w given).outcome := by
  simp only [runGroup, Logged.outcome_bind_do, Logged.outcome_lift]

/-- **What becomes of a run.** -/
theorem run_cases (stamp : String) (w : Workspace) (arguments : List String) :
    ∃ records,
      (∃ stop, Refused w arguments stop ∧
        run stamp w arguments = stop.outcome (recordedBy stamp w arguments records) records) ∨
      ∃ task given, Asks w arguments task given ∧
        ((∃ stop, (task.run (openedBy w arguments) given).outcome = .error stop ∧
          run stamp w arguments = stop.outcome (recordedBy stamp w arguments records) records) ∨
        ∃ product, (task.run (openedBy w arguments) given).outcome = .ok product ∧
          run stamp w arguments =
            conclude (recordedBy stamp w arguments records) records product) := by
  rcases houter : readGroup outerForm groups w arguments with stop | ⟨outer, tasks, words⟩
  · refine ⟨[], Or.inl ⟨stop, .group houter, ?_⟩⟩
    simp only [run, recordedBy, logOf, houter, withLog]
  rcases hplace : logPlace w (.ofGiven outer) with fault | place
  · refine ⟨[], Or.inl ⟨_, .log houter hplace, ?_⟩⟩
    simp only [run, recordedBy, logOf, houter, hplace, withLog, Except.toOption, Option.join_none,
      Stop.outcome]
  have hlog : logOf w arguments = place := by
    simp only [logOf, houter, hplace, Except.toOption, Option.join_some]
  have hopened : openedBy w arguments = withLog w place "" := by rw [openedBy, hlog]
  -- the task decides how the run ends, and what it records is written before the end
  have hrun : ∃ records, run stamp w arguments =
      ending (recordedBy stamp w arguments records) records
        (runGroup (openedBy w arguments) tasks words).outcome := by
    refine ⟨(runGroup (openedBy w arguments) tasks words).records.filter fun r =>
      (Session.ofGiven outer).level.rank ≤ r.level.rank, ?_⟩
    simp only [run, houter, hplace, recordedBy, hopened, hlog, withLog_withLog]
    rfl
  obtain ⟨records, hrun⟩ := hrun
  refine ⟨records, ?_⟩
  rcases houtcome : (runGroup (openedBy w arguments) tasks words).outcome with stop | product
  · rw [houtcome] at hrun
    rw [runGroup_outcome, bind_eq_error_iff] at houtcome
    rcases houtcome with hinner | ⟨⟨inner, task, rest⟩, hinner, houtcome⟩
    · exact Or.inl ⟨stop, .task houter hinner, hrun⟩
    · rcases bind_eq_error_iff.mp houtcome with htask | ⟨given, hgiven, hstop⟩
      · exact Or.inl ⟨stop, .settings houter hinner htask, hrun⟩
      · exact Or.inr ⟨task, given, ⟨houter, hplace, hinner, hgiven⟩, Or.inl ⟨stop, hstop, hrun⟩⟩
  · rw [houtcome] at hrun
    rw [runGroup_outcome, bind_eq_ok_iff] at houtcome
    obtain ⟨⟨inner, task, rest⟩, hinner, houtcome⟩ := houtcome
    obtain ⟨given, hgiven, hproduct⟩ := bind_eq_ok_iff.mp houtcome
    exact Or.inr ⟨task, given, ⟨houter, hplace, hinner, hgiven⟩, Or.inr ⟨product, hproduct, hrun⟩⟩

/-- A line that is refused asks for nothing. -/
theorem Refused.not_asks {stop : Stop} {task : Task} {given : Given}
    (h : Refused w arguments stop) : ¬Asks w arguments task given := by
  rintro ⟨houter, hplace, hinner, hgiven⟩
  cases h with
  | group h => simp [houter] at h
  | log h h' =>
    obtain rfl := (Prod.mk.inj (Except.ok.inj (houter.symm.trans h))).1
    simp [hplace] at h'
  | task h h' =>
    obtain ⟨-, he⟩ := Prod.mk.inj (Except.ok.inj (houter.symm.trans h))
    obtain ⟨rfl, rfl⟩ := Prod.mk.inj he
    simp [hinner] at h'
  | settings h h' h'' =>
    obtain ⟨-, he⟩ := Prod.mk.inj (Except.ok.inj (houter.symm.trans h))
    obtain ⟨rfl, rfl⟩ := Prod.mk.inj he
    obtain ⟨-, he⟩ := Prod.mk.inj (Except.ok.inj (hinner.symm.trans h'))
    obtain ⟨rfl, rfl⟩ := Prod.mk.inj he
    simp [hgiven] at h''

/-- A line asks for one task at most, with the same settings. -/
theorem Asks.unique {task task' : Task} {given given' : Given} (h : Asks w arguments task given)
    (h' : Asks w arguments task' given') : task' = task ∧ given' = given := by
  obtain ⟨houter, -, hinner, hgiven⟩ := h
  obtain ⟨houter', -, hinner', hgiven'⟩ := h'
  obtain ⟨-, he⟩ := Prod.mk.inj (Except.ok.inj (houter.symm.trans houter'))
  obtain ⟨rfl, rfl⟩ := Prod.mk.inj he
  obtain ⟨-, he⟩ := Prod.mk.inj (Except.ok.inj (hinner.symm.trans hinner'))
  obtain ⟨rfl, rfl⟩ := Prod.mk.inj he
  exact ⟨rfl, Except.ok.inj (hgiven'.symm.trans hgiven)⟩

/-- **What becomes of a run with a task.** -/
theorem run_of_asks {task : Task} {given : Given} (h : Asks w arguments task given)
    (stamp : String) : ∃ records, run stamp w arguments =
      ending (recordedBy stamp w arguments records) records
        (task.run (openedBy w arguments) given).outcome := by
  obtain ⟨records, ⟨stop, hrefused, -⟩ | ⟨task', given', hasks, hends⟩⟩ :=
    run_cases stamp w arguments
  · exact absurd h hrefused.not_asks
  obtain ⟨rfl, rfl⟩ := h.unique hasks
  refine ⟨records, ?_⟩
  rcases hends with ⟨stop, hstop, hrun⟩ | ⟨product, hproduct, hrun⟩
  · rw [hrun, hstop]
    rfl
  · rw [hrun, hproduct]
    rfl

/-! ### The end of a run -/

end OperationCatalog.Command
