import ModelCodegen.Files.System

/-!
# Actions on a disk

An action that may fail, run on a disk: its result, and the disk it leaves.
A chain of actions succeeds when each of them does, one on the disk of the other.
-/

namespace ModelCodegen.Disk

variable {α β : Type}

/-- Run an action on a disk. -/
def act (action : ExceptT Error (StateM Disk) α) (disk : Disk) : Except Error α × Disk :=
  action.run.run disk

theorem act_pure (a : α) (disk : Disk) : act (pure a) disk = (.ok a, disk) := rfl

/-- Two actions run one after the other on the same disk; a failure of the first one is the end. -/
theorem act_bind (action : ExceptT Error (StateM Disk) α)
    (next : α → ExceptT Error (StateM Disk) β) (disk : Disk) :
    act (action >>= next) disk =
      match act action disk with
      | (.ok a, changed) => act (next a) changed
      | (.error error, changed) => (.error error, changed) := by
  show (ExceptT.bindCont next (action.run.run disk).1).run (action.run.run disk).2 = _
  rw [act]
  obtain ⟨result, changed⟩ := action.run.run disk
  cases result <;> rfl

/-- After an action that succeeds, a chain goes on with what it yields and leaves. -/
theorem act_bind_of_ok {action : ExceptT Error (StateM Disk) α}
    {next : α → ExceptT Error (StateM Disk) β} {disk changed : Disk} {a : α}
    (h : act action disk = (.ok a, changed)) :
    act (action >>= next) disk = act (next a) changed := by
  rw [act_bind, h]

/-- A chain stops at an action that fails. -/
theorem act_bind_of_error {action : ExceptT Error (StateM Disk) α}
    {next : α → ExceptT Error (StateM Disk) β} {disk changed : Disk} {error : Error}
    (h : act action disk = (.error error, changed)) :
    act (action >>= next) disk = (.error error, changed) := by
  rw [act_bind, h]

/-- A chain that succeeds is made of actions that succeed. -/
theorem act_bind_eq_ok {action : ExceptT Error (StateM Disk) α}
    {next : α → ExceptT Error (StateM Disk) β} {disk last : Disk} {b : β} :
    act (action >>= next) disk = (.ok b, last) ↔
      ∃ a changed, act action disk = (.ok a, changed) ∧ act (next a) changed = (.ok b, last) := by
  rw [act_bind]
  obtain ⟨result, changed⟩ := act action disk
  cases result with
  | error error => simp
  | ok a =>
    constructor
    · intro h
      exact ⟨a, changed, rfl, h⟩
    · rintro ⟨_, _, he, h⟩
      cases he
      exact h

theorem run_bind (request : StateM Disk α) (next : α → StateM Disk β) (disk : Disk) :
    (request >>= next).run disk = (next (request.run disk).1).run (request.run disk).2 := rfl

/-- A request that must not fail turns its fault into an error of the session. -/
theorem act_demand (error : FileFault → Error) (request : StateM Disk (Except FileFault α))
    (disk : Disk) :
    act (FileSystem.demand error request) disk =
      ((request.run disk).1.mapError error, (request.run disk).2) := rfl

/-- A request that was demanded was answered. -/
theorem act_demand_eq_ok {error : FileFault → Error}
    {request : StateM Disk (Except FileFault α)} {disk changed : Disk} {a : α} :
    act (FileSystem.demand error request) disk = (.ok a, changed) ↔
      request.run disk = (.ok a, changed) := by
  rw [act_demand]
  obtain ⟨result, left⟩ := request.run disk
  cases result with
  | error fault => constructor <;> intro h <;> cases h
  | ok b => constructor <;> intro h <;> cases h <;> rfl

/-- A request that cannot fail answers and leaves its disk. -/
theorem act_lift (request : StateM Disk α) (disk : Disk) :
    act (liftM request) disk = (.ok (request.run disk).1, (request.run disk).2) := rfl

/-- The action leaves every disk as it was, whether it succeeds or not. -/
def ReadsOnly (action : ExceptT Error (StateM Disk) α) : Prop :=
  ∀ disk, (act action disk).2 = disk

/-- What an action does that only reads is told by its result. -/
theorem ReadsOnly.act_eq {action : ExceptT Error (StateM Disk) α} (h : ReadsOnly action)
    {disk : Disk} {result : Except Error α} (hresult : (act action disk).1 = result) :
    act action disk = (result, disk) :=
  Prod.ext hresult (h disk)

theorem ReadsOnly.pure (a : α) : ReadsOnly (Pure.pure a) := fun disk => by rw [act_pure]

/-- Actions that leave every disk as it was do so one after the other. -/
theorem ReadsOnly.bind {action : ExceptT Error (StateM Disk) α}
    {next : α → ExceptT Error (StateM Disk) β} (h : ReadsOnly action)
    (hnext : ∀ a, ReadsOnly (next a)) : ReadsOnly (action >>= next) := by
  intro disk
  have hsame := h disk
  rw [act_bind]
  generalize act action disk = answer at hsame ⊢
  obtain ⟨result, changed⟩ := answer
  obtain rfl : changed = disk := hsame
  cases result with
  | error error => rfl
  | ok a => exact hnext a changed

/-- A result that does not depend on the disk. -/
theorem act_ofExcept (result : Except Error α) (disk : Disk) :
    act (liftM result) disk = (result, disk) := rfl

theorem ReadsOnly.ofExcept (result : Except Error α) :
    ReadsOnly (liftM result : ExceptT Error (StateM Disk) α) := fun _ => rfl

/-- A text that is demanded is read off the disk, which stays as it was. -/
theorem act_demandText (path : String) (disk : Disk) :
    act (FileSystem.demandText path) disk =
      ((disk.readText path).mapError (Error.readFailed path), disk) := rfl

theorem ReadsOnly.demandText (path : String) :
    ReadsOnly (FileSystem.demandText (m := StateM Disk) path) := fun _ => rfl

/-- After an action that only reads, a chain goes on with the same disk. -/
theorem ReadsOnly.act_bind {action : ExceptT Error (StateM Disk) α} (h : ReadsOnly action)
    (next : α → ExceptT Error (StateM Disk) β) (disk : Disk) :
    act (action >>= next) disk =
      match (act action disk).1 with
      | .ok a => act (next a) disk
      | .error error => (.error error, disk) := by
  have hsame := h disk
  rw [Disk.act_bind]
  generalize act action disk = answer at hsame ⊢
  obtain ⟨result | a, changed⟩ := answer
  all_goals
    obtain rfl : changed = disk := hsame
    rfl

/-- A chain after an action that only reads succeeds just if it does with what that yields. -/
theorem ReadsOnly.result_bind_eq_ok {action : ExceptT Error (StateM Disk) α}
    {next : α → ExceptT Error (StateM Disk) β} (h : ReadsOnly action) {disk : Disk} {b : β} :
    (act (action >>= next) disk).1 = .ok b ↔
      ∃ a, (act action disk).1 = .ok a ∧ (act (next a) disk).1 = .ok b := by
  rw [h.act_bind]
  cases (act action disk).1 with
  | error error => simp
  | ok a => simp

/-- Asking whether something can be reached leaves the disk as it was. -/
theorem act_pathExists (path : String) (disk : Disk) :
    act (liftM (FileSystem.pathExists path : StateM Disk Bool)) disk =
      (.ok (disk.at? path).isSome, disk) := by
  have hdir : (FileSystem.isDirectory path : StateM Disk Bool).run disk =
      ((disk.at? path).any FileTree.isDirectory, disk) := rfl
  have hrun : (FileSystem.pathExists path : StateM Disk Bool).run disk =
      ((disk.at? path).isSome, disk) := by
    show (if ((disk.at? path).any fun tree => !tree.isDirectory) = true then
        (return true : StateM Disk Bool) else FileSystem.isDirectory path).run disk = _
    cases hat : disk.at? path with
    | none => rw [if_neg (by simp), hdir, hat]; rfl
    | some tree =>
      cases tree with
      | file content => rw [if_pos (by simp [FileTree.isDirectory])]; rfl
      | directory entries => rw [if_neg (by simp [FileTree.isDirectory]), hdir, hat]; rfl
  rw [act_lift, hrun]

theorem readsOnly_pathExists (path : String) :
    ReadsOnly (liftM (FileSystem.pathExists path : StateM Disk Bool)) :=
  fun disk => by rw [act_pathExists]

/-- An operation succeeds with the disk that it yields. -/
theorem run_attempt_eq_ok {operation : Disk → Except FileFault Disk} {disk changed : Disk} :
    (attempt operation).run disk = (.ok (), changed) ↔ operation disk = .ok changed := by
  show (attempt operation disk : Except FileFault Unit × Disk) = _ ↔ _
  rw [attempt]
  cases operation disk with
  | error fault => constructor <;> intro h <;> cases h
  | ok next => constructor <;> intro h <;> cases h <;> rfl

/-- An operation that fails leaves the disk as it was. -/
theorem run_attempt_eq_error {operation : Disk → Except FileFault Disk} {disk changed : Disk}
    {fault : FileFault} (h : (attempt operation).run disk = (.error fault, changed)) :
    operation disk = .error fault ∧ changed = disk := by
  change (attempt operation disk : Except FileFault Unit × Disk) = _ at h
  rw [attempt] at h
  cases ho : operation disk with
  | error found =>
    rw [ho] at h
    cases h
    exact ⟨rfl, rfl⟩
  | ok next =>
    rw [ho] at h
    cases h

end ModelCodegen.Disk
