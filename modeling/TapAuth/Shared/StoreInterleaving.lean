import TapAuth.Lib.ReadModifyWrite
import TapAuth.Shared.Config

/-!
# Operations on the paired servers that overlap

The operations of `ClientConfigManager` on the map of paired servers load the whole file,
change the map, and write the whole file back.  Nothing keeps two of them apart.

`StoreOperation.rmw` cuts each operation between its read and its write, and
`StoreOperation.rmw_run` says that the two pieces without interruption are the operation.
`store_serializable` says that operations that overlap leave the store as some order of them
would, if every write finds the file as its operation read it; `pairing_lost` is what happens
otherwise.
-/

namespace TapAuth.Shared

/-- A call of one of the operations, with how its accesses to the file fail. -/
inductive StoreOperation where
  | addPairedServer (id : String) (server : PairedServer) (readFault : Option IoFault)
      (writeFault : Option WriteFault)
  | removePairedServer (id : String) (readFault : Option IoFault) (writeFault : Option WriteFault)
  | removeUserFromPairing (id username : String) (readFault : Option IoFault)
      (writeFault : Option WriteFault)
  | clearPairedServers (fault : Option IoFault)
  deriving DecidableEq

/-- What an operation returns: for the removal of a user, whether the pairing is gone. -/
inductive StoreAnswer where
  | done (result : Except ConfigError Unit)
  | removed (result : Except ConfigError Bool)

namespace StoreOperation

/-- The operation, alone. -/
def run (d : Disk) : StoreOperation → StoreAnswer × Disk
  | .addPairedServer id server readFault writeFault =>
    let (result, d) := d.addPairedServer readFault writeFault id server
    (.done result, d)
  | .removePairedServer id readFault writeFault =>
    let (result, d) := d.removePairedServer readFault writeFault id
    (.done result, d)
  | .removeUserFromPairing id username readFault writeFault =>
    let (result, d) := d.removeUserFromPairing readFault writeFault id username
    (.removed result, d)
  | .clearPairedServers fault =>
    let (result, d) := d.clearPairedServers fault
    (.done result, d)

/-- The answer of an operation that needs no write. -/
def plan (d : Disk) : StoreOperation → Option StoreAnswer
  | .addPairedServer _ _ readFault _ | .removePairedServer _ readFault _ =>
    match d.loadPairedServers readFault with
    | .error e => some (.done (.error e))
    | .ok _ => none
  | .removeUserFromPairing id username readFault _ =>
    match d.loadPairedServers readFault with
    | .error e => some (.removed (.error e))
    | .ok servers =>
      match Disk.withoutUser servers id username with
      | none => some (.removed (.ok true))
      | some _ => none
  | .clearPairedServers _ => if d.serversFile.isSome then none else some (.done (.ok ()))

/-- The map that an operation loaded.  Only an operation that could load it goes on. -/
def loaded (read : Disk) (readFault : Option IoFault) : ServerMap :=
  match read.loadPairedServers readFault with
  | .error _ => ∅
  | .ok servers => servers

/-- The write, with what the operation read.  A file that is no longer there cannot be
removed. -/
def commit (read d : Disk) : StoreOperation → Disk × StoreAnswer
  | .addPairedServer id server readFault writeFault =>
    let (result, d) := d.savePairedServers writeFault ((loaded read readFault).insert id server)
    (d, .done result)
  | .removePairedServer id readFault writeFault =>
    let (result, d) := d.savePairedServers writeFault ((loaded read readFault).erase id)
    (d, .done result)
  | .removeUserFromPairing id username readFault writeFault =>
    match Disk.withoutUser (loaded read readFault) id username with
    | none => (d, .removed (.ok true))
    | some (servers, removed) =>
      let (result, d) := d.savePairedServers writeFault servers
      (d, .removed (result.map fun _ ↦ removed))
  | .clearPairedServers fault =>
    if d.serversFile.isSome then
      let (result, d) := d.clearPairedServers fault
      (d, .done result)
    else (d, .done (.error (.io "No such file or directory (os error 2)")))

/-- The operation cut after its read. -/
def rmw (op : StoreOperation) : Rmw Disk StoreAnswer where
  plan d := op.plan d
  commit read d := op.commit read d

/-- The pieces without interruption are the operation. -/
theorem rmw_run (op : StoreOperation) (d : Disk) : op.rmw.run d = ((op.run d).2, (op.run d).1) := by
  cases op with
  | addPairedServer id server readFault writeFault =>
    cases hload : d.loadPairedServers readFault <;>
      simp only [Rmw.run, rmw, plan, commit, loaded, run, Disk.addPairedServer, hload]
  | removePairedServer id readFault writeFault =>
    cases hload : d.loadPairedServers readFault <;>
      simp only [Rmw.run, rmw, plan, commit, loaded, run, Disk.removePairedServer, hload]
  | removeUserFromPairing id username readFault writeFault =>
    cases hload : d.loadPairedServers readFault with
    | error e => simp only [Rmw.run, rmw, plan, run, Disk.removeUserFromPairing, hload]
    | ok servers =>
      cases hwithout : Disk.withoutUser servers id username <;>
        simp only [Rmw.run, rmw, plan, commit, loaded, run, Disk.removeUserFromPairing, hload,
          hwithout]
  | clearPairedServers fault =>
    cases hfile : d.serversFile with
    | none =>
      have hsame : { d with serversFile := none } = d := by rw [← hfile]
      simp [Rmw.run, rmw, plan, run, Disk.clearPairedServers, hfile, hsame]
    | some file => simp [Rmw.run, rmw, plan, commit, run, hfile]

/-- Operations one after the other. -/
def runInOrder {ι : Type} (ops : ι → StoreOperation) (order : List ι) (d : Disk) : Disk :=
  order.foldl (fun d i ↦ ((ops i).run d).2) d

theorem runAll_rmw {ι : Type} (ops : ι → StoreOperation) (order : List ι) (d : Disk) :
    Rmw.runAll (fun i ↦ (ops i).rmw) order d = runInOrder ops order d := by
  induction order generalizing d with
  | nil => rfl
  | cons i order ih => rw [Rmw.runAll, ih, rmw_run, runInOrder, runInOrder, List.foldl_cons]

end StoreOperation

open StoreOperation

/-- The store and the operations that are to run on it. -/
def storePool {ι : Type} (d : Disk) (ops : ι → StoreOperation) :
    Pool ι Disk (Rmw.Phase Disk StoreAnswer) :=
  ⟨d, fun i ↦ .idle (ops i).rmw⟩

/-- When all operations have finished, the store is as some order of them leaves it, provided
that each write found the file as its operation had read it. -/
theorem store_serializable {ι : Type} [DecidableEq ι] (d : Disk) (ops : ι → StoreOperation)
    {labels : List (ι × Unit)} {q : Pool ι Disk (Rmw.Phase Disk StoreAnswer)}
    (hrun : Rmw.threads.pool.exec (storePool d ops) labels = some q)
    (hunraced : Rmw.threads.pool.Along Rmw.Unraced (storePool d ops) labels)
    (hdone : ∀ i, (q.locals i).IsDone) :
    ∃ order : List ι, order.Nodup ∧ (∀ i, i ∈ order) ∧ q.shared = runInOrder ops order d := by
  obtain ⟨order, hnodup, hall, hstore⟩ := Rmw.serializable (fun _ ↦ rfl) hrun hunraced hdone
  refine ⟨order, hnodup, hall, ?_⟩
  rw [hstore, runAll_rmw]
  rfl

namespace StoreSample

def server (name : String) : PairedServer := ⟨name, "00", ["alice"], 0⟩

/-- A phone is paired while another is. -/
def ops : Bool → StoreOperation
  | false => .addPairedServer "a" (server "a") none none
  | true => .addPairedServer "b" (server "b") none none

def empty : Disk := ⟨none, none⟩

/-- Both read before either writes. -/
def raced : List (Bool × Unit) := [(false, ()), (true, ()), (false, ()), (true, ())]

def unraced : List (Bool × Unit) := [(false, ()), (false, ()), (true, ()), (true, ())]

/-- Whether the store has a pairing under an identifier. -/
def paired (d : Disk) (id : String) : Bool := (d.pairedServers.lookup id).isSome

/-- Every order of the two operations leaves both pairings. -/
theorem paired_runInOrder {order : List Bool} (hnodup : order.Nodup) (hall : ∀ i, i ∈ order) :
    paired (runInOrder ops order empty) "a" = true := by
  rcases Threads.order_of_two hnodup hall with rfl | rfl
  · decide +kernel
  · decide +kernel

end StoreSample

open StoreSample

/-- Two pairings that overlap, and the first is lost. -/
theorem pairing_lost :
    ¬ ∀ labels q, Rmw.threads.pool.exec (storePool empty ops) labels =
        some q → (∀ i, (q.locals i).IsDone) →
      ∃ order : List Bool, order.Nodup ∧ (∀ i, i ∈ order) ∧
        q.shared = runInOrder ops order empty := by
  intro h
  obtain ⟨order, hnodup, hall, hstore⟩ := h raced _ rfl fun i ↦ by cases i <;> trivial
  have hpaired := paired_runInOrder hnodup hall
  rw [← hstore] at hpaired
  exact absurd hpaired (by decide +kernel)

/-- One pairing after the other, and both are kept. -/
theorem store_serializable_unraced :
    ∃ q, Rmw.threads.pool.exec (storePool empty ops) unraced =
        some q ∧
      ∃ order : List Bool, order.Nodup ∧ (∀ i, i ∈ order) ∧
        q.shared = runInOrder ops order empty := by
  obtain ⟨q, hrun⟩ : ∃ q, Rmw.threads.pool.exec (storePool empty ops)
      unraced = some q := ⟨_, rfl⟩
  refine ⟨q, hrun, store_serializable empty ops hrun ?_ fun i ↦ ?_⟩
  · refine ⟨trivial, fun _ h ↦ ?_⟩
    cases h
    refine ⟨rfl, fun _ h ↦ ?_⟩
    cases h
    refine ⟨trivial, fun _ h ↦ ?_⟩
    cases h
    exact ⟨rfl, fun _ _ ↦ trivial⟩
  · cases hrun
    cases i <;> trivial

end TapAuth.Shared
