import OandaV3.Models
import OandaV3.RefCounts

/-! # The runtime file lock

`data/persistence/trade_store.py`: every store of the process holds a share of the lock file of its
database; the first one opens and locks the file, the last one that is closed unlocks it.

A run is any list of openings and closings in one process, with everything that can fail on the way
(`OpenFaults`).  The caller's ledger (`record`) says which stores were opened with success and not
closed since; it knows nothing of the lock table.

* `step_invariant`, `run_invariant`: table, locks and ledger agree after every step.
* `runtimeLock_counts_open_stores`: the lock of a path is held exactly while a store uses it, and
  the reference count is the number of these stores. -/

namespace OandaV3

/-! ### Paths -/

/-- A resolved path: its parts below the root. -/
abbrev ResolvedPath := List String

/-- `str(path)`. -/
def pathText (path : ResolvedPath) : String := "/" ++ "/".intercalate path

/-- `_runtime_lock_path_for`; the root has no name to change. -/
def runtimeLockPathFor (dbPath : ResolvedPath) : Except Exn ResolvedPath :=
  match dbPath.getLast? with
  | some name => .ok (dbPath.dropLast ++ [name ++ ".lock"])
  | none => .error (.valueError "PosixPath('/') has an empty name")

/-- Different databases have different lock files. -/
theorem runtimeLockPathFor_inj {dbPath dbPath' lockPath : ResolvedPath}
    (h : runtimeLockPathFor dbPath = .ok lockPath)
    (h' : runtimeLockPathFor dbPath' = .ok lockPath) : dbPath = dbPath' := by
  unfold runtimeLockPathFor at h h'
  split at h
  · next name hname =>
      split at h'
      · next name' hname' =>
          have hsame := (Except.ok.inj h).trans (Except.ok.inj h').symm
          obtain ⟨hparent, hlock⟩ := List.append_inj' hsame rfl
          have hlast : name = name' := by
            have htext := congrArg String.toList (List.singleton_inj.mp hlock)
            rw [String.toList_append, String.toList_append] at htext
            exact String.toList_injective (List.append_cancel_right htext)
          rw [← List.dropLast_append_getLast? _ hname, ← List.dropLast_append_getLast? _ hname',
            hparent, hlast]
      · cases h'
  · cases h

/-! ### The process -/

/-- `_ProcessRuntimeLock`. -/
abbrev ProcessRuntimeLock := RefCount.Counted ℕ

/-- A `TradeStore` object, as far as its lock is concerned. -/
structure StoreObject where
  dbPath : ResolvedPath
  runtimeLockPath : Option ResolvedPath := none
  /-- `self.db` is not `None`. -/
  hasDb : Bool := false
deriving DecidableEq, Repr

/-- The process: `_PROCESS_RUNTIME_LOCKS`, the locks that the system has granted to its open
handles, and its store objects in the order of their openings. -/
structure LockProcess where
  runtimeLocks : ResolvedPath → Option ProcessRuntimeLock := fun _ => none
  osLocks : List (ℕ × ResolvedPath) := []
  nextHandle : ℕ := 0
  stores : List StoreObject := []

structure OpenFaults where
  /-- The directory of the database cannot be made. -/
  parent : Option Exn := none
  /-- The directory or the file of the lock cannot be made. -/
  lockFile : Option Exn := none
  /-- Another process holds the lock. -/
  lockedElsewhere : Bool := false
  /-- `TinyDB(...)`. -/
  tinyDb : Option Exn := none
  /-- The first read of the database. -/
  read : Option Exn := none
  /-- `portalocker.unlock`, when the opening fails after all. -/
  unlock : Option Exn := none
deriving DecidableEq, Repr

def lockUnavailableMessage (dbPath : ResolvedPath) : String :=
  "Persistence runtime lock unavailable for " ++
    (pathText dbPath ++ ". Another process is already using it.")

/-- `_acquire_runtime_lock`. -/
def acquireRuntimeLock (faults : OpenFaults) (dbPath : ResolvedPath) (p : LockProcess) :
    Except Exn ResolvedPath × LockProcess :=
  match runtimeLockPathFor dbPath with
  | .error e => (.error e, p)
  | .ok lockPath =>
    match p.runtimeLocks lockPath with
    | some existing =>
        (.ok lockPath, { p with
          runtimeLocks := Function.update p.runtimeLocks lockPath
            (some { existing with refcount := existing.refcount + 1 }) })
    | none =>
      match faults.lockFile with
      | some e => (.error e, p)
      | none =>
        -- a lock that is refused leaves nothing but a handle that is closed again
        if faults.lockedElsewhere || p.osLocks.any (fun lock => lock.2 == lockPath) then
          (.error (.runtimeError (lockUnavailableMessage dbPath)),
            { p with nextHandle := p.nextHandle + 1 })
        else
          (.ok lockPath, { p with
            nextHandle := p.nextHandle + 1
            osLocks := p.osLocks ++ [(p.nextHandle, lockPath)]
            runtimeLocks := Function.update p.runtimeLocks lockPath
              (some { handle := p.nextHandle }) })

/-- `_release_runtime_lock`; the handle is closed, and its entry goes, also when the unlocking
fails. -/
def releaseRuntimeLock (unlock : Option Exn) (lockPath : Option ResolvedPath) (p : LockProcess) :
    Except Exn Unit × LockProcess :=
  match lockPath with
  | none => (.ok (), p)
  | some lockPath =>
    match p.runtimeLocks lockPath with
    | none => (.ok (), p)
    | some existing =>
      if 0 < existing.refcount - 1 then
        (.ok (), { p with
          runtimeLocks := Function.update p.runtimeLocks lockPath
            (some { existing with refcount := existing.refcount - 1 }) })
      else
        (unlock.elim (.ok ()) .error, { p with
          osLocks := RefCount.closeHandle existing.handle p.osLocks
          runtimeLocks := Function.update p.runtimeLocks lockPath none })

/-- `TradeStore.close`: the object after it, its result and the process. -/
def closeStore (unlock : Option Exn) (store : StoreObject) (p : LockProcess) :
    StoreObject × Except Exn Unit × LockProcess :=
  ({ store with runtimeLockPath := none, hasDb := false },
    releaseRuntimeLock unlock store.runtimeLockPath p)

/-- The exceptions that a failed opening passes on. -/
def lockUnavailable : Exn → Bool
  | .runtimeError message => Text.contains "runtime lock unavailable" (Text.lower message)
  | _ => false

/-- The `except` branch of `TradeStore.__init__`. -/
def openFailed (faults : OpenFaults) (store : StoreObject) (e : Exn) (p : LockProcess) :
    Except Exn StoreObject × LockProcess :=
  match closeStore faults.unlock store p with
  | (_, .error e', p) => (.error e', p)
  | (store, .ok (), p) => if lockUnavailable e then (.error e, p) else (.ok store, p)

/-- `TradeStore.__init__`. -/
def openStore (faults : OpenFaults) (dbPath : ResolvedPath) (p : LockProcess) :
    Except Exn StoreObject × LockProcess :=
  match faults.parent with
  | some e => (.error e, p)
  | none =>
    match acquireRuntimeLock faults dbPath p with
    | (.error e, p) => openFailed faults { dbPath := dbPath } e p
    | (.ok lockPath, p) =>
      match faults.tinyDb, faults.read with
      | some e, _ => openFailed faults { dbPath := dbPath, runtimeLockPath := some lockPath } e p
      | none, some e =>
          openFailed faults { dbPath := dbPath, runtimeLockPath := some lockPath, hasDb := true } e p
      | none, none => (.ok { dbPath := dbPath, runtimeLockPath := some lockPath, hasDb := true }, p)

/-! ### Runs -/

/-- What a caller does; stores are named by their number. -/
inductive StoreAction where
  | openStore (dbPath : ResolvedPath) (faults : OpenFaults)
  | close (store : ℕ) (unlock : Option Exn)
deriving DecidableEq, Repr

/-- What a caller sees of it: a store with its tables, a store without them, an exception, or the
end of a call of `close`. -/
inductive StoreEvent where
  | opened (dbPath : ResolvedPath)
  | degraded
  | raised (e : Exn)
  | closed (store : ℕ)
deriving DecidableEq, Repr

def LockProcess.step (p : LockProcess) : StoreAction → StoreEvent × LockProcess
  | .openStore dbPath faults =>
    match openStore faults dbPath p with
    | (.error e, p) => (.raised e, p)
    | (.ok store, p) =>
        (if store.hasDb then .opened dbPath else .degraded, { p with stores := p.stores ++ [store] })
  | .close i unlock =>
    match p.stores[i]? with
    | none => (.closed i, p)
    | some store =>
      let (store, _, p) := closeStore unlock store p
      (.closed i, { p with stores := p.stores.set i store })

def LockProcess.run : LockProcess → List StoreAction → List StoreEvent × LockProcess
  | p, [] => ([], p)
  | p, action :: actions =>
      let (event, p) := p.step action
      let (events, p) := p.run actions
      (event :: events, p)

/-- The caller's ledger: for each store the path it uses, when it was opened with success and not
closed since. -/
def record (ledger : List (Option ResolvedPath)) : StoreEvent → List (Option ResolvedPath)
  | .opened dbPath => ledger ++ [some dbPath]
  | .degraded => ledger ++ [none]
  | .raised _ => ledger
  | .closed i => ledger.set i none

def LockProcess.Holds (p : LockProcess) (dbPath : ResolvedPath) : Prop :=
  ∃ lockPath, runtimeLockPathFor dbPath = .ok lockPath ∧ ∃ handle, (handle, lockPath) ∈ p.osLocks

/-- The reference count of the lock of a database. -/
def LockProcess.refcount (p : LockProcess) (dbPath : ResolvedPath) : ℤ :=
  match runtimeLockPathFor dbPath with
  | .ok lockPath => RefCount.count p.runtimeLocks lockPath
  | .error _ => 0

/-! ### Shares of a lock -/

/-- One more user of the lock file of a share. -/
def addShare (users : ResolvedPath → ℕ) (share : Option ResolvedPath) (lockPath : ResolvedPath) :
    ℕ :=
  users lockPath + if share = some lockPath then 1 else 0

theorem addShare_none (users : ResolvedPath → ℕ) : addShare users none = users := by
  funext lockPath
  simp [addShare]

theorem addShare_self (users : ResolvedPath → ℕ) (lockPath : ResolvedPath) :
    addShare users (some lockPath) lockPath = users lockPath + 1 := by
  simp [addShare]

theorem addShare_ne (users : ResolvedPath → ℕ) {lockPath other : ResolvedPath}
    (h : other ≠ lockPath) : addShare users (some lockPath) other = users other := by
  simp [addShare, Ne.symm h]

/-- Locks and counts agree when the lock files have these numbers of users. -/
structure LockProcess.Shared (p : LockProcess) (users : ResolvedPath → ℕ) : Prop where
  balanced : RefCount.Balanced p.runtimeLocks p.osLocks users
  fresh : ∀ handle ∈ p.osLocks.map Prod.fst, handle < p.nextHandle

section Shared

variable {p : LockProcess} {users : ResolvedPath → ℕ} {faults : OpenFaults}
  {dbPath : ResolvedPath}

/-- What an acquisition can do: fail and change no lock, or give one more share. -/
theorem acquireRuntimeLock_cases (h : p.Shared users) (faults : OpenFaults)
    (dbPath : ResolvedPath) :
    (acquireRuntimeLock faults dbPath p).2.stores = p.stores ∧
    ((∃ e, (acquireRuntimeLock faults dbPath p).1 = .error e ∧
        (acquireRuntimeLock faults dbPath p).2.Shared users) ∨
      ∃ lockPath, (acquireRuntimeLock faults dbPath p).1 = .ok lockPath ∧
        runtimeLockPathFor dbPath = .ok lockPath ∧
        (acquireRuntimeLock faults dbPath p).2.Shared (addShare users (some lockPath))) := by
  unfold acquireRuntimeLock
  cases hpath : runtimeLockPathFor dbPath with
  | error e => exact ⟨rfl, Or.inl ⟨e, rfl, h⟩⟩
  | ok lockPath =>
      dsimp only
      cases hentry : p.runtimeLocks lockPath with
      | some existing =>
          refine ⟨rfl, Or.inr ⟨lockPath, rfl, rfl, ?_, h.fresh⟩⟩
          exact h.balanced.retain hentry (addShare_self users lockPath) fun _ => addShare_ne users
      | none =>
          dsimp only
          cases hfile : faults.lockFile with
          | some e => exact ⟨rfl, Or.inl ⟨e, rfl, h⟩⟩
          | none =>
              dsimp only
              split_ifs with hrefused
              · exact ⟨rfl, Or.inl ⟨_, rfl, h.balanced, fun handle hhandle =>
                  Nat.lt_succ_of_lt (h.fresh handle hhandle)⟩⟩
              · have hnew : p.nextHandle ∉ p.osLocks.map Prod.fst :=
                  fun hmem => lt_irrefl _ (h.fresh _ hmem)
                have hfirst : addShare users (some lockPath) lockPath = 1 := by
                  rw [addShare_self, h.balanced.unused _ hentry]
                refine ⟨rfl, Or.inr ⟨lockPath, rfl, rfl, ?_, ?_⟩⟩
                · exact h.balanced.insert hentry hnew hfirst fun _ => addShare_ne users
                · intro handle hhandle
                  rw [List.map_append, List.mem_append] at hhandle
                  rcases hhandle with hold | hlast
                  · exact Nat.lt_succ_of_lt (h.fresh handle hold)
                  · rw [List.mem_singleton.mp hlast]
                    exact Nat.lt_succ_self _

theorem releaseRuntimeLock_shared {share : Option ResolvedPath} (unlock : Option Exn)
    (h : p.Shared (addShare users share)) :
    (releaseRuntimeLock unlock share p).2.stores = p.stores ∧
      (releaseRuntimeLock unlock share p).2.Shared users := by
  unfold releaseRuntimeLock
  cases share with
  | none =>
      rw [addShare_none] at h
      exact ⟨rfl, h⟩
  | some lockPath =>
      have hself := addShare_self users lockPath
      dsimp only
      cases hentry : p.runtimeLocks lockPath with
      | none =>
          have hnone := h.balanced.unused _ hentry
          omega
      | some existing =>
          dsimp only
          have hcount := (h.balanced.entry _ _ hentry).1
          split_ifs with hmore
          · refine ⟨rfl, ?_, h.fresh⟩
            exact h.balanced.release hentry hmore hself.symm fun _ hne => (addShare_ne users hne).symm
          · have hlast : users lockPath = 0 := by omega
            refine ⟨rfl, ?_, fun handle hhandle => ?_⟩
            · exact h.balanced.drop hentry hlast fun _ hne => (addShare_ne users hne).symm
            · exact h.fresh handle ((List.filter_sublist.map _).subset hhandle)

/-- A failed opening gives its share back; the store it may leave has none. -/
theorem openFailed_cases {store : StoreObject} (faults : OpenFaults) (e : Exn)
    (h : p.Shared (addShare users store.runtimeLockPath)) :
    (openFailed faults store e p).2.stores = p.stores ∧
    (openFailed faults store e p).2.Shared users ∧
    ((∃ e', (openFailed faults store e p).1 = .error e') ∨
      (openFailed faults store e p).1 = .ok { dbPath := store.dbPath }) := by
  obtain ⟨hstores, hshared⟩ := releaseRuntimeLock_shared faults.unlock h
  unfold openFailed closeStore
  cases hrelease : releaseRuntimeLock faults.unlock store.runtimeLockPath p with
  | mk result p' =>
      rw [hrelease] at hstores hshared
      cases result with
      | error e' => exact ⟨hstores, hshared, Or.inl ⟨e', rfl⟩⟩
      | ok _ =>
          dsimp only
          split_ifs
          · exact ⟨hstores, hshared, Or.inl ⟨e, rfl⟩⟩
          · exact ⟨hstores, hshared, Or.inr rfl⟩

/-- What an opening can do: raise or leave a store without a share, or open one with a share. -/
theorem openStore_cases (h : p.Shared users) (faults : OpenFaults) (dbPath : ResolvedPath) :
    (openStore faults dbPath p).2.stores = p.stores ∧
    ((openStore faults dbPath p).2.Shared users ∧
        ((∃ e, (openStore faults dbPath p).1 = .error e) ∨
          (openStore faults dbPath p).1 = .ok { dbPath := dbPath }) ∨
      ∃ lockPath, runtimeLockPathFor dbPath = .ok lockPath ∧
        (openStore faults dbPath p).1 = .ok ⟨dbPath, some lockPath, true⟩ ∧
        (openStore faults dbPath p).2.Shared (addShare users (some lockPath))) := by
  unfold openStore
  cases faults.parent with
  | some e => exact ⟨rfl, Or.inl ⟨h, Or.inl ⟨e, rfl⟩⟩⟩
  | none =>
      obtain ⟨hstores, hacquired⟩ := acquireRuntimeLock_cases h faults dbPath
      dsimp only
      cases hacquire : acquireRuntimeLock faults dbPath p with
      | mk result p' =>
          rw [hacquire] at hstores hacquired
          -- an opening that fails after the acquisition
          have hfail : ∀ (store : StoreObject) (e : Exn), store.dbPath = dbPath →
              p'.Shared (addShare users store.runtimeLockPath) →
              (openFailed faults store e p').2.stores = p.stores ∧
              (openFailed faults store e p').2.Shared users ∧
              ((∃ e', (openFailed faults store e p').1 = .error e') ∨
                (openFailed faults store e p').1 = .ok { dbPath := dbPath }) := by
            intro store e hdb hshare
            obtain ⟨hsame, hfailed⟩ := openFailed_cases faults e hshare
            exact ⟨hsame.trans hstores, hdb ▸ hfailed⟩
          rcases hacquired with ⟨e, hresult, hshared⟩ | ⟨lockPath, hresult, hpath, hshared⟩
          · obtain rfl : result = .error e := hresult
            have hnone := hfail { dbPath := dbPath } e rfl (by rwa [addShare_none])
            exact ⟨hnone.1, Or.inl hnone.2⟩
          · obtain rfl : result = .ok lockPath := hresult
            dsimp only
            cases faults.tinyDb with
            | some e =>
                have hfailed := hfail { dbPath := dbPath, runtimeLockPath := some lockPath } e rfl
                  hshared
                exact ⟨hfailed.1, Or.inl hfailed.2⟩
            | none =>
                cases faults.read with
                | some e =>
                    have hfailed := hfail
                      { dbPath := dbPath, runtimeLockPath := some lockPath, hasDb := true } e rfl
                      hshared
                    exact ⟨hfailed.1, Or.inl hfailed.2⟩
                | none => exact ⟨hstores, Or.inr ⟨lockPath, hpath, rfl, hshared⟩⟩

end Shared

theorem lockUnavailable_message (dbPath : ResolvedPath) :
    lockUnavailable (.runtimeError (lockUnavailableMessage dbPath)) = true := by
  have hlower : Text.lower "Persistence runtime lock unavailable for " =
      "persistence " ++ ("runtime lock unavailable" ++ " for ") := by
    decide +kernel
  exact Text.contains_lower_append hlower _

/-- An opening whose lock is refused raises, and changes nothing but the number of handles. -/
theorem openStore_refused {p : LockProcess} {faults : OpenFaults} {dbPath lockPath : ResolvedPath}
    (hpath : runtimeLockPathFor dbPath = .ok lockPath) (hentry : p.runtimeLocks lockPath = none)
    (hparent : faults.parent = none) (hfile : faults.lockFile = none)
    (hrefused : faults.lockedElsewhere = true) :
    openStore faults dbPath p = (.error (.runtimeError (lockUnavailableMessage dbPath)),
      { p with nextHandle := p.nextHandle + 1 }) := by
  have hacquire : acquireRuntimeLock faults dbPath p =
      (.error (.runtimeError (lockUnavailableMessage dbPath)),
        { p with nextHandle := p.nextHandle + 1 }) := by
    simp [acquireRuntimeLock, hpath, hentry, hfile, hrefused]
  simp [openStore, hparent, hacquire, openFailed, closeStore, releaseRuntimeLock,
    lockUnavailable_message]

/-! ### The invariant of a run -/

/-- The database that a store uses, if any. -/
def StoreObject.use (store : StoreObject) : Option ResolvedPath :=
  store.runtimeLockPath.map fun _ => store.dbPath

namespace LockProcess

/-- The number of stores with a share of a lock file. -/
def users (stores : List StoreObject) (lockPath : ResolvedPath) : ℕ :=
  stores.countP fun store => decide (store.runtimeLockPath = some lockPath)

/-- Locks, counts, stores and the caller's ledger agree. -/
structure Invariant (p : LockProcess) (ledger : List (Option ResolvedPath)) : Prop where
  shared : p.Shared (users p.stores)
  path : ∀ store ∈ p.stores, ∀ lockPath, store.runtimeLockPath = some lockPath →
    runtimeLockPathFor store.dbPath = .ok lockPath
  use : p.stores.map StoreObject.use = ledger

variable {p : LockProcess} {ledger : List (Option ResolvedPath)}

theorem users_append (stores : List StoreObject) (store : StoreObject) :
    users (stores ++ [store]) = addShare (users stores) store.runtimeLockPath := by
  funext lockPath
  simp [users, addShare, List.countP_append, List.countP_cons]

theorem users_eq_addShare {stores : List StoreObject} {i : ℕ} {store : StoreObject}
    (hi : stores[i]? = some store) (closed : StoreObject) (hclosed : closed.runtimeLockPath = none) :
    users stores = addShare (users (stores.set i closed)) store.runtimeLockPath := by
  obtain ⟨hlt, rfl⟩ := List.getElem?_eq_some_iff.mp hi
  funext lockPath
  have hsplit : stores = stores.take i ++ stores[i] :: stores.drop (i + 1) := by
    rw [List.getElem_cons_drop, List.take_append_drop]
  have hset := List.set_eq_take_append_cons_drop (l := stores) (i := i) (a := closed)
  rw [if_pos hlt] at hset
  rw [addShare, users, users, hset]
  conv_lhs => rw [hsplit]
  simp only [List.countP_append, List.countP_cons, hclosed]
  simp
  omega

theorem invariant_openStore (h : p.Invariant ledger) (faults : OpenFaults) (dbPath : ResolvedPath) :
    (p.step (.openStore dbPath faults)).2.Invariant
      (record ledger (p.step (.openStore dbPath faults)).1) := by
  obtain ⟨hstores, hcases⟩ := openStore_cases h.shared faults dbPath
  unfold step
  dsimp only
  cases hopen : openStore faults dbPath p with
  | mk result p' =>
      rw [hopen] at hstores hcases
      rcases hcases with ⟨hshared, ⟨e, hresult⟩ | hresult⟩ | ⟨lockPath, hpath, hresult, hshared⟩
      · obtain rfl : result = .error e := hresult
        dsimp only at hstores hshared
        exact ⟨hstores ▸ hshared, hstores ▸ h.path, hstores ▸ h.use⟩
      · obtain rfl : result = .ok { dbPath := dbPath } := hresult
        dsimp only at hstores hshared
        refine ⟨⟨?_, hshared.fresh⟩, ?_, ?_⟩
        · dsimp only
          rw [hstores, users_append, addShare_none]
          exact hshared.balanced
        · intro store hstore
          rcases List.mem_append.mp hstore with hold | hnew
          · exact h.path store (hstores ▸ hold)
          · obtain rfl := List.mem_singleton.mp hnew
            intro lockPath hnone
            cases hnone
        · dsimp only
          rw [hstores, List.map_append, h.use]
          rfl
      · obtain rfl : result = .ok ⟨dbPath, some lockPath, true⟩ := hresult
        dsimp only at hstores hshared
        refine ⟨⟨?_, hshared.fresh⟩, ?_, ?_⟩
        · dsimp only
          rw [hstores, users_append]
          exact hshared.balanced
        · intro store hstore
          rcases List.mem_append.mp hstore with hold | hnew
          · exact h.path store (hstores ▸ hold)
          · obtain rfl := List.mem_singleton.mp hnew
            intro lockPath' hsome
            obtain rfl := Option.some.inj hsome
            exact hpath
        · dsimp only
          rw [hstores, List.map_append, h.use]
          rfl

theorem invariant_close (h : p.Invariant ledger) (i : ℕ) (unlock : Option Exn) :
    (p.step (.close i unlock)).2.Invariant (record ledger (p.step (.close i unlock)).1) := by
  unfold step
  dsimp only
  cases hi : p.stores[i]? with
  | none =>
      have hlength : ledger.length ≤ i := by
        rw [← h.use, List.length_map]
        exact List.getElem?_eq_none_iff.mp hi
      dsimp only [record]
      rw [List.set_eq_of_length_le hlength]
      exact h
  | some store =>
      have hshare := h.shared
      rw [users_eq_addShare hi { store with runtimeLockPath := none, hasDb := false } rfl] at hshare
      obtain ⟨hstores, hshared⟩ := releaseRuntimeLock_shared unlock hshare
      dsimp only [closeStore, record]
      refine ⟨⟨?_, hshared.fresh⟩, ?_, ?_⟩
      · dsimp only
        rw [hstores]
        exact hshared.balanced
      · intro store' hstore'
        rcases List.mem_or_eq_of_mem_set hstore' with hold | rfl
        · exact h.path store' (hstores ▸ hold)
        · intro lockPath hnone
          cases hnone
      · dsimp only
        rw [hstores, List.map_set, h.use]
        rfl

theorem step_invariant (h : p.Invariant ledger) (action : StoreAction) :
    (p.step action).2.Invariant (record ledger (p.step action).1) := by
  cases action with
  | openStore dbPath faults => exact invariant_openStore h faults dbPath
  | close i unlock => exact invariant_close h i unlock

theorem run_invariant (h : p.Invariant ledger) (actions : List StoreAction) :
    (p.run actions).2.Invariant ((p.run actions).1.foldl record ledger) := by
  induction actions generalizing p ledger with
  | nil => exact h
  | cons action actions ih => exact ih (step_invariant h action)

theorem invariant_start : ({} : LockProcess).Invariant [] where
  shared := ⟨RefCount.Balanced.empty, by simp⟩
  path := by simp
  use := rfl

theorem Invariant.users_eq_count (h : p.Invariant ledger) {dbPath lockPath : ResolvedPath}
    (hpath : runtimeLockPathFor dbPath = .ok lockPath) :
    users p.stores lockPath = ledger.count (some dbPath) := by
  rw [← h.use, List.count, List.countP_map]
  refine List.countP_congr fun store hstore => ?_
  simp only [Function.comp_apply, StoreObject.use, decide_eq_true_eq, beq_iff_eq,
    Option.map_eq_some_iff]
  constructor
  · intro hlock
    exact ⟨lockPath, hlock, runtimeLockPathFor_inj (h.path store hstore lockPath hlock) hpath⟩
  · rintro ⟨lockPath', hlock, rfl⟩
    obtain rfl := Except.ok.inj ((h.path store hstore lockPath' hlock).symm.trans hpath)
    exact hlock

theorem Invariant.count_eq_zero (h : p.Invariant ledger) {dbPath : ResolvedPath} {e : Exn}
    (hpath : runtimeLockPathFor dbPath = .error e) : ledger.count (some dbPath) = 0 := by
  rw [List.count_eq_zero, ← h.use]
  intro hmem
  obtain ⟨store, hstore, huse⟩ := List.mem_map.mp hmem
  obtain ⟨lockPath, hlock, rfl⟩ := Option.map_eq_some_iff.mp huse
  rw [h.path store hstore lockPath hlock] at hpath
  cases hpath

theorem Invariant.refcount_eq (h : p.Invariant ledger) (dbPath : ResolvedPath) :
    p.refcount dbPath = ledger.count (some dbPath) := by
  unfold refcount
  cases hpath : runtimeLockPathFor dbPath with
  | error e => rw [h.count_eq_zero hpath]; rfl
  | ok lockPath => rw [← h.users_eq_count hpath]; exact h.shared.balanced.count_eq

theorem Invariant.holds_iff (h : p.Invariant ledger) (dbPath : ResolvedPath) :
    p.Holds dbPath ↔ some dbPath ∈ ledger := by
  rw [← List.count_pos_iff]
  unfold Holds
  constructor
  · rintro ⟨lockPath, hpath, hheld⟩
    rw [← h.users_eq_count hpath]
    exact h.shared.balanced.held_iff.mp hheld
  · intro hpos
    cases hpath : runtimeLockPathFor dbPath with
    | error e => rw [h.count_eq_zero hpath] at hpos; cases hpos
    | ok lockPath =>
        rw [← h.users_eq_count hpath] at hpos
        exact ⟨lockPath, rfl, h.shared.balanced.held_iff.mpr hpos⟩

end LockProcess

/-- **The lock follows the open stores**: after any run of openings and closings the process holds
the lock of a path exactly when a store uses it that was opened with success and not closed since,
and the reference count is the number of these stores. -/
theorem runtimeLock_counts_open_stores (actions : List StoreAction) (dbPath : ResolvedPath) :
    ((LockProcess.run {} actions).2.Holds dbPath ↔
      some dbPath ∈ (LockProcess.run {} actions).1.foldl record []) ∧
    (LockProcess.run {} actions).2.refcount dbPath =
      ((LockProcess.run {} actions).1.foldl record []).count (some dbPath) :=
  have hend := LockProcess.run_invariant LockProcess.invariant_start actions
  ⟨hend.holds_iff dbPath, hend.refcount_eq dbPath⟩

/-- Two stores share the lock; a load that fails gives its share back, and a second `close` gives
back nothing. -/
example :
    let db : ResolvedPath := ["data", "trades.json"]
    let corrupt : OpenFaults := { read := some (.valueError "Expecting value") }
    let p := (LockProcess.run {} [.openStore db {}, .openStore db corrupt, .openStore db {},
      .close 0 none, .close 0 none, .close 1 none]).2
    p.refcount db = 1 ∧ p.osLocks = [(0, ["data", "trades.json.lock"])] := by
  decide

end OandaV3
