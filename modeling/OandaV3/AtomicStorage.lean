import Mathlib.Data.Rat.Defs
import OandaV3.Program
import OandaV3.RuntimeLock

/-! # Atomic writes

`AtomicJSONStorage.write` of `data/persistence/trade_store.py`: the new content goes to a temporary
file next to the database, which then replaces the database.

The operating system is a host that may refuse any call, at any time (`FileStep`): a write that
fails leaves anything in the temporary file, a replacement happens as a whole or not at all.  Other
programs may change all other files between the calls (`Foreign`).

* `rg_writeTemp`, `rg_replaceLoop`: what the two stages of the body do.
* `write_all_or_nothing`: the main result.
* `write_never_torn`: nobody ever reads a part of the new content. -/

namespace OandaV3

open Interaction Program

/-! ### Files -/

/-- The exceptions of a write; `PermissionError` is the one that is retried. -/
inductive WriteError where
  | permissionError (message : String)
  | other (e : Exn)
deriving DecidableEq, Repr

/-- The content of the files, and what is written to their handles but not yet to the files. -/
structure FileSystem where
  files : ResolvedPath → Option String
  pending : ResolvedPath → String := fun _ => ""

def FileSystem.put (fs : FileSystem) (path : ResolvedPath) (content : Option String)
    (pending : String) : FileSystem where
  files := Function.update fs.files path content
  pending := Function.update fs.pending path pending

@[simp] theorem put_files_self (fs : FileSystem) (path : ResolvedPath) (content : Option String)
    (pending : String) : (fs.put path content pending).files path = content :=
  Function.update_self _ _ _

@[simp] theorem put_pending_self (fs : FileSystem) (path : ResolvedPath) (content : Option String)
    (pending : String) : (fs.put path content pending).pending path = pending :=
  Function.update_self _ _ _

theorem put_files_ne (fs : FileSystem) {path other : ResolvedPath} (content : Option String)
    (pending : String) (h : other ≠ path) :
    (fs.put path content pending).files other = fs.files other :=
  Function.update_of_ne h _ _

/-- The operations on the handle of the temporary file. -/
inductive HandleOp where
  | fdopen
  | write (text : String)
  | flush
  | fsync
  | close
deriving DecidableEq, Repr

/-- The calls of the operating system. -/
inductive FileCall where
  | mkstemp (directory : ResolvedPath) (pre suffix : String)
  | handle (op : HandleOp) (path : ResolvedPath)
  | replace (source target : ResolvedPath)
  | sleep (seconds : ℚ)
  | pathExists (path : ResolvedPath)
  | unlink (path : ResolvedPath)
deriving DecidableEq

/-- What a call returns. -/
abbrev FileAns : FileCall → Type
  | .mkstemp .. => ResolvedPath
  | .pathExists _ => Bool
  | _ => Unit

/-- How an operation on a handle changes what is in the file and what is pending. -/
def HandleOp.Result (disk pending disk' pending' : String) : HandleOp → Prop
  | .write text => disk' ++ pending' = disk ++ pending ++ text
  | .flush => disk' = disk ++ pending ∧ pending' = ""
  | .close => disk' = disk ++ pending ∧ pending' = ""
  | .fdopen => disk' = disk ∧ pending' = pending
  | .fsync => disk' = disk ∧ pending' = pending

/-- What a call may do.  The name of a temporary file is free, and a file can always be unlinked. -/
inductive FileStep : (c : FileCall) → FileSystem → Except WriteError (FileAns c) → FileSystem → Prop
  | mkstemp {directory pre suffix fs} (random : String)
      (hfree : fs.files (directory ++ [pre ++ random ++ suffix]) = none) :
      FileStep (.mkstemp directory pre suffix) fs (.ok (directory ++ [pre ++ random ++ suffix]))
        (fs.put (directory ++ [pre ++ random ++ suffix]) (some "") "")
  | mkstempFails {directory pre suffix fs} (e : WriteError) :
      FileStep (.mkstemp directory pre suffix) fs (.error e) fs
  | handle {op path fs disk disk' pending'} (hdisk : fs.files path = some disk)
      (hop : op.Result disk (fs.pending path) disk' pending') :
      FileStep (.handle op path) fs (.ok ()) (fs.put path (some disk') pending')
  | handleFails {op path fs} (e : WriteError) (disk' pending' : String) :
      FileStep (.handle op path) fs (.error e) (fs.put path (some disk') pending')
  | replace {source target fs content} (hsource : fs.files source = some content) :
      FileStep (.replace source target) fs (.ok ())
        ((fs.put target (some content) (fs.pending target)).put source none "")
  | replaceFails {source target fs} (e : WriteError) :
      FileStep (.replace source target) fs (.error e) fs
  | sleep {seconds fs} : FileStep (.sleep seconds) fs (.ok ()) fs
  | pathExists {path fs} : FileStep (.pathExists path) fs (.ok (fs.files path).isSome) fs
  | unlink {path fs} : FileStep (.unlink path) fs (.ok ()) (fs.put path none "")

def fileHost : Host FileCall FileAns WriteError FileSystem := ⟨FileStep⟩

/-! ### The write -/

abbrev FileProgram (α : Type) := Program FileCall FileAns WriteError α

/-- `path.name`. -/
def pathName (path : ResolvedPath) : String := path.getLast?.getD ""

/-- The temporary file of a path, with the random part of its name. -/
def tempPath (path : ResolvedPath) (random : String) : ResolvedPath :=
  path.dropLast ++ [pathName path ++ "." ++ random ++ ".tmp"]

/-- `with os.fdopen(...)`: write, flush and sync, and close in any case. -/
def writeTemp (temp : ResolvedPath) (serialized : String) : FileProgram Unit :=
  (perform (FileCall.handle .fdopen temp)).bind fun _ =>
    tryFinally
      ((perform (FileCall.handle (.write serialized) temp)).bind fun _ =>
        (perform (FileCall.handle .flush temp)).bind fun _ => perform (FileCall.handle .fsync temp))
      (perform (FileCall.handle .close temp) : FileProgram Unit)

/-- The loop over the attempts that are left, of `attempts` in all. -/
def replaceLoop (temp path : ResolvedPath) (attempts : ℕ) : List ℕ → FileProgram Unit
  | [] => done ()
  | attempt :: rest =>
      (Program.attempt (perform (FileCall.replace temp path) : FileProgram Unit)).bind fun result =>
        match result with
        | .ok _ => done ()
        | .error (.permissionError message) =>
            if attempts - 1 ≤ attempt then raise (.permissionError message)
            else (perform (FileCall.sleep (5 / 100 * (attempt + 1)))).bind fun _ =>
              replaceLoop temp path attempts rest
        | .error e => raise e

/-- The `finally` branch: the temporary file goes, if it is still there. -/
def removeTemp (temp : ResolvedPath) : FileProgram Unit :=
  (perform (FileCall.pathExists temp)).bind fun present =>
    if present then perform (FileCall.unlink temp) else done ()

/-- `AtomicJSONStorage.write`; `dumps` is `json.dumps` with the arguments of the storage. -/
def AtomicJSONStorage.write {δ : Type} (dumps : δ → Except WriteError String) (path : ResolvedPath)
    (data : δ) : FileProgram Unit :=
  (ofExcept (dumps data)).bind fun serialized =>
    (perform (FileCall.mkstemp path.dropLast (pathName path ++ ".") ".tmp")).bind fun temp =>
      tryFinally
        ((writeTemp temp serialized).bind fun _ => replaceLoop temp path 5 (List.range 5))
        (removeTemp temp)

/-! ### The files of a write -/

/-- The database and its temporary files. -/
def Own (path other : ResolvedPath) : Prop := other = path ∨ ∃ random, other = tempPath path random

/-- Other programs leave the database and its temporary files alone. -/
def Foreign (path : ResolvedPath) (fs fs' : FileSystem) : Prop :=
  ∀ other, Own path other → fs'.files other = fs.files other ∧ fs'.pending other = fs.pending other

/-- A call of the write leaves all other files alone, and the database as it is unless it puts a
complete new content there. -/
structure WriteStep (path : ResolvedPath) (new : String → Prop) (fs fs' : FileSystem) : Prop where
  others : ∀ other, ¬Own path other → fs'.files other = fs.files other
  database : fs'.files path = fs.files path ∨ ∃ text, new text ∧ fs'.files path = some text

theorem Foreign.refl (path : ResolvedPath) (fs : FileSystem) : Foreign path fs fs :=
  fun _ _ => ⟨rfl, rfl⟩

theorem Foreign.trans {path : ResolvedPath} (a b c : FileSystem) (h : Foreign path a b)
    (h' : Foreign path b c) : Foreign path a c := fun other hown =>
  ⟨(h' other hown).1.trans (h other hown).1, (h' other hown).2.trans (h other hown).2⟩

theorem tempPath_ne (path : ResolvedPath) (random : String) : tempPath path random ≠ path := by
  unfold tempPath pathName
  cases hlast : path.getLast? with
  | none =>
      rw [List.getLast?_eq_none_iff.mp hlast]
      simp
  | some name =>
      intro hsame
      have hpath := List.dropLast_append_getLast? _ hlast
      have hname := List.singleton_inj.mp (List.append_cancel_left (hsame.trans hpath.symm))
      have hlength := congrArg String.length hname
      simp only [Option.getD_some, String.length_append] at hlength
      have htmp : ".tmp".length = 4 := rfl
      omega

theorem WriteStep.refl (path : ResolvedPath) (new : String → Prop) (fs : FileSystem) :
    WriteStep path new fs fs := ⟨fun _ _ => rfl, Or.inl rfl⟩

theorem files_put_of_not_own {path own : ResolvedPath} (hown : Own path own) (fs : FileSystem)
    (content : Option String) (pending : String) {other : ResolvedPath} (hother : ¬Own path other) :
    (fs.put own content pending).files other = fs.files other := by
  refine put_files_ne _ _ _ ?_
  rintro rfl
  exact hother hown

theorem writeStep_put {path temp : ResolvedPath} {new : String → Prop}
    (htemp : ∃ random, temp = tempPath path random) (fs : FileSystem) (content : Option String)
    (pending : String) : WriteStep path new fs (fs.put temp content pending) where
  others := fun _ hother => files_put_of_not_own (Or.inr htemp) _ _ _ hother
  database := by
    obtain ⟨random, rfl⟩ := htemp
    exact Or.inl (put_files_ne _ _ _ (tempPath_ne path random).symm)

/-- The file system in the course of a write: what is in the database, in the temporary file and on
its handle; the other temporary files are the ones before. -/
structure During (before : FileSystem) (path temp : ResolvedPath) (db disk : Option String)
    (pending : String) (fs : FileSystem) : Prop where
  db : fs.files path = db
  disk : fs.files temp = disk
  pending : fs.pending temp = pending
  others : ∀ random, tempPath path random ≠ temp →
    fs.files (tempPath path random) = before.files (tempPath path random)

section write

variable {before fs fs' : FileSystem} {path temp : ResolvedPath} {db disk : Option String}
  {pending : String} {new : String → Prop}

theorem During.foreign (h : During before path temp db disk pending fs)
    (htemp : ∃ random, temp = tempPath path random) (hforeign : Foreign path fs fs') :
    During before path temp db disk pending fs' where
  db := (hforeign path (Or.inl rfl)).1.trans h.db
  disk := (hforeign temp (Or.inr htemp)).1.trans h.disk
  pending := (hforeign temp (Or.inr htemp)).2.trans h.pending
  others := fun random hne => (hforeign _ (Or.inr ⟨random, rfl⟩)).1.trans (h.others random hne)

theorem During.put (h : During before path temp db disk pending fs)
    (htemp : ∃ random, temp = tempPath path random) (disk' : Option String) (pending' : String) :
    During before path temp db disk' pending' (fs.put temp disk' pending') where
  db := by
    obtain ⟨random, rfl⟩ := htemp
    rw [put_files_ne _ _ _ (tempPath_ne path random).symm, h.db]
  disk := put_files_self _ _ _ _
  pending := put_pending_self _ _ _ _
  others := fun random hne => (put_files_ne _ _ _ hne).trans (h.others random hne)

/-- The replacement: the database has the content, the temporary file is gone. -/
theorem During.replaced {content : String}
    (h : During before path temp db (some content) pending fs)
    (htemp : ∃ random, temp = tempPath path random) (pending' : String) :
    During before path temp (some content) none ""
      ((fs.put path (some content) pending').put temp none "") where
  db := by
    obtain ⟨random, rfl⟩ := htemp
    rw [put_files_ne _ _ _ (tempPath_ne path random).symm, put_files_self]
  disk := put_files_self _ _ _ _
  pending := put_pending_self _ _ _ _
  others := fun random hne => by
    rw [put_files_ne _ _ _ hne, put_files_ne _ _ _ (tempPath_ne path random), h.others random hne]

/-! ### The stages -/

theorem rg_handle {op : HandleOp} {disk : String} {α : Type} {f : Unit → FileProgram α}
    {Q : Except WriteError α → FileSystem → Prop} (htemp : ∃ random, temp = tempPath path random)
    (h : During before path temp db (some disk) pending fs)
    (hok : ∀ disk' pending' t, op.Result disk pending disk' pending' →
      During before path temp db (some disk') pending' t →
      (f ()).Rg fileHost (Foreign path) (WriteStep path new) Q t)
    (herr : ∀ e disk' pending' t, During before path temp db (some disk') pending' t →
      Q (.error e) t) :
    ((perform (FileCall.handle op temp)).bind f).Rg fileHost (Foreign path) (WriteStep path new)
      Q fs := by
  refine rg_perform fun s₁ hs₁ r s₂ hstep => ?_
  have h₁ := h.foreign htemp hs₁
  cases hstep with
  | @handle _ _ _ disk₁ disk' pending' hdisk hop =>
      obtain rfl : disk = disk₁ := Option.some.inj (h₁.disk.symm.trans hdisk)
      rw [h₁.pending] at hop
      exact ⟨writeStep_put htemp _ _ _, hok _ _ _ hop (h₁.put htemp _ _)⟩
  | handleFails e disk' pending' =>
      exact ⟨writeStep_put htemp _ _ _, fun s₃ hs₃ =>
        herr e disk' pending' s₃ ((h₁.put htemp _ _).foreign htemp hs₃)⟩

theorem rg_handle_last {op : HandleOp} {disk : String}
    {Q : Except WriteError Unit → FileSystem → Prop}
    (htemp : ∃ random, temp = tempPath path random)
    (h : During before path temp db (some disk) pending fs)
    (hok : ∀ disk' pending' t, op.Result disk pending disk' pending' →
      During before path temp db (some disk') pending' t → Q (.ok ()) t)
    (herr : ∀ e disk' pending' t, During before path temp db (some disk') pending' t →
      Q (.error e) t) :
    (perform (FileCall.handle op temp) : FileProgram Unit).Rg fileHost (Foreign path)
      (WriteStep path new) Q fs := by
  rw [← bind_done (perform (FileCall.handle op temp) : FileProgram Unit)]
  exact rg_handle htemp h
    (fun disk' pending' t hop ht t' ht' => hok disk' pending' t' hop (ht.foreign htemp ht')) herr

/-- The temporary file is there; the database is untouched. -/
def Untouched (before : FileSystem) (path temp : ResolvedPath) (fs : FileSystem) : Prop :=
  ∃ disk pending, During before path temp (before.files path) disk pending fs

/-- The text is complete in the temporary file, or the writing has failed. -/
theorem rg_writeTemp (serialized : String) (htemp : ∃ random, temp = tempPath path random)
    (h : During before path temp (before.files path) (some "") "" fs) :
    (writeTemp temp serialized).Rg fileHost (Foreign path) (WriteStep path new)
      (After (During before path temp (before.files path) (some serialized) "")
        (Untouched before path temp)) fs := by
  -- before the handle is closed, a part of the text may be pending
  let M : Except WriteError Unit → FileSystem → Prop := fun r t => ∃ disk pending,
    During before path temp (before.files path) (some disk) pending t ∧
      ∀ a, r = .ok a → disk ++ pending = serialized
  have herr : ∀ (e : WriteError) (disk' pending' : String) (t : FileSystem),
      During before path temp (before.files path) (some disk') pending' t → M (.error e) t :=
    fun e disk' pending' t ht => ⟨disk', pending', ht, fun _ hr => nomatch hr⟩
  refine rg_handle htemp h (fun disk₁ pending₁ t₁ hopen h₁ => ?_)
    fun e disk' pending' t ht => ⟨_, _, ht⟩
  obtain ⟨rfl, rfl⟩ := hopen
  refine rg_tryFinally (M := M) (Foreign.refl path) ?_ ?_
  · refine rg_handle htemp h₁ (fun disk₂ pending₂ t₂ hwrite h₂ => ?_) herr
    refine rg_handle htemp h₂ (fun disk₃ pending₃ t₃ hflush h₃ => ?_) herr
    refine rg_handle_last htemp h₃ (fun disk₄ pending₄ t₄ hsync h₄ => ?_) herr
    obtain ⟨rfl, rfl⟩ := hsync
    obtain ⟨rfl, rfl⟩ := hflush
    exact ⟨_, _, h₄, fun _ _ => by simpa [HandleOp.Result] using hwrite⟩
  · rintro r t ⟨disk, pending, ht, htext⟩
    refine rg_handle_last htemp ht (fun disk' pending' t' hclose ht' => ?_)
      fun e disk' pending' t' ht' => ⟨_, _, ht'⟩
    obtain ⟨rfl, rfl⟩ := hclose
    intro t'' ht''
    cases r with
    | ok a =>
        have hdone := ht'.foreign htemp ht''
        rw [htext a rfl] at hdone
        exact hdone
    | error e => exact ⟨_, _, ht'.foreign htemp ht''⟩

/-- While attempts are left, the replacement is made or the loop raises; it never just ends. -/
theorem rg_replaceLoop {serialized : String} (hnew : new serialized)
    (htemp : ∃ random, temp = tempPath path random)
    {attempts left attempt : ℕ} (hleft : attempt + left = attempts) (hpos : 0 < left)
    (h : During before path temp (before.files path) (some serialized) pending fs) :
    (replaceLoop temp path attempts (List.range' attempt left)).Rg fileHost (Foreign path)
      (WriteStep path new)
      (After (fun t => ∃ pending, During before path temp (some serialized) none pending t)
        (Untouched before path temp)) fs := by
  induction left generalizing attempt fs with
  | zero => cases hpos
  | succ left ih =>
      rw [List.range'_succ, replaceLoop]
      refine rg_bind (Foreign.refl path) (rg_attempt ?_)
      intro s₁ hs₁ r s₂ hstep
      have h₁ := h.foreign htemp hs₁
      cases hstep with
      | @replace _ _ _ content hsource =>
          obtain rfl : serialized = content := Option.some.inj (h₁.disk.symm.trans hsource)
          have hinstalled := h₁.replaced htemp (s₁.pending path)
          have hothers : ∀ other, ¬Own path other → ((s₁.put path (some serialized)
              (s₁.pending path)).put temp none "").files other = s₁.files other :=
            fun other hother => (files_put_of_not_own (Or.inr htemp) _ _ _ hother).trans
              (files_put_of_not_own (Or.inl rfl) _ _ _ hother)
          refine ⟨⟨hothers, Or.inr ⟨serialized, hnew, hinstalled.db⟩⟩, ?_⟩
          refine fun s₃ hs₃ s₄ hs₄ => ⟨"", ?_⟩
          exact (hinstalled.foreign htemp hs₃).foreign htemp hs₄
      | replaceFails e =>
          refine ⟨WriteStep.refl _ _ _, fun s₃ hs₃ => ?_⟩
          have h₃ := h₁.foreign htemp hs₃
          cases e with
          | other e => exact fun s₄ hs₄ => ⟨_, _, h₃.foreign htemp hs₄⟩
          | permissionError message =>
              dsimp only
              split_ifs with hlast
              · exact fun s₄ hs₄ => ⟨_, _, h₃.foreign htemp hs₄⟩
              · refine rg_perform fun s₄ hs₄ r s₅ hstep => ?_
                cases hstep with
                | sleep =>
                    refine ⟨WriteStep.refl _ _ _, ih (by omega) (by omega) ?_⟩
                    exact h₃.foreign htemp hs₄

/-- After the `finally` branch the temporary file is gone. -/
theorem rg_removeTemp {α : Type} {Q : Except WriteError α → FileSystem → Prop}
    {r : Except WriteError α} (htemp : ∃ random, temp = tempPath path random)
    (h : During before path temp db disk pending fs)
    (hQ : ∀ pending' t, During before path temp db none pending' t → Q r t) :
    (removeTemp temp).Rg fileHost (Foreign path) (WriteStep path new)
      (AfterCleanup (Foreign path) Q r) fs := by
  refine rg_perform fun s₁ hs₁ r s₂ hstep => ?_
  have h₁ := h.foreign htemp hs₁
  cases hstep with
  | pathExists =>
      refine ⟨WriteStep.refl _ _ _, ?_⟩
      dsimp only
      split_ifs with hpresent
      · intro s₃ hs₃ r s₄ hstep
        have h₃ := h₁.foreign htemp hs₃
        cases hstep with
        | unlink =>
            refine ⟨writeStep_put htemp _ _ _, fun s₅ hs₅ s₆ hs₆ => hQ "" _ ?_⟩
            exact ((h₃.put htemp none "").foreign htemp hs₅).foreign htemp hs₆
      · intro s₃ hs₃ s₄ hs₄
        have hgone : disk = none := by
          rw [h₁.disk] at hpresent
          exact Option.not_isSome_iff_eq_none.mp hpresent
        subst hgone
        exact hQ _ _ ((h₁.foreign htemp hs₃).foreign htemp hs₄)

/-- What a write leaves behind: no temporary file of its own, and in the database the complete new
content if it returned, the old content if it raised. -/
def AllOrNothing {δ : Type} (dumps : δ → Except WriteError String) (path : ResolvedPath) (data : δ)
    (before : FileSystem) (r : Except WriteError Unit) (after : FileSystem) : Prop :=
  (∀ random, after.files (tempPath path random) = before.files (tempPath path random)) ∧
  ((r = .ok () ∧ ∃ serialized, dumps data = .ok serialized ∧ after.files path = some serialized) ∨
    ((∃ e, r = .error e) ∧ after.files path = before.files path))

theorem allOrNothing_of_foreign {δ : Type} {dumps : δ → Except WriteError String} {data : δ}
    (e : WriteError) (h : Foreign path before fs) :
    AllOrNothing dumps path data before (.error e) fs :=
  ⟨fun random => (h _ (Or.inr ⟨random, rfl⟩)).1, Or.inr ⟨⟨e, rfl⟩, (h path (Or.inl rfl)).1⟩⟩

/-- No temporary file is left when the one of the write, whose name was free, is gone. -/
theorem During.temps (h : During before path temp db none pending fs)
    (hfree : before.files temp = none) (random : String) :
    fs.files (tempPath path random) = before.files (tempPath path random) := by
  by_cases hsame : tempPath path random = temp
  · rw [hsame, h.disk, hfree]
  · exact h.others random hsame

theorem rg_write {δ : Type} (dumps : δ → Except WriteError String) (path : ResolvedPath) (data : δ)
    (before : FileSystem) :
    (AtomicJSONStorage.write dumps path data).Rg fileHost (Foreign path)
      (WriteStep path fun text => dumps data = .ok text) (AllOrNothing dumps path data before)
      before := by
  refine rg_ofExcept (fun serialized hdumps => ?_) fun e _ s' hs' => allOrNothing_of_foreign e hs'
  refine rg_perform fun s₁ hs₁ r s₂ hstep => ?_
  cases hstep with
  | mkstempFails e =>
      exact ⟨WriteStep.refl _ _ _, fun s₃ hs₃ =>
        allOrNothing_of_foreign e (Foreign.trans _ _ _ hs₁ hs₃)⟩
  | mkstemp random hfree =>
      have htemp : ∃ random', tempPath path random = tempPath path random' := ⟨random, rfl⟩
      have hbefore : before.files (tempPath path random) = none :=
        (hs₁ _ (Or.inr htemp)).1.symm.trans hfree
      have hstart : During before path (tempPath path random) (before.files path) (some "") ""
          (s₁.put (tempPath path random) (some "") "") := by
        refine ⟨?_, put_files_self _ _ _ _, put_pending_self _ _ _ _, fun random' hne => ?_⟩
        · rw [put_files_ne _ _ _ (tempPath_ne path random).symm]
          exact (hs₁ path (Or.inl rfl)).1
        · rw [put_files_ne _ _ _ hne]
          exact (hs₁ _ (Or.inr ⟨random', rfl⟩)).1
      refine ⟨writeStep_put htemp _ _ _, ?_⟩
      refine rg_tryFinally (M := After (fun t => ∃ pending, During before path
          (tempPath path random) (some serialized) none pending t)
          (Untouched before path (tempPath path random))) (Foreign.refl path)
        (rg_bind_after (Foreign.refl path) (rg_writeTemp serialized htemp hstart)
          (fun _ t ht => ?_) fun _ _ ht => ht) fun r t hr => ?_
      · rw [List.range_eq_range']
        exact rg_replaceLoop hdumps htemp (by omega) (by omega) ht
      · cases r with
        | ok _ =>
            obtain ⟨pending, hinstalled⟩ := hr
            refine rg_removeTemp htemp hinstalled fun pending' t' ht' => ?_
            exact ⟨ht'.temps hbefore, Or.inl ⟨rfl, serialized, hdumps, ht'.db⟩⟩
        | error e =>
            obtain ⟨disk, pending, huntouched⟩ := hr
            refine rg_removeTemp htemp huntouched fun pending' t' ht' => ?_
            exact ⟨ht'.temps hbefore, Or.inr ⟨⟨e, rfl⟩, ht'.db⟩⟩

end write

/-- **A write is all or nothing**: however its calls fail, it ends with the complete new content in
the database if it returned and with the old content if it raised, and leaves no temporary file. -/
theorem write_all_or_nothing {δ : Type} (dumps : δ → Except WriteError String) (path : ResolvedPath)
    (data : δ) {before after : FileSystem} {r : Except WriteError Unit}
    (h : (AtomicJSONStorage.write dumps path data).Ends fileHost (Foreign path) before r after) :
    (∀ random, after.files (tempPath path random) = before.files (tempPath path random)) ∧
    ((r = .ok () ∧
        ∃ serialized, dumps data = .ok serialized ∧ after.files path = some serialized) ∨
      ((∃ e, r = .error e) ∧ after.files path = before.files path)) :=
  h.post (Foreign.refl path) Foreign.trans (fun _ _ hstep => hstep) (rg_write dumps path data before)

theorem FileStep.handle_put {op : HandleOp} {fs : FileSystem} {path : ResolvedPath}
    {disk pending disk' pending' : String} (hop : op.Result disk pending disk' pending') :
    FileStep (.handle op path) (fs.put path (some disk) pending) (.ok ())
      ((fs.put path (some disk) pending).put path (some disk') pending') :=
  .handle (put_files_self _ _ _ _) (by rwa [put_pending_self])

/-- A write whose first replacement is refused. -/
theorem write_retried :
    let before : FileSystem := { files := fun path => if path = ["db"] then some "old" else none }
    let temp : ResolvedPath := tempPath ["db"] "0"
    let written := (((((before.put temp (some "") "").put temp (some "") "").put temp (some "")
      "new").put temp (some "new") "").put temp (some "new") "").put temp (some "new") ""
    let after := (written.put ["db"] (some "new") (written.pending ["db"])).put temp none ""
    (∀ random, after.files (tempPath ["db"] random) = before.files (tempPath ["db"] random)) ∧
    (((Except.ok () : Except WriteError Unit) = .ok () ∧ ∃ serialized,
        (Except.ok "new" : Except WriteError String) = .ok serialized ∧
        after.files ["db"] = some serialized) ∨
      ((∃ e, (Except.ok () : Except WriteError Unit) = .error e) ∧
        after.files ["db"] = before.files ["db"])) := by
  intro before temp written after
  refine write_all_or_nothing (fun text : String => .ok text) ["db"] "new" ?_
  refine .call (FileStep.mkstemp "0" (by decide)) ?_
  refine .call (FileStep.handle_put ⟨rfl, rfl⟩) ?_
  refine .call (FileStep.handle_put (rfl : "" ++ "new" = "" ++ "" ++ "new")) ?_
  refine .call (FileStep.handle_put ⟨rfl, rfl⟩) ?_
  refine .call (FileStep.handle_put ⟨rfl, rfl⟩) ?_
  refine .call (FileStep.handle_put ⟨rfl, rfl⟩) ?_
  refine .call (FileStep.replaceFails (.permissionError "in use")) ?_
  refine .call FileStep.sleep ?_
  refine .call (FileStep.replace (put_files_self _ _ _ _)) ?_
  refine .call FileStep.pathExists ?_
  exact .done

/-- At every moment of a write the database holds the old content or the complete new one. -/
theorem write_never_torn {δ : Type} (dumps : δ → Except WriteError String) (path : ResolvedPath)
    (data : δ) {before fs : FileSystem}
    {tr : List (Event FileCall FileAns WriteError FileSystem Unit)}
    (h : (AtomicJSONStorage.write dumps path data).Reaches fileHost (Foreign path) before tr fs) :
    fs.files path = before.files path ∨
      ∃ serialized, dumps data = .ok serialized ∧ fs.files path = some serialized := by
  refine h.invariant (Foreign.refl path) Foreign.trans (fun _ _ hstep => hstep)
    (rg_write dumps path data before) (I := fun fs => fs.files path = before.files path ∨
      ∃ serialized, dumps data = .ok serialized ∧ fs.files path = some serialized) (Or.inl rfl)
    (fun a b hforeign hI => ?_) fun a b hstep hI => ?_
  · rwa [(hforeign path (Or.inl rfl)).1]
  · rcases hstep.database with hsame | hnew
    · rwa [hsame]
    · exact Or.inr hnew

end OandaV3
