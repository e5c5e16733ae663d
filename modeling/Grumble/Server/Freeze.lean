import Grumble.Wire.Bytes

namespace Grumble.Server

/-! # Freezing a server to disk

`freezeToFile` writes the server's snapshot to `main.fz` in the server's
directory `<DataDir>/servers/<id>`. It closes the freeze log, serializes the
server (`server.Freeze()`, then `proto.Marshal`), and writes the bytes to a new
temporary file (`os.CreateTemp(dir, ".main.fz_")`), which it syncs and closes.
It then moves the file over `main.fz`: with `os.Rename` when there is no
`main.fz` yet, and otherwise with `replacefile.ReplaceFile`, which keeps the old
snapshot as `backup.fz`.

Each system call is one atomic step whose answer the environment gives. The
process may stop, or the machine lose power, between any two steps. Names are
journaled: a power failure leaves every name as it was and every file as of its
last `Sync`. The server calls `freezeToFile` again and again, and may reopen the
freeze log between two calls.
-/

/-- A name in the server's directory: `main.fz`, `backup.fz`, or the `index`-th
name `os.CreateTemp(dir, ".main.fz_")` makes. That name starts with a dot, so it
is neither of the other two. -/
inductive Path
  | main
  | backup
  | temp (index : Nat)
deriving DecidableEq, Repr

/-- A file: the bytes a read returns, and the bytes as of its last `Sync`, which
are what a power failure leaves. -/
structure Inode where
  contents : List UInt8
  synced : List UInt8
deriving DecidableEq, Repr

/-- The server's directory: the file each name points to, the files, and the
next file and temporary name the system hands out. -/
structure Disk where
  paths : Path → Option Nat
  inodes : Nat → Inode
  nextInode : Nat
  nextTemp : Nat

namespace Disk

/-- The bytes of the file `path` names, if it names one. -/
def read (disk : Disk) (path : Path) : Option (List UInt8) :=
  (disk.paths path).map fun file => (disk.inodes file).contents

/-- The directory after a power failure: every file cut back to its last `Sync`. -/
def afterPowerLoss (disk : Disk) : Disk :=
  { disk with inodes := fun file => ⟨(disk.inodes file).synced, (disk.inodes file).synced⟩ }

/-- `os.CreateTemp`: a new empty file under a fresh temporary name. -/
def createTemp (disk : Disk) : Disk where
  paths := Function.update disk.paths (.temp disk.nextTemp) (some disk.nextInode)
  inodes := Function.update disk.inodes disk.nextInode ⟨[], []⟩
  nextInode := disk.nextInode + 1
  nextTemp := disk.nextTemp + 1

/-- `f.Write`: `bytes` appended to the open file. -/
def append (disk : Disk) (file : Nat) (bytes : List UInt8) : Disk :=
  { disk with
    inodes := Function.update disk.inodes file ⟨(disk.inodes file).contents ++ bytes, (disk.inodes file).synced⟩ }

/-- `f.Sync`: the file's bytes made durable. -/
def sync (disk : Disk) (file : Nat) : Disk :=
  { disk with
    inodes := Function.update disk.inodes file ⟨(disk.inodes file).contents, (disk.inodes file).contents⟩ }

/-- `os.Rename(src, dst)`: `dst` names what `src` named, and `src` nothing. -/
def rename (disk : Disk) (src dst : Path) : Disk :=
  { disk with paths := Function.update (Function.update disk.paths dst (disk.paths src)) src none }

/-- Modelled from the spec: `replacefile.ReplaceFile(dst, src, backup, 0)`, the
"OS-level atomic-replace primitive (with a backup alongside)" of the virtual
server's freezing: `kept` names what `dst` named, `dst` what `src` named, and
`src` nothing. A failed call changes nothing. -/
def replace (disk : Disk) (dst src kept : Path) : Disk :=
  { disk with
    paths := Function.update (Function.update (Function.update disk.paths kept (disk.paths dst))
      dst (disk.paths src)) src none }

@[simp] theorem createTemp_paths (disk : Disk) (path : Path) :
    disk.createTemp.paths path = if path = .temp disk.nextTemp then some disk.nextInode else disk.paths path :=
  Function.update_apply _ _ _ _
@[simp] theorem createTemp_inodes (disk : Disk) (file : Nat) :
    disk.createTemp.inodes file = if file = disk.nextInode then ⟨[], []⟩ else disk.inodes file :=
  Function.update_apply _ _ _ _
@[simp] theorem createTemp_nextInode (disk : Disk) : disk.createTemp.nextInode = disk.nextInode + 1 := rfl
@[simp] theorem createTemp_nextTemp (disk : Disk) : disk.createTemp.nextTemp = disk.nextTemp + 1 := rfl
@[simp] theorem append_paths (disk : Disk) (file : Nat) (bytes : List UInt8) :
    (disk.append file bytes).paths = disk.paths := rfl
@[simp] theorem append_inodes (disk : Disk) (file : Nat) (bytes : List UInt8) (other : Nat) :
    (disk.append file bytes).inodes other =
      if other = file then ⟨(disk.inodes file).contents ++ bytes, (disk.inodes file).synced⟩
      else disk.inodes other :=
  Function.update_apply _ _ _ _
@[simp] theorem append_nextInode (disk : Disk) (file : Nat) (bytes : List UInt8) :
    (disk.append file bytes).nextInode = disk.nextInode := rfl
@[simp] theorem append_nextTemp (disk : Disk) (file : Nat) (bytes : List UInt8) :
    (disk.append file bytes).nextTemp = disk.nextTemp := rfl
@[simp] theorem sync_paths (disk : Disk) (file : Nat) : (disk.sync file).paths = disk.paths := rfl
@[simp] theorem sync_inodes (disk : Disk) (file other : Nat) :
    (disk.sync file).inodes other =
      if other = file then ⟨(disk.inodes file).contents, (disk.inodes file).contents⟩ else disk.inodes other :=
  Function.update_apply _ _ _ _
@[simp] theorem sync_nextInode (disk : Disk) (file : Nat) : (disk.sync file).nextInode = disk.nextInode := rfl
@[simp] theorem sync_nextTemp (disk : Disk) (file : Nat) : (disk.sync file).nextTemp = disk.nextTemp := rfl
@[simp] theorem rename_paths (disk : Disk) (src dst path : Path) :
    (disk.rename src dst).paths path =
      if path = src then none else if path = dst then disk.paths src else disk.paths path := by
  simp only [rename, Function.update_apply]
@[simp] theorem rename_inodes (disk : Disk) (src dst : Path) : (disk.rename src dst).inodes = disk.inodes := rfl
@[simp] theorem rename_nextTemp (disk : Disk) (src dst : Path) :
    (disk.rename src dst).nextTemp = disk.nextTemp := rfl
@[simp] theorem replace_paths (disk : Disk) (dst src kept path : Path) :
    (disk.replace dst src kept).paths path =
      if path = src then none else if path = dst then disk.paths src
      else if path = kept then disk.paths dst else disk.paths path := by
  simp only [replace, Function.update_apply]
@[simp] theorem replace_inodes (disk : Disk) (dst src kept : Path) :
    (disk.replace dst src kept).inodes = disk.inodes := rfl
@[simp] theorem replace_nextTemp (disk : Disk) (dst src kept : Path) :
    (disk.replace dst src kept).nextTemp = disk.nextTemp := rfl
@[simp] theorem afterPowerLoss_paths (disk : Disk) : disk.afterPowerLoss.paths = disk.paths := rfl

/-- A directory the server can freeze into: every name points to a file already
handed out, and `main.fz` is on disk as it reads. -/
structure Settled (disk : Disk) : Prop where
  bounded : ∀ path file, disk.paths path = some file → file < disk.nextInode
  mainSynced : ∀ file, disk.paths .main = some file → (disk.inodes file).synced = (disk.inodes file).contents

/-- The open temporary file `file`: its name `.temp name` points to it, and no other name does. -/
def Fresh (disk : Disk) (file name : Nat) : Prop :=
  disk.paths (.temp name) = some file ∧ ∀ path, disk.paths path = some file → path = .temp name

theorem Settled.read_main_afterPowerLoss {disk : Disk} (settled : disk.Settled) :
    disk.afterPowerLoss.read .main = disk.read .main := by
  cases found : disk.paths .main with
  | none => simp [read, found]
  | some file => simp [read, afterPowerLoss, found, settled.mainSynced file found]

theorem read_createTemp {disk : Disk} (settled : disk.Settled) {path : Path} (other : path ≠ .temp disk.nextTemp) :
    disk.createTemp.read path = disk.read path := by
  cases found : disk.paths path with
  | none => simp [read, other, found]
  | some file => simp [read, other, found, Nat.ne_of_lt (settled.bounded path file found)]

theorem Settled.createTemp {disk : Disk} (settled : disk.Settled) :
    disk.createTemp.Settled ∧ disk.createTemp.Fresh disk.nextInode disk.nextTemp := by
  refine ⟨⟨fun path file named => ?_, fun file named => ?_⟩, by simp, fun path named => ?_⟩
  · simp only [createTemp_paths, createTemp_nextInode] at named ⊢
    split at named
    · cases named; omega
    · have := settled.bounded path file named; omega
  · simp only [createTemp_paths, reduceCtorEq, if_false] at named
    simp [Nat.ne_of_lt (settled.bounded _ file named), settled.mainSynced file named]
  · simp only [createTemp_paths] at named
    split at named
    · assumption
    · exact absurd (settled.bounded path _ named) (Nat.lt_irrefl _)

theorem read_append {disk : Disk} {file name : Nat} (fresh : disk.Fresh file name) (bytes : List UInt8)
    {path : Path} (other : path ≠ .temp name) : (disk.append file bytes).read path = disk.read path := by
  cases found : disk.paths path with
  | none => simp [read, found]
  | some file' =>
      have differs : file' ≠ file := fun same => other (fresh.2 path (same ▸ found))
      simp [read, found, differs]

theorem Settled.append {disk : Disk} (settled : disk.Settled) {file name : Nat} (fresh : disk.Fresh file name)
    (bytes : List UInt8) : (disk.append file bytes).Settled := by
  refine ⟨settled.bounded, fun file' named => ?_⟩
  have differs : file' ≠ file := fun same => nomatch fresh.2 .main (same ▸ named)
  simpa [differs] using settled.mainSynced file' named

theorem read_sync (disk : Disk) (file : Nat) (path : Path) : (disk.sync file).read path = disk.read path := by
  cases found : disk.paths path with
  | none => simp [read, found]
  | some file' => by_cases same : file' = file <;> simp [read, found, same]

theorem Settled.sync {disk : Disk} (settled : disk.Settled) (file : Nat) : (disk.sync file).Settled := by
  refine ⟨settled.bounded, fun file' named => ?_⟩
  by_cases same : file' = file
  · simp [same]
  · simpa [same] using settled.mainSynced file' named

/-- Moving a synced temporary file over `main.fz`, by `Rename` or `ReplaceFile`,
leaves the directory settled. -/
theorem Settled.of_move {disk disk' : Disk} (settled : disk.Settled) {file name : Nat}
    (fresh : disk.Fresh file name) (synced : (disk.inodes file).synced = (disk.inodes file).contents)
    (inodes : disk'.inodes = disk.inodes) (nextInode : disk'.nextInode = disk.nextInode)
    (main : disk'.paths .main = some file) (others : ∀ path, path ≠ .main → ∀ file', disk'.paths path = some file' →
      ∃ path', disk.paths path' = some file') : disk'.Settled := by
  refine ⟨fun path file' named => ?_, fun file' named => ?_⟩
  · rw [nextInode]
    by_cases isMain : path = .main
    · subst isMain
      rw [main] at named
      cases named
      exact settled.bounded _ _ fresh.1
    · obtain ⟨path', before⟩ := others path isMain file' named
      exact settled.bounded path' file' before
  · rw [main] at named
    cases named
    rw [inodes]
    exact synced

end Disk

/-- Where a `freezeToFile` call is, with the locals it still uses: the open
temporary file `f` (its file and the index of its name) and the bytes `buf` to
write. -/
inductive FreezePc
  | start
  | freeze
  | createTemp
  | marshal (file name : Nat)
  | write (file name : Nat) (buf : List UInt8)
  | sync (file name : Nat)
  | close (file name : Nat)
  | stat (file name : Nat)
  | rename (file name : Nat)
  | replace (file name : Nat)
  | returned (ok : Bool)
deriving DecidableEq, Repr

/-- The server as `freezeToFile` sees it: its directory, whether
`server.freezelog` is open, where the call is, and the snapshots `proto.Marshal`
has returned so far, the latest first. -/
structure Freezer where
  disk : Disk
  freezelog : Bool
  pc : FreezePc
  marshalled : List (List UInt8)

/-- What the system call of a step returns: `nil`, an error, the bytes
`proto.Marshal` returns, or an error from `f.Write` after its first `count`
bytes. For `os.Stat` an error is one other than "does not exist", which the
directory itself answers. -/
inductive Answer
  | ok
  | error
  | marshalled (buf : List UInt8)
  | wrote (count : Nat)
deriving DecidableEq, Repr

/-- One step of `freezeToFile` (lines 62-110), `none` once the call has returned.
Every error is returned at once, and nothing removes the temporary file. -/
def step (s : Freezer) (answer : Answer) : Option Freezer :=
  let failed : Freezer := { s with pc := .returned false }
  match s.pc with
  | .start =>
      if s.freezelog then some (if answer = .ok then { s with freezelog := false, pc := .freeze } else failed)
      else some { s with pc := .freeze }
  | .freeze => some (if answer = .ok then { s with pc := .createTemp } else failed)
  | .createTemp =>
      some (if answer = .ok then
        { s with disk := s.disk.createTemp, pc := .marshal s.disk.nextInode s.disk.nextTemp } else failed)
  | .marshal file name =>
      some (match answer with
        | .marshalled buf => { s with pc := .write file name buf, marshalled := buf :: s.marshalled }
        | _ => failed)
  | .write file name buf =>
      some (match answer with
        | .ok => { s with disk := s.disk.append file buf, pc := .sync file name }
        | .wrote count => { s with disk := s.disk.append file (buf.take count), pc := .returned false }
        | _ => failed)
  | .sync file name => some (if answer = .ok then { s with disk := s.disk.sync file, pc := .close file name } else failed)
  | .close file name => some (if answer = .ok then { s with pc := .stat file name } else failed)
  | .stat file name =>
      some (if answer = .ok ∧ s.disk.paths .main = none then { s with pc := .rename file name }
        else { s with pc := .replace file name })
  | .rename _ name =>
      some (if answer = .ok then { s with disk := s.disk.rename (.temp name) .main, pc := .returned true }
        else failed)
  | .replace _ name =>
      some (if answer = .ok ∧ (s.disk.paths .main).isSome then
          { s with disk := s.disk.replace .main (.temp name) .backup, pc := .returned true }
        else failed)
  | .returned _ => none

/-- The states a server reaches from `initial` through `freezeToFile` calls made
one after another; between two calls the freeze log may have been reopened. -/
inductive Reachable (initial : Freezer) : Freezer → Prop
  | init : Reachable initial initial
  | next {s s' : Freezer} (answer : Answer) : Reachable initial s → step s answer = some s' → Reachable initial s'
  | again {s : Freezer} {ok : Bool} (freezelog : Bool) : Reachable initial s → s.pc = .returned ok →
      Reachable initial { s with pc := .start, freezelog }

def Moves (s s' : Freezer) : Prop := ∃ answer, step s answer = some s'

/-- The state after steps answered by `answers` in turn, `none` when a call
returned before they ran out. -/
def runSteps (s : Freezer) : List Answer → Option Freezer
  | [] => some s
  | answer :: rest => (step s answer).bind fun s' => runSteps s' rest

theorem moves_of_runSteps {s s' : Freezer} {answers : List Answer} (ran : runSteps s answers = some s') :
    Relation.ReflTransGen Moves s s' := by
  induction answers generalizing s with
  | nil => cases ran; exact .refl
  | cons answer rest ih =>
      obtain ⟨next, stepped, more⟩ := Option.bind_eq_some.mp ran
      exact .head ⟨answer, stepped⟩ (ih more)

theorem Reachable.of_runSteps {initial s s' : Freezer} (reached : Reachable initial s) {answers : List Answer}
    (ran : runSteps s answers = some s') : Reachable initial s' := by
  induction answers generalizing s with
  | nil => cases ran; exact reached
  | cons answer rest ih =>
      obtain ⟨next, stepped, more⟩ := Option.bind_eq_some.mp ran
      exact ih (reached.next answer stepped) more

/-- What a call knows of its temporary file at each point: only its name points
to it; it is empty until written, then holds a snapshot `proto.Marshal`
returned, and from `Sync` on it is on disk as it reads. -/
def TempFile (s : Freezer) : Prop :=
  match s.pc with
  | .marshal file name => s.disk.Fresh file name ∧ (s.disk.inodes file).contents = []
  | .write file name buf => s.disk.Fresh file name ∧ (s.disk.inodes file).contents = [] ∧ buf ∈ s.marshalled
  | .sync file name => s.disk.Fresh file name ∧ (s.disk.inodes file).contents ∈ s.marshalled
  | .close file name | .stat file name | .rename file name | .replace file name =>
      s.disk.Fresh file name ∧ (s.disk.inodes file).contents ∈ s.marshalled ∧
        (s.disk.inodes file).synced = (s.disk.inodes file).contents
  | .start | .freeze | .createTemp | .returned _ => True

/-- The invariant of the states a server reaches from `initial`: the directory is
settled, `main.fz` holds the initial snapshot or one `proto.Marshal` returned,
and the call's temporary file is as `TempFile` says. -/
structure Safe (initial s : Freezer) : Prop where
  settled : s.disk.Settled
  main : s.disk.read .main = initial.disk.read .main ∨ ∃ buf ∈ s.marshalled, s.disk.read .main = some buf
  temp : TempFile s

theorem Safe.keep {initial s s' : Freezer} (safe : Safe initial s) (disk : s'.disk = s.disk)
    (marshalled : ∀ buf ∈ s.marshalled, buf ∈ s'.marshalled) (temp : TempFile s') : Safe initial s' := by
  refine ⟨disk ▸ safe.settled, ?_, temp⟩
  rw [disk]
  exact safe.main.imp_right fun ⟨buf, mem, read⟩ => ⟨buf, marshalled buf mem, read⟩

theorem Safe.of_move {initial s s' : Freezer} (settled : s'.disk.Settled)
    {file : Nat} (held : (s.disk.inodes file).contents ∈ s.marshalled)
    (inodes : s'.disk.inodes = s.disk.inodes) (main : s'.disk.paths .main = some file)
    (marshalled : s'.marshalled = s.marshalled) (returned : s'.pc = .returned true) : Safe initial s' := by
  refine ⟨settled, .inr ⟨_, marshalled ▸ held, ?_⟩, ?_⟩
  · simp [Disk.read, main, inodes]
  · simp only [TempFile, returned]

theorem Safe.of_step {initial s s' : Freezer} {answer : Answer} (safe : Safe initial s)
    (stepped : step s answer = some s') : Safe initial s' := by
  have temp := safe.temp
  have settled := safe.settled
  unfold TempFile at temp
  cases pc : s.pc <;> simp only [step, pc] at stepped temp
  case start | freeze =>
    repeat' (first | split at stepped | cases stepped)
    all_goals exact safe.keep rfl (fun _ => id) trivial
  case createTemp =>
    split at stepped <;> cases stepped
    · refine ⟨settled.createTemp.1, ?_, settled.createTemp.2, by simp⟩
      rw [Disk.read_createTemp settled (by simp)]
      exact safe.main
    · exact safe.keep rfl (fun _ => id) trivial
  case marshal file name =>
    split at stepped <;> cases stepped
    · exact safe.keep rfl (fun _ => List.mem_cons_of_mem _) ⟨temp.1, temp.2, List.mem_cons_self _ _⟩
    · exact safe.keep rfl (fun _ => id) trivial
  case write file name buf =>
    have untouched : ∀ bytes, (s.disk.append file bytes).read .main = s.disk.read .main :=
      fun bytes => Disk.read_append temp.1 bytes (by simp)
    split at stepped <;> cases stepped
    · refine ⟨settled.append temp.1 buf, by rw [untouched]; exact safe.main, temp.1, ?_⟩
      simpa [temp.2.1] using temp.2.2
    · exact ⟨settled.append temp.1 _, by rw [untouched]; exact safe.main, trivial⟩
    · exact safe.keep rfl (fun _ => id) trivial
  case sync file name =>
    split at stepped <;> cases stepped
    · refine ⟨settled.sync file, by rw [Disk.read_sync]; exact safe.main, temp.1, ?_⟩
      simpa using temp.2
    · exact safe.keep rfl (fun _ => id) trivial
  case close file name | stat file name =>
    repeat' (first | split at stepped | cases stepped)
    all_goals first | exact safe.keep rfl (fun _ => id) trivial | exact safe.keep rfl (fun _ => id) temp
  case rename file name =>
    split at stepped <;> cases stepped
    · refine Safe.of_move (settled.of_move temp.1 temp.2.2 rfl rfl (by simp [temp.1.1]) ?_) temp.2.1
        rfl (by simp [temp.1.1]) rfl rfl
      intro path other file' named
      simp only [Disk.rename_paths, other, if_false] at named
      split at named
      · cases named
      · exact ⟨path, named⟩
    · exact safe.keep rfl (fun _ => id) trivial
  case replace file name =>
    split at stepped <;> cases stepped
    · refine Safe.of_move (settled.of_move temp.1 temp.2.2 rfl rfl (by simp [temp.1.1]) ?_) temp.2.1
        rfl (by simp [temp.1.1]) rfl rfl
      intro path other file' named
      simp only [Disk.replace_paths, other, if_false] at named
      split at named
      · cases named
      · split at named
        · exact ⟨.main, named⟩
        · exact ⟨path, named⟩
    · exact safe.keep rfl (fun _ => id) trivial
  case returned => cases stepped

theorem Safe.init {initial : Freezer} (settled : initial.disk.Settled) (starting : initial.pc = .start) :
    Safe initial initial :=
  ⟨settled, .inl rfl, by simp only [TempFile, starting]⟩

theorem Reachable.safe {initial s : Freezer} (settled : initial.disk.Settled) (starting : initial.pc = .start)
    (reached : Reachable initial s) : Safe initial s := by
  induction reached with
  | init => exact Safe.init settled starting
  | next _ _ stepped safe => exact safe.of_step stepped
  | again _ _ _ safe => exact safe.keep rfl (fun _ => id) trivial

/-- In every state a server reaches through `freezeToFile` calls, however many
there are and whatever each system call answers, a power failure leaves
`main.fz` as it reads, and `main.fz` is the initial snapshot or a whole snapshot
that `proto.Marshal` returned: never a partly written or unsynced file. -/
theorem freezeToFile_main_never_partial {initial s : Freezer} (settled : initial.disk.Settled)
    (starting : initial.pc = .start) (reached : Reachable initial s) :
    s.disk.afterPowerLoss.read .main = s.disk.read .main ∧
      (s.disk.read .main = initial.disk.read .main ∨ ∃ buf ∈ s.marshalled, s.disk.read .main = some buf) :=
  have safe := reached.safe settled starting
  ⟨safe.settled.read_main_afterPowerLoss, safe.main⟩

/-- A server whose `main.fz` (file `0`) holds the byte `1`, with its freeze log open. -/
def frozenOnce : Freezer where
  disk := { paths := fun path => if path = .main then some 0 else none, inodes := fun _ => ⟨[1], [1]⟩,
            nextInode := 1, nextTemp := 0 }
  freezelog := true
  pc := .start
  marshalled := []

theorem frozenOnce_settled : frozenOnce.disk.Settled := by
  refine ⟨fun path file named => ?_, fun file _ => rfl⟩
  cases path <;> simp_all [frozenOnce]

/-- The answers of a call that goes through: the server's snapshot is the byte `7`. -/
def replacingAnswers : List Answer := [.ok, .ok, .ok, .marshalled [7], .ok, .ok, .ok, .ok, .ok]

def replacedOnce : Freezer := (runSteps frozenOnce replacingAnswers).getD frozenOnce

/-- `replacedOnce` after a second call, with the freeze log reopened, whose
`f.Write` of the snapshot `[8, 8]` fails after one byte. -/
def shortWritten : Freezer :=
  (runSteps { replacedOnce with pc := .start, freezelog := true } [.ok, .ok, .ok, .marshalled [8, 8], .wrote 1]).getD
    replacedOnce

/-- After the failed second call `main.fz` is still the first call's snapshot,
and the byte the second call wrote is left in its temporary file. -/
theorem freezeToFile_replace_then_short_write :
    frozenOnce.disk.Settled ∧ frozenOnce.pc = .start ∧ Reachable frozenOnce shortWritten ∧
      shortWritten.disk.read .main = some [7] ∧ shortWritten.disk.read (.temp 1) = some [8] ∧
      shortWritten.disk.afterPowerLoss.read .main = shortWritten.disk.read .main ∧
      (shortWritten.disk.read .main = frozenOnce.disk.read .main ∨
        ∃ buf ∈ shortWritten.marshalled, shortWritten.disk.read .main = some buf) :=
  have first : Reachable frozenOnce replacedOnce :=
    Reachable.init.of_runSteps (show runSteps frozenOnce replacingAnswers = some replacedOnce from rfl)
  have reached : Reachable frozenOnce shortWritten :=
    (first.again true (show replacedOnce.pc = .returned true from rfl)).of_runSteps
      (show runSteps { replacedOnce with pc := .start, freezelog := true }
        [.ok, .ok, .ok, .marshalled [8, 8], .wrote 1] = some shortWritten from rfl)
  ⟨frozenOnce_settled, rfl, reached, rfl, rfl, freezeToFile_main_never_partial frozenOnce_settled rfl reached⟩

def Untouched (before s : Freezer) : Prop :=
  s.disk.read .main = before.disk.read .main ∧ s.disk.read .backup = before.disk.read .backup

/-- Where a call stands against the state `before` it began in: until it moves
its file, `main.fz` and `backup.fz` are as they were and the file holds the
snapshot the call marshalled; a failed call leaves its temporary file behind. -/
def Progress (before s : Freezer) : Prop :=
  match s.pc with
  | .start | .freeze | .createTemp =>
      Untouched before s ∧ s.marshalled = before.marshalled ∧ s.disk.nextTemp = before.disk.nextTemp
  | .marshal _ name => Untouched before s ∧ s.marshalled = before.marshalled ∧ name = before.disk.nextTemp
  | .write _ name buf => Untouched before s ∧ s.marshalled = buf :: before.marshalled ∧ name = before.disk.nextTemp
  | .sync file name | .close file name | .stat file name | .replace file name =>
      Untouched before s ∧ s.marshalled = (s.disk.inodes file).contents :: before.marshalled ∧
        name = before.disk.nextTemp
  | .rename file name =>
      Untouched before s ∧ s.marshalled = (s.disk.inodes file).contents :: before.marshalled ∧
        name = before.disk.nextTemp ∧ s.disk.paths .main = none
  | .returned false => Untouched before s ∧
      (before.disk.nextTemp < s.disk.nextTemp → s.disk.paths (.temp before.disk.nextTemp) ≠ none)
  | .returned true => ∃ buf, s.marshalled = buf :: before.marshalled ∧ s.disk.read .main = some buf ∧
      s.disk.read .backup = if before.disk.read .main = none then before.disk.read .backup else before.disk.read .main

theorem Progress.of_leftover {before s : Freezer} (untouched : Untouched before s) {file name : Nat}
    (fresh : s.disk.Fresh file name) (created : name = before.disk.nextTemp) :
    Progress before { s with pc := .returned false } := by
  unfold Progress
  exact ⟨untouched, fun _ => by rw [← created, fresh.1]; exact Option.some_ne_none _⟩

theorem Progress.of_early {before s : Freezer} (untouched : Untouched before s)
    (same : s.disk.nextTemp = before.disk.nextTemp) : Progress before { s with pc := .returned false } := by
  unfold Progress
  exact ⟨untouched, fun grew => absurd grew (by rw [same]; exact Nat.lt_irrefl _)⟩

theorem Progress.of_step {before s s' : Freezer} {answer : Answer} (safe : Safe before s)
    (progress : Progress before s) (stepped : step s answer = some s') : Progress before s' := by
  have temp := safe.temp
  unfold TempFile at temp
  unfold Progress at progress
  cases pc : s.pc <;> simp only [step, pc] at stepped temp progress
  case start | freeze =>
    repeat' (first | split at stepped | cases stepped)
    all_goals first | exact Progress.of_early progress.1 progress.2.2 | (unfold Progress; exact progress)
  case createTemp =>
    split at stepped <;> cases stepped
    · unfold Progress
      refine ⟨⟨?_, ?_⟩, progress.2.1, progress.2.2⟩
      · exact (Disk.read_createTemp safe.settled (by simp)).trans progress.1.1
      · exact (Disk.read_createTemp safe.settled (by simp)).trans progress.1.2
    · exact Progress.of_early progress.1 progress.2.2
  case marshal file name =>
    split at stepped <;> cases stepped
    · unfold Progress
      exact ⟨progress.1, by rw [progress.2.1], progress.2.2⟩
    · exact Progress.of_leftover progress.1 temp.1 progress.2.2
  case write file name buf =>
    have untouched : ∀ bytes, Untouched before { s with disk := s.disk.append file bytes } := fun bytes =>
      ⟨(Disk.read_append temp.1 bytes (by simp)).trans progress.1.1,
        (Disk.read_append temp.1 bytes (by simp)).trans progress.1.2⟩
    split at stepped <;> cases stepped
    · unfold Progress
      exact ⟨untouched buf, by simp [temp.2.1, progress.2.1], progress.2.2⟩
    · exact Progress.of_leftover (untouched _) temp.1 progress.2.2
    · exact Progress.of_leftover progress.1 temp.1 progress.2.2
  case sync file name =>
    split at stepped <;> cases stepped
    · unfold Progress
      refine ⟨⟨?_, ?_⟩, by simpa using progress.2.1, progress.2.2⟩
      · exact (Disk.read_sync _ _ _).trans progress.1.1
      · exact (Disk.read_sync _ _ _).trans progress.1.2
    · exact Progress.of_leftover progress.1 temp.1 progress.2.2
  case close file name =>
    split at stepped <;> cases stepped
    · unfold Progress; exact progress
    · exact Progress.of_leftover progress.1 temp.1 progress.2.2
  case stat file name =>
    split at stepped <;> cases stepped
    · unfold Progress
      exact ⟨progress.1, progress.2.1, progress.2.2, ‹_ ∧ _›.2⟩
    · unfold Progress; exact progress
  case rename file name =>
    split at stepped <;> cases stepped
    · unfold Progress
      have absent : before.disk.read .main = none := by rw [← progress.1.1]; simp [Disk.read, progress.2.2.2]
      refine ⟨_, progress.2.1, by simp [Disk.read, temp.1.1], ?_⟩
      rw [if_pos absent, ← progress.1.2]
      simp [Disk.read]
    · exact Progress.of_leftover progress.1 temp.1 progress.2.2.1
  case replace file name =>
    split at stepped <;> cases stepped
    · unfold Progress
      rename_i present
      have held : before.disk.read .main ≠ none := by
        rw [← progress.1.1]; simpa [Disk.read, Option.isSome_iff_ne_none] using present.2
      refine ⟨_, progress.2.1, by simp [Disk.read, temp.1.1], ?_⟩
      rw [if_neg held, ← progress.1.1]
      simp [Disk.read]
    · exact Progress.of_leftover progress.1 temp.1 progress.2.2
  case returned => cases stepped

/-- The contract of one `freezeToFile` call, whatever each system call answers.
On `nil`, `main.fz` holds the snapshot the call marshalled, synced, and
`backup.fz` the previous `main.fz` when there was one (`ReplaceFile`), or is
as it was (`Rename` onto a new `main.fz`). On an error, `main.fz` and
`backup.fz` are as they were, and the temporary file the call made, if it made
one, is still in the directory: nothing removes it. -/
theorem freezeToFile_contract {before after : Freezer} (settled : before.disk.Settled)
    (starting : before.pc = .start) (ran : Relation.ReflTransGen Moves before after) :
    (after.pc = .returned true → ∃ buf, after.marshalled = buf :: before.marshalled ∧
        after.disk.read .main = some buf ∧ after.disk.afterPowerLoss.read .main = some buf ∧
        after.disk.read .backup =
          if before.disk.read .main = none then before.disk.read .backup else before.disk.read .main) ∧
      (after.pc = .returned false → after.disk.read .main = before.disk.read .main ∧
        after.disk.read .backup = before.disk.read .backup ∧
        (before.disk.nextTemp < after.disk.nextTemp → after.disk.paths (.temp before.disk.nextTemp) ≠ none)) := by
  have invariant : Safe before after ∧ Progress before after := by
    induction ran with
    | refl =>
        refine ⟨Safe.init settled starting, ?_⟩
        unfold Progress
        simp [starting, Untouched]
    | tail _ moved both =>
        obtain ⟨_, stepped⟩ := moved
        exact ⟨both.1.of_step stepped, both.2.of_step both.1 stepped⟩
  obtain ⟨safe, progress⟩ := invariant
  unfold Progress at progress
  refine ⟨fun returned => ?_, fun returned => ?_⟩
  · simp only [returned] at progress
    obtain ⟨buf, marshalled, main, backup⟩ := progress
    exact ⟨buf, marshalled, main, safe.settled.read_main_afterPowerLoss.trans main, backup⟩
  · simp only [returned] at progress
    exact ⟨progress.1.1, progress.1.2, progress.2⟩

/-- The call of `replacingAnswers` returns `nil` through `ReplaceFile`:
`main.fz` holds `[7]`, and `backup.fz` the previous snapshot `[1]`. -/
theorem freezeToFile_keeps_previous_as_backup :
    frozenOnce.disk.Settled ∧ frozenOnce.pc = .start ∧ Relation.ReflTransGen Moves frozenOnce replacedOnce ∧
      replacedOnce.pc = .returned true ∧ replacedOnce.disk.read .backup = some [1] ∧
      (replacedOnce.pc = .returned true → ∃ buf, replacedOnce.marshalled = buf :: frozenOnce.marshalled ∧
          replacedOnce.disk.read .main = some buf ∧ replacedOnce.disk.afterPowerLoss.read .main = some buf ∧
          replacedOnce.disk.read .backup =
            if frozenOnce.disk.read .main = none then frozenOnce.disk.read .backup else frozenOnce.disk.read .main) ∧
        (replacedOnce.pc = .returned false → replacedOnce.disk.read .main = frozenOnce.disk.read .main ∧
          replacedOnce.disk.read .backup = frozenOnce.disk.read .backup ∧
          (frozenOnce.disk.nextTemp < replacedOnce.disk.nextTemp →
            replacedOnce.disk.paths (.temp frozenOnce.disk.nextTemp) ≠ none)) :=
  have ran := moves_of_runSteps (show runSteps frozenOnce replacingAnswers = some replacedOnce from rfl)
  ⟨frozenOnce_settled, rfl, ran, rfl, rfl, freezeToFile_contract frozenOnce_settled rfl ran⟩

end Grumble.Server
