import Mathlib.Data.List.Basic

namespace Grumble.Blobstore

/-! # The data directory's lock file

`AcquireLockFile` and `ReleaseLockFile` run by any number of processes on one
path.  The file system maps paths to inodes and inodes to their text;
`OpenFile` with `O_CREATE|O_EXCL`, `ReadFile`, a write, a close, `TempFile`,
`Rename`, `Remove` and the `kill(pid, 0)` probe are each one atomic step of the
process taking it, and any live process may die between two steps.  A write
goes to the inode the process opened, which `Rename` may already have unlinked.
-/

/-- A path: the lock file, or the `index`-th name `TempFile` makes in its directory. -/
inductive Path
  | lock
  | temp (index : Nat)
deriving DecidableEq, Repr

def digitChar (digit : Nat) : Char := Char.ofNat (48 + digit)

/-- The decimal digits of `n`, least significant first, with `fuel` divisions. -/
def decimalDigits : Nat → Nat → List Nat
  | 0, _ => []
  | fuel + 1, n => if n < 10 then [n] else n % 10 :: decimalDigits fuel (n / 10)

def itoa (n : Nat) : List Char := ((decimalDigits (n + 1) n).reverse).map digitChar

/-- The number the decimal digits `text` continue `acc` with, `none` at a non-digit. -/
def parseDigits : List Char → Nat → Option Nat
  | [], acc => some acc
  | c :: rest, acc =>
      if 48 ≤ c.toNat ∧ c.toNat ≤ 57 then parseDigits rest (acc * 10 + (c.toNat - 48)) else none

/-- `strconv.Atoi`: an optional sign and at least one digit. -/
def atoi : List Char → Option Int
  | [] => none
  | c :: rest =>
      if c = '-' then (if rest = [] then none else (parseDigits rest 0).map fun n => -Int.ofNat n)
      else if c = '+' then (if rest = [] then none else (parseDigits rest 0).map Int.ofNat)
      else (parseDigits (c :: rest) 0).map Int.ofNat

theorem decimalDigits_lt_ten : ∀ fuel n, ∀ digit ∈ decimalDigits fuel n, digit < 10
  | 0, _ => by simp [decimalDigits]
  | fuel + 1, n => by
      unfold decimalDigits
      split
      · simpa
      · simpa [Nat.mod_lt] using decimalDigits_lt_ten fuel (n / 10)

theorem decimalDigits_ne_nil (fuel n : Nat) : decimalDigits (fuel + 1) n ≠ [] := by
  unfold decimalDigits; split <;> simp

theorem decimalDigits_value : ∀ fuel n, n < fuel →
    (decimalDigits fuel n).foldr (fun digit acc => acc * 10 + digit) 0 = n
  | 0, _, bound => absurd bound (Nat.not_lt_zero _)
  | fuel + 1, n, bound => by
      unfold decimalDigits
      split
      · simp
      · rw [List.foldr_cons, decimalDigits_value fuel (n / 10) (by omega)]
        omega

theorem parseDigits_map (digits : List Nat) (small : ∀ digit ∈ digits, digit < 10) (acc : Nat) :
    parseDigits (digits.map digitChar) acc = some (digits.foldl (fun acc digit => acc * 10 + digit) acc) := by
  induction digits generalizing acc with
  | nil => rfl
  | cons digit rest ih =>
      have code : (digitChar digit).toNat = 48 + digit := by
        have : ∀ d, d < 10 → (digitChar d).toNat = 48 + d := by decide
        exact this digit (small digit (List.mem_cons_self _ _))
      simp only [List.map_cons, parseDigits, code, Nat.le_add_right, true_and,
        Nat.add_sub_cancel_left, List.foldl_cons]
      rw [if_pos (by have := small digit (List.mem_cons_self _ _); omega)]
      exact ih (fun other member => small other (List.mem_cons_of_mem _ member)) _

theorem atoi_itoa (n : Nat) : atoi (itoa n) = some (n : Int) := by
  have small := decimalDigits_lt_ten (n + 1) n
  obtain ⟨first, rest, split⟩ := List.exists_cons_of_ne_nil
    (List.reverse_ne_nil_iff.mpr (decimalDigits_ne_nil n n))
  have firstSmall : first < 10 := small first (List.mem_reverse.mp (split ▸ List.mem_cons_self _ _))
  have notSign : ∀ d, d < 10 → digitChar d ≠ '-' ∧ digitChar d ≠ '+' := by decide
  have parsed := parseDigits_map (decimalDigits (n + 1) n).reverse
    (fun digit member => small digit (List.mem_reverse.mp member)) 0
  rw [List.foldl_reverse, decimalDigits_value (n + 1) n (Nat.lt_succ_self n)] at parsed
  rw [split, List.map_cons] at parsed
  simp only [itoa, split, List.map_cons, atoi, (notSign first firstSmall).1,
    (notSign first firstSmall).2, if_false, parsed, Option.map_some', Int.ofNat_eq_coe]

theorem itoa_injective {m n : Nat} (same : itoa m = itoa n) : m = n := by
  have := congrArg atoi same
  rw [atoi_itoa, atoi_itoa] at this
  exact Int.ofNat.inj (Option.some.inj this)

/-- Where a process is in `AcquireLockFile`, or how it left it. -/
inductive Pc
  | start
  | writeOwn (file : Nat)
  | closeOwn (file : Nat)
  | readLock
  | probe (pid : Int)
  | tempCreate
  | tempWrite (file name : Nat)
  | tempClose (file name : Nat)
  | rename (name : Nat)
  | removeTemp (name : Nat)
  | holding
  | failed
  | released
  | dead
deriving DecidableEq, Repr

/-- The program points strictly inside `AcquireLockFile`, after its first step. -/
def Pc.acquiring : Pc → Bool
  | .writeOwn _ | .closeOwn _ | .readLock | .probe _ | .tempCreate | .tempWrite _ _
  | .tempClose _ _ | .rename _ | .removeTemp _ => true
  | _ => false

/-- The file system and the processes, numbered by their pids. -/
structure World where
  paths : Path → Option Nat
  contents : Nat → List Char
  nextInode : Nat
  nextTemp : Nat
  pc : Nat → Pc

namespace World

def init : World := ⟨fun _ => none, fun _ => [], 0, 0, fun _ => .start⟩

def setPc (w : World) (p : Nat) (pc : Pc) : World := { w with pc := Function.update w.pc p pc }

def link (w : World) (path : Path) (inode : Option Nat) : World :=
  { w with paths := Function.update w.paths path inode }

def write (w : World) (inode : Nat) (text : List Char) : World :=
  { w with contents := Function.update w.contents inode (w.contents inode ++ text) }

def create (w : World) (path : Path) : World :=
  { w with paths := Function.update w.paths path (some w.nextInode),
           contents := Function.update w.contents w.nextInode [],
           nextInode := w.nextInode + 1 }

/-- `ioutil.TempFile`: a new empty inode under a name no other temporary file has had. -/
def createTemp (w : World) : World := { w.create (.temp w.nextTemp) with nextTemp := w.nextTemp + 1 }

/-- `kill(pid, 0) == 0`: a live process has that pid. -/
def alive (w : World) (pid : Int) : Bool := 0 ≤ pid ∧ w.pc pid.toNat ≠ .dead

def lockText (w : World) : Option (List Char) := (w.paths .lock).map w.contents

@[simp] theorem setPc_pc (w : World) (p : Nat) (pc : Pc) (q : Nat) :
    (w.setPc p pc).pc q = if q = p then pc else w.pc q := Function.update_apply _ _ _ _
@[simp] theorem setPc_paths (w : World) (p : Nat) (pc : Pc) : (w.setPc p pc).paths = w.paths := rfl
@[simp] theorem setPc_contents (w : World) (p : Nat) (pc : Pc) :
    (w.setPc p pc).contents = w.contents := rfl
@[simp] theorem link_pc (w : World) (path : Path) (inode : Option Nat) :
    (w.link path inode).pc = w.pc := rfl
@[simp] theorem link_paths (w : World) (path : Path) (inode : Option Nat) (other : Path) :
    (w.link path inode).paths other = if other = path then inode else w.paths other :=
  Function.update_apply _ _ _ _
@[simp] theorem link_contents (w : World) (path : Path) (inode : Option Nat) :
    (w.link path inode).contents = w.contents := rfl
@[simp] theorem write_pc (w : World) (inode : Nat) (text : List Char) :
    (w.write inode text).pc = w.pc := rfl
@[simp] theorem write_paths (w : World) (inode : Nat) (text : List Char) :
    (w.write inode text).paths = w.paths := rfl
@[simp] theorem write_contents (w : World) (inode : Nat) (text : List Char) (other : Nat) :
    (w.write inode text).contents other =
      if other = inode then w.contents inode ++ text else w.contents other :=
  Function.update_apply _ _ _ _
@[simp] theorem create_pc (w : World) (path : Path) : (w.create path).pc = w.pc := rfl
@[simp] theorem create_paths (w : World) (path other : Path) :
    (w.create path).paths other = if other = path then some w.nextInode else w.paths other :=
  Function.update_apply _ _ _ _
@[simp] theorem create_contents (w : World) (path : Path) (other : Nat) :
    (w.create path).contents other = if other = w.nextInode then [] else w.contents other :=
  Function.update_apply _ _ _ _
@[simp] theorem createTemp_pc (w : World) : w.createTemp.pc = w.pc := rfl
@[simp] theorem createTemp_paths (w : World) : w.createTemp.paths = (w.create (.temp w.nextTemp)).paths := rfl
@[simp] theorem createTemp_contents (w : World) :
    w.createTemp.contents = (w.create (.temp w.nextTemp)).contents := rfl

end World

/-- A step of the model: process `p` dies, or takes its next step, where `fails`
decides an operation whose failure the file map leaves open. -/
inductive Action
  | die (p : Nat)
  | run (p : Nat) (fails : Bool)
deriving DecidableEq, Repr

/-- Process `p`'s next step in `AcquireLockFile`, then `ReleaseLockFile` once it holds the lock. -/
def runProcess (w : World) (p : Nat) (fails : Bool) : Option World :=
  match w.pc p with
  | .start =>
      match w.paths .lock with
      | some _ => some (w.setPc p .readLock)
      | none =>
          if fails then some (w.setPc p .failed)
          else some ((w.create .lock).setPc p (.writeOwn w.nextInode))
  | .writeOwn file =>
      if fails then some (w.setPc p .failed)
      else some ((w.write file (itoa p)).setPc p (.closeOwn file))
  | .closeOwn _ => some (w.setPc p .holding)
  | .readLock =>
      match w.paths .lock with
      | none => some (w.setPc p .failed)
      | some file =>
          if fails then some (w.setPc p .failed)
          else
            match atoi (w.contents file) with
            | some pid => some (w.setPc p (.probe pid))
            | none => some (w.setPc p .tempCreate)
  | .probe pid => if w.alive pid then some (w.setPc p .failed) else some (w.setPc p .tempCreate)
  | .tempCreate =>
      if fails then some (w.setPc p .failed)
      else some (w.createTemp.setPc p (.tempWrite w.nextInode w.nextTemp))
  | .tempWrite file name =>
      if fails then some (w.setPc p .failed)
      else some ((w.write file (itoa p)).setPc p (.tempClose file name))
  | .tempClose _ name => if fails then some (w.setPc p .failed) else some (w.setPc p (.rename name))
  | .rename name =>
      match w.paths (.temp name) with
      | some file =>
          if fails then some (w.setPc p (.removeTemp name))
          else some (((w.link .lock (some file)).link (.temp name) none).setPc p .holding)
      | none => some (w.setPc p (.removeTemp name))
  | .removeTemp name => some ((w.link (.temp name) none).setPc p .failed)
  | .holding => some ((w.link .lock none).setPc p .released)
  | _ => none

def step (w : World) : Action → Option World
  | .die p => if w.pc p = .dead then none else some (w.setPc p .dead)
  | .run p fails => runProcess w p fails

inductive Reachable : World → Prop
  | init : Reachable World.init
  | step {w w' : World} (action : Action) : Reachable w → step w action = some w' → Reachable w'

def run (w : World) : List Action → Option World
  | [] => some w
  | action :: actions => (step w action).bind fun w' => run w' actions

theorem reachable_run {w w' : World} (reached : Reachable w) :
    ∀ {actions : List Action}, run w actions = some w' → Reachable w'
  | [], ran => by cases ran; exact reached
  | action :: actions, ran => by
      cases stepped : step w action with
      | none => simp [run, stepped] at ran
      | some next =>
          simp only [run, stepped, Option.some_bind] at ran
          exact reachable_run (.step action reached stepped) ran

/-- Process 1 creates the lock file and, before it writes its pid, process 2
finds the file empty, takes it over by `Rename`, and returns; process 1 then
writes its pid to the unlinked inode and returns too: both hold the lock. -/
theorem acquireLockFile_both_hold :
    ∃ w, Reachable w ∧ w.pc 1 = .holding ∧ w.pc 2 = .holding := by
  let trace : List Action := [.run 1 false, .run 2 false, .run 2 false, .run 2 false,
    .run 2 false, .run 2 false, .run 2 false, .run 1 false, .run 1 false]
  have ran : (run World.init trace).map (fun w => (w.pc 1, w.pc 2)) = some (.holding, .holding) := by
    decide
  cases final : run World.init trace with
  | none => simp [final] at ran
  | some w =>
      simp only [final, Option.map_some', Option.some.injEq, Prod.mk.injEq] at ran
      exact ⟨w, reachable_run .init final, ran⟩

/-- A step taken while no other process is inside `AcquireLockFile`; a process
may die, and a holder may call `ReleaseLockFile`, at any time. -/
def Serial (w : World) : Action → Prop
  | .die _ => True
  | .run p _ => w.pc p = .holding ∨ ∀ q, q ≠ p → (w.pc q).acquiring = false

/-- The states reached by the interleavings in which `AcquireLockFile` calls do
not overlap. -/
inductive SerialReachable : World → Prop
  | init : SerialReachable World.init
  | step {w w' : World} (action : Action) :
      SerialReachable w → Serial w action → step w action = some w' → SerialReachable w'

def NoHolder (w : World) : Prop := ∀ h, w.pc h ≠ .holding

/-- What process `p` has established so far inside `AcquireLockFile`. -/
def Progress (w : World) (p : Nat) : Prop :=
  match w.pc p with
  | .writeOwn file => w.paths .lock = some file ∧ w.contents file = [] ∧ NoHolder w
  | .closeOwn file => w.paths .lock = some file ∧ w.contents file = itoa p ∧ NoHolder w
  | .probe pid => ∀ h, w.pc h = .holding → (h : Int) = pid
  | .tempCreate => NoHolder w
  | .tempWrite file name => w.paths (.temp name) = some file ∧ w.contents file = [] ∧ NoHolder w
  | .tempClose file name =>
      w.paths (.temp name) = some file ∧ w.contents file = itoa p ∧ NoHolder w
  | .rename name =>
      (∀ file, w.paths (.temp name) = some file → w.contents file = itoa p) ∧ NoHolder w
  | _ => True

/-- The invariant of the serial runs: the lock file holds the pid of every
holder, and each process inside `AcquireLockFile` keeps what it established. -/
structure SerialInvariant (w : World) : Prop where
  holder_text : ∀ h, w.pc h = .holding → w.lockText = some (itoa h)
  progress : ∀ p, Progress w p

theorem progress_of_not_acquiring {w : World} {p : Nat} (outside : (w.pc p).acquiring = false) :
    Progress w p := by
  unfold Progress
  split <;> simp_all [Pc.acquiring]

theorem SerialInvariant.unique_holder {w : World} (inv : SerialInvariant w) {h h' : Nat}
    (holds : w.pc h = .holding) (holds' : w.pc h' = .holding) : h = h' :=
  itoa_injective (Option.some.inj ((inv.holder_text h holds).symm.trans (inv.holder_text h' holds')))

theorem Progress.mono {w w' : World} {q : Nat} (paths : w'.paths = w.paths)
    (contents : w'.contents = w.contents) (here : w'.pc q = w.pc q)
    (fewer : ∀ h, w'.pc h = .holding → w.pc h = .holding) (kept : Progress w q) :
    Progress w' q := by
  have noHolder : NoHolder w → NoHolder w' := fun none h holds => none h (fewer h holds)
  unfold Progress at kept ⊢
  rw [here, paths, contents]
  cases atQ : w.pc q <;> simp only [atQ] at kept ⊢
  case writeOwn | closeOwn | tempWrite | tempClose => exact ⟨kept.1, kept.2.1, noHolder kept.2.2⟩
  case probe => exact fun h holds => kept h (fewer h holds)
  case tempCreate => exact noHolder kept
  case rename => exact ⟨kept.1, noHolder kept.2⟩

theorem SerialInvariant.die {w : World} {d : Nat} (inv : SerialInvariant w) :
    SerialInvariant (w.setPc d .dead) := by
  have fewer : ∀ h, (w.setPc d .dead).pc h = .holding → w.pc h = .holding := by
    intro h holds
    by_cases same : h = d <;> simp_all
  refine ⟨fun h holds => inv.holder_text h (fewer h holds), fun q => ?_⟩
  by_cases same : q = d
  · simp [Progress, same]
  · exact Progress.mono (w := w) rfl rfl (by simp [same]) fewer (inv.progress q)

theorem noHolder_setPc {w w₁ : World} {p : Nat} {pc : Pc} (none : NoHolder w)
    (samePc : w₁.pc = w.pc) (notHolding : pc ≠ .holding) : NoHolder (w₁.setPc p pc) := by
  intro h holds
  by_cases same : h = p
  · simp_all
  · exact none h (by simpa [same, samePc] using holds)

theorem serialInvariant_setPc {w w₁ : World} {p : Nat} {pc : Pc}
    (serial : ∀ q, q ≠ p → (w.pc q).acquiring = false) (samePc : w₁.pc = w.pc)
    (others : ∀ h, h ≠ p → w.pc h = .holding → w₁.lockText = some (itoa h))
    (own : pc = .holding → w₁.lockText = some (itoa p))
    (progress : Progress (w₁.setPc p pc) p) : SerialInvariant (w₁.setPc p pc) := by
  refine ⟨fun h holds => ?_, fun q => ?_⟩
  · by_cases same : h = p
    · subst same; exact own (by simpa using holds)
    · exact others h same (by simpa [same, samePc] using holds)
  · by_cases same : q = p
    · exact same ▸ progress
    · exact progress_of_not_acquiring (by simpa [same, samePc] using serial q same)

theorem SerialInvariant.setPc {w : World} {p : Nat} {pc : Pc} (inv : SerialInvariant w)
    (serial : ∀ q, q ≠ p → (w.pc q).acquiring = false) (notHolding : pc ≠ .holding)
    (progress : Progress (w.setPc p pc) p) : SerialInvariant (w.setPc p pc) :=
  serialInvariant_setPc serial rfl (fun h _ holds => inv.holder_text h holds)
    (fun holding => absurd holding notHolding) progress

theorem SerialInvariant.fail {w : World} {p : Nat} (inv : SerialInvariant w)
    (serial : ∀ q, q ≠ p → (w.pc q).acquiring = false) : SerialInvariant (w.setPc p .failed) :=
  inv.setPc serial (by simp) (by simp [Progress])

-- Each step of a process inside a serial run, one program point at a time.

theorem SerialInvariant.openExcl {w w' : World} {p : Nat} {fails : Bool} (inv : SerialInvariant w)
    (serial : ∀ q, q ≠ p → (w.pc q).acquiring = false) (atP : w.pc p = .start)
    (stepped : runProcess w p fails = some w') : SerialInvariant w' := by
  simp only [runProcess, atP] at stepped
  cases lock : w.paths .lock with
  | some _ =>
      simp only [lock, Option.some.injEq] at stepped
      exact stepped ▸ inv.setPc serial (by simp) (by simp [Progress])
  | none =>
      have none : NoHolder w := fun h holds => by simpa [World.lockText, lock] using inv.holder_text h holds
      simp only [lock] at stepped
      split at stepped <;> cases stepped
      · exact inv.fail serial
      · have fresh : NoHolder ((w.create .lock).setPc p (.writeOwn w.nextInode)) :=
          noHolder_setPc none rfl (by simp)
        exact serialInvariant_setPc serial rfl (fun h _ holds => absurd holds (none h)) (by simp)
          (by simp [Progress, fresh])

theorem SerialInvariant.writeOwn {w w' : World} {p file : Nat} {fails : Bool} (inv : SerialInvariant w)
    (serial : ∀ q, q ≠ p → (w.pc q).acquiring = false) (atP : w.pc p = .writeOwn file)
    (stepped : runProcess w p fails = some w') : SerialInvariant w' := by
  have own := inv.progress p
  simp only [Progress, atP] at own
  simp only [runProcess, atP] at stepped
  split at stepped <;> cases stepped
  · exact inv.fail serial
  · have none : NoHolder ((w.write file (itoa p)).setPc p (.closeOwn file)) := noHolder_setPc own.2.2 rfl (by simp)
    exact serialInvariant_setPc serial rfl (fun h _ holds => (own.2.2 h holds).elim) (by simp)
      (by simp [Progress, own.1, own.2.1, none])

theorem SerialInvariant.closeOwn {w w' : World} {p file : Nat} {fails : Bool} (inv : SerialInvariant w)
    (serial : ∀ q, q ≠ p → (w.pc q).acquiring = false) (atP : w.pc p = .closeOwn file)
    (stepped : runProcess w p fails = some w') : SerialInvariant w' := by
  have own := inv.progress p
  simp only [Progress, atP] at own
  simp only [runProcess, atP, Option.some.injEq] at stepped
  exact stepped ▸ serialInvariant_setPc serial rfl (fun h _ holds => (own.2.2 h holds).elim)
    (fun _ => by simp [World.lockText, own.1, own.2.1]) (by simp [Progress])

theorem SerialInvariant.readLock {w w' : World} {p : Nat} {fails : Bool} (inv : SerialInvariant w)
    (serial : ∀ q, q ≠ p → (w.pc q).acquiring = false) (atP : w.pc p = .readLock)
    (stepped : runProcess w p fails = some w') : SerialInvariant w' := by
  simp only [runProcess, atP] at stepped
  cases lock : w.paths .lock with
  | none =>
      simp only [lock, Option.some.injEq] at stepped
      exact stepped ▸ inv.fail serial
  | some file =>
      have text : ∀ h, w.pc h = .holding → w.contents file = itoa h := fun h holds => by
        simpa [World.lockText, lock] using inv.holder_text h holds
      simp only [lock] at stepped
      split at stepped
      · cases stepped; exact inv.fail serial
      · split at stepped <;> cases stepped
        · next pid parsed =>
          refine inv.setPc serial (by simp) ?_
          simp only [Progress, World.setPc_pc, if_true]
          intro h holds
          have holdsW : w.pc h = .holding := by
            split at holds
            · cases holds
            · exact holds
          rw [text h holdsW, atoi_itoa] at parsed
          exact Option.some.inj parsed
        · next unparsed =>
          refine inv.setPc serial (by simp) ?_
          simp only [Progress, World.setPc_pc, if_true]
          refine noHolder_setPc (fun h holds => ?_) rfl (by simp)
          rw [text h holds, atoi_itoa] at unparsed
          cases unparsed

theorem SerialInvariant.probe {w w' : World} {p : Nat} {pid : Int} {fails : Bool} (inv : SerialInvariant w)
    (serial : ∀ q, q ≠ p → (w.pc q).acquiring = false) (atP : w.pc p = .probe pid)
    (stepped : runProcess w p fails = some w') : SerialInvariant w' := by
  have own := inv.progress p
  simp only [Progress, atP] at own
  simp only [runProcess, atP] at stepped
  split at stepped <;> cases stepped
  · exact inv.fail serial
  · next dead =>
    refine inv.setPc serial (by simp) ?_
    simp only [Progress, World.setPc_pc, if_true]
    refine noHolder_setPc (fun h holds => dead ?_) rfl (by simp)
    rw [← own h holds]
    simp only [World.alive, Int.toNat_ofNat, holds, ne_eq, reduceCtorEq, not_false_eq_true,
      and_true, decide_eq_true_eq]
    omega

theorem SerialInvariant.tempCreate {w w' : World} {p : Nat} {fails : Bool} (inv : SerialInvariant w)
    (serial : ∀ q, q ≠ p → (w.pc q).acquiring = false) (atP : w.pc p = .tempCreate)
    (stepped : runProcess w p fails = some w') : SerialInvariant w' := by
  have own := inv.progress p
  simp only [Progress, atP] at own
  simp only [runProcess, atP] at stepped
  split at stepped <;> cases stepped
  · exact inv.fail serial
  · have none : NoHolder (w.createTemp.setPc p (.tempWrite w.nextInode w.nextTemp)) :=
      noHolder_setPc own rfl (by simp)
    exact serialInvariant_setPc serial rfl (fun h _ holds => (own h holds).elim) (by simp)
      (by simp [Progress, none])

theorem SerialInvariant.tempWrite {w w' : World} {p file name : Nat} {fails : Bool} (inv : SerialInvariant w)
    (serial : ∀ q, q ≠ p → (w.pc q).acquiring = false) (atP : w.pc p = .tempWrite file name)
    (stepped : runProcess w p fails = some w') : SerialInvariant w' := by
  have own := inv.progress p
  simp only [Progress, atP] at own
  simp only [runProcess, atP] at stepped
  split at stepped <;> cases stepped
  · exact inv.fail serial
  · have none : NoHolder ((w.write file (itoa p)).setPc p (.tempClose file name)) :=
      noHolder_setPc own.2.2 rfl (by simp)
    exact serialInvariant_setPc serial rfl (fun h _ holds => (own.2.2 h holds).elim) (by simp)
      (by simp [Progress, own.1, own.2.1, none])

theorem SerialInvariant.tempClose {w w' : World} {p file name : Nat} {fails : Bool} (inv : SerialInvariant w)
    (serial : ∀ q, q ≠ p → (w.pc q).acquiring = false) (atP : w.pc p = .tempClose file name)
    (stepped : runProcess w p fails = some w') : SerialInvariant w' := by
  have own := inv.progress p
  simp only [Progress, atP] at own
  simp only [runProcess, atP] at stepped
  split at stepped <;> cases stepped
  · exact inv.fail serial
  · refine inv.setPc serial (by simp) ?_
    simp only [Progress, World.setPc_pc, if_true, World.setPc_paths, World.setPc_contents]
    exact ⟨fun other named => by rw [own.1] at named; cases named; exact own.2.1,
      noHolder_setPc own.2.2 rfl (by simp)⟩

theorem SerialInvariant.rename {w w' : World} {p name : Nat} {fails : Bool} (inv : SerialInvariant w)
    (serial : ∀ q, q ≠ p → (w.pc q).acquiring = false) (atP : w.pc p = .rename name)
    (stepped : runProcess w p fails = some w') : SerialInvariant w' := by
  have own := inv.progress p
  simp only [Progress, atP] at own
  simp only [runProcess, atP] at stepped
  split at stepped
  · next file named =>
    split at stepped <;> cases stepped
    · exact inv.setPc serial (by simp) (by simp [Progress])
    · exact serialInvariant_setPc serial rfl (fun h _ holds => (own.2 h holds).elim)
        (fun _ => by simp [World.lockText, own.1 file named]) (by simp [Progress])
  · cases stepped; exact inv.setPc serial (by simp) (by simp [Progress])

theorem SerialInvariant.removeTemp {w w' : World} {p name : Nat} {fails : Bool} (inv : SerialInvariant w)
    (serial : ∀ q, q ≠ p → (w.pc q).acquiring = false) (atP : w.pc p = .removeTemp name)
    (stepped : runProcess w p fails = some w') : SerialInvariant w' := by
  simp only [runProcess, atP, Option.some.injEq] at stepped
  exact stepped ▸ serialInvariant_setPc serial rfl
    (fun h _ holds => by simpa [World.lockText] using inv.holder_text h holds) (by simp) (by simp [Progress])

/-- While `p` holds the lock, every other process inside `AcquireLockFile` is at a
point that expects no holder, or probes the pid of the one there is: the
release keeps what it established. -/
theorem Progress.release {w : World} {p q : Nat} (holds : w.pc p = .holding) (other : q ≠ p)
    (kept : Progress w q) : Progress ((w.link .lock none).setPc p .released) q := by
  unfold Progress at kept ⊢
  simp only [World.setPc_pc, other, if_false, World.link_pc, World.setPc_paths, World.setPc_contents]
  cases atQ : w.pc q <;> simp only [atQ] at kept ⊢
  case writeOwn | closeOwn | tempWrite | tempClose => exact (kept.2.2 p holds).elim
  case tempCreate => exact (kept p holds).elim
  case rename => exact (kept.2 p holds).elim
  case probe pid =>
    intro h holding
    by_cases same : h = p
    · simp [same] at holding
    · exact kept h (by simpa [same] using holding)

theorem SerialInvariant.release {w : World} {p : Nat} (inv : SerialInvariant w) (holds : w.pc p = .holding) :
    SerialInvariant ((w.link .lock none).setPc p .released) := by
  refine ⟨fun h holding => ?_, fun q => ?_⟩
  · by_cases same : h = p
    · simp [same] at holding
    · exact absurd (inv.unique_holder (by simpa [same] using holding) holds) same
  · by_cases same : q = p
    · simp [Progress, same]
    · exact Progress.release holds same (inv.progress q)

/-- Every step of a serial run keeps the invariant. -/
theorem SerialInvariant.step {w w' : World} {action : Action} (inv : SerialInvariant w)
    (serial : Serial w action) (stepped : step w action = some w') : SerialInvariant w' := by
  cases action with
  | die d =>
      simp only [Grumble.Blobstore.step] at stepped
      split at stepped
      · cases stepped
      · cases stepped; exact inv.die
  | run p fails =>
      simp only [Grumble.Blobstore.step] at stepped
      rcases serial with holding | serial
      · simp only [runProcess, holding, Option.some.injEq] at stepped
        exact stepped ▸ inv.release holding
      · cases atP : w.pc p with
        | start => exact inv.openExcl serial atP stepped
        | writeOwn file => exact inv.writeOwn serial atP stepped
        | closeOwn file => exact inv.closeOwn serial atP stepped
        | readLock => exact inv.readLock serial atP stepped
        | probe pid => exact inv.probe serial atP stepped
        | tempCreate => exact inv.tempCreate serial atP stepped
        | tempWrite file name => exact inv.tempWrite serial atP stepped
        | tempClose file name => exact inv.tempClose serial atP stepped
        | rename name => exact inv.rename serial atP stepped
        | removeTemp name => exact inv.removeTemp serial atP stepped
        | holding =>
            simp only [runProcess, atP, Option.some.injEq] at stepped
            exact stepped ▸ inv.release atP
        | failed | released | dead => simp [runProcess, atP] at stepped

theorem SerialReachable.invariant {w : World} (reached : SerialReachable w) : SerialInvariant w := by
  induction reached with
  | init => exact ⟨fun h holds => by simp [World.init] at holds, fun p => by simp [Progress, World.init]⟩
  | step action _ serial stepped inv => exact inv.step serial stepped

/-- Mutual exclusion of the lock file for the runs whose `AcquireLockFile` calls
do not overlap: in every state they reach, at most one process holds the lock. -/
theorem acquireLockFile_serial_mutualExclusion {w : World} (reached : SerialReachable w)
    {p q : Nat} (holds : w.pc p = .holding) (holds' : w.pc q = .holding) : p = q :=
  reached.invariant.unique_holder holds holds'

/-- Process 1 runs `AcquireLockFile` alone, by `O_EXCL` creation, and holds the lock. -/
theorem acquireLockFile_serial_alone :
    ∃ w, SerialReachable w ∧ w.pc 1 = .holding ∧ (1 : Nat) = 1 := by
  have alone : ∀ w : World, (∀ q, q ≠ 1 → w.pc q = .start) → Serial w (.run 1 false) :=
    fun w others => .inr fun q ne => by simp [others q ne, Pc.acquiring]
  have created := SerialReachable.step (.run 1 false) .init (alone _ fun _ _ => rfl) rfl
  have written := SerialReachable.step (.run 1 false) created
    (alone _ fun q ne => by simp [ne, World.init]) rfl
  have closed := SerialReachable.step (.run 1 false) written
    (alone _ fun q ne => by simp [ne, World.init]) rfl
  exact ⟨_, closed, rfl, acquireLockFile_serial_mutualExclusion closed rfl rfl⟩

-- A call made alone.

end Grumble.Blobstore
