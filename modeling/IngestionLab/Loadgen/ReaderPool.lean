import IngestionLab.Go.Filepath
import IngestionLab.Loadgen.Telemetry
import IngestionLab.Machine.Cells
import IngestionLab.Machine.Run
import Mathlib.Data.Char
import Mathlib.Data.List.Lex
import Mathlib.Data.List.Sort

/-!
# The reader pool

The model of `reader_pool.go`: workers claim the source files in turn, read each in
batches and put the batches into the reader channel; the event loop resizes the
pool; the first source error stops all of it.

As in the model of the sender pool every goroutine has a program counter –
`IngestionLab.ReaderWorkerPc` for `runWorker`, with `IngestionLab.ReadPc` for the
position inside `readFile` – and an action is what a goroutine does between two
points where another may interfere. No section under `p.mu` blocks, so each is one
action and the mutex itself does not appear.

The moves inside `readFile` (`IngestionLab.ReadMove`) concern one worker, its file
and the telemetry only. They are described by one partial function,
`IngestionLab.ReadPc.move`, and the pool has a single action for all of them.

What the file system and the parquet reader answer is in the label of a move: a
file may fail to open, a read may return rows together with an error or the end of
the file, closing may fail. The reader channel may accept a batch, or not, at any
time.
-/

namespace IngestionLab

open Function Go

/-- What went wrong with the source (`readerSourceError`). -/
structure ReaderSourceError where
  category : String
  operation : String
  relativePath : String
  message : String
  deriving DecidableEq, Repr

/-! ### Paths of the source -/

/-- The characters that make a path element a pattern. -/
def isMeta (c : Char) : Bool := c == '*' || c == '?' || c == '['

/-- The walk of `readerSourceDirectory` from a directory towards the root: the parent
of the last element met that is a pattern. -/
def walkUp : ℕ → Path → Path → Path
  | 0, _, directory => directory
  | fuel + 1, current, directory =>
    if current = dir current then directory
    else walkUp fuel (dir current) (if (base current).any isMeta then dir current else directory)

/-- `readerSourceDirectory`. The walk drops an element at every step, so there are no
more steps than characters. -/
def readerSourceDirectory (sourcePath : Path) : Path :=
  walkUp ((dir sourcePath).length + 1) (dir sourcePath) (dir sourcePath)

/-- `relativeSourcePath`. -/
def relativeSourcePath (sourceDirectory sourcePath : Path) : Path :=
  match rel sourceDirectory sourcePath with
  | none => base sourcePath
  | some relative =>
    if relative = ['.'] ∨ relative = [] ∨ relative = ['.', '.'] ∨
        ['.', '.', '/'].isPrefixOf relative then
      base sourcePath
    else relative

/-- `newReaderSourceError`. -/
def newReaderSourceError (sourceDirectory : Path) (operation : String) (sourcePath : Path)
    (message : String) : ReaderSourceError where
  category := "source"
  operation := operation
  relativePath := String.ofList (relativeSourcePath sourceDirectory sourcePath)
  message := message

/-! ### Positions -/

/-- How a call of `reader.Read` ended. -/
inductive ReadEnd
  | more
  | eof
  | failed (message : String)
  deriving DecidableEq, Repr

/-- **Where a worker stands in `sendBatch`**, with the functions of the channel
telemetry it calls; `id` is the identity of its blocked interval. -/
inductive SendPc
  /-- About to test the context. -/
  | test
  /-- `trySend`, in the select with a default case. -/
  | trying
  /-- `trySend`, about to record the send. -/
  | recordTry
  /-- About to open a blocked interval. -/
  | begin
  /-- About to set `blocked`. -/
  | flag (id : ℕ)
  /-- `wait`, in its select. -/
  | waiting (id : ℕ)
  /-- `wait`, about to close the blocked interval. -/
  | finish (id : ℕ) (sent : Bool)
  /-- `wait`, about to record the send. -/
  | recordWait
  /-- About to clear `blocked`. -/
  | unflag (sent : Bool)
  deriving DecidableEq, Repr

/-- **Where a worker stands in `readFile`.** `batch` is the batch being filled, `rows`
the rows read and not yet appended, `ending` how the read that brought them ended.
`back` says where `sendBatch` was called from: with the rows still to append when
from `appendRows`, `none` when for the last batch. -/
inductive ReadPc
  /-- About to open the file. -/
  | opening
  /-- About to open the parquet reader. -/
  | openingReader
  /-- The parquet reader failed to open; about to close the file. -/
  | closingUnopened (message : String)
  /-- At the head of the loop, about to test the context. -/
  | head (batch : Batch)
  /-- About to read. -/
  | reading (batch : Batch)
  /-- About to record the rows read. -/
  | recording (batch : Batch) (rows : Batch) (ending : ReadEnd)
  /-- At the head of the loop of `appendRows`. -/
  | appending (batch : Batch) (rows : Batch) (ending : ReadEnd)
  /-- In `sendBatch`. -/
  | sending (batch : Batch) (back : Option (Batch × ReadEnd)) (pc : SendPc)
  /-- Past the loop without an error, about to send what is left. -/
  | tail (batch : Batch)
  /-- `closeResources`, about to read the context. -/
  | closing (error : Option ReaderSourceError)
  /-- `closeResources`, about to close the parquet reader. -/
  | closingReader (error : Option ReaderSourceError) (cancelled : Bool)
  /-- `closeResources`, about to close the file. -/
  | closingFile (error : Option ReaderSourceError) (cancelled : Bool)
  /-- `readFile` has returned. -/
  | returned (error : Option ReaderSourceError)
  deriving DecidableEq, Repr

/-- **Where a reader worker's goroutine stands** in `runWorker`. -/
inductive ReaderWorkerPc
  /-- `claimNextFile`, about to look for a file. -/
  | claim
  /-- `claimNextFile`, in `available.Wait`. -/
  | parked
  /-- In `readFile`. -/
  | file (path : Path) (pc : ReadPc)
  /-- `reportSourceError`, about to enter `sourceErrorOnce`. -/
  | reporting (path : Path) (error : ReaderSourceError)
  /-- Inside the once, about to send the error. -/
  | pushing (path : Path) (error : ReaderSourceError)
  /-- Inside the once, about to cancel the pool context. -/
  | cancelling (path : Path)
  /-- Inside the once, about to mark the pool stopping. -/
  | marking (path : Path)
  /-- About to release the file. -/
  | releasing (path : Path)
  /-- Past the release, about to test the context. -/
  | checking
  /-- Has decided to exit; the deferred function has not run yet. -/
  | exiting
  /-- Removed from the pool; the wait group is not released yet. -/
  | removed
  /-- The goroutine has ended. -/
  | exited
  deriving DecidableEq, Repr

namespace ReaderWorkerPc

/-- Past the removal: the worker is no longer registered. -/
def hasLeft : ReaderWorkerPc → Bool
  | removed | exited => true
  | claim | parked | file _ _ | reporting _ _ | pushing _ _ | cancelling _ | marking _
  | releasing _ | checking | exiting => false

/-- The worker owns a file. -/
def ownsFile : ReaderWorkerPc → Bool
  | file _ _ | reporting _ _ | pushing _ _ | cancelling _ | marking _ | releasing _ => true
  | claim | parked | checking | exiting | removed | exited => false

/-- What `available.Broadcast` does to a worker. -/
def broadcast : ReaderWorkerPc → ReaderWorkerPc
  | parked => claim
  | pc => pc

end ReaderWorkerPc

/-- A reader worker (`readerWorker`), with the position of its goroutine. -/
structure ReaderWorker where
  draining : Bool := false
  busy : Bool := false
  blocked : Bool := false
  pc : ReaderWorkerPc := .claim
  deriving DecidableEq, Repr

/-- How far `sourceErrorOnce` is. -/
inductive OnceState
  | fresh
  | running
  | done
  deriving DecidableEq, Repr

/-- **Where the goroutine started by `startReaderPool` stands.** -/
inductive WatcherPc
  /-- Waiting for the pool context. -/
  | waiting
  /-- The context is cancelled; about to mark the pool stopping. -/
  | marking
  /-- Waiting for the workers. -/
  | joining
  /-- `done` is closed. -/
  | closed
  deriving DecidableEq, Repr

/-- **The reader pool** (`readerPool`). Workers are cells under the numbers they were
started with, `workers` lists those registered in `p.workers`, `wg` is the counter
of the wait group and `sourceErrors` the one-place buffer of the error channel. -/
structure ReaderPool where
  worker : ℕ → ReaderWorker
  started : ℕ
  workers : List ℕ
  wg : ℕ
  desired : ℕ
  stopping : Bool
  cancelled : Bool
  files : List Path
  sourceDirectory : Path
  active : Path → Bool
  nextFile : ℕ
  batchSize : ℕ
  sourceErrors : Option ReaderSourceError
  once : OnceState
  watcher : WatcherPc

/-! ### The moves inside `readFile` -/

/-- **What a worker in `readFile` may do next.** -/
inductive ReadMove
  | opened
  | openFailed (message : String)
  | readerOpened
  | readerFailed (message : String)
  | closedUnopened (closeError : Option String)
  | testHead
  | read (rows : Batch) (ending : ReadEnd)
  | recordRead
  | appendRows
  | testSend
  | trySend (batch : Batch)
  | tryDefault
  | recordTry
  | beginBlockedSend
  | setBlocked
  | waitSend (batch : Batch)
  | waitCanceled
  | finishBlockedWriter
  | recordWait
  | clearBlocked
  | sendTail
  | testClosing
  | closedReader (closeError : Option String)
  | closedFile (closeError : Option String)
  deriving DecidableEq, Repr

/-- What a worker in `readFile` sees of the pool and the telemetry. -/
structure ReadView where
  cancelled : Bool
  batchSize : ℕ
  /-- The error the pool makes of an operation on the worker's file that failed. -/
  fail : String → String → ReaderSourceError
  /-- The identity the next blocked interval gets. -/
  blockedID : ℕ

namespace ReadPc

/-- Where the loop of `readFile` goes on once the rows of a read are appended. -/
def afterAppend (v : ReadView) (batch : Batch) : ReadEnd → ReadPc
  | .more => head batch
  | .eof => tail batch
  | .failed message => closing (some (v.fail "read" message))

/-- Where `sendBatch` returns to. -/
def afterSend : Option (Batch × ReadEnd) → Bool → ReadPc
  | some (rows, ending), true => appending [] rows ending
  | _, _ => closing none

/-- The first error of several sources, an error on closing counting only while the
context is not cancelled. -/
def orClose (v : ReadView) (error : Option ReaderSourceError) (cancelled : Bool)
    (operation : String) (closeError : Option String) : Option ReaderSourceError :=
  if error = none ∧ cancelled = false then closeError.map (v.fail operation) else error

/-- **The next position inside `readFile`**, `none` where the move may not be made. -/
def move (v : ReadView) : ReadPc → ReadMove → Option ReadPc
  | opening, .opened => some openingReader
  | opening, .openFailed message => some (returned (some (v.fail "open" message)))
  | openingReader, .readerOpened => some (head [])
  | openingReader, .readerFailed message => some (closingUnopened message)
  | closingUnopened message, .closedUnopened closeError =>
    match closeError, v.cancelled with
    | some closeMessage, false => some (returned (some (v.fail "close" closeMessage)))
    | _, _ => some (returned (some (v.fail "open" message)))
  | head batch, .testHead => some (if v.cancelled then tail batch else reading batch)
  | reading batch, .read rows ending =>
    if v.batchSize - batch.length < rows.length then none
    else if rows = [] then some (afterAppend v batch ending)
    else some (recording batch rows ending)
  | recording batch rows ending, .recordRead => some (appending batch rows ending)
  | appending batch rows ending, .appendRows =>
    if rows = [] then some (afterAppend v batch ending)
    else if v.cancelled then some (closing none)
    else
      let room := v.batchSize - batch.length
      let filled := batch ++ rows.take room
      if filled.length < v.batchSize then some (appending filled (rows.drop room) ending)
      else some (sending filled (some (rows.drop room, ending)) .test)
  | sending batch back .test, .testSend =>
    some (if v.cancelled then afterSend back false else sending batch back .trying)
  | sending batch back .trying, .trySend sent =>
    if sent = batch then some (sending batch back .recordTry) else none
  | sending batch back .trying, .tryDefault => some (sending batch back .begin)
  | sending _ back .recordTry, .recordTry => some (afterSend back true)
  | sending batch back .begin, .beginBlockedSend => some (sending batch back (.flag v.blockedID))
  | sending batch back (.flag id), .setBlocked => some (sending batch back (.waiting id))
  | sending batch back (.waiting id), .waitSend sent =>
    if sent = batch then some (sending batch back (.finish id true)) else none
  | sending batch back (.waiting id), .waitCanceled =>
    if v.cancelled then some (sending batch back (.finish id false)) else none
  | sending batch back (.finish _ sent), .finishBlockedWriter =>
    some (sending batch back (if sent then .recordWait else .unflag false))
  | sending batch back .recordWait, .recordWait => some (sending batch back (.unflag true))
  | sending _ back (.unflag sent), .clearBlocked => some (afterSend back sent)
  | tail batch, .sendTail =>
    some (if v.cancelled = false ∧ batch ≠ [] then sending batch none .test else closing none)
  | closing error, .testClosing => some (closingReader error v.cancelled)
  | closingReader error cancelled, .closedReader closeError =>
    some (closingFile (orClose v error cancelled "reader-close" closeError) cancelled)
  | closingFile error cancelled, .closedFile closeError =>
    some (returned (orClose v error cancelled "close" closeError))
  | _, _ => none

/-- What a move does to the shared memory. -/
def remember (sh : Memory) : ReadPc → ReadMove → Memory
  | recording _ rows _, .recordRead => { sh with reader := sh.reader.recordRead rows.length }
  | sending batch _ _, .recordTry | sending batch _ _, .recordWait =>
    { sh with readerChannel := sh.readerChannel.recordSend batch.length }
  | sending _ _ _, .beginBlockedSend =>
    { sh with readerChannel := sh.readerChannel.startBlocked sh.now }
  | sending _ _ (.finish id _), .finishBlockedWriter =>
    { sh with readerChannel := sh.readerChannel.finishBlockedWriter id sh.now }
  | _, _ => sh

end ReadPc

/-- What a move makes of the flag `blocked`. -/
def ReadMove.blocked (blocked : Bool) : ReadMove → Bool
  | .setBlocked => true
  | .clearBlocked => false
  | _ => blocked

namespace ReaderPool

/-! ### The functions of the pool -/

/-- Change one worker. -/
def setWorker (p : ReaderPool) (w : ℕ) (c : ReaderWorker) : ReaderPool :=
  { p with worker := update p.worker w c }

/-- Move the goroutine of one worker. -/
def goto (p : ReaderPool) (w : ℕ) (pc : ReaderWorkerPc) : ReaderPool :=
  p.setWorker w { p.worker w with pc := pc }

/-- `p.available.Broadcast()`. -/
def broadcast (p : ReaderPool) : ReaderPool :=
  { p with worker := fun w => { p.worker w with pc := (p.worker w).pc.broadcast } }

/-- The registered workers that are not draining. -/
def activeWorkerCount (p : ReaderPool) : ℕ :=
  Cells.count (fun c => !c.draining) p.worker p.workers

/-- The registered workers that are draining. -/
def drainingWorkerCount (p : ReaderPool) : ℕ := Cells.count ReaderWorker.draining p.worker p.workers

/-- `startReplacementLocked`: a fresh worker, registered last. -/
def startReplacementLocked (p : ReaderPool) : ReaderPool :=
  { p with
    worker := update p.worker p.started {}
    started := p.started + 1
    workers := p.workers ++ [p.started]
    wg := p.wg + 1 }

/-- Starting a number of workers. -/
def startReplacements (p : ReaderPool) : ℕ → ReaderPool
  | 0 => p
  | n + 1 => (p.startReplacements n).startReplacementLocked

/-- The registered workers in the order of `sort.SliceStable`: those without a file
first, each group in its old order. -/
def orderedWorkers (p : ReaderPool) : List ℕ :=
  p.workers.filter (fun w => !(p.worker w).busy) ++ p.workers.filter fun w => (p.worker w).busy

/-- The workers `reconcile` wants to see drain: the first of the order, as many as are
too many. -/
def surplus (p : ReaderPool) (desired : ℕ) : List ℕ :=
  p.orderedWorkers.take (p.orderedWorkers.length - desired)

/-- The first half of `reconcile`: the surplus drains, and no one else. -/
def adjust (p : ReaderPool) (desired : ℕ) : ReaderPool :=
  { p with
    desired := desired
    worker := fun w =>
      if w ∈ p.workers then { p.worker w with draining := decide (w ∈ p.surplus desired) }
      else p.worker w }

/-- **`reconcile`**: adjust, start what is missing, broadcast. -/
def reconcile (p : ReaderPool) (desired : ℕ) : ReaderPool :=
  if p.stopping ∨ p.cancelled then p
  else ((p.adjust desired).startReplacements (desired - p.workers.length)).broadcast

/-- The index `claimNextFile` finds: the first file that is not active, from the cursor
on and around. -/
def nextIndex (p : ReaderPool) : Option ℕ :=
  ((List.range p.files.length).map fun offset => (p.nextFile + offset) % p.files.length).find?
    fun index => !p.active (p.files.getD index [])

/-- `claimNextFile`, when it finds a file. -/
def claimFile (p : ReaderPool) (w index : ℕ) : ReaderPool :=
  let path := p.files.getD index []
  { p.setWorker w { p.worker w with busy := true, pc := .file path .opening } with
    active := update p.active path true
    nextFile := index + 1 }

/-- `releaseFileLocked`. -/
def releaseFileLocked (p : ReaderPool) (w : ℕ) (path : Path) : ReaderPool :=
  { p.setWorker w { p.worker w with busy := false, pc := .checking } with
    active := update p.active path false }.broadcast

/-- `removeWorkerLocked`. -/
def removeWorkerLocked (p : ReaderPool) (w : ℕ) : ReaderPool :=
  { p with workers := p.workers.erase w }

/-- The deferred function of `runWorker`: leave the pool, and start a replacement if
too few workers are left and the pool goes on. -/
def exitWorker (p : ReaderPool) (w : ℕ) : ReaderPool :=
  let left := p.removeWorkerLocked w
  if left.stopping = false ∧ left.cancelled = false ∧ left.workers.length < left.desired then
    left.startReplacementLocked
  else left

/-- `p.stopping = true; p.available.Broadcast()`. -/
def markStopping (p : ReaderPool) : ReaderPool := { p with stopping := true }.broadcast

/-- The pool `startReaderPool` makes, before its first `reconcile`. -/
def empty (files : List Path) (sourceDirectory : Path) (batchSize : ℕ) : ReaderPool where
  worker := fun _ => {}
  started := 0
  workers := []
  wg := 0
  desired := 0
  stopping := false
  cancelled := false
  files := files
  sourceDirectory := sourceDirectory
  active := fun _ => false
  nextFile := 0
  batchSize := batchSize
  sourceErrors := none
  once := .fresh
  watcher := .waiting

/-- The checks of `startReaderPool` on what `filepath.Glob` answers: the files in order,
or the error when it fails or finds nothing. -/
def sourceFiles (dataPath : Path) (glob : Except String (List Path)) :
    Except ReaderSourceError (List Path) :=
  let fail := newReaderSourceError (readerSourceDirectory dataPath) "glob" dataPath
  match glob with
  | .error message => .error (fail message)
  | .ok files =>
    if files.length = 0 then .error (fail "no files found matching pattern")
    else .ok (files.insertionSort (· ≤ ·))

/-- What `startReaderPool` makes of the files. Under a context that is cancelled already the
source starts no worker; here the workers start, and leave when the pool is cancelled. -/
def start (dataPath : Path) (batchSize workers : ℕ) (files : List Path) : ReaderPool :=
  (empty files (readerSourceDirectory dataPath) batchSize).reconcile workers

/-- **`startReaderPool`**, given what `filepath.Glob` answers. -/
def startReaderPool (dataPath : Path) (batchSize workers : ℕ) (glob : Except String (List Path)) :
    Except ReaderSourceError ReaderPool :=
  (sourceFiles dataPath glob).map (start dataPath batchSize workers)

/-! ### The actions -/

/-- **What a goroutine of the pool, its caller or its environment may do next.** -/
inductive Action
  -- the event loop
  | reconcile (desired : ℕ)
  | receiveError (error : ReaderSourceError)
  | stopMark
  -- the pool context, whoever cancels it
  | cancel
  -- the watcher
  | watcherWoken
  | watcherMark
  | watcherJoined
  -- a worker
  | claimQuit (w : ℕ)
  | claim (w index : ℕ)
  | claimPark (w : ℕ)
  | read (w : ℕ) (path : Path) (pc : ReadPc) (move : ReadMove)
  | readDone (w : ℕ) (path : Path)
  | readFailed (w : ℕ) (path : Path) (error : ReaderSourceError)
  | reportFirst (w : ℕ) (path : Path) (error : ReaderSourceError)
  | reportAgain (w : ℕ) (path : Path) (error : ReaderSourceError)
  | push (w : ℕ) (path : Path) (error : ReaderSourceError)
  | cancelPool (w : ℕ) (path : Path)
  | mark (w : ℕ) (path : Path)
  | release (w : ℕ) (path : Path)
  | check (w : ℕ)
  | exitWorker (w : ℕ)
  | releaseWg (w : ℕ)
  deriving DecidableEq, Repr

/-- The action is a step of a worker or of the watcher. -/
def Action.isOwn : Action → Bool
  | .reconcile _ | .receiveError _ | .stopMark | .cancel => false
  | _ => true

/-- A worker that has been started and whose goroutine stands at a position. -/
def At (p : ReaderPool) (w : ℕ) (pc : ReaderWorkerPc) : Prop :=
  w < p.started ∧ (p.worker w).pc = pc

instance (p : ReaderPool) (w : ℕ) (pc : ReaderWorkerPc) : Decidable (p.At w pc) :=
  inferInstanceAs (Decidable (_ ∧ _))

/-- The view a worker has from inside `readFile`. -/
def view (sh : Memory) (p : ReaderPool) (path : Path) : ReadView where
  cancelled := p.cancelled
  batchSize := p.batchSize
  fail operation message := newReaderSourceError p.sourceDirectory operation path message
  blockedID := sh.readerChannel.nextBlocked

/-- **Where each action may be taken.** `stop` has cancelled the context before it
marks the pool. -/
def Enabled (sh : Memory) (p : ReaderPool) : Action → Prop
  | .reconcile desired => 1 ≤ desired
  | .receiveError error => p.sourceErrors = some error
  | .stopMark => p.cancelled = true
  | .cancel => True
  | .watcherWoken => p.watcher = .waiting ∧ p.cancelled = true
  | .watcherMark => p.watcher = .marking
  | .watcherJoined => p.watcher = .joining ∧ p.wg = 0
  | .claimQuit w => p.At w .claim ∧
      (p.stopping || p.cancelled || (p.worker w).draining) = true
  | .claim w index => p.At w .claim ∧
      (p.stopping || p.cancelled || (p.worker w).draining) = false ∧ p.nextIndex = some index
  | .claimPark w => p.At w .claim ∧
      (p.stopping || p.cancelled || (p.worker w).draining) = false ∧ p.nextIndex = none
  | .read w path pc move => p.At w (.file path pc) ∧ (pc.move (p.view sh path) move).isSome = true
  | .readDone w path => p.At w (.file path (.returned none))
  | .readFailed w path error => p.At w (.file path (.returned (some error)))
  | .reportFirst w path error => p.At w (.reporting path error) ∧ p.once = .fresh
  | .reportAgain w path error => p.At w (.reporting path error) ∧ p.once = .done
  | .push w path error => p.At w (.pushing path error) ∧ p.sourceErrors = none
  | .cancelPool w path => p.At w (.cancelling path)
  | .mark w path => p.At w (.marking path)
  | .release w path => p.At w (.releasing path)
  | .check w => p.At w .checking
  | .exitWorker w => p.At w .exiting
  | .releaseWg w => p.At w .removed

instance (sh : Memory) (p : ReaderPool) (a : Action) : Decidable (p.Enabled sh a) := by
  cases a <;> dsimp only [Enabled] <;> infer_instance

/-- **What each action does to the pool.** -/
def next (sh : Memory) (p : ReaderPool) : Action → ReaderPool
  | .reconcile desired => p.reconcile desired
  | .receiveError _ => { p with sourceErrors := none }
  | .stopMark => p.markStopping
  | .cancel => { p with cancelled := true }
  | .watcherWoken => { p with watcher := .marking }
  | .watcherMark => { p.markStopping with watcher := .joining }
  | .watcherJoined => { p with watcher := .closed }
  | .claimQuit w => p.goto w .exiting
  | .claim w index => p.claimFile w index
  | .claimPark w => p.goto w .parked
  | .read w path pc move =>
      p.setWorker w { p.worker w with
        blocked := move.blocked (p.worker w).blocked
        pc := .file path ((pc.move (p.view sh path) move).getD pc) }
  | .readDone w path => p.goto w (.releasing path)
  | .readFailed w path error => p.goto w (.reporting path error)
  | .reportFirst w path error => { p.goto w (.pushing path error) with once := .running }
  | .reportAgain w path _ => p.goto w (.releasing path)
  | .push w path error => { p.goto w (.cancelling path) with sourceErrors := some error }
  | .cancelPool w path => { p.goto w (.marking path) with cancelled := true }
  | .mark w path => { p.goto w (.releasing path) with once := .done }.markStopping
  | .release w path => p.releaseFileLocked w path
  | .check w => p.goto w (if p.cancelled then .exiting else .claim)
  | .exitWorker w => (p.exitWorker w).goto w .removed
  | .releaseWg w => { p.goto w .exited with wg := p.wg - 1 }

/-- What each action does to the shared memory. -/
def remember (sh : Memory) : Action → Memory
  | .read _ _ pc move => pc.remember sh move
  | _ => sh

/-- **The pool as a machine**, in an environment that may do anything to the shared
memory. -/
def machine : Machine (Memory × ReaderPool) (Memory ⊕ Action) where
  Enabled s
    | .inl _ => True
    | .inr a => s.2.Enabled s.1 a
  next s
    | .inl sh => (sh, s.2)
    | .inr a => (remember s.1 a, s.2.next s.1 a)

instance (s : Memory × ReaderPool) (a : Memory ⊕ Action) : Decidable (machine.Enabled s a) :=
  match a with
  | .inl _ => inferInstanceAs (Decidable True)
  | .inr a => inferInstanceAs (Decidable (s.2.Enabled s.1 a))

end ReaderPool

end IngestionLab
