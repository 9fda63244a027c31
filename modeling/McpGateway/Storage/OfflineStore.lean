import Mathlib.Algebra.Order.Ring.Nat
import Mathlib.Data.Fin.Basic
import Mathlib.Data.Finset.Max
import Mathlib.Data.List.AList
import Mathlib.Data.Rat.Floor
import Mathlib.Order.Lattice
import Mathlib.Tactic.Linarith
import McpGateway.Config
import McpGateway.Lib.LeastIndex

/-!
# The offline store

`offline_store.c`: record files on the SPI Flash partition and on the TF
card, each directory with a cached count and oldest sequence id. A `Medium`
is a directory together with its cached pair; it keeps its files while it is
not mounted. The answers of the file system (mount results, free space, how
a write ends) are arguments of the operations.
-/

namespace McpGateway.Storage

open McpGateway.Lib

/-- One record directory and its cached `s_*_count`, `s_*_oldest`, `s_*_oldest_valid`. -/
structure Medium where
  mounted : Bool
  dir : AList fun _ : SeqId => CStr
  count : Nat
  oldest : SeqId
  oldestValid : Bool

/-- How a `write_record` call ends: the file is complete, could not be
opened, or was left after its first `n` characters. -/
inductive WriteOutcome
  | ok
  | openFailed
  | cutShort (n : Nat)
  deriving DecidableEq, Repr

inductive OfflineMedium
  | flash
  | tf
  deriving DecidableEq, Repr

/-- `offline_record_t`. -/
structure OfflineRecord where
  sequenceId : SeqId
  topic : CStr
  payload : CStr
  medium : OfflineMedium
  deriving DecidableEq, Repr

def topicSize : Nat := 128
def seqLineSize : Nat := 16
def flashReserveBytes : Nat := 64 * 1024

/-! ## One directory -/

namespace Medium

def countIn (m : Medium) : Nat := if m.mounted then m.dir.keys.length else 0

def findOldestIn (m : Medium) : Option SeqId :=
  if m.mounted then scanLeast m.dir.keys else none

def access (m : Medium) (id : SeqId) : Bool := m.mounted && decide (id ∈ m.dir)

def unlink (m : Medium) (id : SeqId) : Option Medium :=
  if m.access id then some { m with dir := m.dir.erase id } else none

def setOldest (m : Medium) (o : Option SeqId) : Medium :=
  { m with oldest := o.getD 0, oldestValid := o.isSome }

def loadStoreState (m : Medium) : Medium :=
  { m with count := m.countIn }.setOldest m.findOldestIn

def advanceOldest (m : Medium) (removed : SeqId) : Medium :=
  if m.count = 0 then m.setOldest none
  else if m.access (removed + 1) then m.setOldest (some (removed + 1))
  else m.setOldest m.findOldestIn

def removeOldest (m : Medium) : Bool × Medium :=
  if m.count = 0 ∨ m.oldestValid = false then (false, m)
  else match m.unlink m.oldest with
    | none => (false, m.loadStoreState)
    | some m' => (true, { m' with count := m'.count - 1 }.advanceOldest m.oldest)

/-- The file `write_record` prints: `"%lu\n%s\n%s"`. -/
def recordText (id : SeqId) (topic payload : CStr) : CStr :=
  printDecimal id.val ++ '\n' :: (topic ++ '\n' :: payload)

def writeRecord (m : Medium) (id : SeqId) (topic payload : CStr) (w : WriteOutcome) :
    EspErr × Medium :=
  if m.mounted then
    match w with
    | .openFailed => (.fail, m)
    | .cutShort n => (.fail, { m with dir := m.dir.insert id ((recordText id topic payload).take n) })
    | .ok => (.ok, { m with dir := m.dir.insert id (recordText id topic payload) })
  else (.fail, m)

/-- The index update after a successful write. -/
def noteStored (m : Medium) (id : SeqId) : Medium :=
  if m.oldestValid = false ∨ id < m.oldest then
    { m with count := m.count + 1 }.setOldest (some id)
  else { m with count := m.count + 1 }

/-- The index update of the eviction branch without a card, which only looks at
`s_flash_oldest_valid`. -/
def noteEvicted (m : Medium) (id : SeqId) : Medium :=
  if m.oldestValid = false then { m with count := m.count + 1 }.setOldest (some id)
  else { m with count := m.count + 1 }

def readRecord (m : Medium) (id : SeqId) (medium : OfflineMedium) : Except EspErr OfflineRecord :=
  if m.mounted then
    match m.dir.lookup id with
    | none => .error .notFound
    | some text =>
      match fgets seqLineSize text with
      | none => .error .fail
      | some (_, rest) =>
        match fgets topicSize rest with
        | none => .error .fail
        | some (topic, payload) =>
          .ok { sequenceId := id, topic := cutAt ['\r', '\n'] topic,
                payload := strlcpy tcmMaxJsonLen payload, medium := medium }
  else .error .notFound

/-- `unlink` of one record followed by its index update in `offline_store_remove`. -/
def removeRecord (m : Medium) (id : SeqId) : Bool × Medium :=
  match m.unlink id with
  | none => (false, m)
  | some m' =>
    if m'.count = 0 then (true, m')
    else if m'.oldestValid ∧ m'.oldest = id then
      (true, { m' with count := m'.count - 1 }.advanceOldest id)
    else (true, { m' with count := m'.count - 1 })

end Medium

/-! ## The store -/

structure Store where
  flash : Medium
  tf : Medium
  flashReady : Bool
  dataLoss : Nat

/-- How mounting the flash partition ends; with `format_if_mount_failed` it
may come up empty. -/
inductive MountOutcome
  | ok
  | formatted
  | failed
  deriving DecidableEq, Repr

structure RecreateEnv where
  unmount : Bool
  format : Bool
  mount : MountOutcome
  mkdir : Bool

structure InitEnv where
  mount : MountOutcome
  mkdir : Bool
  /-- The free bytes `esp_vfs_fat_info` reports, `none` when it fails. -/
  free : Option Nat
  recreate : RecreateEnv

structure PutEnv where
  /-- The free bytes `esp_vfs_fat_info` reports, `none` when it fails. -/
  free : Option Nat
  flashWrite : WriteOutcome
  tfWrite : WriteOutcome
  tfRetry : WriteOutcome
  flashRetry : WriteOutcome

def mountFlashCache (m : Medium) : MountOutcome → EspErr × Medium
  | .ok => (.ok, { m with mounted := true })
  | .formatted => (.ok, { m with mounted := true, dir := ∅ })
  | .failed => (.fail, m)

def recreateFlashCache (m : Medium) (env : RecreateEnv) : EspErr × Medium :=
  if env.unmount = false then (.fail, m)
  else if env.format = false then (.fail, { m with mounted := false })
  else
    let r := mountFlashCache { m with mounted := false, dir := ∅ } env.mount
    if r.1 ≠ .ok then r
    else if env.mkdir = false then (.fail, r.2) else (.ok, r.2)

/-- The pruning loop of `offline_store_init`; each round removes a record, so
the count bounds the rounds. -/
def pruneLoop : Nat → Store → Store
  | 0, st => st
  | n + 1, st =>
    if st.flash.count > uifCacheMaxRecords then
      let r := st.flash.removeOldest
      if r.1 then pruneLoop n { st with flash := r.2, dataLoss := st.dataLoss + 1 }
      else { st with flash := r.2 }
    else st

/-- `offline_store_init` from the pruning loop on. -/
def initFinish (st : Store) : Store :=
  let st := pruneLoop st.flash.count st
  if st.tf.mounted then { st with tf := st.tf.loadStoreState } else st

def noUsableSpace : Option Nat → Bool
  | none => false
  | some free => decide (free ≤ flashReserveBytes)

def offlineStoreInit (st : Store) (env : InitEnv) : EspErr × Store :=
  let r := mountFlashCache st.flash env.mount
  if r.1 ≠ .ok then (r.1, { st with flash := r.2 })
  else if env.mkdir = false then (.fail, { st with flash := r.2 })
  else
    let flash := r.2.loadStoreState
    if flash.count = 0 ∧ noUsableSpace env.free then
      let q := recreateFlashCache flash env.recreate
      if q.1 ≠ .ok then (q.1, { st with flash := q.2, flashReady := true })
      else (.ok, initFinish { st with flash := q.2.loadStoreState, flashReady := true })
    else (.ok, initFinish { st with flash := flash, flashReady := true })

/-- Does `offline_store_put` try the flash directory first? -/
def flashHasRoom (st : Store) (topic payload : CStr) (env : PutEnv) : Bool :=
  match env.free with
  | none => false
  | some free =>
    decide (st.flash.count < uifCacheMaxRecords) &&
      decide (free > flashReserveBytes + payload.length + topic.length + 64)

/-- The first branch of `offline_store_put`. -/
def putFlash (st : Store) (id : SeqId) (topic payload : CStr) (env : PutEnv) : EspErr × Store :=
  if flashHasRoom st topic payload env then
    let w := st.flash.writeRecord id topic payload env.flashWrite
    if w.1 = .ok then (.ok, { st with flash := w.2.noteStored id })
    else (w.1, { st with flash := w.2 })
  else (.fail, st)

/-- The write of the TF branch: on failure, once more after an eviction. Also
says whether a record was evicted. -/
def Medium.writeWithRetry (m : Medium) (id : SeqId) (topic payload : CStr)
    (write retry : WriteOutcome) : EspErr × Bool × Medium :=
  let w := m.writeRecord id topic payload write
  if w.1 = .ok then (.ok, false, w.2.noteStored id)
  else
    let again := w.2.removeOldest
    if again.1 then
      let w' := again.2.writeRecord id topic payload retry
      if w'.1 = .ok then (.ok, true, w'.2.noteStored id) else (w'.1, true, w'.2)
    else (w.1, false, again.2)

/-- The TF overflow branch of `offline_store_put`. -/
def putTf (st : Store) (id : SeqId) (topic payload : CStr) (env : PutEnv) : EspErr × Store :=
  let full := if st.tf.count ≥ uifCacheMaxRecords then st.tf.removeOldest else (false, st.tf)
  let w := full.2.writeWithRetry id topic payload env.tfWrite env.tfRetry
  (w.1, { st with tf := w.2.2, dataLoss := st.dataLoss + full.1.toNat + w.2.1.toNat })

/-- The eviction branch of `offline_store_put` without a card, after a flash
write that ended with `err`. -/
def putEvict (st : Store) (err : EspErr) (id : SeqId) (topic payload : CStr) (env : PutEnv) :
    EspErr × Store :=
  let r := st.flash.removeOldest
  if r.1 then
    let w := r.2.writeRecord id topic payload env.flashRetry
    if w.1 = .ok then
      (.ok, { st with flash := w.2.noteEvicted id, dataLoss := st.dataLoss + 1 })
    else (w.1, { st with flash := w.2, dataLoss := st.dataLoss + 1 })
  else (err, { st with flash := r.2 })

/-- The three branches of `offline_store_put`. -/
def putRecord (st : Store) (id : SeqId) (topic payload : CStr) (env : PutEnv) :
    EspErr × Store :=
  let first := putFlash st id topic payload env
  if first.1 = .ok then first
  else if first.2.tf.mounted then putTf first.2 id topic payload env
  else putEvict first.2 first.1 id topic payload env

def offlineStorePut (st : Store) (id : SeqId) (topic payload : CStr) (env : PutEnv) :
    EspErr × Store :=
  if st.flashReady = false then (.invalidState, st)
  else
    let r := putRecord st id topic payload env
    if r.1 = .ok then r else (r.1, { r.2 with dataLoss := r.2.dataLoss + 1 })

/-- The record `offline_store_peek_oldest` goes for. -/
def peekTarget (st : Store) : Option (OfflineMedium × SeqId) :=
  let tf := st.tf.mounted && st.tf.oldestValid
  if st.flash.oldestValid && (!tf || decide (st.flash.oldest ≤ st.tf.oldest)) then
    some (.flash, st.flash.oldest)
  else if tf then some (.tf, st.tf.oldest)
  else none

def Store.medium (st : Store) : OfflineMedium → Medium
  | .flash => st.flash
  | .tf => st.tf

def readTarget (st : Store) : Except EspErr OfflineRecord :=
  match peekTarget st with
  | none => .error .notFound
  | some (m, id) => (st.medium m).readRecord id m

/-- The index recovery of `offline_store_peek_oldest`. -/
def reload (st : Store) : Store :=
  { st with
    flash := st.flash.loadStoreState
    tf := if st.tf.mounted then st.tf.loadStoreState else st.tf }

def offlineStorePeekOldest (st : Store) : Except EspErr OfflineRecord × Store :=
  match readTarget st with
  | .ok r => (.ok r, st)
  | .error e =>
    if (peekTarget st).isSome then (readTarget (reload st), reload st) else (.error e, st)

def offlineStoreRemove (st : Store) (id : SeqId) : EspErr × Store :=
  let f := st.flash.removeRecord id
  let t := st.tf.removeRecord id
  (if f.1 || t.1 then .ok else .notFound, { st with flash := f.2, tf := t.2 })

def offlineStoreCount (st : Store) : Nat :=
  st.flash.count + if st.tf.mounted then st.tf.count else 0

/-! ## Empty media, and answers without a fault -/

def emptyMedium : Medium :=
  { mounted := false, dir := ∅, count := 0, oldest := 0, oldestValid := false }

def emptyBoot : Store :=
  { flash := emptyMedium, tf := emptyMedium, flashReady := false, dataLoss := 0 }

def plainInit : InitEnv where
  mount := .ok
  mkdir := true
  free := some 1048576
  recreate := { unmount := true, format := true, mount := .ok, mkdir := true }

def putWith (free : Nat) : PutEnv :=
  { free := some free, flashWrite := .ok, tfWrite := .ok, tfRetry := .ok, flashRetry := .ok }

end McpGateway.Storage
