import FlrcTnc.Framing.Fragment

/-! The datagram pool and the duplicate window: `arq/DatagramPool.h`. -/

namespace FlrcTnc.Arq

open Framing

def datagramPoolCapacity : UInt8 := 8
def duplicateWindowCapacity : Nat := 64

/-! ### Pool -/

inductive PoolResult
  | ok | exhausted | invalidHandle | doubleRelease
  deriving DecidableEq, Repr

structure DatagramHandle where
  index : UInt8 := 0xFF
  deriving DecidableEq, Repr

def DatagramHandle.isValid (handle : DatagramHandle) : Bool := handle.index < datagramPoolCapacity

/-- `data` points to a buffer of the pool, or is null. -/
structure DatagramLease where
  handle : DatagramHandle
  data : Option BufferRef
  capacity : UInt16
  deriving DecidableEq, Repr

structure DatagramPool where
  storage : BufferRef → Buffer := fun _ _ => 0
  freeBitmap : UInt8 := 0xFF
  usedCount : UInt8 := 0
  allocationFailures : UInt32 := 0
  invalidReleases : UInt32 := 0

/-- `static_cast<uint8_t>(1u << index)`. -/
def bufferBit (index : UInt8) : UInt8 := ((1 : UInt32) <<< index.toUInt32).toUInt8

def poolIsAllocated (pool : DatagramPool) (handle : DatagramHandle) : Bool :=
  handle.isValid ∧ pool.freeBitmap &&& bufferBit handle.index = 0

/-- The buffers whose bit of the free bitmap is set, lowest index first. -/
def DatagramPool.freeBuffers (pool : DatagramPool) : List BufferRef :=
  (List.finRange 8).filter fun i => pool.freeBitmap &&& bufferBit (UInt8.ofNat i) ≠ 0

def poolFreeCount (pool : DatagramPool) : UInt8 := UInt8.ofNat pool.freeBuffers.length

def acquireDatagram (pool : DatagramPool) : PoolResult × DatagramPool × DatagramLease :=
  match pool.freeBuffers.head? with
  | some i =>
    let index := UInt8.ofNat i
    (.ok, { pool with
      freeBitmap := pool.freeBitmap &&& ~~~ bufferBit index
      usedCount := pool.usedCount + 1 }, ⟨⟨index⟩, some i, v3MaxDatagram⟩)
  | none =>
    (.exhausted, { pool with allocationFailures := pool.allocationFailures + 1 },
      ⟨⟨0xFF⟩, none, 0⟩)

def releaseDatagram (pool : DatagramPool) (handle : DatagramHandle) : PoolResult × DatagramPool :=
  if ¬ handle.isValid then
    (.invalidHandle, { pool with invalidReleases := pool.invalidReleases + 1 })
  else if pool.freeBitmap &&& bufferBit handle.index ≠ 0 then
    (.doubleRelease, { pool with invalidReleases := pool.invalidReleases + 1 })
  else
    (.ok, { pool with
      freeBitmap := pool.freeBitmap ||| bufferBit handle.index
      usedCount := if pool.usedCount > 0 then pool.usedCount - 1 else pool.usedCount })

/-- The memory behind a pointer; nothing reads or writes behind a null pointer. -/
def DatagramPool.memory (pool : DatagramPool) (ref : Option BufferRef) : Buffer :=
  (ref.map pool.storage).getD fun _ => 0

def DatagramPool.setMemory (pool : DatagramPool) (ref : Option BufferRef) (memory : Buffer) :
    DatagramPool :=
  match ref with
  | some i => { pool with storage := Function.update pool.storage i memory }
  | none => pool

/-! ### Duplicate window -/

structure DuplicateAckState where
  fragmentBitmap : UInt16 := 0
  receiverCredits : UInt8 := 0
  failure : FailureStatus := .none
  deriving DecidableEq, Repr

structure DuplicateWindowEntry where
  datagramId : UInt16 := 0
  ack : DuplicateAckState := {}
  valid : Bool := false
  deriving DecidableEq, Repr

theorem length_replicate_entry :
    (List.replicate duplicateWindowCapacity ({} : DuplicateWindowEntry)).length =
      duplicateWindowCapacity := List.length_replicate

structure DuplicateWindow where
  entries : List DuplicateWindowEntry := List.replicate duplicateWindowCapacity {}
  size : entries.length = duplicateWindowCapacity := by exact length_replicate_entry
  newestId : UInt16 := 0
  hasNewest : Bool := false
  count : UInt8 := 0
  deriving DecidableEq, Repr

def serialDistance (newer older : UInt16) : Int16 := (newer - older).toInt16

def serialAfter (lhs rhs : UInt16) : Bool := serialDistance lhs rhs > 0

def serialWithinWindow (newest candidate : UInt16) : Bool :=
  serialDistance newest candidate ≥ 0 ∧
    (serialDistance newest candidate).toInt < duplicateWindowCapacity

def DuplicateWindowEntry.isFor (entry : DuplicateWindowEntry) (datagramId : UInt16) : Bool :=
  entry.valid ∧ entry.datagramId = datagramId

/-- `duplicateWindowFind`, with what it writes to `ack_out`. -/
def duplicateWindowFind (window : DuplicateWindow) (datagramId : UInt16) :
    Option DuplicateAckState :=
  (window.entries.find? fun entry => entry.isFor datagramId).map (·.ack)

/-- An entry that is not within the window of `newest` is no longer valid. -/
def DuplicateWindowEntry.prune (newest : UInt16) (entry : DuplicateWindowEntry) :
    DuplicateWindowEntry :=
  if entry.valid ∧ ¬ serialWithinWindow newest entry.datagramId then { entry with valid := false }
  else entry

def duplicateWindowPrune (window : DuplicateWindow) : DuplicateWindow :=
  if ¬ window.hasNewest then window
  else
    let entries := window.entries.map (·.prune window.newestId)
    { window with
      entries
      size := by rw [List.length_map, window.size]
      count := UInt8.ofNat (entries.countP (·.valid)) }

/-- The loop that looks for the oldest entry: the last one of the greatest age. -/
def oldestSlot (window : DuplicateWindow) : Nat :=
  ((List.range duplicateWindowCapacity).foldl (fun (found : Nat × UInt16) i =>
    let entry := window.entries.getD i {}
    let age := (serialDistance window.newestId entry.datagramId).toUInt16
    if age ≥ found.2 then (i, age) else found) (0, 0)).1

/-- The slot for a new entry: the first invalid one, otherwise the oldest. -/
def storeSlot (window : DuplicateWindow) : Nat :=
  match window.entries.findIdx? fun entry => ¬ entry.valid with
  | some slot => slot
  | none => oldestSlot window

/-- The first statement of `duplicateWindowStore`. -/
def DuplicateWindow.advance (window : DuplicateWindow) (datagramId : UInt16) : DuplicateWindow :=
  if ¬ window.hasNewest ∨ serialAfter datagramId window.newestId then
    { window with newestId := datagramId, hasNewest := true }
  else window

def DuplicateWindow.setEntry (window : DuplicateWindow) (slot : Nat)
    (entry : DuplicateWindowEntry) :
    DuplicateWindow :=
  { window with
    entries := window.entries.set slot entry
    size := by rw [List.length_set, window.size] }

def duplicateWindowStore (window : DuplicateWindow) (datagramId : UInt16)
    (ack : DuplicateAckState) : DuplicateWindow :=
  let window := window.advance datagramId
  match window.entries.findIdx? (·.isFor datagramId) with
  | some slot =>
    let entry := window.entries.getD slot {}
    duplicateWindowPrune (window.setEntry slot { entry with ack })
  | none =>
    let window := duplicateWindowPrune window
    duplicateWindowPrune
      (window.setEntry (storeSlot window) { datagramId, ack, valid := true })

end FlrcTnc.Arq
