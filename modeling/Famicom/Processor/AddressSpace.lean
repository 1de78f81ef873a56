import Famicom.Bytes
import Famicom.Journal

/-!
# Address spaces

What a processor is wired to: sixty-four kilobytes of addresses that it reads and writes one byte
at a time. A read may change the other side, because an address can belong to a device. The
processor also reports its events here; where they go is up to the address space.

* `FlatMemory` is plain storage without devices or mirroring.
* `Recorded` keeps the accesses that pass through it, in order.
* `Journaled` keeps the processor's events.
-/

namespace Famicom.Processor

class AddressSpace (M : Type) where
  read : M → UInt16 → UInt8 × M
  write : M → UInt16 → UInt8 → M
  note : M → Event → M

/-- The cell of an address. -/
def cell (address : UInt16) : Fin 65536 := ⟨address.toNat, address.toNat_lt⟩

/-- Plain storage for every address. -/
structure FlatMemory where
  bytes : Bytes 65536

namespace FlatMemory

/-- Memory that holds zeros. -/
def blank : FlatMemory := ⟨Bytes.fill 0⟩

instance : Inhabited FlatMemory := ⟨blank⟩

def peek (m : FlatMemory) (address : UInt16) : UInt8 := m.bytes.get (cell address)

def poke (m : FlatMemory) (address : UInt16) (v : UInt8) : FlatMemory :=
  ⟨m.bytes.set (cell address) v⟩

/-- Copies `data` to `address` and the addresses after it; the last address is followed by the
first. -/
def load (m : FlatMemory) (address : UInt16) (data : List UInt8) : FlatMemory :=
  match data with
  | [] => m
  | v :: rest => (m.poke address v).load (address + 1) rest

instance : AddressSpace FlatMemory where
  read m address := (m.peek address, m)
  write m address v := m.poke address v
  note m _ := m

end FlatMemory

/-- One access of the processor. -/
inductive Access where
  | read (address : UInt16) (value : UInt8)
  | write (address : UInt16) (value : UInt8)
  deriving DecidableEq, Repr

/-- An address space together with the accesses made to it, oldest first. -/
structure Recorded (M : Type) where
  inner : M
  accesses : Array Access

instance {M : Type} [AddressSpace M] : AddressSpace (Recorded M) where
  read m address :=
    let r := AddressSpace.read m.inner address
    (r.1, ⟨r.2, m.accesses.push (.read address r.1)⟩)
  write m address v :=
    ⟨AddressSpace.write m.inner address v, m.accesses.push (.write address v)⟩
  note m e := { m with inner := AddressSpace.note m.inner e }

/-- An address space together with the events reported to it. -/
structure Journaled (M : Type) where
  inner : M
  journal : Journal

instance {M : Type} [AddressSpace M] : AddressSpace (Journaled M) where
  read m address :=
    let r := AddressSpace.read m.inner address
    (r.1, { m with inner := r.2 })
  write m address v := { m with inner := AddressSpace.write m.inner address v }
  note m e := { m with journal := m.journal.note e }

end Famicom.Processor
