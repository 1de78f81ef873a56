import Famicom.Proofs.Bus.Registers
import Famicom.Proofs.Word

/-!
# Sprite transfers

Sprite memory is filled in two ways: a write to `$4014` copies a page of storage at once, and the sprite
data register takes one byte after another behind an address that counts on by itself. Both ways end
with the same sprite memory, whatever page is copied: the transfer looks at storage and not at the
devices that answer reads there.

* `copyPage`: the page copied byte by byte, through any addresses of the two registers.
* `copiedUpTo`: what the copy has done after some bytes.
* `transfer_eq_copyPage`: the transfer fills sprite memory as the copy does, and changes nothing else.
-/

namespace Famicom.Bus

open Picture Processor

/-- The address of a byte in a page. -/
def inPage (number : UInt8) (i : Nat) : UInt16 := UInt16.ofNat (256 * number.toNat + i)

/-- Sets the sprite address to zero at `select` and writes the first `n` bytes of a page to the
addresses `port 0`, `port 1` and so on. -/
def copyPage (b : Bus) (number : UInt8) (select : UInt16) (port : Nat → UInt16) (n : Nat) : Bus :=
  (List.range n).foldl (fun b i => b.write (port i) (b.peek (inPage number i))) (b.write select 0)

theorem copyPage_succ (b : Bus) (number : UInt8) (select : UInt16) (port : Nat → UInt16) (n : Nat) :
    b.copyPage number select port (n + 1) =
      (b.copyPage number select port n).write (port n)
        ((b.copyPage number select port n).peek (inPage number n)) := by
  simp [copyPage, List.range_succ]

/-- An access to a register leaves the storage. -/
theorem peek_write_register (b : Bus) {a : UInt16} {r : Register} (shows : registerAt? a = some r)
    (v : UInt8) (other : UInt16) : (b.write a v).peek other = b.peek other := by
  rw [b.write_register shows]
  rfl

/-- What a copy has done after `n` bytes. -/
structure CopiedUpTo (number : UInt8) (n : Nat) (before after : Bus) : Prop where
  storage : ∀ a, after.peek a = before.peek a
  next : after.picture.spriteAddress = UInt8.ofNat n
  sprites : ∀ i : Fin 256, after.picture.sprites.get i =
    if i.val < n then before.peek (inPage number i.val) else before.picture.sprites.get i

variable (b : Bus) (number : UInt8) {select : UInt16} {port : Nat → UInt16}

/-- One byte more: it goes to the cell behind those of the bytes before. -/
theorem CopiedUpTo.write {number : UInt8} {n : Nat} {before after : Bus} {a : UInt16}
    (copied : CopiedUpTo number n before after) (shows : registerAt? a = some .spriteData)
    (room : n < 256) :
    CopiedUpTo number (n + 1) before (after.write a (after.peek (inPage number n))) := by
  have place : after.picture.spriteAddress.toNat = n := by
    rw [copied.next, UInt8.toNat_ofNat']
    omega
  constructor
  case storage =>
    intro other
    rw [peek_write_register _ shows, copied.storage]
  case next =>
    rw [after.write_register shows]
    change after.picture.spriteAddress + 1 = _
    rw [copied.next]
    exact (UInt8.ofNat_add n 1).symm
  case sprites =>
    intro i
    rw [after.write_register shows]
    change (after.picture.sprites.set _ _).get i = _
    rw [Bytes.get_set, copied.sprites, copied.storage]
    simp only [Fin.ext_iff, place]
    by_cases here : n = i.val
    · subst here
      simp
    · have earlier : i.val < n + 1 ↔ i.val < n := by
        omega
      simp only [if_neg here, earlier]

/-- **A page is copied byte by byte**, each byte through an address of its own choice. -/
theorem copiedUpTo (selects : registerAt? select = some .spriteAddress)
    (stores : ∀ i < 256, registerAt? (port i) = some .spriteData) {n : Nat} (most : n ≤ 256) :
    CopiedUpTo number n b (b.copyPage number select port n) := by
  induction n with
  | zero =>
    change CopiedUpTo number 0 b (b.write select 0)
    refine ⟨fun a => peek_write_register b selects 0 a, ?_, fun i => ?_⟩
    · rw [b.write_register selects]
      rfl
    · rw [b.write_register selects, if_neg (Nat.not_lt_zero _)]
      rfl
  | succ n ih =>
    rw [copyPage_succ]
    exact (ih (by omega)).write (stores n (by omega)) (by omega)

/-- The transfer takes the page from the addresses that begin with its number. -/
theorem get_page (i : Fin 256) : (b.page number).get i = b.peek (inPage number i.val) := by
  have low : UInt16.ofNat i.val = (UInt8.ofNat i.val).toUInt16 := by
    apply UInt16.toNat_inj.mp
    rw [UInt8.toNat_toUInt16, UInt16.toNat_ofNat', UInt8.toNat_ofNat']
    omega
  have address : number.toUInt16 <<< 8 ||| UInt16.ofNat i.val = inPage number i.val := by
    rw [low]
    apply UInt16.toNat_inj.mp
    have small := number.toNat_lt
    refine (toNat_word (UInt8.ofNat i.val) number).trans ?_
    rw [inPage, UInt16.toNat_ofNat', UInt8.toNat_ofNat']
    omega
  rw [page, Bytes.get_tabulate, address]

/-- What a sprite transfer does: sprite memory is the page, and neither the rest of the picture unit
changes nor what is seen of the storage at any address. -/
structure Transferred (number : UInt8) (before after : Bus) : Prop where
  page : ∀ i : Fin 256, after.picture.sprites.get i = before.peek (inPage number i.val)
  spriteAddress : after.picture.spriteAddress = before.picture.spriteAddress
  picture : after.picture = { before.picture with sprites := after.picture.sprites }
  connector : after.connector = before.connector
  storage : after.storage = before.storage
  seen : ∀ a, after.peek a = before.peek a
  journal : after.journal = before.journal.note (.spriteTransfer (inPage number 0))

theorem inPage_zero : inPage number 0 = number.toUInt16 <<< 8 := by
  have small := number.toNat_lt
  apply UInt16.toNat_inj.mp
  rw [inPage, UInt16.toNat_ofNat', UInt16.toNat_shiftLeft, UInt8.toNat_toUInt16]
  change _ = number.toNat <<< 8 % 2 ^ 16
  rw [Nat.shiftLeft_eq]
  omega

theorem transferred : Transferred number b (b.write spriteTransferAddress number) := by
  have page := b.get_page number
  rw [write_spriteTransferAddress, transferSprites]
  -- The bytes of the page are no part of what stays.
  generalize b.page number = data at page ⊢
  exact
    { page := page
      spriteAddress := rfl
      picture := rfl
      connector := rfl
      storage := rfl
      seen := fun _ => rfl
      journal := by rw [inPage_zero] }

/-- **A transfer is a copy byte by byte.** Whatever page is transferred, sprite memory is what it becomes
when the sprite address is set to zero and the bytes of the page are written to the sprite data
register, through whichever addresses the two registers show at. Nothing but sprite memory
changes. -/
theorem transfer_eq_copyPage (selects : registerAt? select = some .spriteAddress)
    (stores : ∀ i < 256, registerAt? (port i) = some .spriteData) :
    (b.write spriteTransferAddress number).picture.sprites =
        (b.copyPage number select port 256).picture.sprites ∧
      Transferred number b (b.write spriteTransferAddress number) := by
  have transferred := b.transferred number
  refine ⟨Bytes.ext_get fun i => ?_, transferred⟩
  rw [transferred.page, (copiedUpTo b number selects stores (Nat.le_refl 256)).sprites,
    if_pos i.isLt]

/-- A page that lies in the window of the registers, copied through 256 addresses of the data
register. -/
theorem transfer_eq_copyPage_of_window :
    let b : Bus :=
      { storage := .tabulate fun i => UInt8.ofNat i.val, picture := default, connector := default,
        repeatsProgram := true, journal := default }
    let port : Nat → UInt16 := fun i => UInt16.ofNat (0x2004 + 8 * i)
    (registerAt? 0x3FFB = some .spriteAddress ∧
      ∀ i < 256, registerAt? (port i) = some .spriteData) ∧
      (b.write spriteTransferAddress 0x20).picture.sprites =
        (b.copyPage 0x20 0x3FFB port 256).picture.sprites ∧
      Transferred 0x20 b (b.write spriteTransferAddress 0x20) := by
  intro b port
  have selects : registerAt? 0x3FFB = some .spriteAddress := by
    decide
  have stores : ∀ i < 256, registerAt? (port i) = some .spriteData := by
    decide +kernel
  exact ⟨⟨selects, stores⟩, b.transfer_eq_copyPage 0x20 selects stores⟩

end Famicom.Bus
