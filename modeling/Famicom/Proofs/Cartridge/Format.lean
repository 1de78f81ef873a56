import Famicom.Cartridge.Image
import Famicom.Proofs.Word

/-!
# The format of image files

An image file is sixteen bytes of header, a trainer if a flag says so, the program and the tiles. The
format is written down here by the numbers at its offsets, apart from the functions that read it, and
the checks on a file stand in one list in the order in which they are made.

* `Acceptable`: what makes a file an image for the one supported board.
* `firstDefect`: the defect that the first failing check reports.
* `Describes`: what a file says about its cartridge.
* `load_exact`: a file loads exactly if it is acceptable, and then it is the cartridge described; any
  other file is refused with its first defect.
-/

namespace Famicom.Cartridge

/-! ## Offsets -/

/-- The byte at an offset of a file; past its end there are zeros. -/
def byteAt (d : ByteArray) (i : Nat) : UInt8 := d.data[i]?.getD 0

/-- The letters NES and an end-of-file character. -/
def magic : List UInt8 := [0x4E, 0x45, 0x53, 0x1A]

/-- Whether the file has a trainer, as a number. -/
def trainers (d : ByteArray) : Nat := (byteAt d 6).toNat / 4 % 2

def trainerEnd (d : ByteArray) : Nat := 16 + 512 * trainers d

def programEnd (d : ByteArray) : Nat := trainerEnd d + 16384 * (byteAt d 4).toNat

def tilesEnd (d : ByteArray) : Nat := programEnd d + 8192 * (byteAt d 5).toNat

/-- The number of the board; its upper half stands in the second byte of flags. -/
def boardNumber (d : ByteArray) : Nat := (byteAt d 6).toNat / 16 + (byteAt d 7).toNat / 16 * 16

/-! ## Checks -/

/-- The checks on a file, in their order, each with the defect that it finds. -/
def checks (d : ByteArray) : List (Bool × Defect) :=
  [(16 ≤ d.size, .headerTooShort),
    ((List.range 4).map (byteAt d) = magic, .badMagic),
    ((byteAt d 7).toNat / 4 % 4 ≠ 2, .secondFormat),
    (boardNumber d = 0, .unsupportedMapper (.ofNat (boardNumber d))),
    (trainerEnd d ≤ d.size, .truncated (trainerEnd d) d.size),
    (programEnd d ≤ d.size, .truncated (programEnd d) d.size),
    (tilesEnd d ≤ d.size, .truncated (tilesEnd d) d.size),
    ((byteAt d 4).toNat ≠ 0, .emptyProgram),
    ((byteAt d 4).toNat ≤ 2, .programTooLarge (16384 * (byteAt d 4).toNat)),
    ((byteAt d 5).toNat ≤ 1, .tilesTooLarge (8192 * (byteAt d 5).toNat))]

/-- What the first check that fails has found. -/
def firstDefect (d : ByteArray) : Option Defect :=
  (checks d).findSome? fun (passes, defect) => if passes then none else some defect

/-- The file is an image of the first version of the format, for the one supported board, and whole. -/
structure Acceptable (d : ByteArray) : Prop where
  header : 16 ≤ d.size
  magic : (List.range 4).map (byteAt d) = magic
  firstFormat : (byteAt d 7).toNat / 4 % 4 ≠ 2
  board : (byteAt d 6).toNat / 16 = 0 ∧ (byteAt d 7).toNat / 16 = 0
  program : byteAt d 4 = 1 ∨ byteAt d 4 = 2
  tiles : byteAt d 5 = 0 ∨ byteAt d 5 = 1
  whole : 16 + 512 * ((byteAt d 6).toNat / 4 % 2) + 16384 * (byteAt d 4).toNat +
    8192 * (byteAt d 5).toNat ≤ d.size

/-- The cartridge is made of the consecutive parts of the file after its header, and of the flags.
Nothing is left out but what comes after the tiles. -/
structure Describes (d : ByteArray) (c : Cartridge) : Prop where
  trainer : c.trainer =
    if (byteAt d 6).toNat / 4 % 2 = 1 then some (d.extract 16 (16 + 512)) else none
  program : c.program = d.extract (trainerEnd d) (programEnd d)
  tiles : c.tiles = d.extract (programEnd d) (tilesEnd d)
  mirroring : c.mirroring =
    if (byteAt d 6).toNat / 8 % 2 = 1 then .fourScreen
    else if (byteAt d 6).toNat % 2 = 1 then .vertical
    else .horizontal
  header : c.header = some ⟨byteAt d 4, byteAt d 5, byteAt d 6, byteAt d 7, byteAt d 8⟩
  parts : d = d.extract 0 16 ++ c.trainer.getD .empty ++ c.program ++ c.tiles ++
    d.extract (tilesEnd d) d.size

variable {d : ByteArray}

/-- No check on an acceptable file fails, and no other file passes all of them. -/
theorem acceptable_iff : Acceptable d ↔ firstDefect d = none := by
  have board : boardNumber d = 0 ↔ (byteAt d 6).toNat / 16 = 0 ∧ (byteAt d 7).toNat / 16 = 0 := by
    unfold boardNumber
    omega
  have program : (byteAt d 4 = 1 ∨ byteAt d 4 = 2) ↔
      (byteAt d 4).toNat ≠ 0 ∧ (byteAt d 4).toNat ≤ 2 := by
    simp only [← UInt8.toNat_inj]
    change ((byteAt d 4).toNat = 1 ∨ (byteAt d 4).toNat = 2) ↔ _
    omega
  have tiles : (byteAt d 5 = 0 ∨ byteAt d 5 = 1) ↔ (byteAt d 5).toNat ≤ 1 := by
    simp only [← UInt8.toNat_inj]
    change ((byteAt d 5).toNat = 0 ∨ (byteAt d 5).toNat = 1) ↔ _
    omega
  have passes : firstDefect d = none ↔ ∀ k ∈ checks d, k.1 = true := by
    simp only [firstDefect, List.findSome?_eq_none_iff, ite_eq_left_iff, reduceCtorEq, imp_false,
      Bool.not_eq_true, Bool.not_eq_false]
  rw [passes]
  simp only [checks, List.forall_mem_cons, decide_eq_true_eq, List.not_mem_nil, board]
  unfold tilesEnd programEnd trainerEnd trainers
  constructor
  · intro acceptable
    have whole := acceptable.whole
    obtain ⟨nonempty, few⟩ := program.mp acceptable.program
    exact ⟨acceptable.header, acceptable.magic, acceptable.firstFormat, acceptable.board,
      by omega, by omega, whole, nonempty, few, tiles.mp acceptable.tiles, nofun⟩
  · rintro ⟨header, magic, first, board, -, -, whole, nonempty, few, small, -⟩
    exact ⟨header, magic, first, board, program.mpr ⟨nonempty, few⟩, tiles.mpr small, whole⟩

/-! ## The header -/

/-- A file begins with its bytes. -/
theorem toList_extract_zero {n k : Nat} (shorter : n ≤ k) (long : k ≤ d.size) :
    (d.extract 0 k).data.toList = (List.range n).map (byteAt d) ++ (d.extract n k).data.toList := by
  have first : (d.extract 0 n).data.toList = (List.range n).map (byteAt d) := by
    apply List.ext_getElem
    · simp
      omega
    · intro i inside within
      have place : i < d.data.size := by
        simp at within
        exact Nat.lt_of_lt_of_le within (Nat.le_trans shorter long)
      have found : d.data[i]? = some d.data[i] := Array.getElem?_eq_getElem place
      simp [byteAt, found]
  rw [ByteArray.extract_eq_extract_append_extract n (Nat.zero_le _) shorter,
    ByteArray.toList_data_append, first]

/-- The header that a file has, whatever it is worth. -/
def headerOf (d : ByteArray) : Header :=
  ⟨byteAt d 4, byteAt d 5, byteAt d 6, byteAt d 7, byteAt d 8⟩

theorem ofBytes_cons (b₀ b₁ b₂ b₃ : UInt8) (h : Header) (rest : List UInt8) :
    Header.ofBytes (b₀ :: b₁ :: b₂ :: b₃ :: h.programBanks :: h.tileBanks :: h.flags6 :: h.flags7 ::
        h.ramBanks :: rest) =
      if [b₀, b₁, b₂, b₃] = magic then
        if h.isSecondFormat then .error .secondFormat else .ok h
      else .error .badMagic := by
  by_cases right : [b₀, b₁, b₂, b₃] = magic
  · rw [if_pos right]
    obtain ⟨rfl, rfl, rfl, rfl⟩ : b₀ = 0x4E ∧ b₁ = 0x45 ∧ b₂ = 0x53 ∧ b₃ = 0x1A := by
      simpa [magic] using right
    rfl
  · rw [if_neg right]
    unfold Header.ofBytes
    split
    · rename_i same
      simp_all [magic]
    · rfl

theorem read_header (long : 16 ≤ d.size) :
    Header.read d =
      if (List.range 4).map (byteAt d) = magic then
        if (headerOf d).isSecondFormat then .error .secondFormat else .ok (headerOf d)
      else .error .badMagic := by
  have long' : headerSize ≤ d.size := long
  rw [Header.read, if_neg (Nat.not_lt.mpr long'), toList_extract_zero (n := 9) (by decide) long']
  exact ofBytes_cons _ _ _ _ (headerOf d) _

/-! ### Flags -/

theorem isSecondFormat_headerOf :
    (headerOf d).isSecondFormat = true ↔ (byteAt d 7).toNat / 4 % 4 = 2 := by
  change ((byteAt d 7 >>> 2) &&& 3 == 2) = true ↔ _
  rw [beq_iff_eq, ← UInt8.toNat_inj, toNat_and_three, toNat_shiftRight_two]
  rfl

theorem mapper_headerOf : (headerOf d).mapper = .ofNat (boardNumber d) := by
  have six := (byteAt d 6).toNat_lt
  have seven := (byteAt d 7).toNat_lt
  -- The two halves have no bit in common, so joining them is adding them.
  have joined : (byteAt d 6).toNat / 16 ||| (byteAt d 7).toNat / 16 * 16 = boardNumber d := by
    rw [boardNumber, Nat.or_comm, Nat.add_comm, Nat.mul_comm]
    exact (Nat.two_pow_add_eq_or_of_lt (i := 4) (by omega) _).symm
  have small : boardNumber d < 2 ^ 8 := by
    unfold boardNumber
    omega
  rw [← UInt8.toNat_inj, UInt8.toNat_ofNat_of_lt' small, ← joined, ← toNat_shiftRight_four,
    ← toNat_and_upper, ← UInt8.toNat_or]
  rfl

theorem mapper_headerOf_eq_zero_iff : (headerOf d).mapper = 0 ↔ boardNumber d = 0 := by
  have six := (byteAt d 6).toNat_lt
  have seven := (byteAt d 7).toNat_lt
  have small : boardNumber d < 2 ^ 8 := by
    unfold boardNumber
    omega
  rw [mapper_headerOf, ← UInt8.toNat_inj, UInt8.toNat_ofNat_of_lt' small]
  rfl

theorem hasTrainer_headerOf : (headerOf d).hasTrainer = true ↔ trainers d = 1 :=
  and_mask_iff (byteAt d 6) (i := 2) rfl

theorem mirroring_headerOf :
    (headerOf d).mirroring =
      if (byteAt d 6).toNat / 8 % 2 = 1 then .fourScreen
      else if (byteAt d 6).toNat % 2 = 1 then .vertical
      else .horizontal := by
  have four : (byteAt d 6 &&& 0x08 != 0) = true ↔ (byteAt d 6).toNat / 8 % 2 = 1 :=
    and_mask_iff (byteAt d 6) (i := 3) rfl
  have columns : (byteAt d 6 &&& 0x01 != 0) = true ↔ (byteAt d 6).toNat / 1 % 2 = 1 :=
    and_mask_iff (byteAt d 6) (i := 0) rfl
  rw [Nat.div_one] at columns
  simp only [Header.mirroring, headerOf, four, columns]

/-! ## The parts -/

/-- The parts that a file has, if it is long enough. -/
def imageOf (d : ByteArray) : Image where
  header := headerOf d
  trainer := if trainers d = 1 then some (d.extract 16 (16 + 512)) else none
  program := d.extract (trainerEnd d) (programEnd d)
  tiles := d.extract (programEnd d) (tilesEnd d)

theorem programEnd_eq : trainerEnd d + (headerOf d).programSize = programEnd d :=
  congrArg (trainerEnd d + ·) (Nat.mul_comm _ _)

theorem tilesEnd_eq : programEnd d + (headerOf d).tileSize = tilesEnd d :=
  congrArg (programEnd d + ·) (Nat.mul_comm _ _)

/-- The program begins where the trainer ends, or the header. -/
theorem trainerEnd_eq :
    headerSize + (if (headerOf d).hasTrainer then trainerSize else 0) = trainerEnd d := by
  have flag : trainers d = 0 ∨ trainers d = 1 := by
    unfold trainers
    omega
  unfold trainerEnd
  simp only [hasTrainer_headerOf]
  rcases flag with zero | one
  · rw [zero]
    rfl
  · rw [one]
    rfl

/-- The trainer is read if there is one. -/
theorem read_trainer (long : 16 ≤ d.size) :
    (if (headerOf d).hasTrainer then some <$> Image.segment d headerSize trainerSize
      else pure none) =
      if trainerEnd d ≤ d.size then Except.ok (imageOf d).trainer
      else .error (.truncated (trainerEnd d) d.size) := by
  simp only [hasTrainer_headerOf, imageOf]
  by_cases flag : trainers d = 1
  · have stop : headerSize + trainerSize = trainerEnd d := by
      rw [trainerEnd, flag]
      rfl
    rw [if_pos flag, if_pos flag, Image.segment, stop]
    split
    · rw [← stop]
      rfl
    · rfl
  · have stop : trainerEnd d = 16 := by
      unfold trainers at flag
      unfold trainerEnd trainers
      omega
    rw [if_neg flag, if_neg flag, stop, if_pos long]
    rfl

theorem read_image (long : 16 ≤ d.size) (header : Header.read d = .ok (headerOf d))
    (board : boardNumber d = 0) :
    Image.read d =
      if trainerEnd d ≤ d.size then
        if programEnd d ≤ d.size then
          if tilesEnd d ≤ d.size then .ok (imageOf d)
          else .error (.truncated (tilesEnd d) d.size)
        else .error (.truncated (programEnd d) d.size)
      else .error (.truncated (trainerEnd d) d.size) := by
  have mapper := mapper_headerOf_eq_zero_iff.mpr board
  have trainerFirst : Image.read d =
      (if (headerOf d).hasTrainer then some <$> Image.segment d headerSize trainerSize
        else pure none) >>= fun trainer => do
          let program ← Image.segment d (trainerEnd d) (headerOf d).programSize
          let tiles ←
            Image.segment d (trainerEnd d + (headerOf d).programSize) (headerOf d).tileSize
          return { header := headerOf d, trainer, program, tiles } := by
    unfold Image.read
    rw [header]
    simp only [bind, Except.bind, mapper, ne_eq, not_true_eq_false, if_false, trainerEnd_eq]
    split <;> rfl
  rw [trainerFirst, read_trainer long]
  simp only [Image.segment, programEnd_eq, tilesEnd_eq]
  by_cases trainer : trainerEnd d ≤ d.size
  · rw [if_pos trainer, if_pos trainer]
    by_cases program : programEnd d ≤ d.size
    · rw [if_pos program, if_pos program]
      by_cases tiles : tilesEnd d ≤ d.size
      · rw [if_pos tiles, if_pos tiles]
        rfl
      · rw [if_neg tiles, if_neg tiles]
        rfl
    · rw [if_neg program, if_neg program]
      rfl
  · rw [if_neg trainer, if_neg trainer]
    rfl

/-! ## Loading -/

/-- A whole file gives parts of the sizes that its header promises. -/
theorem size_program (whole : programEnd d ≤ d.size) :
    (imageOf d).program.size = 16384 * (byteAt d 4).toNat := by
  have stop : (imageOf d).program.size = min (programEnd d) d.size - trainerEnd d :=
    ByteArray.size_extract
  unfold programEnd at stop whole
  omega

theorem size_tiles (whole : tilesEnd d ≤ d.size) :
    (imageOf d).tiles.size = 8192 * (byteAt d 5).toNat := by
  have stop : (imageOf d).tiles.size = min (tilesEnd d) d.size - programEnd d :=
    ByteArray.size_extract
  unfold tilesEnd at stop whole
  omega

theorem load_of_header {e : Defect} (refused : Header.read d = .error e) : load d = .error e := by
  rw [load, Image.read, refused]
  rfl

theorem load_of_board (header : Header.read d = .ok (headerOf d)) (other : boardNumber d ≠ 0) :
    load d = .error (.unsupportedMapper (.ofNat (boardNumber d))) := by
  have mapper := mt mapper_headerOf_eq_zero_iff.mp other
  rw [load, Image.read, header, ← mapper_headerOf]
  simp only [bind, Except.bind, mapper, ne_eq, not_false_eq_true, if_true]
  rfl

theorem load_of_error {e : Defect} (refused : Image.read d = .error e) : load d = .error e := by
  rw [load, refused]
  rfl

theorem load_of_image {i : Image} (read : Image.read d = .ok i) : load d = ofImage i := by
  rw [load, read]
  rfl

/-- The parts follow one another, and nothing lies between them. -/
theorem parts_eq (whole : tilesEnd d ≤ d.size) :
    d = d.extract 0 16 ++ (imageOf d).trainer.getD .empty ++ (imageOf d).program ++
      (imageOf d).tiles ++ d.extract (tilesEnd d) d.size := by
  have trainer :
      d.extract 0 16 ++ (imageOf d).trainer.getD .empty = d.extract 0 (trainerEnd d) := by
    unfold imageOf trainerEnd
    dsimp only
    split
    · rename_i flag
      rw [flag]
      exact (ByteArray.extract_eq_extract_append_extract 16 (Nat.zero_le _) (by decide)).symm
    · rename_i flag
      have without : trainers d = 0 := by
        unfold trainers at flag ⊢
        omega
      rw [without]
      exact ByteArray.append_empty
  have program : trainerEnd d ≤ programEnd d := Nat.le_add_right _ _
  have tiles : programEnd d ≤ tilesEnd d := Nat.le_add_right _ _
  calc d
    _ = d.extract 0 d.size := ByteArray.extract_zero_size.symm
    _ = d.extract 0 (tilesEnd d) ++ d.extract (tilesEnd d) d.size :=
      ByteArray.extract_eq_extract_append_extract _ (Nat.zero_le _) whole
    _ = d.extract 0 (programEnd d) ++ (imageOf d).tiles ++ d.extract (tilesEnd d) d.size := by
      rw [ByteArray.extract_eq_extract_append_extract (programEnd d) (Nat.zero_le _) tiles]
      rfl
    _ = d.extract 0 (trainerEnd d) ++ (imageOf d).program ++ (imageOf d).tiles ++
          d.extract (tilesEnd d) d.size := by
      rw [ByteArray.extract_eq_extract_append_extract (trainerEnd d) (Nat.zero_le _) program]
      rfl
    _ = _ := by rw [trainer]

/-- What the board makes of the parts of a whole file. -/
theorem ofImage_imageOf (whole : tilesEnd d ≤ d.size) :
    (∃ c, ofImage (imageOf d) = .ok c ∧ Describes d c ∧
        ((byteAt d 4).toNat ≠ 0 ∧ (byteAt d 4).toNat ≤ 2) ∧ (byteAt d 5).toNat ≤ 1) ∨
      (ofImage (imageOf d) = .error .emptyProgram ∧ (byteAt d 4).toNat = 0) ∨
      (ofImage (imageOf d) = .error (.programTooLarge (16384 * (byteAt d 4).toNat)) ∧
        (byteAt d 4).toNat ≠ 0 ∧ ¬ (byteAt d 4).toNat ≤ 2) ∨
      (ofImage (imageOf d) = .error (.tilesTooLarge (8192 * (byteAt d 5).toNat)) ∧
        ((byteAt d 4).toNat ≠ 0 ∧ (byteAt d 4).toNat ≤ 2) ∧ ¬ (byteAt d 5).toNat ≤ 1) := by
  have program := size_program (Nat.le_trans (Nat.le_add_right _ _) whole)
  have tiles := size_tiles whole
  have nonempty : 0 < (imageOf d).program.size ↔ (byteAt d 4).toNat ≠ 0 := by omega
  have few : (imageOf d).program.size ≤ maxProgram ↔ (byteAt d 4).toNat ≤ 2 := by
    unfold maxProgram programBank
    omega
  have small : (imageOf d).tiles.size ≤ maxTiles ↔ (byteAt d 5).toNat ≤ 1 := by
    unfold maxTiles tileBank
    omega
  rw [← nonempty, ← few, ← small, ← program, ← tiles]
  unfold ofImage ofParts
  split
  case isFalse empty => exact .inr (.inl ⟨rfl, by omega⟩)
  rename_i program_pos
  split
  case isFalse large => exact .inr (.inr (.inl ⟨rfl, program_pos, large⟩))
  rename_i program_le
  split
  case isFalse large => exact .inr (.inr (.inr ⟨rfl, ⟨program_pos, program_le⟩, large⟩))
  rename_i tiles_le
  exact .inl ⟨_, rfl, ⟨rfl, rfl, rfl, mirroring_headerOf, rfl, parts_eq whole⟩,
    ⟨program_pos, program_le⟩, tiles_le⟩

/-- A file passes every check and loads as the cartridge described, or it is refused with the defect
that the first failing check has found. -/
theorem load_cases (d : ByteArray) :
    (firstDefect d = none ∧ ∃ c, load d = .ok c ∧ Describes d c) ∨
      ∃ e, firstDefect d = some e ∧ load d = .error e := by
  -- The cases follow the checks in their order: where one fails the file is refused with its defect,
  -- and what it rules out is known to all later ones.
  by_cases long : 16 ≤ d.size
  case neg =>
    exact .inr ⟨.headerTooShort, by simp [firstDefect, checks, long],
      load_of_header (if_pos (Nat.not_le.mp long))⟩
  have header := read_header long
  by_cases begins : (List.range 4).map (byteAt d) = magic
  case neg =>
    rw [if_neg begins] at header
    exact .inr ⟨.badMagic, by simp [firstDefect, checks, long, begins], load_of_header header⟩
  rw [if_pos begins] at header
  by_cases second : (byteAt d 7).toNat / 4 % 4 = 2
  case pos =>
    rw [if_pos (isSecondFormat_headerOf.mpr second)] at header
    exact .inr ⟨.secondFormat, by simp [firstDefect, checks, long, begins, second],
      load_of_header header⟩
  rw [if_neg (mt isSecondFormat_headerOf.mp second)] at header
  by_cases board : boardNumber d = 0
  case neg =>
    exact .inr ⟨_, by simp [firstDefect, checks, long, begins, second, board],
      load_of_board header board⟩
  have image := read_image long header board
  by_cases trainer : trainerEnd d ≤ d.size
  case neg =>
    rw [if_neg trainer] at image
    exact .inr ⟨_, by simp [firstDefect, checks, long, begins, second, board, trainer],
      load_of_error image⟩
  rw [if_pos trainer] at image
  by_cases program : programEnd d ≤ d.size
  case neg =>
    rw [if_neg program] at image
    exact .inr ⟨_, by simp [firstDefect, checks, long, begins, second, board, trainer, program],
      load_of_error image⟩
  rw [if_pos program] at image
  by_cases tiles : tilesEnd d ≤ d.size
  case neg =>
    rw [if_neg tiles] at image
    exact .inr ⟨_, by simp [firstDefect, checks, long, begins, second, board, trainer, program,
      tiles], load_of_error image⟩
  rw [if_pos tiles] at image
  rw [load_of_image image]
  obtain ⟨c, loaded, described, ⟨nonempty, few⟩, small⟩ | ⟨refused, empty⟩ |
    ⟨refused, nonempty, many⟩ | ⟨refused, ⟨nonempty, few⟩, large⟩ := ofImage_imageOf tiles
  · exact .inl ⟨by simp [firstDefect, checks, long, begins, second, board, trainer, program, tiles,
      nonempty, few, small], c, loaded, described⟩
  · exact .inr ⟨_, by simp [firstDefect, checks, long, begins, second, board, trainer, program,
      tiles, empty], refused⟩
  · exact .inr ⟨_, by simp [firstDefect, checks, long, begins, second, board, trainer, program,
      tiles, nonempty, many], refused⟩
  · exact .inr ⟨_, by simp [firstDefect, checks, long, begins, second, board, trainer, program,
      tiles, nonempty, few, large], refused⟩

theorem describes_of_load {c : Cartridge} (loaded : load d = .ok c) :
    Acceptable d ∧ Describes d c := by
  obtain ⟨passes, c', loaded', described⟩ | ⟨e, -, refused⟩ := load_cases d
  · rw [loaded] at loaded'
    cases loaded'
    exact ⟨acceptable_iff.mpr passes, described⟩
  · rw [loaded] at refused
    cases refused

theorem load_of_acceptable (acceptable : Acceptable d) : ∃ c, load d = .ok c ∧ Describes d c := by
  obtain ⟨-, loads⟩ | ⟨e, fails, -⟩ := load_cases d
  · exact loads
  · rw [acceptable_iff.mp acceptable] at fails
    cases fails

/-! ## Longer files -/

theorem byteAt_append {i : Nat} (inside : i < d.size) (rest : ByteArray) :
    byteAt (d ++ rest) i = byteAt d i := by
  unfold byteAt
  rw [ByteArray.data_append, Array.getElem?_append_left inside]

theorem extract_append_of_le {i j : Nat} (inside : j ≤ d.size) (rest : ByteArray) :
    (d ++ rest).extract i j = d.extract i j := by
  have nothing : rest.extract (i - d.size) (j - d.size) = .empty := by
    rw [ByteArray.extract_eq_empty_iff]
    omega
  rw [ByteArray.extract_append, nothing, ByteArray.append_empty]

/-- All that is asked of a file stands in its header, apart from its size. -/
theorem Acceptable.append (acceptable : Acceptable d) (rest : ByteArray) :
    Acceptable (d ++ rest) := by
  have same {i : Nat} (inside : i < 16) : byteAt (d ++ rest) i = byteAt d i :=
    byteAt_append (Nat.lt_of_lt_of_le inside acceptable.header) rest
  have longer : d.size ≤ (d ++ rest).size := by
    rw [ByteArray.size_append]
    exact Nat.le_add_right _ _
  have start : (List.range 4).map (byteAt (d ++ rest)) = (List.range 4).map (byteAt d) :=
    List.map_congr_left fun i member =>
      same (Nat.lt_trans (List.mem_range.mp member) (by decide))
  refine ⟨Nat.le_trans acceptable.header longer, ?_, ?_, ?_, ?_, ?_, ?_⟩
  · rw [start]
    exact acceptable.magic
  · rw [same (by decide)]
    exact acceptable.firstFormat
  · rw [same (by decide), same (by decide)]
    exact acceptable.board
  · rw [same (by decide)]
    exact acceptable.program
  · rw [same (by decide)]
    exact acceptable.tiles
  · rw [same (by decide), same (by decide), same (by decide)]
    exact Nat.le_trans acceptable.whole longer

attribute [ext] Cartridge

/-- A longer file describes the same cartridge. -/
theorem Describes.eq_of_append {c c' : Cartridge} (described : Describes d c)
    (acceptable : Acceptable d) {rest : ByteArray} (longer : Describes (d ++ rest) c') :
    c' = c := by
  have same {i : Nat} (inside : i < 16) : byteAt (d ++ rest) i = byteAt d i :=
    byteAt_append (Nat.lt_of_lt_of_le inside acceptable.header) rest
  have four := same (i := 4) (by decide)
  have five := same (i := 5) (by decide)
  have six := same (i := 6) (by decide)
  have trainerEnd : trainerEnd (d ++ rest) = trainerEnd d := by
    simp only [Cartridge.trainerEnd, trainers, six]
  have programEnd : programEnd (d ++ rest) = programEnd d := by
    simp only [Cartridge.programEnd, trainerEnd, four]
  have tilesEnd : tilesEnd (d ++ rest) = tilesEnd d := by
    simp only [Cartridge.tilesEnd, programEnd, five]
  have whole : Cartridge.tilesEnd d ≤ d.size := acceptable.whole
  have cut {i j : Nat} (inside : j ≤ Cartridge.tilesEnd d) :
      (d ++ rest).extract i j = d.extract i j :=
    extract_append_of_le (Nat.le_trans inside whole) rest
  apply Cartridge.ext
  · rw [longer.program, described.program, trainerEnd, programEnd, cut (Nat.le_add_right _ _)]
  · rw [longer.tiles, described.tiles, programEnd, tilesEnd, cut (Nat.le_refl _)]
  · rw [longer.mirroring, described.mirroring, six]
  · rw [longer.trainer, described.trainer, six]
    split
    · rename_i flag
      rw [cut]
      unfold Cartridge.tilesEnd Cartridge.programEnd Cartridge.trainerEnd trainers
      omega
    · rfl
  · rw [longer.header, described.header, four, five, six, same (by decide), same (by decide)]

/-- **Bytes after the tiles are ignored.** -/
theorem load_append {c : Cartridge} (loaded : load d = .ok c) (rest : ByteArray) :
    load (d ++ rest) = .ok c := by
  obtain ⟨acceptable, described⟩ := describes_of_load loaded
  obtain ⟨c', loaded', longer⟩ := load_of_acceptable (acceptable.append rest)
  rw [loaded', described.eq_of_append acceptable longer]

/-! ## Exactness -/

/-- **Image files are read exactly.** A file loads if and only if it is acceptable. The cartridge is
then the one that the file describes, and more bytes at its end change nothing. Any other file is
refused with the defect that the first failing check has found. -/
theorem load_exact (d : ByteArray) :
    ((∃ c, load d = .ok c) ↔ Acceptable d) ∧
      match load d with
      | .ok c => Describes d c ∧ ∀ rest, load (d ++ rest) = .ok c
      | .error e => firstDefect d = some e := by
  constructor
  · constructor
    · rintro ⟨c, loaded⟩
      exact (describes_of_load loaded).1
    · intro acceptable
      obtain ⟨c, loaded, -⟩ := load_of_acceptable acceptable
      exact ⟨c, loaded⟩
  · obtain ⟨-, c, loaded, described⟩ | ⟨e, fails, refused⟩ := load_cases d
    · rw [loaded]
      exact ⟨described, load_append loaded⟩
    · rw [refused]
      exact fails

/-- A header that asks for three banks of program is short of bytes before it asks for too much. -/
example :
    firstDefect ⟨#[0x4E, 0x45, 0x53, 0x1A, 3, 0, 0, 0, 0, 0, 0, 0, 0, 0, 0, 0]⟩ =
      some (.truncated 49168 16) := by
  decide

end Famicom.Cartridge
