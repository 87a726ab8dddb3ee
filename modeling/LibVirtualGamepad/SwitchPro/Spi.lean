import LibVirtualGamepad.SwitchPro

namespace LibVirtualGamepad.SwitchPro

-- The block of the flash that starts at an address.
def spiBlock (address : UInt32) : Option (List UInt8) :=
  if address = 0x603D then some stickCalibration
  else if address = 0x6020 then some motionCalibration
  else if address = 0x6050 then some colours
  else none

-- A read that starts at a block and is long enough for all of it.
def ReadsBlock (address : UInt32) (length : UInt8) (block : List UInt8) : Prop :=
  spiBlock address = some block ∧ block.length ≤ length.toNat

-- The consecutive reads of the given lengths from an address on.
def consecutiveReads (address : UInt32) : List UInt8 → List (UInt32 × UInt8)
  | [] => []
  | length :: rest => (address, length) :: consecutiveReads (address + length.toUInt32) rest

def splitRead (address : UInt32) (lengths : List UInt8) : List UInt8 :=
  (consecutiveReads address lengths).flatMap fun piece => readSpi piece.1 piece.2

theorem readBlock_long (block : List UInt8) (fill : UInt8) (length : Nat)
    (hlen : block.length ≤ length) :
    readBlock block fill length = block ++ List.replicate (length - block.length) fill := by
  unfold readBlock
  rw [if_neg (by omega)]

theorem readBlock_short (block : List UInt8) (fill : UInt8) (length : Nat)
    (hlen : length < block.length) : readBlock block fill length = List.replicate length 0xFF := by
  unfold readBlock
  rw [if_pos hlen]

-- What is read behind a block.
def spiFill (address : UInt32) : UInt8 := if address = 0x6020 then 0 else 0xFF

theorem readSpi_eq (address : UInt32) (length : UInt8) :
    readSpi address length =
      match spiBlock address with
      | some block => readBlock block (spiFill address) length.toNat
      | none => List.replicate length.toNat 0xFF := by
  unfold readSpi spiBlock spiFill
  by_cases hstick : address = 0x603D
  · subst hstick
    rfl
  by_cases hmotion : address = 0x6020
  · subst hmotion
    rfl
  by_cases hcolour : address = 0x6050
  · subst hcolour
    rfl
  simp [hstick, hmotion, hcolour]

theorem readSpi_block {address : UInt32} {length : UInt8} {block : List UInt8}
    (h : ReadsBlock address length block) :
    readSpi address length =
      block ++ List.replicate (length.toNat - block.length) (spiFill address) := by
  rw [readSpi_eq, h.1]
  exact readBlock_long block _ _ h.2

theorem readSpi_erased {address : UInt32} {length : UInt8}
    (h : ∀ block, ¬ReadsBlock address length block) :
    readSpi address length = List.replicate length.toNat 0xFF := by
  rw [readSpi_eq]
  cases hblock : spiBlock address with
  | none => rfl
  | some block =>
      have hshort : length.toNat < block.length := by
        have hnot := h block
        unfold ReadsBlock at hnot
        simp only [hblock, true_and] at hnot
        omega
      exact readBlock_short block _ _ hshort

-- No block is as short as one byte, and no byte of a block is an erased one.
theorem spiBlock_bytes {address : UInt32} {block : List UInt8}
    (h : spiBlock address = some block) : 1 < block.length ∧ ∀ byte ∈ block, byte ≠ 0xFF := by
  have hstick : 1 < stickCalibration.length ∧ ∀ byte ∈ stickCalibration, byte ≠ 0xFF :=
    ⟨by decide, forall_mem_of_all (by decide)⟩
  have hmotion : 1 < motionCalibration.length ∧ ∀ byte ∈ motionCalibration, byte ≠ 0xFF :=
    ⟨by decide, forall_mem_of_all (by decide)⟩
  have hcolours : 1 < colours.length ∧ ∀ byte ∈ colours, byte ≠ 0xFF :=
    ⟨by decide, forall_mem_of_all (by decide)⟩
  unfold spiBlock at h
  split at h
  · cases h
    exact hstick
  split at h
  · cases h
    exact hmotion
  split at h
  · cases h
    exact hcolours
  · cases h

theorem readSpi_one (address : UInt32) : readSpi address 1 = [0xFF] := by
  apply readSpi_erased
  rintro block ⟨hblock, hlen⟩
  have hlong := (spiBlock_bytes hblock).1
  have hone : (1 : UInt8).toNat = 1 := rfl
  omega

theorem splitRead_erased (address : UInt32) (lengths : List UInt8)
    (h : ∀ piece ∈ consecutiveReads address lengths, ∀ block, ¬ReadsBlock piece.1 piece.2 block) :
    splitRead address lengths = List.replicate (lengths.map UInt8.toNat).sum 0xFF := by
  induction lengths generalizing address with
  | nil => rfl
  | cons length rest ih =>
      have hpieces := List.forall_mem_cons.mp h
      have hrest := ih _ hpieces.2
      unfold splitRead at hrest ⊢
      rw [consecutiveReads, List.flatMap_cons, readSpi_erased hpieces.1, hrest, List.map_cons,
        List.sum_cons, List.replicate_append_replicate]

theorem image_inconsistent :
    ¬∀ (address : UInt32) (length : UInt8) (i : Nat), length ≤ 44 → i < length.toNat →
      (readSpi address length)[i]? = (readSpi (address + UInt32.ofNat i) 1)[0]? := by
  intro h
  have hbyte := h 0x603D 18 0 (by decide) (by decide)
  revert hbyte
  decide

-- A long enough read from the start of a block finds the block, and every other
-- read finds erased flash. Those others are the reads that agree with the flash
-- read byte by byte, or in pieces.
theorem spi_blocks :
    (∀ address length block, ReadsBlock address length block →
      (readSpi address length).length = length.toNat ∧
        (readSpi address length).take block.length = block ∧
        (address ≠ 0x6020 → (readSpi address length).drop block.length =
          List.replicate (length.toNat - block.length) 0xFF)) ∧
    (∀ address length, (∀ block, ¬ReadsBlock address length block) →
      readSpi address length = List.replicate length.toNat 0xFF) ∧
    (∀ (address : UInt32) (length : UInt8) (i : Nat), i < length.toNat →
      (∀ block, ReadsBlock address length block → address = 0x6020 → i < block.length) →
      ((readSpi address length)[i]? = (readSpi (address + UInt32.ofNat i) 1)[0]? ↔
        ∀ block, ReadsBlock address length block → block.length ≤ i)) ∧
    ∀ (address : UInt32) (length : UInt8) (lengths : List UInt8),
      (lengths.map UInt8.toNat).sum = length.toNat →
      (∀ block, ¬ReadsBlock address length block) →
      (∀ piece ∈ consecutiveReads address lengths,
        ∀ block, ¬ReadsBlock piece.1 piece.2 block) →
      splitRead address lengths = readSpi address length := by
  refine ⟨?_, fun address length => readSpi_erased, ?_, ?_⟩
  · intro address length block h
    rw [readSpi_block h]
    refine ⟨?_, List.take_left' rfl, ?_⟩
    · have hlen := h.2
      simp only [List.length_append, List.length_replicate]
      omega
    · intro hother
      rw [List.drop_left' rfl, spiFill, if_neg hother]
  · intro address length i hi hfill
    rw [readSpi_one]
    by_cases hblock : ∃ block, ReadsBlock address length block
    · obtain ⟨block, hreads⟩ := hblock
      have hsame : ∀ other, ReadsBlock address length other → other = block := by
        intro other hother
        exact Option.some_inj.mp (hother.1.symm.trans hreads.1)
      rw [readSpi_block hreads]
      by_cases hinside : i < block.length
      · -- inside the block the byte is not an erased one
        have hbyte := (spiBlock_bytes hreads.1).2 block[i] (List.getElem_mem hinside)
        rw [List.getElem?_append_left hinside, List.getElem?_eq_getElem hinside]
        refine iff_of_false ?_ ?_
        · intro h
          exact hbyte (Option.some_inj.mp h)
        · intro h
          have hle := h block hreads
          omega
      · have hother : address ≠ 0x6020 := fun h => hinside (hfill block hreads h)
        have hlen := hreads.2
        rw [List.getElem?_append_right (by omega), spiFill, if_neg hother,
          List.getElem?_replicate_of_lt (by omega)]
        refine iff_of_true rfl ?_
        intro other hreadsOther
        rw [hsame other hreadsOther]
        omega
    · have hnone : ∀ block, ¬ReadsBlock address length block := not_exists.mp hblock
      rw [readSpi_erased hnone, List.getElem?_replicate_of_lt hi]
      exact iff_of_true rfl fun block h => absurd h (hnone block)
  · intro address length lengths hsum hwhole hpieces
    rw [splitRead_erased address lengths hpieces, readSpi_erased hwhole, hsum]

theorem spi_blocks_colours :
    (readSpi 0x6050 8).length = 8 ∧ (readSpi 0x6050 8).take 6 = colours ∧
      ((0x6050 : UInt32) ≠ 0x6020 → (readSpi 0x6050 8).drop 6 = List.replicate 2 0xFF) :=
  spi_blocks.1 0x6050 8 colours ⟨rfl, by decide⟩

end LibVirtualGamepad.SwitchPro
