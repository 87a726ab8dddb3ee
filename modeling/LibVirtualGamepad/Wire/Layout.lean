import LibVirtualGamepad.Sc26Usb

-- Packed layouts of a fixed size. What is written reads back, whatever follows it, and
-- every block of the size is what some value writes.
namespace LibVirtualGamepad.Wire

-- The bytes of a type's values. `Fits` holds of the values that the bytes can stand for:
-- the canonical ones where several values are written alike.
structure Layout (α : Type) where
  size : Nat
  Fits : α → Prop
  write : α → List UInt8
  read : List UInt8 → α
  length_write : ∀ a, (write a).length = size
  read_write : ∀ a rest, Fits a → read (write a ++ rest) = a
  fits_read : ∀ bytes, Fits (read bytes)
  write_read : ∀ bytes, size ≤ bytes.length → write (read bytes) = bytes.take size

namespace Layout

variable {α β : Type}

-- Every value of the type has bytes of its own.
def Full (x : Layout α) : Prop := ∀ a, x.Fits a

def u8 : Layout UInt8 where
  size := 1
  Fits := fun _ => True
  write := fun value => [value]
  read := fun bytes => bytes.getD 0 0
  length_write := fun _ => rfl
  read_write := fun _ _ _ => rfl
  fits_read := fun _ => trivial
  write_read := by
    intro bytes h
    cases bytes with
    | nil => simp at h
    | cons b rest => rfl

-- One field behind the other.
def seq (x : Layout α) (y : Layout β) : Layout (α × β) where
  size := x.size + y.size
  Fits := fun p => x.Fits p.1 ∧ y.Fits p.2
  write := fun p => x.write p.1 ++ y.write p.2
  read := fun bytes => (x.read bytes, y.read (bytes.drop x.size))
  length_write := by
    intro p
    rw [List.length_append, x.length_write, y.length_write]
  read_write := by
    rintro ⟨a, b⟩ rest ⟨ha, hb⟩
    have hdrop : (x.write a ++ (y.write b ++ rest)).drop x.size = y.write b ++ rest :=
      List.drop_left' (x.length_write a)
    simp only [List.append_assoc, hdrop, x.read_write a _ ha, y.read_write b _ hb]
  fits_read := fun bytes => ⟨x.fits_read bytes, y.fits_read _⟩
  write_read := by
    intro bytes h
    have hx : x.write (x.read bytes) = bytes.take x.size := x.write_read bytes (by omega)
    have hy : y.write (y.read (bytes.drop x.size)) = (bytes.drop x.size).take y.size := by
      apply y.write_read
      rw [List.length_drop]
      omega
    rw [hx, hy, ← List.take_add]

-- The same bytes for another type: `f` reads them on, and `g` goes back.
def as (x : Layout α) (f : α → β) (g : β → α) (back : ∀ a, g (f a) = a) : Layout β where
  size := x.size
  Fits := fun b => x.Fits (g b) ∧ f (g b) = b
  write := fun b => x.write (g b)
  read := fun bytes => f (x.read bytes)
  length_write := fun b => x.length_write (g b)
  read_write := by
    rintro b rest ⟨hfits, hb⟩
    rw [x.read_write (g b) rest hfits, hb]
  fits_read := by
    intro bytes
    rw [back]
    exact ⟨x.fits_read bytes, rfl⟩
  write_read := by
    intro bytes h
    rw [back]
    exact x.write_read bytes h

theorem full_u8 : u8.Full := fun _ => trivial

theorem Full.seq {x : Layout α} {y : Layout β} (hx : x.Full) (hy : y.Full) : (x.seq y).Full :=
  fun p => ⟨hx p.1, hy p.2⟩

theorem Full.as {x : Layout α} (hx : x.Full) {f : α → β} {g : β → α} {back : ∀ a, g (f a) = a}
    (h : ∀ b, f (g b) = b) : (x.as f g back).Full :=
  fun b => ⟨hx (g b), h b⟩

def ofBytes (p : UInt8 × UInt8) : UInt16 := UInt16.ofNat (p.1.toNat + 256 * p.2.toNat)
def toBytes (value : UInt16) : UInt8 × UInt8 := (value.toUInt8, (value >>> 8).toUInt8)

theorem toBytes_ofBytes (p : UInt8 × UInt8) : toBytes (ofBytes p) = p := by
  obtain ⟨low, high⟩ := p
  have hlow := low.toNat_lt
  have hhigh := high.toNat_lt
  have hvalue : (UInt16.ofNat (low.toNat + 256 * high.toNat)).toNat =
      low.toNat + 256 * high.toNat := UInt16.toNat_ofNat_of_lt' (by
        show low.toNat + 256 * high.toNat < 65536
        omega)
  have hfirst : (UInt16.ofNat (low.toNat + 256 * high.toNat)).toUInt8 = low := by
    apply UInt8.toNat_inj.1
    rw [UInt16.toNat_toUInt8, hvalue]
    omega
  have hsecond : (UInt16.ofNat (low.toNat + 256 * high.toNat) >>> 8).toUInt8 = high := by
    apply UInt8.toNat_inj.1
    rw [UInt16.toNat_toUInt8, UInt16.toNat_shiftRight, hvalue]
    have hshift : (8 : UInt16).toNat % 16 = 8 := rfl
    rw [hshift, Nat.shiftRight_eq_div_pow]
    omega
  simp only [toBytes, ofBytes, hfirst, hsecond]

def u16 : Layout UInt16 := (u8.seq u8).as ofBytes toBytes toBytes_ofBytes

theorem full_u16 : u16.Full := (full_u8.seq full_u8).as Sc26Usb.ofNat_bytes

def ofHalves (p : UInt16 × UInt16) : UInt32 := UInt32.ofNat (p.1.toNat + 65536 * p.2.toNat)
def toHalves (value : UInt32) : UInt16 × UInt16 := (value.toUInt16, (value >>> 16).toUInt16)

theorem toHalves_ofHalves (p : UInt16 × UInt16) : toHalves (ofHalves p) = p := by
  obtain ⟨low, high⟩ := p
  have hlow := low.toNat_lt
  have hhigh := high.toNat_lt
  have hvalue : (UInt32.ofNat (low.toNat + 65536 * high.toNat)).toNat =
      low.toNat + 65536 * high.toNat := UInt32.toNat_ofNat_of_lt' (by
        show low.toNat + 65536 * high.toNat < 4294967296
        omega)
  have hfirst : (UInt32.ofNat (low.toNat + 65536 * high.toNat)).toUInt16 = low := by
    apply UInt16.toNat_inj.1
    rw [UInt32.toNat_toUInt16, hvalue]
    omega
  have hsecond : (UInt32.ofNat (low.toNat + 65536 * high.toNat) >>> 16).toUInt16 = high := by
    apply UInt16.toNat_inj.1
    rw [UInt32.toNat_toUInt16, UInt32.toNat_shiftRight, hvalue]
    have hshift : (16 : UInt32).toNat % 32 = 16 := rfl
    rw [hshift, Nat.shiftRight_eq_div_pow]
    omega
  simp only [toHalves, ofHalves, hfirst, hsecond]

theorem ofHalves_toHalves (value : UInt32) : ofHalves (toHalves value) = value := by
  have hlt := value.toNat_lt
  have hlow : value.toUInt16.toNat = value.toNat % 65536 := UInt32.toNat_toUInt16 value
  have hhigh : (value >>> 16).toUInt16.toNat = value.toNat / 65536 := by
    rw [UInt32.toNat_toUInt16, UInt32.toNat_shiftRight]
    have hshift : (16 : UInt32).toNat % 32 = 16 := rfl
    rw [hshift, Nat.shiftRight_eq_div_pow]
    omega
  simp only [toHalves, ofHalves, hlow, hhigh, Nat.mod_add_div, UInt32.ofNat_toNat]

def u32 : Layout UInt32 := (u16.seq u16).as ofHalves toHalves toHalves_ofHalves

theorem full_u32 : u32.Full := (full_u16.seq full_u16).as ofHalves_toHalves

def i8 : Layout Int8 := u8.as UInt8.toInt8 Int8.toUInt8 UInt8.toUInt8_toInt8
def i16 : Layout Int16 := u16.as UInt16.toInt16 Int16.toUInt16 UInt16.toUInt16_toInt16
def i32 : Layout Int32 := u32.as UInt32.toInt32 Int32.toUInt32 UInt32.toUInt32_toInt32

theorem full_i8 : i8.Full := full_u8.as Int8.toInt8_toUInt8
theorem full_i16 : i16.Full := full_u16.as Int16.toInt16_toUInt16
theorem full_i32 : i32.Full := full_u32.as Int32.toInt32_toUInt32

-- An array of bytes.
def bytes (n : Nat) : Layout (Vector UInt8 n) where
  size := n
  Fits := fun _ => True
  write := fun v => v.toList
  read := fun block => Vector.ofFn fun i => block.getD i 0
  length_write := fun v => v.length_toList
  read_write := by
    intro v rest _
    ext i hi
    have hlen : i < v.toList.length := by rw [v.length_toList]; exact hi
    simp [List.getD_eq_getElem?_getD, List.getElem?_append_left hlen, hi]
  fits_read := fun _ => trivial
  write_read := by
    intro block h
    apply List.ext_getElem
    · simp [h]
    · intro i hi _
      have hn : i < n := by simpa using hi
      simp [List.getD_eq_getElem?_getD, List.getElem?_eq_getElem (Nat.lt_of_lt_of_le hn h)]

theorem full_bytes (n : Nat) : (bytes n).Full := fun _ => trivial

end Layout

end LibVirtualGamepad.Wire
