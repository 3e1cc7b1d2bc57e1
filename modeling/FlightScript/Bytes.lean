/-!
# Byte strings

Everything that crosses the link or reaches the audit log is a list of octets. Lists are used and
not packed arrays, because scripts, frames and records are taken apart from the front, one field at
a time.

## Receiving

A packet is received *into* a buffer of fixed size, so what does not fit is cut and what is not
covered stays (`overlay`).

## Numbers

Numbers of two and four octets are written in network order, the most significant octet first. Each
is read back from its octets, and any octets are those of exactly one number.
-/

namespace FlightScript

abbrev Bytes := List UInt8

namespace Bytes

def ofString (text : String) : Bytes :=
  text.toList.flatMap String.utf8EncodeChar

/-- A packet copied over the front of a buffer: as much of it as fits, the rest of the buffer as it
was. -/
def overlay (packet buffer : Bytes) : Bytes :=
  packet.take buffer.length ++ buffer.drop packet.length

@[simp] theorem length_overlay (packet buffer : Bytes) :
    (overlay packet buffer).length = buffer.length := by
  simp only [overlay, List.length_append, List.length_take, List.length_drop]
  omega

/-- The front of the buffer is then exactly the part of the packet that fits. -/
theorem take_overlay (packet buffer : Bytes) :
    (overlay packet buffer).take (min packet.length buffer.length) = packet.take buffer.length := by
  have cut : (packet.take buffer.length).length = min packet.length buffer.length := by
    rw [List.length_take, Nat.min_comm]
  rw [overlay, ← cut, List.take_left']
  rfl

@[simp] theorem overlay_nil (buffer : Bytes) : overlay [] buffer = buffer := by
  simp [overlay]

/-! ## Numbers in network order -/

def ofUInt16 (n : UInt16) : Bytes :=
  [.ofNat (n.toNat / 256), n.toUInt8]

def toUInt16 (b₁ b₀ : UInt8) : UInt16 :=
  (b₁.toNat * 256 + b₀.toNat).toUInt16

def ofUInt32 (n : UInt32) : Bytes :=
  [.ofNat (n.toNat / 16777216), .ofNat (n.toNat / 65536), .ofNat (n.toNat / 256), n.toUInt8]

def toUInt32 (b₃ b₂ b₁ b₀ : UInt8) : UInt32 :=
  (b₃.toNat * 16777216 + b₂.toNat * 65536 + b₁.toNat * 256 + b₀.toNat).toUInt32

@[simp] theorem toNat_toUInt16 (b₁ b₀ : UInt8) :
    (toUInt16 b₁ b₀).toNat = b₁.toNat * 256 + b₀.toNat := by
  have high := b₁.toNat_lt
  have low := b₀.toNat_lt
  simp only [toUInt16, Nat.toUInt16_eq, UInt16.toNat_ofNat']
  omega

@[simp] theorem toUInt16_ofUInt16 (n : UInt16) :
    toUInt16 (.ofNat (n.toNat / 256)) n.toUInt8 = n := by
  have bound := n.toNat_lt
  apply UInt16.toNat_inj.1
  simp only [toNat_toUInt16, UInt8.toNat_ofNat', UInt16.toNat_toUInt8]
  omega

@[simp] theorem ofUInt16_toUInt16 (b₁ b₀ : UInt8) : ofUInt16 (toUInt16 b₁ b₀) = [b₁, b₀] := by
  have high := b₁.toNat_lt
  have low := b₀.toNat_lt
  simp only [ofUInt16, toNat_toUInt16, List.cons.injEq, and_true]
  refine ⟨UInt8.toNat_inj.1 ?_, UInt8.toNat_inj.1 ?_⟩ <;>
    simp only [UInt8.toNat_ofNat', UInt16.toNat_toUInt8, toNat_toUInt16] <;> omega

@[simp] theorem toNat_toUInt32 (b₃ b₂ b₁ b₀ : UInt8) :
    (toUInt32 b₃ b₂ b₁ b₀).toNat =
      b₃.toNat * 16777216 + b₂.toNat * 65536 + b₁.toNat * 256 + b₀.toNat := by
  have h₃ := b₃.toNat_lt
  have h₂ := b₂.toNat_lt
  have h₁ := b₁.toNat_lt
  have h₀ := b₀.toNat_lt
  simp only [toUInt32, Nat.toUInt32_eq, UInt32.toNat_ofNat']
  omega

@[simp] theorem toUInt32_ofUInt32 (n : UInt32) :
    toUInt32 (.ofNat (n.toNat / 16777216)) (.ofNat (n.toNat / 65536)) (.ofNat (n.toNat / 256))
      n.toUInt8 = n := by
  have bound := n.toNat_lt
  apply UInt32.toNat_inj.1
  simp only [toNat_toUInt32, UInt8.toNat_ofNat', UInt32.toNat_toUInt8]
  omega

@[simp] theorem ofUInt32_toUInt32 (b₃ b₂ b₁ b₀ : UInt8) :
    ofUInt32 (toUInt32 b₃ b₂ b₁ b₀) = [b₃, b₂, b₁, b₀] := by
  have h₃ := b₃.toNat_lt
  have h₂ := b₂.toNat_lt
  have h₁ := b₁.toNat_lt
  have h₀ := b₀.toNat_lt
  simp only [ofUInt32, toNat_toUInt32, List.cons.injEq, and_true]
  refine ⟨UInt8.toNat_inj.1 ?_, UInt8.toNat_inj.1 ?_, UInt8.toNat_inj.1 ?_, UInt8.toNat_inj.1 ?_⟩ <;>
    simp only [UInt8.toNat_ofNat', UInt32.toNat_toUInt8, toNat_toUInt32] <;> omega

end Bytes

end FlightScript
