import Mathlib.Algebra.Group.Nat.Defs
import ServiceBus.Proofs.Wire.Writing

/-!
Reading back what was written. A reader recovers a value from its bytes, whatever follows them,
provided that there is room: some lengths are refused when fewer bytes than that are unread, though
their elements take none. Room is part of the statement, so that one law says when a value comes
back and what happens when it does not.
-/
namespace ServiceBus.Wire

theorem ofLittleEndian_littleEndian (width n : Nat) :
    ofLittleEndian (littleEndian width n) = n % 256 ^ width := by
  induction width generalizing n with
  | zero => simp [littleEndian, ofLittleEndian, Nat.mod_one]
  | succ width ih =>
    have h : n % 256 % 2 ^ 8 = n % 256 := Nat.mod_mod n 256
    rw [littleEndian, ofLittleEndian, ih, UInt8.toNat_ofNat', h, Nat.pow_succ', Nat.mod_mul]

namespace Reader

variable {α β : Type} {objects : List Binder} {offset : Nat} {bytes more tail : List UInt8}

/-- At an offset, in front of the bytes of a value and of whatever follows, the reader gives the
value and stops behind it if there is room, and misses data if there is not. -/
structure Recovers (r : Reader α) (objects : List Binder) (offset : Nat) (bytes tail : List UInt8)
    (a : α) (room : Prop) : Prop where
  whole : room →
    r.run objects ⟨offset, bytes ++ tail⟩ = (.ok a, ⟨offset + bytes.length, tail⟩)
  short : ¬ room → (r.run objects ⟨offset, bytes ++ tail⟩).1 = .error .notEnoughData

theorem Recovers.of_run {r : Reader α} {a : α}
    (h : r.run objects ⟨offset, bytes ++ tail⟩ = (.ok a, ⟨offset + bytes.length, tail⟩)) :
    r.Recovers objects offset bytes tail a True :=
  ⟨fun _ => h, fun n => absurd trivial n⟩

theorem Recovers.congr {r : Reader α} {a : α} {room room' : Prop}
    (h : r.Recovers objects offset bytes tail a room) (e : room ↔ room') :
    r.Recovers objects offset bytes tail a room' :=
  ⟨fun n => h.whole (e.2 n), fun n => h.short fun x => n (e.1 x)⟩

theorem recovers_pure (a : α) :
    (pure a : Reader α).Recovers objects offset [] tail a True :=
  .of_run rfl

theorem Recovers.bind {r : Reader α} {f : α → Reader β} {a : α} {b : β} {room room' : Prop}
    (h : r.Recovers objects offset bytes (more ++ tail) a room)
    (k : (f a).Recovers objects (offset + bytes.length) more tail b room') :
    (r >>= f).Recovers objects offset (bytes ++ more) tail b (room ∧ room') where
  whole n := by
    rw [run_bind, List.append_assoc, h.whole n.1]
    simp only [k.whole n.2, List.length_append, Nat.add_assoc]
  short n := by
    rw [run_bind, List.append_assoc]
    by_cases hr : room
    · rw [h.whole hr]
      exact k.short fun x => n ⟨hr, x⟩
    · have he := h.short hr
      rcases hs : r.run objects ⟨offset, bytes ++ (more ++ tail)⟩ with ⟨_ | _, d⟩
      · rw [hs] at he
        cases he
        rfl
      · rw [hs] at he
        cases he

theorem Recovers.bind_true {r : Reader α} {f : α → Reader β} {a : α} {b : β}
    (h : r.Recovers objects offset bytes (more ++ tail) a True)
    (k : (f a).Recovers objects (offset + bytes.length) more tail b True) :
    (r >>= f).Recovers objects offset (bytes ++ more) tail b True :=
  (h.bind k).congr (and_iff_left trivial)

theorem Recovers.bind_pure {r : Reader α} {f : α → Reader β} {a : α} {b : β} {room : Prop}
    (h : r.Recovers objects offset bytes tail a room) (k : f a = pure b) :
    (r >>= f).Recovers objects offset bytes tail b room := by
  have hk : (f a).Recovers objects (offset + bytes.length) [] tail b True := by
    rw [k]
    exact recovers_pure b
  have hb : (r >>= f).Recovers objects offset (bytes ++ []) tail b (room ∧ True) := h.bind hk
  rw [List.append_nil] at hb
  exact hb.congr (and_iff_left trivial)

theorem recovers_take (bs : List UInt8) :
    (take bs.length).Recovers objects offset bs tail bs True := by
  apply Recovers.of_run
  rw [run_take, if_pos (by simp)]
  simp

theorem recovers_skipPadding :
    skipPadding.Recovers objects offset (List.replicate (padding offset) 0) tail () True := by
  have h := @recovers_take objects offset tail (List.replicate (padding offset) 0)
  rw [List.length_replicate] at h
  have hs := Recovers.bind_pure (f := fun _ => pure ()) h rfl
  exact ⟨hs.whole, hs.short⟩

theorem recovers_byte (b : UInt8) : byte.Recovers objects offset [b] tail b True :=
  (recovers_take [b]).bind_pure rfl

theorem recovers_word32 (n : UInt32) :
    word32.Recovers objects offset (littleEndian 4 n.toNat) tail n True := by
  have h := @recovers_take objects offset tail (littleEndian 4 n.toNat)
  rw [length_littleEndian] at h
  have hn : n.toNat < 256 ^ 4 := n.toNat_lt
  refine h.bind_pure ?_
  rw [ofLittleEndian_littleEndian, Nat.mod_eq_of_lt hn, UInt32.ofNat_toNat]

theorem recovers_word64 (n : UInt64) :
    word64.Recovers objects offset (littleEndian 8 n.toNat) tail n True := by
  have h := @recovers_take objects offset tail (littleEndian 8 n.toNat)
  rw [length_littleEndian] at h
  have hn : n.toNat < 256 ^ 8 := n.toNat_lt
  refine h.bind_pure ?_
  rw [ofLittleEndian_littleEndian, Nat.mod_eq_of_lt hn, UInt64.ofNat_toNat]

/-- A length is the one thing that asks for room: as many unread bytes as it says. -/
theorem recovers_length {n : Nat} (h : n ≤ maxLength) :
    length.Recovers objects offset (littleEndian 4 n) tail n (n ≤ tail.length) := by
  have hw := @recovers_word32 objects offset tail (UInt32.ofNat n)
  rw [toNat_ofNat_of_le_maxLength h] at hw
  have hn : ¬ maxLength < n := Nat.not_lt.2 h
  constructor
  · intro hr
    rw [length, run_bind, hw.whole trivial]
    simp [toNat_ofNat_of_le_maxLength h, hn, run_bind, hr]
  · intro hr
    rw [length, run_bind, hw.whole trivial]
    simp [toNat_ofNat_of_le_maxLength h, hn, run_bind, hr]

theorem recovers_object {n : Nat} {b : Binder} (h : n ≤ maxLength) (hb : objects[n]? = some b) :
    object.Recovers objects offset (littleEndian 4 n) tail b True := by
  have hw := @recovers_word32 objects offset tail (UInt32.ofNat n)
  rw [toNat_ofNat_of_le_maxLength h] at hw
  have hn : ¬ maxLength < n := Nat.not_lt.2 h
  apply Recovers.of_run
  rw [object, run_bind, hw.whole trivial]
  simp [toNat_ofNat_of_le_maxLength h, hn, hb]

end Reader

end ServiceBus.Wire
