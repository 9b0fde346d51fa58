import ServiceBus.Binder
import ServiceBus.Status.Code
import ServiceBus.Wire.LittleEndian

/-!
What is written to a parcel. A writer gives the bytes and binders that it adds, for the size and
the number of binders that the parcel has already: padding depends on the former, the index of a
binder on the latter. A writer that fails has still added what it gives.
-/
namespace ServiceBus.Wire

structure Payload where
  bytes : List UInt8
  objects : List Binder
deriving DecidableEq

namespace Payload

def empty : Payload := ⟨[], []⟩

instance : Append Payload := ⟨fun p q => ⟨p.bytes ++ q.bytes, p.objects ++ q.objects⟩⟩

@[simp] theorem bytes_append (p q : Payload) : (p ++ q).bytes = p.bytes ++ q.bytes := rfl
@[simp] theorem objects_append (p q : Payload) : (p ++ q).objects = p.objects ++ q.objects := rfl
@[simp] theorem bytes_empty : empty.bytes = [] := rfl
@[simp] theorem objects_empty : empty.objects = [] := rfl

end Payload

def padding (offset : Nat) : Nat := (4 - offset % 4) % 4

theorem padding_lt (offset : Nat) : padding offset < 4 := Nat.mod_lt _ (by decide)

theorem add_padding_mod (offset : Nat) : (offset + padding offset) % 4 = 0 := by
  unfold padding
  omega

theorem padding_mod (offset : Nat) : padding (offset % 4) = padding offset := by
  simp [padding]

/-- Lengths and indices are words that read as non-negative numbers. -/
def maxLength : Nat := 0x7fffffff

structure Writer where
  run : (size count : Nat) → Except StatusCode Unit × Payload

namespace Writer

def done : Writer := ⟨fun _ _ => (.ok (), .empty)⟩

def fail (e : StatusCode) : Writer := ⟨fun _ _ => (.error e, .empty)⟩

def bytes (bs : List UInt8) : Writer := ⟨fun _ _ => (.ok (), ⟨bs, []⟩)⟩

/-- One writer after the other; the second does not run when the first fails. -/
def andThen (w v : Writer) : Writer where
  run size count :=
    match w.run size count with
    | (.error e, p) => (.error e, p)
    | (.ok _, p) =>
      match v.run (size + p.bytes.length) (count + p.objects.length) with
      | (r, q) => (r, p ++ q)

instance : Append Writer := ⟨andThen⟩

/-- All of the writers in order, up to the first that fails. -/
def all : List Writer → Writer
  | [] => done
  | w :: ws => w ++ all ws

def pad : Writer := ⟨fun size _ => (.ok (), ⟨List.replicate (padding size) 0, []⟩)⟩

def word32 (n : UInt32) : Writer := bytes (littleEndian 4 n.toNat)

def word64 (n : UInt64) : Writer := bytes (littleEndian 8 n.toNat)

/-- A length that does not fit a word is refused. -/
def length (n : Nat) : Writer :=
  if n ≤ maxLength then word32 (UInt32.ofNat n) else fail .badValue

/-- A binder goes to the table of binders, and its index there to the bytes. -/
def object (b : Binder) : Writer where
  run size count :=
    match (length count).run size count with
    | (r, p) => (r, ⟨p.bytes, b :: p.objects⟩)

@[simp] theorem run_done (size count : Nat) : done.run size count = (.ok (), .empty) := rfl
@[simp] theorem run_fail (e : StatusCode) (size count : Nat) :
    (fail e).run size count = (.error e, .empty) := rfl
@[simp] theorem run_bytes (bs : List UInt8) (size count : Nat) :
    (bytes bs).run size count = (.ok (), ⟨bs, []⟩) := rfl
@[simp] theorem run_pad (size count : Nat) :
    pad.run size count = (.ok (), ⟨List.replicate (padding size) 0, []⟩) := rfl
@[simp] theorem all_nil : all [] = done := rfl
@[simp] theorem all_cons (w : Writer) (ws : List Writer) : all (w :: ws) = w ++ all ws := rfl

theorem run_append (w v : Writer) (size count : Nat) :
    (w ++ v).run size count =
      match w.run size count with
      | (.error e, p) => (.error e, p)
      | (.ok _, p) =>
        match v.run (size + p.bytes.length) (count + p.objects.length) with
        | (r, q) => (r, p ++ q) := rfl

end Writer

end ServiceBus.Wire
