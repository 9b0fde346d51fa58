import ServiceBus.Wire.Writer

/-!
What is read from a parcel. A reader moves a cursor over the unread bytes; the cursor knows its
offset, because padding depends on it. The table of binders only is looked at. A reader that fails
leaves the cursor where it gave up.
-/
namespace ServiceBus.Wire

structure Cursor where
  offset : Nat
  rest : List UInt8
deriving DecidableEq

/-- Whether so many bytes are unread. No more than those are looked at. -/
def Cursor.has (c : Cursor) (n : Nat) : Bool := (c.rest.take n).length == n

@[simp] theorem Cursor.has_iff (c : Cursor) (n : Nat) :
    c.has n = true ↔ n ≤ c.rest.length := by
  rw [has, beq_iff_eq, List.length_take]
  omega

structure Reader (α : Type) where
  run : (objects : List Binder) → Cursor → Except StatusCode α × Cursor

namespace Reader

variable {α β : Type}

protected def pure (a : α) : Reader α := ⟨fun _ c => (.ok a, c)⟩

protected def bind (r : Reader α) (f : α → Reader β) : Reader β where
  run objects c :=
    match r.run objects c with
    | (.ok a, d) => (f a).run objects d
    | (.error e, d) => (.error e, d)

instance : Monad Reader where
  pure := Reader.pure
  bind := Reader.bind

def fail (e : StatusCode) : Reader α := ⟨fun _ c => (.error e, c)⟩

/-- The next bytes, all of them or none. -/
def take (n : Nat) : Reader (List UInt8) where
  run _ c :=
    if c.has n then (.ok (c.rest.take n), ⟨c.offset + n, c.rest.drop n⟩)
    else (.error .notEnoughData, c)

def has (n : Nat) : Reader Bool := ⟨fun _ c => (.ok (c.has n), c)⟩

def skipPadding : Reader Unit where
  run objects c := (do let _ ← take (padding c.offset); return : Reader Unit).run objects c

def byte : Reader UInt8 := do
  return (← take 1).headD 0

def word32 : Reader UInt32 := do
  return UInt32.ofNat (ofLittleEndian (← take 4))

def word64 : Reader UInt64 := do
  return UInt64.ofNat (ofLittleEndian (← take 8))

/-- A length that exceeds the unread bytes is refused at once, so that what a length asks for is
bounded by the data that came with it. -/
def length : Reader Nat := do
  let n := (← word32).toNat
  if maxLength < n then
    fail .badValue
  else if ← has n then
    return n
  else
    fail .notEnoughData

def object : Reader Binder := do
  let n := (← word32).toNat
  if maxLength < n then
    fail .badValue
  else
    ⟨fun objects c =>
      match objects[n]? with
      | some b => (.ok b, c)
      | none => (.error .badIndex, c)⟩

def times (r : Reader α) : Nat → Reader (List α)
  | 0 => return []
  | n + 1 => do
    let a ← r
    let as ← r.times n
    return a :: as

@[simp] theorem run_pure (a : α) (objects : List Binder) (c : Cursor) :
    (pure a : Reader α).run objects c = (.ok a, c) := rfl
@[simp] theorem run_fail (e : StatusCode) (objects : List Binder) (c : Cursor) :
    (fail e : Reader α).run objects c = (.error e, c) := rfl
@[simp] theorem run_has (n : Nat) (objects : List Binder) (c : Cursor) :
    (has n).run objects c = (.ok (c.has n), c) := rfl

theorem run_bind (r : Reader α) (f : α → Reader β) (objects : List Binder) (c : Cursor) :
    (r >>= f).run objects c =
      match r.run objects c with
      | (.ok a, d) => (f a).run objects d
      | (.error e, d) => (.error e, d) := rfl

theorem run_take (n : Nat) (objects : List Binder) (c : Cursor) :
    (take n).run objects c =
      if n ≤ c.rest.length then (.ok (c.rest.take n), ⟨c.offset + n, c.rest.drop n⟩)
      else (.error .notEnoughData, c) := by
  simp [take]

end Reader

end ServiceBus.Wire
