import ServiceBus.Wire.Type

/-!
Parcels: bytes, a table of binders, and a position for reading that never passes the end of the
bytes. Writing appends and leaves the position; reading moves the position and leaves the rest,
also when it fails.
-/
namespace ServiceBus

open Wire

structure Parcel where
  data : List UInt8
  objects : List Binder
  position : Nat
  position_le : position ≤ data.length

namespace Parcel

variable {α : Type}

def ofPayload (p : Payload) : Parcel := ⟨p.bytes, p.objects, 0, Nat.zero_le _⟩

def empty : Parcel := ofPayload .empty

def payload (p : Parcel) : Payload := ⟨p.data, p.objects⟩

def size (p : Parcel) : Nat := p.data.length

def available (p : Parcel) : Nat := p.size - p.position

def setPosition (p : Parcel) (n : Nat) : Except StatusCode Unit × Parcel :=
  if h : n ≤ p.size then (.ok (), { p with position := n, position_le := h })
  else (.error .badValue, p)

theorem position_le_append (p : Parcel) (bytes : List UInt8) :
    p.position ≤ (p.data ++ bytes).length := by
  have := p.position_le
  rw [List.length_append]
  omega

/-- What a writer gives is appended, all of it or up to where it failed. -/
def append (p : Parcel) (w : Writer) : Except StatusCode Unit × Parcel :=
  match w.run p.size p.objects.length with
  | (r, q) =>
    (r, { data := p.data ++ q.bytes
          objects := p.objects ++ q.objects
          position := p.position
          position_le := p.position_le_append q.bytes })

def cursor (p : Parcel) : Cursor := ⟨p.position, p.data.drop p.position⟩

/-- The position follows the reader: what it left unread is at the end of the data. -/
def consume (p : Parcel) (r : Reader α) : Except StatusCode α × Parcel :=
  match r.run p.objects p.cursor with
  | (a, c) =>
    (a, { p with position := p.size - c.rest.length, position_le := Nat.sub_le _ _ })

@[simp] theorem append_data (p : Parcel) (w : Writer) :
    (p.append w).2.data = p.data ++ (w.run p.size p.objects.length).2.bytes := rfl
@[simp] theorem append_objects (p : Parcel) (w : Writer) :
    (p.append w).2.objects = p.objects ++ (w.run p.size p.objects.length).2.objects := rfl
@[simp] theorem append_position (p : Parcel) (w : Writer) :
    (p.append w).2.position = p.position := rfl
@[simp] theorem append_fst (p : Parcel) (w : Writer) :
    (p.append w).1 = (w.run p.size p.objects.length).1 := rfl

@[simp] theorem consume_data (p : Parcel) (r : Reader α) : (p.consume r).2.data = p.data := rfl
@[simp] theorem consume_objects (p : Parcel) (r : Reader α) :
    (p.consume r).2.objects = p.objects := rfl
@[simp] theorem consume_fst (p : Parcel) (r : Reader α) :
    (p.consume r).1 = (r.run p.objects p.cursor).1 := rfl

def write (p : Parcel) (t : WireType false) (v : t.Val) : Except StatusCode Unit × Parcel :=
  p.append (t.codec.write v)

def read (p : Parcel) (t : WireType false) : Except StatusCode t.Val × Parcel :=
  p.consume t.codec.read

end Parcel

/-- The descriptor of the interface that a request is meant for. -/
def Wire.Writer.token (descriptor : String) : Writer := Codec.text.write descriptor

/-- A request for another interface is refused. -/
def Wire.Reader.enforce (descriptor : String) : Reader Unit := do
  if (← Codec.text.read) = descriptor then return else .fail .badType

/-- The reply to a call: its status, and a value after a status that is fine. -/
def Wire.Writer.result {α : Type} (c : Codec α) : Except Status α → Writer
  | .ok a => Codec.status.write .ok ++ c.write a
  | .error s => Codec.status.write s

namespace Parcel

def writeToken (p : Parcel) (descriptor : String) : Except StatusCode Unit × Parcel :=
  p.append (.token descriptor)

def writeResult (p : Parcel) (t : WireType false) (r : Except Status t.Val) :
    Except StatusCode Unit × Parcel :=
  p.append (.result t.codec r)

def enforce (p : Parcel) (descriptor : String) : Except StatusCode Unit × Parcel :=
  p.consume (.enforce descriptor)

def inspect (p : Parcel) : String :=
  Text.labelled "Parcel"
    [("data_size", toString p.size), ("data_position", toString p.position),
     ("objects", toString p.objects.length)]

end Parcel

end ServiceBus
