import ServiceBus.Wire.Reader
import Std.Data.ExtTreeMap.Basic
import Std.Data.ExtTreeMap.Lemmas

/-!
Codecs: how the values of a type are written and read. Each combinator here says for one shape of
data how the two go together; the codec of any larger type is put together from them.
-/
namespace ServiceBus.Wire

structure Codec (α : Type) where
  write : α → Writer
  read : Reader α

namespace Codec

variable {α β : Type}

/-- The unit value takes no space. -/
def unit : Codec Unit where
  write _ := .done
  read := return

/-- A single byte is not padded, so that lists of bytes stay packed. -/
def byte : Codec UInt8 where
  write b := .bytes [b]
  read := .byte

def word32 : Codec UInt32 where
  write n := .word32 n
  read := .word32

def word64 : Codec UInt64 where
  write n := .word64 n
  read := .word64

def object : Codec Binder where
  write b := .object b
  read := .object

/-- Values stand for others that are written in their place; reading may refuse some. -/
def refine (c : Codec α) (toWire : β → α) (ofWire : α → Except StatusCode β) : Codec β where
  write b := c.write (toWire b)
  read := do
    match ofWire (← c.read) with
    | .ok b => return b
    | .error e => .fail e

def iso (c : Codec α) (toWire : β → α) (ofWire : α → β) : Codec β :=
  c.refine toWire fun a => .ok (ofWire a)

def pair (c : Codec α) (d : Codec β) : Codec (α × β) where
  write p := c.write p.1 ++ d.write p.2
  read := do
    let a ← c.read
    let b ← d.read
    return (a, b)

def int32 : Codec Int32 := word32.iso Int32.toUInt32 UInt32.toInt32

def int64 : Codec Int64 := word64.iso Int64.toUInt64 UInt64.toInt64

/-- A truth value is a whole word, and every word but zero reads as true. -/
def bool : Codec Bool := word32.iso (fun b => if b then 1 else 0) (fun n => n != 0)

/-- The length in bytes, then the bytes in their encoding, then padding. -/
def text : Codec String where
  write s := .length s.toUTF8.data.toList.length ++ .bytes s.toUTF8.data.toList ++ .pad
  read := do
    let n ← .length
    let bs ← .take n
    .skipPadding
    match String.fromUTF8? ⟨bs.toArray⟩ with
    | some s => return s
    | none => .fail .badValue

def list (c : Codec α) : Codec (List α) where
  write l := .length l.length ++ .all (l.map c.write) ++ .pad
  read := do
    let n ← .length
    let l ← c.read.times n
    .skipPadding
    return l

/-- A word tells whether a value follows. -/
def option (c : Codec α) : Codec (Option α) where
  write
    | none => .word32 0
    | some a => .word32 1 ++ c.write a
  read := do
    match (← Reader.word32).toNat with
    | 0 => return none
    | 1 => return some (← c.read)
    | _ => .fail .badValue

/-- The number of entries, then the entries in the order of their keys. Any order is read, and of
several entries with one key the last counts. -/
def map {cmp : α → α → Ordering} [Std.TransCmp cmp] (k : Codec α) (v : Codec β) :
    Codec (Std.ExtTreeMap α β cmp) where
  write m := .length m.toList.length ++ .all (m.toList.map (k.pair v).write)
  read := do
    let n ← .length
    let l ← (k.pair v).read.times n
    return Std.ExtTreeMap.ofList l cmp

end Codec

end ServiceBus.Wire
