import ServiceBus.Wire.Type

/-!
The codecs of the wire types. They are put together from few parts in few ways, so that what is true
of the parts and kept by the ways is true of them all; the records of the radio data need no
argument of their own. What concerns only how values are written has to be shown of a few writers,
and of one writer after another.
-/
namespace ServiceBus

namespace Wire.Codec

/-- A property of codecs that the basic ones have, single bytes apart, and that is kept in putting
codecs together. -/
structure Kept (P : ∀ {α : Type}, Codec α → Prop) : Prop where
  unit : P unit
  word32 : P word32
  word64 : P word64
  object : P object
  text : P text
  status (h : P int32) (k : P message) : P status
  refine {α β : Type} {c : Codec α} {toWire : β → α} {ofWire : α → Except StatusCode β} (h : P c)
    (inverse : ∀ b, ofWire (toWire b) = .ok b)
    (refuses : ∀ a e, ofWire a = .error e → e = .badValue) : P (c.refine toWire ofWire)
  pair {α β : Type} {c : Codec α} {d : Codec β} (h : P c) (k : P d) : P (c.pair d)
  list {α : Type} {c : Codec α} (h : P c) : P c.list
  option {α : Type} {c : Codec α} (h : P c) : P c.option
  map {α β : Type} {cmp : α → α → Ordering} [Std.TransCmp cmp] {c : Codec α} {d : Codec β} (h : P c)
    (k : P d) : P (c.map d : Codec (Std.ExtTreeMap α β cmp))

/-- Such a property that single bytes have as well. -/
structure Closed (P : ∀ {α : Type}, Codec α → Prop) : Prop extends Kept P where
  byte : P byte

namespace Kept

variable {P : ∀ {α : Type}, Codec α → Prop}

theorem iso (h : Kept P) {α β : Type} {c : Codec α} {toWire : β → α} {ofWire : α → β} (k : P c)
    (inverse : ∀ b, ofWire (toWire b) = b) : P (c.iso toWire ofWire) :=
  h.refine k (fun b => congrArg Except.ok (inverse b)) nofun

theorem int32 (h : Kept P) : P int32 := h.iso h.word32 fun _ => rfl

theorem int64 (h : Kept P) : P int64 := h.iso h.word64 fun _ => rfl

theorem bool (h : Kept P) : P bool := h.iso h.word32 fun b => by cases b <;> rfl

theorem band (h : Kept P) : P band := by
  refine h.refine h.int32 (fun b => by rw [Band.ofRaw?_raw]) fun n e unknown => ?_
  split at unknown
  · cases unknown
  · cases unknown
    rfl

theorem bandConfig (h : Kept P) : P bandConfig :=
  h.iso (h.pair h.int32 <| h.pair h.band <| h.pair h.int32 <| h.pair h.int32 <| h.pair h.int32 <|
    h.pair h.bool <| h.pair h.bool <| h.pair h.bool <| h.pair h.bool h.bool)
    BandConfig.ofFields_toFields

theorem identifier (h : Kept P) : P identifier :=
  h.iso (h.pair h.int32 h.int64) Identifier.ofFields_toFields

theorem selector (h : Kept P) : P selector :=
  h.iso (h.pair h.int32 <| h.pair h.identifier <| h.pair (h.list h.identifier) (h.list h.int64))
    ProgramSelector.ofFields_toFields

theorem metadata (h : Kept P) : P metadata :=
  h.iso (h.pair (h.map h.text h.int32) (h.map h.text h.text)) Metadata.ofFields_toFields

theorem programInfo (h : Kept P) : P programInfo :=
  h.iso (h.pair h.selector <| h.pair (h.option h.identifier) <| h.pair (h.option h.identifier) <|
    h.pair (h.list h.identifier) <| h.pair h.int32 <| h.pair h.int32 <|
    h.pair (h.option h.metadata) (h.map h.text h.text)) ProgramInfo.ofFields_toFields

theorem moduleProperties (h : Kept P) : P moduleProperties :=
  h.iso (h.pair h.int32 <| h.pair h.text <| h.pair h.text <| h.pair h.text <| h.pair h.text <|
    h.pair h.text <| h.pair h.int32 <| h.pair h.int32 <| h.pair h.bool <| h.pair h.bool <|
    h.list h.bandConfig) ModuleProperties.ofFields_toFields

end Kept

end Wire.Codec

namespace Wire.Writer

/-- A property of writers that the basic ones have, single bytes apart, and that is kept in writing
one thing after another. -/
structure Composes (Q : Writer → Prop) : Prop where
  done : Q done
  word32 (n : UInt32) : Q (word32 n)
  word64 (n : UInt64) : Q (word64 n)
  length (n : Nat) : Q (length n)
  object (b : Binder) : Q (object b)
  append {w v : Writer} (h : Q w) (k : Q v) : Q (w ++ v)

namespace Composes

variable {Q : Writer → Prop} {α : Type}

theorem all (h : Composes Q) {write : α → Writer} (k : ∀ a, Q (write a)) (l : List α) :
    Q (all (l.map write)) := by
  induction l with
  | nil => exact h.done
  | cons a as ih => exact h.append (k a) ih

/-- Texts and lists have single bytes in them, so that they need an argument of their own. -/
theorem kept (h : Composes Q) (text : ∀ s, Q (Codec.text.write s))
    (list : ∀ {α : Type} (c : Codec α), (∀ a, Q (c.write a)) → ∀ l, Q (c.list.write l)) :
    Codec.Kept fun c => ∀ a, Q (c.write a) where
  unit _ := h.done
  word32 := h.word32
  word64 := h.word64
  object := h.object
  text := text
  status number message s := by
    refine h.append (number _) ?_
    cases s with
    | ok => exact h.done
    | raised e m => exact message m
    | serviceSpecific n m => exact h.append (message m) (number n)
    | transactionFailed c m => exact h.append (message m) (number c.raw)
  refine k _ _ _ := k _
  pair k k' x := h.append (k x.1) (k' x.2)
  list := list _
  option k x := by
    cases x with
    | none => exact h.word32 0
    | some a => exact h.append (h.word32 1) (k a)
  map k k' m := by
    refine h.append (h.length _) (h.all ?_ m.toList)
    exact fun e => h.append (k e.1) (k' e.2)

theorem closed (h : Composes Q) (bytes : ∀ bs, Q (bytes bs)) (pad : Q pad) :
    Codec.Closed fun c => ∀ a, Q (c.write a) where
  toKept := h.kept (fun _ => h.append (h.append (h.length _) (bytes _)) pad)
    fun _ k l => h.append (h.append (h.length _) (h.all k l)) pad
  byte b := bytes [b]

end Composes

end Wire.Writer

open Wire

namespace WireType

variable {P : ∀ {α : Type}, Codec α → Prop} {o : Bool}

/-- Whether a type is neither that of single bytes nor a list, an option or a map of others. -/
def plain : {o : Bool} → WireType o → Bool
  | _, byte => false
  | _, list _ => false
  | _, option _ => false
  | _, map _ _ => false
  | _, _ => true

theorem of_kept (h : Codec.Kept P) (t : WireType o) (plain : t.plain = true) : P t.codec := by
  cases t with
  | unit => exact h.unit
  | bool => exact h.bool
  | byte => cases plain
  | int32 => exact h.int32
  | uint32 => exact h.word32
  | int64 => exact h.int64
  | text => exact h.text
  | binder => exact h.object
  | status => exact h.status h.int32 (h.option h.text)
  | band => exact h.band
  | bandConfig => exact h.bandConfig
  | identifier => exact h.identifier
  | selector => exact h.selector
  | metadata => exact h.metadata
  | programInfo => exact h.programInfo
  | moduleProperties => exact h.moduleProperties
  | list t => cases plain
  | option t => cases plain
  | map k v => cases plain

theorem of_closed (h : Codec.Closed P) (t : WireType o) : P t.codec := by
  induction t with
  | byte => exact h.byte
  | list t ih => exact h.list ih
  | option t ih => exact h.option ih
  | map k v ihk ihv => exact h.map ihk ihv
  | _ => exact of_kept h.toKept _ rfl

end WireType

end ServiceBus
