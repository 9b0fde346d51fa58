import ServiceBus.Proofs.Wire.Writing

/-!
Which values can be written. A length travels as a word, so that every text, list and map has to be
short enough for one, at every depth. Nothing else is ever refused, except a binder, whose index
depends on how many there are already.
-/
namespace ServiceBus

namespace Wire

variable {α β : Type}

/-- A writer that writes everywhere under a condition, and nowhere without it. -/
structure Writer.Accepts (w : Writer) (fits : Prop) : Prop where
  adds : fits → ∀ m, ∃ p, w.Adds m p
  refuses : ¬ fits → ∀ m : Mark, (w.run m.size m.count).1 = .error .badValue

namespace Writer

variable {w v : Writer} {P Q : Prop}

theorem Accepts.of_adds (h : ∀ m, ∃ p, w.Adds m p) : w.Accepts True :=
  ⟨fun _ => h, fun n => absurd trivial n⟩

theorem Accepts.congr (h : w.Accepts P) (e : P ↔ Q) : w.Accepts Q :=
  ⟨fun q => h.adds (e.2 q), fun n => h.refuses fun p => n (e.1 p)⟩

theorem accepts_done : done.Accepts True := .of_adds fun _ => ⟨_, rfl⟩

theorem accepts_bytes (bs : List UInt8) : (bytes bs).Accepts True := .of_adds fun _ => ⟨_, rfl⟩

theorem accepts_pad : pad.Accepts True := .of_adds fun _ => ⟨_, rfl⟩

theorem accepts_length (n : Nat) : (length n).Accepts (n ≤ maxLength) where
  adds h _ := ⟨_, (adds_length n).2 ⟨h, rfl⟩⟩
  refuses h _ := by rw [length, if_neg h, run_fail]

theorem Accepts.append (h : w.Accepts P) (k : v.Accepts Q) : (w ++ v).Accepts (P ∧ Q) where
  adds n m := by
    obtain ⟨p, hp⟩ := h.adds n.1 m
    obtain ⟨q, hq⟩ := k.adds n.2 (m.past p)
    exact ⟨p ++ q, adds_append.2 ⟨p, q, hp, hq, rfl⟩⟩
  refuses n m := by
    rw [run_append]
    by_cases hP : P
    · obtain ⟨p, hp⟩ := h.adds hP m
      have hv := k.refuses (fun hQ => n ⟨hP, hQ⟩) (m.past p)
      rw [hp]
      exact hv
    · have hw := h.refuses hP m
      rcases hr : w.run m.size m.count with ⟨_ | _, p⟩
      · rw [hr] at hw
        exact hw
      · rw [hr] at hw
        cases hw

theorem Accepts.append_true (h : w.Accepts P) (k : v.Accepts True) : (w ++ v).Accepts P :=
  (h.append k).congr (and_iff_left trivial)

theorem accepts_all {write : α → Writer} {fits : α → Prop} (h : ∀ a, (write a).Accepts (fits a))
    (l : List α) : (all (l.map write)).Accepts (∀ a ∈ l, fits a) := by
  induction l with
  | nil => exact accepts_done.congr (by simp)
  | cons a as ih => exact ((h a).append ih).congr (by simp)

end Writer

/-- A text whose bytes can be counted in a word. -/
def ShortText (s : String) : Prop := s.utf8ByteSize ≤ maxLength

def ShortList (short : α → Prop) (l : List α) : Prop := l.length ≤ maxLength ∧ ∀ a ∈ l, short a

def ShortMap {cmp : α → α → Ordering} [Std.TransCmp cmp] (key : α → Prop) (value : β → Prop)
    (m : Std.ExtTreeMap α β cmp) : Prop :=
  m.size ≤ maxLength ∧ ∀ e ∈ m.toList, key e.1 ∧ value e.2

namespace Codec

def Accepts (c : Codec α) (fits : α → Prop) : Prop := ∀ a, (c.write a).Accepts (fits a)

variable {c : Codec α} {d : Codec β} {P : α → Prop} {Q : β → Prop}

theorem accepts_unit : unit.Accepts fun _ => True := fun _ => Writer.accepts_done

theorem accepts_byte : byte.Accepts fun _ => True := fun _ => Writer.accepts_bytes _

theorem accepts_word32 : word32.Accepts fun _ => True := fun _ => Writer.accepts_bytes _

theorem accepts_word64 : word64.Accepts fun _ => True := fun _ => Writer.accepts_bytes _

theorem Accepts.refine (h : c.Accepts P) (toWire : β → α) (ofWire : α → Except StatusCode β) :
    (c.refine toWire ofWire).Accepts fun b => P (toWire b) := fun b => h (toWire b)

theorem Accepts.iso (h : c.Accepts P) (toWire : β → α) (ofWire : α → β) :
    (c.iso toWire ofWire).Accepts fun b => P (toWire b) := h.refine toWire _

theorem accepts_int32 : int32.Accepts fun _ => True := accepts_word32.iso _ _

theorem accepts_int64 : int64.Accepts fun _ => True := accepts_word64.iso _ _

theorem accepts_bool : bool.Accepts fun _ => True := accepts_word32.iso _ _

theorem accepts_text : text.Accepts ShortText := by
  intro s
  refine (((Writer.accepts_length _).append_true (Writer.accepts_bytes _)).append_true
    Writer.accepts_pad).congr ?_
  rw [ShortText, Array.length_toList]
  rfl

theorem Accepts.pair (h : c.Accepts P) (k : d.Accepts Q) :
    (c.pair d).Accepts fun x => P x.1 ∧ Q x.2 := fun x => (h x.1).append (k x.2)

theorem Accepts.list (h : c.Accepts P) : c.list.Accepts (ShortList P) := fun l =>
  ((Writer.accepts_length _).append (Writer.accepts_all h l)).append_true Writer.accepts_pad

theorem Accepts.option (h : c.Accepts P) : c.option.Accepts fun x => ∀ a ∈ x, P a := by
  intro x
  cases x with
  | none => exact (Writer.accepts_bytes _).congr (by simp)
  | some a => exact ((Writer.accepts_bytes _).append (h a)).congr (by simp)

theorem Accepts.map {cmp : α → α → Ordering} [Std.TransCmp cmp] (h : c.Accepts P)
    (k : d.Accepts Q) :
    (c.map d : Codec (Std.ExtTreeMap α β cmp)).Accepts (ShortMap P Q) := by
  intro m
  refine ((Writer.accepts_length _).append (Writer.accepts_all (h.pair k) _)).congr ?_
  rw [Std.ExtTreeMap.length_toList]
  rfl

end Codec

end Wire

open Wire Wire.Codec

def Status.Short (s : Status) : Prop := ∀ text ∈ s.message, ShortText text

def ProgramSelector.Short (x : ProgramSelector) : Prop :=
  x.secondary.length ≤ maxLength ∧ x.vendor.length ≤ maxLength

def Metadata.Short (x : Metadata) : Prop :=
  ShortMap ShortText (fun _ => True) x.ints ∧ ShortMap ShortText ShortText x.texts

def ProgramInfo.Short (x : ProgramInfo) : Prop :=
  x.selector.Short ∧ x.related.length ≤ maxLength ∧ (∀ m ∈ x.metadata, m.Short) ∧
    ShortMap ShortText ShortText x.vendorInfo

def ModuleProperties.Short (x : ModuleProperties) : Prop :=
  ShortText x.serviceName ∧ ShortText x.implementor ∧ ShortText x.product ∧
    ShortText x.version ∧ ShortText x.serial ∧ x.bands.length ≤ maxLength

namespace Wire.Codec

theorem accepts_message : message.Accepts fun m => ∀ text ∈ m, ShortText text := accepts_text.option

theorem accepts_status : status.Accepts Status.Short := by
  intro s
  refine Writer.Accepts.congr (Writer.Accepts.append (accepts_int32 _) ?_) (and_iff_right trivial)
  cases s with
  | ok => exact Writer.accepts_done.congr (by simp [Status.Short])
  | raised e m => exact accepts_message m
  | serviceSpecific n m => exact (accepts_message m).append_true (accepts_int32 n)
  | transactionFailed c m => exact (accepts_message m).append_true (accepts_int32 c.raw)

theorem accepts_band : band.Accepts fun _ => True := accepts_int32.refine _ _

theorem accepts_bandConfig : bandConfig.Accepts fun _ => True := fun x =>
  ((accepts_int32.pair <| accepts_band.pair <| accepts_int32.pair <| accepts_int32.pair <|
    accepts_int32.pair <| accepts_bool.pair <| accepts_bool.pair <| accepts_bool.pair <|
    accepts_bool.pair accepts_bool).iso BandConfig.toFields BandConfig.ofFields x).congr (by simp)

theorem accepts_identifier : identifier.Accepts fun _ => True := fun x =>
  ((accepts_int32.pair accepts_int64).iso Identifier.toFields Identifier.ofFields x).congr (by simp)

theorem accepts_selector : selector.Accepts ProgramSelector.Short := fun x =>
  ((accepts_int32.pair <| accepts_identifier.pair <|
    accepts_identifier.list.pair accepts_int64.list).iso
      ProgramSelector.toFields ProgramSelector.ofFields x).congr
    (by simp [ProgramSelector.Short, ShortList, ProgramSelector.toFields])

theorem accepts_metadata : metadata.Accepts Metadata.Short := fun x =>
  (((accepts_text.map accepts_int32).pair (accepts_text.map accepts_text)).iso
    Metadata.toFields Metadata.ofFields) x

theorem accepts_programInfo : programInfo.Accepts ProgramInfo.Short := fun x =>
  ((accepts_selector.pair <| accepts_identifier.option.pair <| accepts_identifier.option.pair <|
    accepts_identifier.list.pair <| accepts_int32.pair <| accepts_int32.pair <|
    accepts_metadata.option.pair <| accepts_text.map accepts_text).iso
      ProgramInfo.toFields ProgramInfo.ofFields x).congr
    (by simp [ProgramInfo.Short, ShortList, ProgramInfo.toFields])

theorem accepts_moduleProperties : moduleProperties.Accepts ModuleProperties.Short := fun x =>
  ((accepts_int32.pair <| accepts_text.pair <| accepts_text.pair <| accepts_text.pair <|
    accepts_text.pair <| accepts_text.pair <| accepts_int32.pair <| accepts_int32.pair <|
    accepts_bool.pair <| accepts_bool.pair accepts_bandConfig.list).iso
      ModuleProperties.toFields ModuleProperties.ofFields x).congr
    (by simp [ModuleProperties.Short, ShortList, ModuleProperties.toFields])

end Wire.Codec

namespace WireType

/-- Every text, list and map in a value is short. -/
def Short : {o : Bool} → (t : WireType o) → t.Val → Prop
  | _, text => ShortText
  | _, status => Status.Short
  | _, selector => ProgramSelector.Short
  | _, metadata => Metadata.Short
  | _, programInfo => ProgramInfo.Short
  | _, moduleProperties => ModuleProperties.Short
  | _, list t => ShortList t.Short
  | _, option t => fun x => ∀ a ∈ x, t.Short a
  | _, map k v => ShortMap k.Short v.Short
  | _, _ => fun _ => True

/-- Whether the values of a type can have binders in them. -/
def carriesBinders : {o : Bool} → WireType o → Bool
  | _, binder => true
  | _, list t => t.carriesBinders
  | _, option t => t.carriesBinders
  | _, map k v => k.carriesBinders || v.carriesBinders
  | _, _ => false

theorem accepts {o : Bool} (t : WireType o) (h : t.carriesBinders = false) :
    t.codec.Accepts t.Short := by
  induction t with
  | unit => exact accepts_unit
  | bool => exact accepts_bool
  | byte => exact accepts_byte
  | int32 => exact accepts_int32
  | uint32 => exact accepts_word32
  | int64 => exact accepts_int64
  | text => exact accepts_text
  | binder => cases h
  | status => exact accepts_status
  | band => exact accepts_band
  | bandConfig => exact accepts_bandConfig
  | identifier => exact accepts_identifier
  | selector => exact accepts_selector
  | metadata => exact accepts_metadata
  | programInfo => exact accepts_programInfo
  | moduleProperties => exact accepts_moduleProperties
  | list t ih => exact (ih h).list
  | option t ih => exact (ih h).option
  | map k v ihk ihv =>
    simp only [carriesBinders, Bool.or_eq_false_iff] at h
    exact (ihk h.1).map (ihv h.2)

end WireType

end ServiceBus
