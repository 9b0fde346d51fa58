import Mathlib.Algebra.Order.Ring.Nat
import Mathlib.Algebra.Order.BigOperators.Group.List
import Mathlib.Data.List.Perm.Subperm
import ServiceBus.Proofs.Wire.Entries
import ServiceBus.Proofs.Wire.Room

/-!
How much a value is, and how many bytes it takes. A value weighs as much as all its texts have bytes
and all its lists and maps have elements. What is read never weighs more than the bytes that it was
read from: every element takes a byte beyond what is counted in it, and that byte pays for it.
-/
namespace ServiceBus

namespace Wire

variable {α β : Type}

abbrev textWeight (s : String) : Nat := s.utf8ByteSize

def listWeight (w : α → Nat) (l : List α) : Nat := (l.map fun a => w a + 1).sum

def optionWeight (w : α → Nat) (x : Option α) : Nat := x.elim 0 w

def mapWeight {cmp : α → α → Ordering} [Std.TransCmp cmp] (k : α → Nat) (v : β → Nat)
    (m : Std.ExtTreeMap α β cmp) : Nat :=
  listWeight (fun e => k e.1 + v e.2) m.toList

theorem listWeight_zero (l : List α) : listWeight (fun _ => 0) l = l.length := by
  simp [listWeight, List.map_const']

/-- Entries that are inserted weigh no less than the map that they come to. -/
theorem mapWeight_ofList_le {cmp : α → α → Ordering} [Std.TransCmp cmp] [Std.LawfulEqCmp cmp]
    (k : α → Nat) (v : β → Nat) (l : List (α × β)) :
    mapWeight k v (Std.ExtTreeMap.ofList l cmp) ≤ listWeight (fun e => k e.1 + v e.2) l := by
  have distinct := (increasing_toList (Std.ExtTreeMap.ofList l cmp)).nodup
  have among : (Std.ExtTreeMap.ofList l cmp).toList ⊆ l := fun e member =>
    (mem_toList_ofList_iff.1 member).mem
  obtain ⟨l', perm, part⟩ := List.Nodup.subperm distinct among
  rw [mapWeight, listWeight, ← (perm.map _).sum_eq]
  exact (part.map _).sum_le_sum fun _ _ => Nat.zero_le _

/-- Whenever the reader gives a result, that and the number of bytes that it used up are in this
relation. -/
def Reader.Takes (r : Reader α) (P : α → Nat → Prop) : Prop :=
  ∀ ⦃objects start a stop⦄, r.run objects start = (.ok a, stop) →
    ∃ n, start.rest.length = n + stop.rest.length ∧ P a n

namespace Reader

variable {P : α → Nat → Prop} {Q : β → Nat → Prop}

theorem Takes.mono {r : Reader α} {P' : α → Nat → Prop} (h : r.Takes P)
    (le : ∀ a n, P a n → P' a n) : r.Takes P' := by
  intro objects start a stop read
  obtain ⟨n, used, p⟩ := h read
  exact ⟨n, used, le a n p⟩

theorem takes_pure {a : α} (h : P a 0) : (pure a : Reader α).Takes P := by
  intro objects start b stop read
  cases read
  exact ⟨0, (Nat.zero_add _).symm, h⟩

theorem takes_fail (e : StatusCode) : (fail e : Reader α).Takes P := nofun

theorem Takes.bind {r : Reader α} {f : α → Reader β} (h : r.Takes P)
    (k : ∀ a n, P a n → (f a).Takes fun b m => Q b (n + m)) : (r >>= f).Takes Q := by
  intro objects start b stop read
  rw [run_bind] at read
  rcases first : r.run objects start with ⟨_ | a, middle⟩
  · rw [first] at read
    cases read
  · rw [first] at read
    obtain ⟨n, used, p⟩ := h first
    obtain ⟨m, used', q⟩ := k a n p read
    exact ⟨n + m, by omega, q⟩

theorem takes_take (n : Nat) : (take n).Takes fun bs m => bs.length = n ∧ m = n := by
  intro objects start bs stop read
  rw [run_take] at read
  split at read
  · next enough =>
    cases read
    refine ⟨n, ?_, List.length_take_of_le enough, rfl⟩
    rw [List.length_drop]
    omega
  · cases read

theorem takes_skipPadding : skipPadding.Takes fun _ _ => True := by
  intro objects start a stop read
  have padded : (take (padding start.offset) >>= fun _ => pure ()).Takes fun (_ : Unit) _ => True :=
    (takes_take _).bind fun _ _ _ => takes_pure trivial
  exact padded read

theorem takes_byte : byte.Takes fun _ n => n = 1 :=
  (takes_take 1).bind fun _ _ h => takes_pure h.2

theorem takes_word32 : word32.Takes fun _ n => n = 4 :=
  (takes_take 4).bind fun _ _ h => takes_pure h.2

theorem takes_word64 : word64.Takes fun _ n => n = 8 :=
  (takes_take 8).bind fun _ _ h => takes_pure h.2

theorem takes_length : length.Takes fun _ n => n = 4 := by
  refine takes_word32.bind fun w n h => ?_
  subst h
  dsimp only
  split
  · exact takes_fail .badValue
  · intro objects start k stop read
    simp only [run_bind, run_has] at read
    split at read
    · cases read
      exact ⟨0, (Nat.zero_add _).symm, rfl⟩
    · cases read

theorem takes_object : object.Takes fun _ n => n = 4 := by
  refine takes_word32.bind fun w n h => ?_
  subst h
  dsimp only
  split
  · exact takes_fail .badValue
  · intro objects start b stop read
    dsimp only at read
    split at read
    · cases read
      exact ⟨0, (Nat.zero_add _).symm, rfl⟩
    · cases read

/-- Where every element takes a byte more than it weighs, a row takes as much as the list weighs. -/
theorem Takes.times {r : Reader α} {w : α → Nat} (h : r.Takes fun a n => w a + 1 ≤ n)
    (k : Nat) : (r.times k).Takes fun l n => listWeight w l ≤ n := by
  induction k with
  | zero => exact takes_pure (Nat.zero_le 0)
  | succ k ih =>
    refine h.bind fun a n element => ih.bind fun as m rest => takes_pure ?_
    rw [listWeight, List.map_cons, List.sum_cons, ← listWeight]
    omega

end Reader

namespace Codec

def Takes (c : Codec α) (w : α → Nat) : Prop := c.read.Takes fun a n => w a ≤ n

variable {c : Codec α} {d : Codec β} {w : α → Nat} {v : β → Nat}

theorem Takes.mono (h : c.Takes w) {w' : α → Nat} (le : ∀ a, w' a ≤ w a) : c.Takes w' :=
  Reader.Takes.mono h fun a _ => Nat.le_trans (le a)

theorem Takes.refine (h : c.Takes w) {toWire : β → α} {ofWire : α → Except StatusCode β}
    (le : ∀ a b, ofWire a = .ok b → v b ≤ w a) : (c.refine toWire ofWire).Takes v := by
  refine Reader.Takes.bind h fun a n bound => ?_
  cases made : ofWire a with
  | ok b => exact Reader.takes_pure (Nat.le_trans (le a b made) bound)
  | error e => exact Reader.takes_fail e

theorem Takes.iso (h : c.Takes w) {toWire : β → α} {ofWire : α → β}
    (le : ∀ a, v (ofWire a) ≤ w a) : (c.iso toWire ofWire).Takes v := by
  refine h.refine fun a b made => ?_
  cases made
  exact le a

theorem Takes.pair (h : c.Takes w) (k : d.Takes v) : (c.pair d).Takes fun x => w x.1 + v x.2 :=
  Reader.Takes.bind h fun _ _ first => Reader.Takes.bind k fun _ _ second =>
    Reader.takes_pure (Nat.add_le_add first second)

theorem takes_unit : unit.Takes fun _ => 0 := Reader.takes_pure (Nat.le_refl 0)

theorem takes_byte : byte.Takes fun _ => 1 :=
  Reader.takes_byte.mono fun _ _ h => Nat.le_of_eq h.symm

theorem takes_word32 : word32.Takes fun _ => 1 :=
  Reader.takes_word32.mono fun _ n (h : n = 4) => show 1 ≤ n by omega

theorem takes_word64 : word64.Takes fun _ => 1 :=
  Reader.takes_word64.mono fun _ n (h : n = 8) => show 1 ≤ n by omega

theorem takes_object : object.Takes fun _ => 1 :=
  Reader.takes_object.mono fun _ n (h : n = 4) => show 1 ≤ n by omega

theorem takes_int32 : int32.Takes fun _ => 1 := takes_word32.iso fun _ => Nat.le_refl 1

theorem takes_int64 : int64.Takes fun _ => 1 := takes_word64.iso fun _ => Nat.le_refl 1

theorem takes_bool : bool.Takes fun _ => 1 := takes_word32.iso fun _ => Nat.le_refl 1

theorem utf8ByteSize_of_fromUTF8? {bs : List UInt8} {s : String}
    (h : String.fromUTF8? ⟨bs.toArray⟩ = some s) : s.utf8ByteSize = bs.length := by
  rw [String.fromUTF8?] at h
  split at h
  · cases h
    rfl
  · cases h

theorem takes_text : text.Takes fun s => textWeight s + 1 := by
  refine Reader.takes_length.bind fun n _ prefixed => (Reader.takes_take n).bind fun bs _ taken =>
    Reader.takes_skipPadding.bind fun _ _ _ => ?_
  split
  · next s made =>
    have size := utf8ByteSize_of_fromUTF8? made
    apply Reader.takes_pure
    simp only [textWeight]
    omega
  · exact Reader.takes_fail .badValue

theorem Takes.list (h : c.Takes fun a => w a + 1) : c.list.Takes fun l => listWeight w l + 1 := by
  refine Reader.takes_length.bind fun n _ prefixed =>
    (Reader.Takes.times h n).bind fun l _ elements =>
      Reader.takes_skipPadding.bind fun _ _ _ => Reader.takes_pure ?_
  dsimp only
  omega

theorem Takes.option (h : c.Takes w) : c.option.Takes fun x => optionWeight w x + 1 := by
  refine Reader.takes_word32.bind fun n _ prefixed => ?_
  split
  · apply Reader.takes_pure
    simp only [optionWeight, Option.elim]
    omega
  · refine Reader.Takes.bind h fun a _ value => Reader.takes_pure ?_
    simp only [optionWeight, Option.elim]
    omega
  · exact Reader.takes_fail .badValue

/-- Entries that a later one replaces are read, but do not count. -/
theorem Takes.map {cmp : α → α → Ordering} [Std.TransCmp cmp] [Std.LawfulEqCmp cmp]
    (h : (c.pair d).Takes fun e => w e.1 + v e.2 + 1) :
    (c.map d : Codec (Std.ExtTreeMap α β cmp)).Takes fun m => mapWeight w v m + 1 := by
  refine Reader.takes_length.bind fun n _ prefixed =>
    (Reader.Takes.times h n).bind fun l _ entries => Reader.takes_pure ?_
  have le : mapWeight w v (Std.ExtTreeMap.ofList l cmp) ≤ _ := mapWeight_ofList_le w v l
  dsimp only
  omega

end Codec

end Wire

open Wire Wire.Codec

def Status.weight (s : Status) : Nat := optionWeight textWeight s.message

def ProgramSelector.weight (x : ProgramSelector) : Nat := x.secondary.length + x.vendor.length

def Metadata.weight (x : Metadata) : Nat :=
  mapWeight textWeight (fun _ => 0) x.ints + mapWeight textWeight textWeight x.texts

def ProgramInfo.weight (x : ProgramInfo) : Nat :=
  x.selector.weight + x.related.length + optionWeight Metadata.weight x.metadata +
    mapWeight textWeight textWeight x.vendorInfo

def ModuleProperties.weight (x : ModuleProperties) : Nat :=
  textWeight x.serviceName + textWeight x.implementor + textWeight x.product +
    textWeight x.version + textWeight x.serial + x.bands.length

namespace Wire.Codec

theorem takes_message : message.Takes fun m => optionWeight textWeight m + 1 :=
  (takes_text.mono fun _ => Nat.le_succ _).option

theorem takes_status : status.Takes fun s => s.weight + 1 := by
  refine Reader.Takes.bind takes_int32 fun n k front => ?_
  cases ExceptionCode.ofRaw? n with
  | none => exact Reader.takes_fail .badValue
  | some x =>
    cases x with
    | none => exact Reader.takes_pure front
    | raised e =>
      refine Reader.Takes.bind takes_message fun m j text => Reader.takes_pure ?_
      exact Nat.le_add_left_of_le text
    | serviceSpecific =>
      refine Reader.Takes.bind takes_message fun m j text =>
        Reader.Takes.bind takes_int32 fun _ i _ => Reader.takes_pure ?_
      exact Nat.le_add_left_of_le (Nat.le_add_right_of_le text)
    | transactionFailed =>
      refine Reader.Takes.bind takes_message fun m j text =>
        Reader.Takes.bind takes_int32 fun _ i _ => Reader.takes_pure ?_
      exact Nat.le_add_left_of_le (Nat.le_add_right_of_le text)

theorem takes_band : band.Takes fun _ => 1 := takes_int32.refine fun _ _ _ => Nat.le_refl 1

theorem takes_bandConfig : bandConfig.Takes fun _ => 1 :=
  (takes_int32.pair <| takes_band.pair <| takes_int32.pair <| takes_int32.pair <|
    takes_int32.pair <| takes_bool.pair <| takes_bool.pair <| takes_bool.pair <|
    takes_bool.pair takes_bool).iso fun _ => Nat.le_add_right 1 _

theorem takes_identifier : identifier.Takes fun _ => 1 :=
  (takes_int32.pair takes_int64).iso fun _ => Nat.le_add_right 1 _

theorem Takes.row {α : Type} {c : Codec α} (h : c.Takes fun _ => 1) :
    c.list.Takes fun l => l.length + 1 := by
  simpa only [listWeight_zero] using Takes.list (w := fun _ => 0) h

theorem takes_selector : selector.Takes fun x => x.weight + 1 := by
  refine (takes_int32.pair <| takes_identifier.pair <|
    takes_identifier.row.pair takes_int64.row).iso fun ⟨type, primary, secondary, vendor⟩ => ?_
  simp only [ProgramSelector.weight, ProgramSelector.ofFields]
  omega

theorem takes_textMap {α : Type} {c : Codec α} {w : α → Nat} (h : c.Takes w) :
    (textMap c).Takes fun m => mapWeight textWeight w m + 1 := by
  refine Takes.map ((takes_text.pair h).mono fun e => ?_)
  omega

theorem takes_metadata : metadata.Takes fun x => x.weight + 1 := by
  refine ((takes_textMap (takes_int32.mono fun _ => Nat.zero_le 1)).pair
    (takes_textMap (takes_text.mono fun _ => Nat.le_succ _))).iso fun x => ?_
  simp only [Metadata.weight, Metadata.ofFields]
  omega

theorem takes_programInfo : programInfo.Takes fun x => x.weight + 1 := by
  refine (takes_selector.pair <| (takes_identifier.option).pair <| (takes_identifier.option).pair <|
    takes_identifier.row.pair <| takes_int32.pair <| takes_int32.pair <|
    (takes_metadata.mono fun _ => Nat.le_succ _).option.pair <|
    takes_textMap (takes_text.mono fun _ => Nat.le_succ _)).iso
      fun ⟨selector, logical, physical, related, flags, quality, metadata, vendor⟩ => ?_
  simp only [ProgramInfo.weight, ProgramInfo.ofFields]
  omega

theorem takes_moduleProperties : moduleProperties.Takes fun x => x.weight + 1 := by
  refine (takes_int32.pair <| takes_text.pair <| takes_text.pair <| takes_text.pair <|
    takes_text.pair <| takes_text.pair <| takes_int32.pair <| takes_int32.pair <|
    takes_bool.pair <| takes_bool.pair takes_bandConfig.row).iso
      fun ⟨id, service, implementor, product, version, serial, tuners, sources, capture, scan,
        bands⟩ => ?_
  simp only [ModuleProperties.weight, ModuleProperties.ofFields]
  omega

end Wire.Codec

namespace WireType

/-- All text bytes, list elements and map entries of a value, at every depth. -/
def weight : {o : Bool} → (t : WireType o) → t.Val → Nat
  | _, text => textWeight
  | _, status => Status.weight
  | _, selector => ProgramSelector.weight
  | _, metadata => Metadata.weight
  | _, programInfo => ProgramInfo.weight
  | _, moduleProperties => ModuleProperties.weight
  | _, list t => listWeight t.weight
  | _, option t => optionWeight t.weight
  | _, map k v => mapWeight k.weight v.weight
  | _, _ => fun _ => 0

/-- A value that takes space takes a byte more than it weighs. -/
theorem takes {o : Bool} (t : WireType o) (dense : t.dense = true) :
    t.codec.Takes fun v => t.weight v + (!t.isUnit).toNat := by
  induction t with
  | unit => exact takes_unit
  | bool => exact takes_bool
  | byte => exact takes_byte
  | int32 => exact takes_int32
  | uint32 => exact takes_word32
  | int64 => exact takes_int64
  | text => exact takes_text
  | binder => exact takes_object
  | status => exact takes_status
  | band => exact takes_band
  | bandConfig => exact takes_bandConfig
  | identifier => exact takes_identifier
  | selector => exact takes_selector
  | metadata => exact takes_metadata
  | programInfo => exact takes_programInfo
  | moduleProperties => exact takes_moduleProperties
  | list t ih =>
    simp only [WireType.dense, Bool.and_eq_true] at dense
    have element := ih dense.2
    rw [dense.1] at element
    exact Takes.list element
  | option t ih => exact Takes.option ((ih dense).mono fun _ => Nat.le_add_right _ _)
  | map k v ihk ihv =>
    simp only [WireType.dense, Bool.and_eq_true, Bool.not_eq_true', Bool.and_eq_false_iff] at dense
    obtain ⟨⟨units, key⟩, value⟩ := dense
    refine Takes.map (((ihk key).pair (ihv value)).mono fun e => ?_)
    rcases units with u | u
    · simp only [u, Bool.not_false, Bool.toNat_true]
      omega
    · simp only [u, Bool.not_false, Bool.toNat_true]
      omega

end WireType

end ServiceBus
